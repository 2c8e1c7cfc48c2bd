import Grader.Proofs.Exits

/-! The whole work on a submission, done by itself. It stores ACCEPTED exactly where a problem with
cases is found of which every one is run and passes. -/
namespace Grader

namespace Site

variable (setup : Setup) {site : Site} {id : Uuid}

theorem process_of_unloaded {e : StoreError}
    (failed : DocumentStore.submission? id site.store = .error e) :
    site.process setup id = (site, .storeFailed e) :=
  (process_of_done setup (congrArg Job.loaded failed)).2

/-- With a problem and cases, the work makes the calls and ends with the verdict of their evaluation. -/
theorem process_of_context (calm : setup.engine.NeverCrashes) (saves : site.Saves) {s : Submission}
    (due : s.status.isTerminal = false)
    (loaded : DocumentStore.submission? id site.store = .ok (some s)) {p : Problem}
    {cases : List TestCase} (context : site.Context s p cases) (fits : p.memoryLimit ≠ .overflow) :
    let plan := setup.planFor s p cases
    let count := plan.reached setup.engine 0 site.calls (TestCase.ordered cases)
    let e := Progress.conclusion plan setup.engine site.calls (.start cases) count
    ∃ d, (site.process setup id).1.stored? s.id = some d ∧ d.status = e.status ∧
      (site.process setup id).1.calls =
        site.calls ++ plan.units ((TestCase.ordered cases).take count) := by
  intro plan count e
  have small : p.Fits := by
    by_contra beyond
    exact fits (Problem.memoryLimit_of_not_fits beyond)
  have ran : setup.evaluate (s.markRunning site.now) p cases site.calls =
      (some e, site.calls ++ plan.units ((TestCase.ordered cases).take count)) :=
    (setup.evaluate_of_fits _ small cases site.calls).trans
      (Progress.run_eq calm plan (.start cases) site.calls)
  have taken (d : Submission) : site.accepts d = true := (site.accepts_iff d).mpr (saves d.status)
  have runs := (process_works setup id site).runs ⟨loaded, due⟩ context
  have done := runs.of_evaluation (taken _) ran
  have acted := acts_evaluated (taken (s.markRunning site.now))
    (taken ((s.markRunning site.now).decide e site.now))
    (plan.units ((TestCase.ordered cases).take count))
  rw [← done] at acted
  obtain ⟨stored, calls⟩ := process_shows setup id site acted
  exact ⟨(s.markRunning site.now).decide e site.now, (stored s.id).trans (stored?_keep_same ..), rfl,
    calls⟩

/-- Without them it stores a failure of ours. -/
theorem process_without_context (saves : site.Saves) {s : Submission}
    (due : s.status.isTerminal = false)
    (loaded : DocumentStore.submission? id site.store = .ok (some s))
    (missing : ∀ p cases, ¬site.Context s p cases) :
    ∃ d, (site.process setup id).1.stored? s.id = some d ∧ d.status = .internalError := by
  obtain ⟨detail, done, -⟩ := (process_works setup id site).of_no_context ⟨loaded, due⟩ missing
  have taken : site.accepts (s.fail detail site.now) = true := (site.accepts_iff _).mpr (saves _)
  have acted : site.acts (Job.load.actions setup id site) = site.keep (s.fail detail site.now) := by
    rw [done, acts_cons, acts_nil, act_save_of_accepts taken]
  obtain ⟨stored, -⟩ := process_shows setup id site acted
  exact ⟨s.fail detail site.now, (stored s.id).trans (stored?_keep_same ..), rfl⟩

/-- A submission that waits for its verdict is accepted exactly if its problem and cases are found
and each of the cases is given to the engine within the budget and passes. -/
theorem process_accepts_iff (calm : setup.engine.NeverCrashes)
    (sound : setup.signatures.NeverPass) (saves : site.Saves) (keyed : site.Keyed) {s : Submission}
    (stored : site.stored? id = some s) (due : s.status.isTerminal = false)
    (fits : ∀ p, DocumentStore.problem? s.problemId site.store = .ok (some p) → p.Fits) :
    (∃ d, (site.process setup id).1.stored? id = some d ∧ d.status = .accepted) ↔
      ∃ p cases, site.Context s p cases ∧
        let plan := setup.planFor s p cases
        (site.process setup id).1.calls = site.calls ++ plan.units (TestCase.ordered cases) ∧
        AtEach (plan.Passes setup.engine p site.calls) (TestCase.ordered cases) := by
  have own : s.id = id := keyed id s stored
  cases loaded : DocumentStore.submission? id site.store with
  | error e =>
    rw [process_of_unloaded setup loaded]
    constructor
    · rintro ⟨d, same, accepted⟩
      obtain rfl := Option.some.inj (stored.symm.trans same)
      rw [accepted] at due
      contradiction
    · rintro ⟨p, cases, context, calls, _⟩
      have empty := List.self_eq_append_right.mp calls
      exact absurd (List.map_eq_nil_iff.mp empty)
        ((TestCase.ordered_ne_nil_iff cases).mpr context.nonempty)
  | ok found =>
    obtain rfl : found = some s := (stored?_of_loaded loaded).symm.trans stored
    by_cases known : ∃ p cases, site.Context s p cases
    · obtain ⟨p, cases, context⟩ := known
      have small := fits p context.found
      have accepts := Progress.start_accepted_iff calm (setup.planFor s p cases) sound small rfl
        site.calls cases
      obtain ⟨d, last, verdict, calls⟩ := process_of_context setup calm saves due loaded context
        (Problem.memoryLimit_ne_overflow small)
      rw [own] at last
      constructor
      · rintro ⟨d', same, accepted⟩
        obtain rfl := Option.some.inj (last.symm.trans same)
        have each := (accepts.mp (verdict.symm.trans accepted)).2
        rw [Plan.reached_of_passes each, List.take_length] at calls
        exact ⟨p, cases, context, calls, each⟩
      · rintro ⟨q, others, context', _, each⟩
        obtain rfl := Option.some.inj (Except.ok.inj (context.found.symm.trans context'.found))
        obtain rfl := Except.ok.inj (context.listed.symm.trans context'.listed)
        exact ⟨d, last, verdict.trans (accepts.mpr ⟨context.nonempty, each⟩)⟩
    · have missing (p cases) (context : site.Context s p cases) := known ⟨p, cases, context⟩
      obtain ⟨d, last, failed⟩ := process_without_context setup saves due loaded missing
      rw [own] at last
      constructor
      · rintro ⟨d', same, accepted⟩
        obtain rfl := Option.some.inj (last.symm.trans same)
        rw [failed] at accepted
        contradiction
      · rintro ⟨p, cases, context, _⟩
        exact absurd context (missing p cases)

end Site

namespace Echo

def submission : Submission := .new (.ofNat 7) "ada" "echo" .python "print(input())" default

def problem : Problem := ⟨"echo", "Echo", 1000, 1, none, .const none⟩

def cases : List TestCase :=
  [⟨"a", "echo", "1", " 1\n", true, 0, 1⟩, ⟨"b", "echo", "2\r\n", "2", false, 0, 2⟩]

/-- The sandbox prints the input whatever the program is. -/
def setup : Setup where
  config := .ofEnvironment fun _ => none
  engine := fun _ u => ⟨5, .answered ⟨u.input, 1, 512, .success⟩⟩
  signatures := .default

def site : Site :=
  .start setup.config (.ofDocuments [submission] [problem] [("echo", cases)] []) default

theorem site_keyed : site.Keyed := MemoryStore.keyed_ofDocuments _ _ _ _

theorem ordered_cases : TestCase.ordered cases = cases := List.mergeSort_of_pairwise (by decide)

theorem context : site.Context submission problem cases := ⟨rfl, rfl, by decide⟩

theorem cases_pass :
    AtEach ((setup.planFor submission problem cases).Passes setup.engine problem site.calls)
      (TestCase.ordered cases) := by
  rw [ordered_cases, cases, atEach_cons, atEach_cons]
  refine ⟨⟨by decide, _, rfl, rfl, by unfold Problem.Allows; decide, by decide⟩,
    ⟨by decide, _, rfl, rfl, by unfold Problem.Allows; decide, by decide⟩, atEach_nil _⟩

theorem process_accepts_echo :
    ∃ d, (site.process setup (.ofNat 7)).1.stored? (.ofNat 7) = some d ∧ d.status = .accepted := by
  have saves : site.Saves := fun _ => rfl
  have calm : setup.engine.NeverCrashes := fun _ _ => nofun
  have fits (p : Problem)
      (found : DocumentStore.problem? submission.problemId site.store = .ok (some p)) : p.Fits := by
    obtain rfl := Option.some.inj (Except.ok.inj (context.found.symm.trans found))
    unfold Problem.Fits
    decide
  have loaded : DocumentStore.submission? (.ofNat 7) site.store = .ok (some submission) := rfl
  obtain ⟨d, _, _, calls⟩ :=
    Site.process_of_context setup calm saves rfl loaded context (by decide)
  rw [Plan.reached_of_passes cases_pass, List.take_length] at calls
  exact (Site.process_accepts_iff setup calm Signatures.default_neverPass saves site_keyed rfl rfl
    fits).mpr ⟨problem, cases, context, calls, cases_pass⟩

end Echo

end Grader

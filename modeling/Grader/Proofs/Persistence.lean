import Grader.Proofs.Process

/-! What becomes of a submission whatever operations of the store fail. From the outcome of the work
on it one can tell what has been stored: a verdict exactly where the work is completed. -/
namespace Grader

namespace Site

variable {setup : Setup} {id : Uuid} {site : Site}

/-- What is done before a verdict is to be stored: the note that the submission runs, and the calls
if the note was taken. -/
inductive Opens (id : Uuid) (site : Site) : List Job.Action → Prop where
  | idle : Opens id site []
  | refused (s : Submission) (stored : site.stored? id = some s) (e : StoreError)
      (fault : site.store.fault? (.saveSubmission .running) = some e) :
      Opens id site [.save (s.markRunning site.now)]
  | marked (s : Submission) (stored : site.stored? id = some s)
      (taken : site.accepts (s.markRunning site.now) = true) (made : List ExecutionUnit) :
      Opens id site (.save (s.markRunning site.now) :: made.map .call)

def verdict? (site : Site) : Job.Action → Option Submission
  | .save d => if site.accepts d && d.status.isTerminal then some d else none
  | .call _ => none

def verdicts (site : Site) (actions : List Job.Action) : List Submission :=
  actions.filterMap site.verdict?

theorem verdicts_append (site : Site) (before after : List Job.Action) :
    site.verdicts (before ++ after) = site.verdicts before ++ site.verdicts after :=
  List.filterMap_append

theorem verdict?_mark (site : Site) (s : Submission) (now : Instant) :
    site.verdict? (.save (s.markRunning now)) = none := by
  simp [verdict?, Submission.markRunning, Status.isTerminal]

theorem verdicts_call (site : Site) (made : List ExecutionUnit) :
    site.verdicts (made.map .call) = [] := by
  unfold verdicts
  rw [List.filterMap_map]
  exact List.filterMap_eq_nil_iff.mpr fun u _ => rfl

theorem fault?_acts (s : Site) (actions : List Job.Action) :
    (s.acts actions).store.fault? = s.store.fault? := by
  induction actions generalizing s with
  | nil => rfl
  | cons a as ih =>
    rw [acts_cons, ih]
    cases a with
    | call u => rfl
    | save d =>
      rcases s.accepts_or_fault d with taken | ⟨e, fault⟩
      · rw [act_save_of_accepts taken]
        rfl
      · rw [act_save_of_fault fault]

theorem stored?_acts_other (s : Site) {actions : List Job.Action} {other : Uuid}
    (elsewhere : ∀ d, .save d ∈ actions → other ≠ d.id) :
    (s.acts actions).stored? other = s.stored? other := by
  induction actions generalizing s with
  | nil => rfl
  | cons a as ih =>
    rw [acts_cons, ih _ fun d member => elsewhere d (List.mem_cons_of_mem a member)]
    cases a with
    | call u => rfl
    | save d =>
      rcases s.accepts_or_fault d with taken | ⟨e, fault⟩
      · rw [act_save_of_accepts taken, stored?_keep_other s (elsewhere d List.mem_cons_self)]
      · rw [act_save_of_fault fault]

namespace Opens

variable {opening : List Job.Action}

theorem verdicts (opens : Opens id site opening) : site.verdicts opening = [] := by
  cases opens with
  | idle => rfl
  | refused s => exact List.filterMap_cons_none (site.verdict?_mark s site.now)
  | marked s _ _ made =>
    exact (List.filterMap_cons_none (site.verdict?_mark s site.now)).trans (site.verdicts_call made)

theorem saves (opens : Opens id site opening) {d : Submission} (saved : .save d ∈ opening) :
    ∃ s, site.stored? id = some s ∧ d = s.markRunning site.now := by
  cases opens with
  | idle => exact absurd saved List.not_mem_nil
  | refused s stored =>
    exact ⟨s, stored, Job.Action.save.inj (List.mem_singleton.mp saved)⟩
  | marked s stored _ made =>
    rcases List.mem_cons.mp saved with same | called
    · exact ⟨s, stored, Job.Action.save.inj same⟩
    · obtain ⟨u, -, isCall⟩ := List.mem_map.mp called
      cases isCall

theorem own (opens : Opens id site opening) (keyed : site.Keyed) {d : Submission}
    (saved : .save d ∈ opening) : d.id = id := by
  obtain ⟨s, stored, rfl⟩ := opens.saves saved
  exact keyed id s stored

/-- Calls come after the note that the submission runs. -/
theorem calls (opens : Opens id site opening) {u : ExecutionUnit} (called : .call u ∈ opening) :
    ∃ d rest, opening = .save d :: rest ∧ d.status = .running ∧ site.accepts d = true := by
  cases opens with
  | idle => exact absurd called List.not_mem_nil
  | refused s => cases List.mem_singleton.mp called
  | marked s _ taken made => exact ⟨_, _, rfl, rfl, taken⟩

theorem stored? (opens : Opens id site opening) (keyed : site.Keyed) :
    (site.acts opening).stored? id = site.stored? id ∨
      ∃ s, site.stored? id = some s ∧
        (site.acts opening).stored? id = some (s.markRunning site.now) := by
  cases opens with
  | idle => exact .inl rfl
  | refused s stored e fault =>
    rw [acts_cons, act_save_of_fault fault]
    exact .inl rfl
  | marked s stored taken made =>
    refine .inr ⟨s, stored, ?_⟩
    have own : (s.markRunning site.now).id = id := keyed id s stored
    rw [acts_cons, act_save_of_accepts taken, acts_call, ← own]
    exact stored?_keep_same ..

theorem verdicts_save (opens : Opens id site opening) {d : Submission}
    (terminal : d.status.isTerminal = true) :
    site.verdicts (opening ++ [.save d]) = if site.accepts d then [d] else [] := by
  rw [verdicts_append, opens.verdicts, List.nil_append]
  simp only [Site.verdicts, List.filterMap_cons, List.filterMap_nil, verdict?, terminal,
    Bool.and_true]
  cases site.accepts d <;> rfl

theorem stored?_save {d : Submission} (own : d.id = id) :
    (site.acts (opening ++ [.save d])).stored? id =
      if site.accepts d then some d else (site.acts opening).stored? id := by
  have later : (site.acts opening).accepts d = site.accepts d := by
    unfold accepts
    rw [fault?_acts]
  rw [acts_append, acts_cons, acts_nil, act, later]
  split
  · rw [← own]
    exact stored?_keep_same ..
  · rfl

end Opens

/-- However the work ends, a verdict is the last that is done, and the outcome tells if it is stored. -/
theorem Works.closes {actions : List Job.Action} {outcome : Outcome}
    (works : site.Works setup id actions outcome) (keyed : site.Keyed) :
    ∃ opening, Opens id site opening ∧
      ((actions = opening ∧ ∀ status, outcome ≠ .completed status) ∨
        ∃ d, actions = opening ++ [.save d] ∧ d.id = id ∧ d.status.isTerminal = true ∧
          outcome = site.conclusion d.status) := by
  have stored {s : Submission} (due : site.Due id s) : site.stored? id = some s :=
    stored?_of_loaded due.loaded
  have own {s : Submission} (due : site.Due id s) : s.id = id := keyed id s (stored due)
  cases works with
  | unloaded | missing | skipped => exact ⟨[], .idle, .inl ⟨rfl, fun _ => nofun⟩⟩
  | givenUp s due _ detail =>
    have own : s.id = id := own due
    exact ⟨[], .idle, .inr ⟨s.fail detail site.now, rfl, own, rfl, rfl⟩⟩
  | unmarked s due p cases context e fault =>
    exact ⟨_, .refused s (stored due) e fault, .inl ⟨rfl, fun _ => nofun⟩⟩
  | crashed s due p cases context marked made ran =>
    exact ⟨_, .marked s (stored due) marked made, .inl ⟨rfl, fun _ => nofun⟩⟩
  | evaluated s due p cases context marked made e ran =>
    have own : s.id = id := own due
    exact ⟨_, .marked s (stored due) marked made, .inr ⟨(s.markRunning site.now).decide e site.now,
      rfl, own, e.status_terminal, rfl⟩⟩

/-- What the outcome of the work on a submission tells of all that was done, and of the site that
is left. -/
structure Reports (site : Site) (id : Uuid) (actions : List Job.Action) (after : Site)
    (outcome : Outcome) : Prop where
  own : ∀ d, .save d ∈ actions → d.id = id
  others : ∀ other, other ≠ id → after.stored? other = site.stored? other
  /-- All that is saved is the note of a run, or a verdict. -/
  saved : ∀ d, .save d ∈ actions →
    (∃ s, site.stored? id = some s ∧ d = s.markRunning site.now) ∨ d.status.isTerminal = true
  called : ∀ u, .call u ∈ actions →
    ∃ d rest, actions = .save d :: rest ∧ d.status = .running ∧ site.accepts d = true
  completed_iff : ∀ status, outcome = .completed status ↔
    ∃ d, site.verdicts actions = [d] ∧ d.status = status ∧ after.stored? id = some d
  idle : (outcome = .missing ∨ ∃ status, outcome = .skipped status) → actions = []
  failed : ∀ e, outcome = .storeFailed e → site.verdicts actions = [] ∧
    (after.stored? id = site.stored? id ∨
      ∃ s, site.stored? id = some s ∧ after.stored? id = some (s.markRunning site.now))

theorem Works.idle {actions : List Job.Action} {outcome : Outcome}
    (works : site.Works setup id actions outcome)
    (left : outcome = .missing ∨ ∃ status, outcome = .skipped status) : actions = [] := by
  cases works with
  | unloaded | missing | skipped => rfl
  | givenUp | evaluated => exact absurd left (site.conclusion_settles _)
  | unmarked | crashed => simp at left

theorem Opens.reports {opening : List Job.Action} (opens : Opens id site opening)
    (keyed : site.Keyed) {outcome : Outcome} (unsettled : ∀ status, outcome ≠ .completed status)
    (idle : (outcome = .missing ∨ ∃ status, outcome = .skipped status) → opening = []) :
    site.Reports id opening (site.acts opening) outcome where
  own d saved := opens.own keyed saved
  others other elsewhere := stored?_acts_other site fun d saved same =>
    elsewhere (same.trans (opens.own keyed saved))
  saved d saved := .inl (opens.saves saved)
  called u called := opens.calls called
  completed_iff := by
    intro status
    rw [opens.verdicts]
    constructor
    · intro completed
      exact absurd completed (unsettled status)
    · rintro ⟨d, none, -⟩
      contradiction
  idle := idle
  failed e _ := ⟨opens.verdicts, opens.stored? keyed⟩

theorem Opens.reports_save {opening : List Job.Action} (opens : Opens id site opening)
    (keyed : site.Keyed) {d : Submission} (own : d.id = id) (terminal : d.status.isTerminal = true) :
    site.Reports id (opening ++ [.save d]) (site.acts (opening ++ [.save d]))
      (site.conclusion d.status) := by
  have saves {d' : Submission} (saved : .save d' ∈ opening ++ [.save d]) :
      .save d' ∈ opening ∨ d' = d :=
    (List.mem_append.mp saved).imp_right fun last =>
      Job.Action.save.inj (List.mem_singleton.mp last)
  have keeps {d' : Submission} (saved : .save d' ∈ opening ++ [.save d]) : d'.id = id := by
    rcases saves saved with early | rfl
    · exact opens.own keyed early
    · exact own
  have verdicts := opens.verdicts_save terminal
  have stored : (site.acts (opening ++ [.save d])).stored? id = _ := Opens.stored?_save own
  exact {
    own := fun d' saved => keeps saved
    others := fun other elsewhere => stored?_acts_other site fun d' saved same =>
      elsewhere (same.trans (keeps saved))
    saved := by
      intro d' saved
      rcases saves saved with early | rfl
      · exact .inl (opens.saves early)
      · exact .inr terminal
    called := by
      intro u called
      rcases List.mem_append.mp called with early | last
      · obtain ⟨d', rest, rfl, running, taken⟩ := opens.calls early
        exact ⟨d', rest ++ [.save d], rfl, running, taken⟩
      · cases List.mem_singleton.mp last
    completed_iff := by
      intro status
      rw [verdicts, stored]
      rcases site.accepts_or_fault d with taken | ⟨e, fault⟩
      · rw [conclusion_of_accepts taken, if_pos taken, if_pos taken]
        constructor
        · intro completed
          exact ⟨d, rfl, Outcome.completed.inj completed, rfl⟩
        · rintro ⟨d', only, rfl, -⟩
          rw [(List.cons.inj only).1]
      · rw [conclusion_of_fault fault, if_neg (not_accepts_of_fault fault)]
        constructor
        · intro completed
          contradiction
        · rintro ⟨d', none, -⟩
          contradiction
    idle := by
      intro left
      exact absurd left (site.conclusion_settles d.status)
    failed := by
      intro e failed
      rcases site.accepts_or_fault d with taken | ⟨e, fault⟩
      · rw [conclusion_of_accepts taken] at failed
        contradiction
      · rw [verdicts, stored, if_neg (not_accepts_of_fault fault),
          if_neg (not_accepts_of_fault fault)]
        exact ⟨rfl, opens.stored? keyed⟩ }

theorem Works.reports {actions : List Job.Action} {outcome : Outcome}
    (works : site.Works setup id actions outcome) (keyed : site.Keyed) :
    site.Reports id actions (site.acts actions) outcome := by
  have idle := works.idle
  obtain ⟨opening, opens, ⟨rfl, unsettled⟩ | ⟨d, rfl, own, terminal, rfl⟩⟩ := works.closes keyed
  · exact opens.reports keyed unsettled idle
  · exact opens.reports_save keyed own terminal

theorem Reports.recounted {actions : List Job.Action} {after : Site} {outcome : Outcome}
    (reports : site.Reports id actions after outcome) (metrics : Metrics) :
    site.Reports id actions { after with metrics } outcome :=
  ⟨reports.own, reports.others, reports.saved, reports.called, reports.completed_iff, reports.idle,
    reports.failed⟩

/-- Only an engine that breaks down, or a memory limit beyond 64 bits, can end the work with nothing
told. -/
theorem Works.not_crashed {actions : List Job.Action} {outcome : Outcome}
    (works : site.Works setup id actions outcome) (calm : setup.engine.NeverCrashes)
    (fits : ∀ s p, site.Due id s →
      DocumentStore.problem? s.problemId site.store = .ok (some p) → p.Fits) :
    outcome ≠ .crashed := by
  have ended (status : Status) : site.conclusion status ≠ .crashed := by
    unfold conclusion
    cases site.store.fault? (.saveSubmission status) <;> nofun
  cases works with
  | unloaded | missing | skipped | unmarked => nofun
  | givenUp | evaluated => exact ended _
  | crashed s due p cases context marked made ran =>
    rw [setup.evaluate_of_fits _ (fits s p due context.found), Progress.run_eq calm] at ran
    cases congrArg Prod.fst ran

theorem terminal_of_mem_verdicts {actions : List Job.Action} {d : Submission}
    (settled : d ∈ site.verdicts actions) : d.status.isTerminal = true := by
  obtain ⟨a, -, stored⟩ := List.mem_filterMap.mp settled
  cases a with
  | call u => contradiction
  | save d' =>
    simp only [verdict?, Option.ite_none_right_eq_some, Bool.and_eq_true, Option.some.injEq] at stored
    obtain ⟨⟨-, terminal⟩, rfl⟩ := stored
    exact terminal

theorem process_of_settled (setup : Setup) {site : Site} {id : Uuid} {d : Submission}
    (stored : site.stored? id = some d) (settled : d.status.isTerminal = true)
    (readable : site.store.fault? .findSubmission = none) :
    Job.load.actions setup id site = [] ∧ site.process setup id = (site, .skipped d.status) := by
  have loaded : DocumentStore.submission? id site.store = .ok (some d) := by
    simp only [DocumentStore.submission?, MemoryStore.answer, readable]
    exact congrArg Except.ok stored
  exact process_of_done setup ((congrArg Job.loaded loaded).trans (if_pos settled))

/-- Whatever operations of the store fail, the outcome tells what the work has stored: a verdict if
and only if it is completed, and then that verdict remains. -/
theorem process_reports (setup : Setup) {site : Site} (keyed : site.Keyed) (id : Uuid) :
    let actions := Job.load.actions setup id site
    let after := (site.process setup id).1
    let outcome := (site.process setup id).2
    (∃ metrics, after = { site.acts actions with metrics }) ∧
    site.Reports id actions after outcome ∧
    (∀ s, site.Due id s → (∀ p cases, ¬site.Context s p cases) →
      outcome = site.conclusion .internalError) ∧
    (∀ status, outcome = .completed status → ∀ (setup' : Setup) (later : Site),
      later.stored? id = after.stored? id → later.store.fault? .findSubmission = none →
      later.process setup' id = (later, .skipped status) ∧ Job.load.actions setup' id later = []) ∧
    (setup.engine.NeverCrashes → (∀ s p, site.Due id s →
      DocumentStore.problem? s.problemId site.store = .ok (some p) → p.Fits) →
      outcome ≠ .crashed) ∧
    ∀ e : Evaluation, e.status.isTerminal = true := by
  intro actions after outcome
  have works : site.Works setup id actions outcome := process_works setup id site
  obtain ⟨metrics, effect⟩ : ∃ metrics, after = { site.acts actions with metrics } :=
    Job.finish_acts setup id site .load
  have reports : site.Reports id actions after outcome := by
    rw [effect]
    exact (works.reports keyed).recounted metrics
  refine ⟨⟨metrics, effect⟩, reports, ?_, ?_, ?_, ?_⟩
  · intro s due none
    obtain ⟨_, -, told⟩ := works.of_no_context due none
    exact told
  · intro status completed setup' later same readable
    obtain ⟨d, settled, rfl, stored⟩ := (reports.completed_iff status).mp completed
    have terminal : d.status.isTerminal = true :=
      terminal_of_mem_verdicts (settled ▸ List.mem_singleton_self d)
    exact (process_of_settled setup' (same.trans stored) terminal readable).symm
  · intro calm fits
    exact works.not_crashed calm fits
  · exact Evaluation.status_terminal

end Site

namespace Unreadable

def site : Site :=
  { Echo.site with store := { Echo.site.store with
      fault? := fun o => if o = .findProblem then some (.server "no answer") else none } }

theorem process_reports_unreadable :
    let after := (site.process Echo.setup (.ofNat 7)).1
    (site.process Echo.setup (.ofNat 7)).2 = .completed .internalError ∧
      (∃ d, after.stored? (.ofNat 7) = some d ∧ d.status = .internalError) ∧
      after.process Echo.setup (.ofNat 7) = (after, .skipped .internalError) := by
  intro after
  have due : site.Due (.ofNat 7) Echo.submission := ⟨rfl, rfl⟩
  have none (p : Problem) (cases : List TestCase) : ¬site.Context Echo.submission p cases := by
    intro context
    cases context.found
  obtain ⟨⟨metrics, effect⟩, reports, absorbed, again, -⟩ :=
    site.process_reports Echo.setup Echo.site_keyed (.ofNat 7)
  have completed := absorbed Echo.submission due none
  obtain ⟨d, -, failed, stored⟩ := (reports.completed_iff .internalError).mp completed
  have readable : after.store.fault? .findSubmission = .none := by
    have same : after.store.fault? = site.store.fault? :=
      (congrArg (fun s : Site => s.store.fault?) effect).trans (site.fault?_acts _)
    rw [same]
    rfl
  exact ⟨completed, ⟨d, stored, failed⟩, (again _ completed Echo.setup after rfl readable).1⟩

end Unreadable

end Grader

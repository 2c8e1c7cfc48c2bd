import Grader.Proofs.Actions
import Grader.Proofs.Course

/-! The ways in which the work on a submission ends, each with its own saves and calls. -/
namespace Grader

def Setup.evaluator (setup : Setup) : Evaluator :=
  ⟨setup.engine, setup.signatures, setup.config.dispatchMarginMs,
    setup.config.maxSubmissionBudgetMs⟩

def Setup.evaluate (setup : Setup) (s : Submission) (p : Problem) (cases : List TestCase)
    (calls : List ExecutionUnit) : Option Evaluation × List ExecutionUnit :=
  setup.evaluator.evaluate s p cases (setup.config.effectiveTimeLimit p.timeLimitMs) calls

def Setup.planFor (setup : Setup) (s : Submission) (p : Problem) (cases : List TestCase) : Plan :=
  .make s p cases.length (setup.config.effectiveTimeLimit p.timeLimitMs)
    setup.config.dispatchMarginMs setup.config.maxSubmissionBudgetMs setup.signatures

theorem Setup.evaluate_of_fits (setup : Setup) (s : Submission) {p : Problem} (fits : p.Fits)
    (cases : List TestCase) (calls : List ExecutionUnit) :
    setup.evaluate s p cases calls =
      (Progress.start cases).run (setup.planFor s p cases) setup.engine calls :=
  Evaluator.evaluate_of_fits _ s fits cases _ calls

def Submission.decide (s : Submission) (e : Evaluation) (now : Instant) : Submission :=
  s.complete e.status e.results e.tally e.diagnostic now

theorem Evaluation.status_terminal (e : Evaluation) : e.status.isTerminal = true :=
  Verdict.aggregate_terminal e.results

namespace Job

variable (setup : Setup) (id : Uuid)

theorem begin_eq (s : Submission) {p : Problem} (cases : List TestCase)
    (fits : p.memoryLimit ≠ .overflow) :
    begin setup s p cases = run s (setup.planFor s p cases) (.start cases) := by
  unfold begin
  split
  · rename_i overflow
    exact absurd overflow fits
  all_goals rfl

theorem begin_leads (s : Submission) (p : Problem) (cases : List TestCase) (site : Site) :
    ∃ metrics elapsedMs, Leads setup id (site, begin setup s p cases)
      ({ site with calls := (setup.evaluate s p cases site.calls).2, metrics },
        match (setup.evaluate s p cases site.calls).1 with
        | some e => save s e elapsedMs
        | none => done .crashed) := by
  by_cases fits : p.Fits
  · rw [begin_eq setup s cases (Problem.memoryLimit_ne_overflow fits), setup.evaluate_of_fits s fits]
    exact run_leads setup id s _ (.start cases) site
  · rw [Setup.evaluate, Evaluator.evaluate_of_not_fits _ s fits, begin,
      Problem.memoryLimit_of_not_fits fits]
    exact ⟨site.metrics, 0, .refl _⟩

theorem conclude_ends (d : Submission) (elapsedMs : Nat) (site : Site) :
    (conclude d elapsedMs site).2 = .done (site.conclusion d.status) := by
  rcases site.accepts_or_fault d with accepted | ⟨e, fault⟩
  · obtain ⟨metrics, kept⟩ := conclude_of_accepts accepted elapsedMs
    rw [kept, Site.conclusion_of_accepts accepted]
  · rw [conclude_of_fault fault, Site.conclusion_of_fault fault]

theorem giveUp_ends (s : Submission) (detail : String) (site : Site) :
    (giveUp s detail).actions setup id site = [.save (s.fail detail site.now)] ∧
      ((giveUp s detail).finish setup id site).2 = site.conclusion .internalError := by
  have ended := conclude_ends (s.fail detail site.now) 0 site
  rw [actions_step _ _ _ rfl, finish_step _ _ _ rfl]
  simp only [step, ended, actions_done, finish_done]
  exact ⟨rfl, rfl⟩

theorem save_ends (s : Submission) (e : Evaluation) (elapsedMs : Nat) (site : Site) :
    (save s e elapsedMs).actions setup id site = [.save (s.decide e site.now)] ∧
      ((save s e elapsedMs).finish setup id site).2 = site.conclusion e.status := by
  have ended := conclude_ends (s.decide e site.now) elapsedMs site
  rw [Submission.decide] at ended
  rw [actions_step _ _ _ rfl, finish_step _ _ _ rfl]
  simp only [step, ended, actions_done, finish_done]
  exact ⟨rfl, rfl⟩

end Job

namespace Site

/-- A submission is loaded that has no verdict yet. -/
structure Due (site : Site) (id : Uuid) (s : Submission) : Prop where
  loaded : DocumentStore.submission? id site.store = .ok (some s)
  unsettled : s.status.isTerminal = false

/-- The ways in which the work on a submission ends: what it does and what it tells. -/
inductive Works (setup : Setup) (id : Uuid) (site : Site) : List Job.Action → Outcome → Prop where
  | unloaded (e : StoreError) (failed : DocumentStore.submission? id site.store = .error e) :
      Works setup id site [] (.storeFailed e)
  | missing (absent : DocumentStore.submission? id site.store = .ok none) :
      Works setup id site [] .missing
  | skipped (s : Submission) (loaded : DocumentStore.submission? id site.store = .ok (some s))
      (settled : s.status.isTerminal = true) : Works setup id site [] (.skipped s.status)
  | givenUp (s : Submission) (due : site.Due id s) (none : ∀ p cases, ¬site.Context s p cases)
      (detail : String) :
      Works setup id site [.save (s.fail detail site.now)] (site.conclusion .internalError)
  | unmarked (s : Submission) (due : site.Due id s) (p : Problem) (cases : List TestCase)
      (context : site.Context s p cases) (e : StoreError)
      (fault : site.store.fault? (.saveSubmission .running) = some e) :
      Works setup id site [.save (s.markRunning site.now)] (.storeFailed e)
  | crashed (s : Submission) (due : site.Due id s) (p : Problem) (cases : List TestCase)
      (context : site.Context s p cases) (marked : site.accepts (s.markRunning site.now) = true)
      (made : List ExecutionUnit)
      (ran : setup.evaluate (s.markRunning site.now) p cases site.calls = (none, site.calls ++ made)) :
      Works setup id site (.save (s.markRunning site.now) :: made.map .call) .crashed
  | evaluated (s : Submission) (due : site.Due id s) (p : Problem) (cases : List TestCase)
      (context : site.Context s p cases) (marked : site.accepts (s.markRunning site.now) = true)
      (made : List ExecutionUnit) (e : Evaluation)
      (ran : setup.evaluate (s.markRunning site.now) p cases site.calls =
        (some e, site.calls ++ made)) :
      Works setup id site
        (.save (s.markRunning site.now) :: made.map .call ++
          [.save ((s.markRunning site.now).decide e site.now)])
        (site.conclusion e.status)

variable {setup : Setup} {id : Uuid} {site : Site}

theorem mark_works {s : Submission} (due : site.Due id s) {p : Problem} {cases : List TestCase}
    (context : site.Context s p cases) :
    site.Works setup id ((Job.mark s p cases).actions setup id site)
      ((Job.mark s p cases).finish setup id site).2 := by
  rw [Job.actions_step _ _ _ rfl, Job.finish_step _ _ _ rfl]
  rcases site.accepts_or_fault (s.markRunning site.now) with marked | ⟨e, fault⟩
  · simp only [Job.step, saveSubmission_of_accepts marked]
    obtain ⟨metrics, elapsedMs, leads⟩ := Job.begin_leads setup id (s.markRunning site.now) p cases
      (site.keep (s.markRunning site.now))
    -- What the calls of the evaluation are shows in the site at its end.
    obtain ⟨made, called, done⟩ := leads.actions_eq
    rw [leads.finish_eq, done]
    simp only [calls_keep] at called ⊢
    cases ran : setup.evaluate (s.markRunning site.now) p cases site.calls with
    | mk evaluation calls =>
      rw [ran] at called
      obtain rfl : calls = site.calls ++ made := called
      cases evaluation with
      | none =>
        simp only [Job.actions_done, Job.finish_done, List.append_nil]
        exact .crashed s due p cases context marked made ran
      | some e =>
        obtain ⟨saved, told⟩ := Job.save_ends setup id (s.markRunning site.now) e elapsedMs
          { site.keep (s.markRunning site.now) with calls := site.calls ++ made, metrics }
        simp only [saved, told]
        exact .evaluated s due p cases context marked made e ran
  · simp only [Job.step, saveSubmission_of_fault fault, Job.actions_done, Job.finish_done]
    exact .unmarked s due p cases context e fault

theorem process_of_done (setup : Setup) {id : Uuid} {site : Site} {outcome : Outcome}
    (loaded : Job.loaded (DocumentStore.submission? id site.store) = .done outcome) :
    Job.load.actions setup id site = [] ∧ site.process setup id = (site, outcome) := by
  rw [process, Job.actions_step _ _ _ rfl, Job.finish_step _ _ _ rfl]
  simp only [Job.step, loaded, Job.actions_done, Job.finish_done]
  exact ⟨rfl, trivial⟩

/-- The work on a submission ends in one of these ways. -/
theorem process_works (setup : Setup) (id : Uuid) (site : Site) :
    site.Works setup id (Job.load.actions setup id site) (site.process setup id).2 := by
  cases loaded : DocumentStore.submission? id site.store with
  | error e =>
    obtain ⟨idle, told⟩ := process_of_done setup (congrArg Job.loaded loaded)
    rw [idle, told]
    exact .unloaded e loaded
  | ok found =>
    cases found with
    | none =>
      obtain ⟨idle, told⟩ := process_of_done setup (congrArg Job.loaded loaded)
      rw [idle, told]
      exact .missing loaded
    | some s =>
      cases settled : s.status.isTerminal with
      | true =>
        obtain ⟨idle, told⟩ :=
          process_of_done setup ((congrArg Job.loaded loaded).trans (if_pos settled))
        rw [idle, told]
        exact .skipped s loaded settled
      | false =>
        have due : site.Due id s := ⟨loaded, settled⟩
        have started := Job.load_leads setup id settled loaded
        rw [process, started.finish_eq, started.actions_same rfl]
        by_cases known : ∃ p cases, site.Context s p cases
        · obtain ⟨p, cases, context⟩ := known
          have found := Job.findProblem_leads_of_context setup id context
          rw [found.actions_same rfl, found.finish_eq]
          exact mark_works due context
        · have none (p cases) (context : site.Context s p cases) := known ⟨p, cases, context⟩
          obtain ⟨detail, given⟩ := Job.findProblem_leads_without_context setup id none
          obtain ⟨saved, told⟩ := Job.giveUp_ends setup id s detail site
          rw [given.actions_same rfl, given.finish_eq, saved, told]
          exact .givenUp s due none detail

/-- What is stored after the work, and which calls were made, shows in what was done. -/
theorem process_shows (setup : Setup) (id : Uuid) (site : Site) {after : Site}
    (acted : site.acts (Job.load.actions setup id site) = after) :
    (∀ x, (site.process setup id).1.stored? x = after.stored? x) ∧
      (site.process setup id).1.calls = after.calls := by
  obtain ⟨metrics, effect⟩ := Job.finish_acts setup id site .load
  rw [process, effect, acted]
  exact ⟨fun _ => rfl, rfl⟩

theorem Due.unique {s d : Submission} (due : site.Due id s)
    (loaded : DocumentStore.submission? id site.store = .ok (some d)) : d = s :=
  Option.some.inj (Except.ok.inj (loaded.symm.trans due.loaded))

theorem Context.unique {s : Submission} {p q : Problem} {cases others : List TestCase}
    (context : site.Context s p cases) (also : site.Context s q others) : q = p ∧ others = cases :=
  ⟨Option.some.inj (Except.ok.inj (also.found.symm.trans context.found)),
    Except.ok.inj (also.listed.symm.trans context.listed)⟩

theorem Works.of_no_context {actions : List Job.Action} {outcome : Outcome}
    (works : site.Works setup id actions outcome) {s : Submission} (due : site.Due id s)
    (none : ∀ p cases, ¬site.Context s p cases) :
    ∃ detail, actions = [.save (s.fail detail site.now)] ∧
      outcome = site.conclusion .internalError := by
  cases works with
  | unloaded e failed => cases failed.symm.trans due.loaded
  | missing absent => cases absent.symm.trans due.loaded
  | skipped d loaded settled =>
    rw [due.unique loaded, due.unsettled] at settled
    contradiction
  | givenUp d due' _ detail =>
    obtain rfl := due.unique due'.loaded
    exact ⟨detail, rfl, rfl⟩
  | unmarked d due' p cases context | crashed d due' p cases context
  | evaluated d due' p cases context =>
    rw [due.unique due'.loaded] at context
    exact absurd context (none p cases)

/-- The ways in which the work on a submission ends that has a problem and cases. -/
inductive Runs (setup : Setup) (site : Site) (s : Submission) (p : Problem) (cases : List TestCase) :
    List Job.Action → Outcome → Prop where
  | unmarked (e : StoreError) (fault : site.store.fault? (.saveSubmission .running) = some e) :
      Runs setup site s p cases [.save (s.markRunning site.now)] (.storeFailed e)
  | crashed (marked : site.accepts (s.markRunning site.now) = true) (made : List ExecutionUnit)
      (ran : setup.evaluate (s.markRunning site.now) p cases site.calls = (none, site.calls ++ made)) :
      Runs setup site s p cases (.save (s.markRunning site.now) :: made.map .call) .crashed
  | evaluated (marked : site.accepts (s.markRunning site.now) = true) (made : List ExecutionUnit)
      (e : Evaluation)
      (ran : setup.evaluate (s.markRunning site.now) p cases site.calls =
        (some e, site.calls ++ made)) :
      Runs setup site s p cases
        (.save (s.markRunning site.now) :: made.map .call ++
          [.save ((s.markRunning site.now).decide e site.now)])
        (site.conclusion e.status)

/-- With a problem and cases, the submission is run. -/
theorem Works.runs {actions : List Job.Action} {outcome : Outcome}
    (works : site.Works setup id actions outcome) {s : Submission} (due : site.Due id s) {p : Problem}
    {cases : List TestCase} (context : site.Context s p cases) :
    site.Runs setup s p cases actions outcome := by
  cases works with
  | unloaded e failed => cases failed.symm.trans due.loaded
  | missing absent => cases absent.symm.trans due.loaded
  | skipped d loaded settled =>
    rw [due.unique loaded, due.unsettled] at settled
    contradiction
  | givenUp d due' none =>
    rw [due.unique due'.loaded] at none
    exact absurd context (none p cases)
  | unmarked d due' q others context' e fault =>
    obtain rfl := due.unique due'.loaded
    exact .unmarked e fault
  | crashed d due' q others context' marked made ran =>
    obtain rfl := due.unique due'.loaded
    obtain ⟨rfl, rfl⟩ := context.unique context'
    exact .crashed marked made ran
  | evaluated d due' q others context' marked made e ran =>
    obtain rfl := due.unique due'.loaded
    obtain ⟨rfl, rfl⟩ := context.unique context'
    exact .evaluated marked made e ran

theorem fault?_of_marked {s : Submission} (marked : site.accepts (s.markRunning site.now) = true) :
    site.store.fault? (.saveSubmission .running) = none :=
  (site.accepts_iff (s.markRunning site.now)).mp marked

/-- Where the note of the run is taken and there is an evaluation, its verdict is stored. -/
theorem Runs.of_evaluation {actions : List Job.Action} {outcome : Outcome} {s : Submission}
    {p : Problem} {cases : List TestCase} (runs : site.Runs setup s p cases actions outcome)
    (marked : site.accepts (s.markRunning site.now) = true) {made : List ExecutionUnit}
    {e : Evaluation}
    (ran : setup.evaluate (s.markRunning site.now) p cases site.calls =
      (some e, site.calls ++ made)) :
    actions = .save (s.markRunning site.now) :: made.map .call ++
      [.save ((s.markRunning site.now).decide e site.now)] := by
  cases runs with
  | unmarked e' fault => cases (fault?_of_marked marked).symm.trans fault
  | crashed _ _ crashed => cases congrArg Prod.fst (crashed.symm.trans ran)
  | evaluated _ _ _ same =>
    obtain ⟨evaluation, calls⟩ := Prod.mk.inj (same.symm.trans ran)
    rw [Option.some.inj evaluation, List.append_cancel_left calls]

end Site

end Grader

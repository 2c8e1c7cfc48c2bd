import Grader.Proofs.Disclosure
import Grader.Proofs.Exits
import Grader.Proofs.Shift

/-! The log of the calls of an engine. Nothing is ever taken off it. Where one party alone makes
calls, be it the work on a submission or a custom run, the log grows by what that party calls; where
the workers go on meanwhile, their calls stand in between. -/
namespace Grader

/-- What an engine takes of some units that it is given one after another: all, or those up to one
at which it crashes. -/
def Engine.takes (engine : Engine) (calls : List ExecutionUnit) :
    List ExecutionUnit → List ExecutionUnit
  | [] => []
  | u :: us =>
    if (engine calls u).result = .crashed then [u] else u :: engine.takes (calls ++ [u]) us

theorem Engine.takes_of_calm {engine : Engine} (calm : engine.NeverCrashes)
    (calls us : List ExecutionUnit) : engine.takes calls us = us := by
  induction us generalizing calls with
  | nil => rfl
  | cons u us ih => rw [takes, if_neg (calm calls u), ih]

/-- An evaluation has the engine take the units of the cases that the budget leaves time for. -/
theorem Progress.calls_run (plan : Plan) (engine : Engine) (p : Progress)
    (calls : List ExecutionUnit) :
    (p.run plan engine calls).2 = calls ++ engine.takes calls
      (plan.units (p.pending.take (plan.reached engine p.elapsedMs calls p.pending))) := by
  obtain ⟨pending, elapsedMs, results, diagnostics⟩ := p
  induction pending generalizing elapsedMs results diagnostics calls with
  | nil =>
    rw [run_of_next?_none rfl]
    exact (List.append_nil calls).symm
  | cons c cs ih =>
    by_cases late : plan.budgetMs.toNat ≤ elapsedMs
    · rw [run_of_next?_none (by simp [next?, exhausted, late]), Plan.reached, if_pos late]
      exact (List.append_nil calls).symm
    · have next : next? plan ⟨c :: cs, elapsedMs, results, diagnostics⟩ =
          some (c, ⟨cs, elapsedMs, results, diagnostics⟩) := by simp [next?, exhausted, late]
      rw [run_of_next?_some next]
      simp only [Plan.reached, if_neg late, List.take_succ_cons, Plan.units_cons, Engine.takes]
      cases ended : (engine calls (plan.unitFor c.input)).result with
      | crashed => simp
      | answered output => simp [answered, afterDelay, ih]
      | failed e => simp [failed, afterDelay, ih]

theorem Job.calls_save (setup : Setup) (id : Uuid) (s : Submission) (e : Evaluation)
    (elapsedMs : Nat) (site : Site) :
    ((save s e elapsedMs).finish setup id site).1.calls = site.calls := by
  have ended : ((save s e elapsedMs).step setup id site).2 =
      done (site.conclusion (s.decide e site.now).status) := conclude_ends _ _ _
  have called := calls_step setup id site (save s e elapsedMs)
  rw [ended] at called
  rw [finish_step _ _ _ rfl, ended, finish_done, called]
  exact List.append_nil _

/-- The work on a submission comes to its run: there is something to run it on, and the store takes
the note that it is run. -/
structure Site.Starts (site : Site) (id : Uuid) (s : Submission) (p : Problem)
    (cases : List TestCase) : Prop where
  due : site.Due id s
  context : site.Context s p cases
  marked : site.accepts (s.markRunning site.now) = true

namespace Site

variable {setup : Setup} {site : Site} {id : Uuid} {s : Submission} {p : Problem}
  {cases : List TestCase}

theorem calls_process (starts : site.Starts id s p cases) :
    (site.process setup id).1.calls =
      (setup.evaluate (s.markRunning site.now) p cases site.calls).2 := by
  have loaded := Job.load_leads setup id starts.due.unsettled starts.due.loaded
  have found := Job.findProblem_leads_of_context setup id starts.context
  rw [process, loaded.finish_eq, found.finish_eq, Job.finish_step _ _ _ rfl]
  simp only [Job.step, saveSubmission_of_accepts starts.marked]
  obtain ⟨metrics, elapsedMs, leads⟩ := Job.begin_leads setup id (s.markRunning site.now) p cases
    (site.keep (s.markRunning site.now))
  rw [leads.finish_eq, calls_keep]
  cases (setup.evaluate (s.markRunning site.now) p cases site.calls).1 with
  | none => rw [Job.finish_done]
  | some e => exact Job.calls_save setup id (s.markRunning site.now) e elapsedMs _

/-- The work on a submission has the engine take the units of the cases that its budget leaves time
for. -/
theorem calls_process_of_reaches (starts : site.Starts id s p cases) (fits : p.Fits) {count : Nat}
    (reaches : (setup.planFor s p cases).Reaches setup.engine site.calls (TestCase.ordered cases)
      count) :
    (site.process setup id).1.calls = site.calls ++ setup.engine.takes site.calls
      ((setup.planFor s p cases).units ((TestCase.ordered cases).take count)) := by
  have plan : setup.planFor (s.markRunning site.now) p cases = setup.planFor s p cases := rfl
  have reached := (Plan.reached_reaches site.calls (TestCase.ordered cases)).unique reaches
  rw [calls_process starts, setup.evaluate_of_fits _ fits, Progress.calls_run, plan]
  exact congrArg (fun count => site.calls ++ setup.engine.takes site.calls
    ((setup.planFor s p cases).units ((TestCase.ordered cases).take count))) reached

theorem calls_process_of_not_fits (starts : site.Starts id s p cases) (beyond : ¬p.Fits) :
    (site.process setup id).1.calls = site.calls := by
  rw [calls_process starts, Setup.evaluate, Evaluator.evaluate_of_not_fits _ _ beyond]

end Site

theorem Job.calls_proceed (setup : Setup) (id : Uuid) (site : Site) (j : Job) :
    site.calls <+: (j.proceed setup id site).1.calls := by
  have step (site : Site) (j : Job) : site.calls <+: (j.step setup id site).1.calls :=
    ⟨_, (calls_step setup id site j).symm⟩
  induction site, j using proceed.induct setup id with
  | case1 site j outcome ended =>
    obtain rfl := Server.outcome?_eq_some ended
    exact (proceed_done setup id site outcome).symm ▸ List.prefix_rfl
  | case2 site j going _ next waits =>
    rw [proceed_step setup id site going]
    simp only [show (j.step setup id site).2.waits = true from waits, if_true]
    exact step site j
  | case3 site j going _ next waits ih =>
    rw [proceed_step setup id site going]
    simp only [show ¬(j.step setup id site).2.waits = true from waits]
    exact (step site j).trans ih

namespace Running

variable {setup : Setup} {r q : Running}

theorem calls_goOn? (went : r.goOn? setup = some q) : r.site.calls <+: q.site.calls := by
  unfold goOn? at went
  split at went
  · contradiction
  split at went
  · rename_i i _ _ id job _
    split at went
    · rename_i server released
      obtain rfl := Option.some.inj went
      obtain ⟨_, _, _, rfl⟩ := Server.release?_eq_some released
      exact List.prefix_rfl
    · have proceeded := job.calls_proceed setup id r.site
      generalize job.proceed setup id r.site = p at went proceeded
      obtain ⟨site, job⟩ := p
      simp only at went
      split at went <;> obtain rfl := Option.some.inj went <;> exact proceeded
  · obtain rfl := Option.some.inj went
    exact List.prefix_rfl

theorem calls_turn? (went : r.turn? setup = some q) : r.site.calls <+: q.site.calls := by
  unfold turn? at went
  split at went
  · exact calls_goOn? went
  split at went
  · rename_i server taken
    obtain rfl := Option.some.inj went
    obtain ⟨_, _, _, _, rfl⟩ := Server.take?_eq_some taken
    exact List.prefix_rfl
  · exact calls_goOn? went

theorem calls_turns (n : Nat) (r : Running) : r.site.calls <+: (turns setup n r).site.calls := by
  induction n generalizing r with
  | zero => exact List.prefix_rfl
  | succ n ih =>
    unfold turns
    split
    · rename_i went
      exact (calls_turn? went).trans (ih _)
    · exact List.prefix_rfl

theorem calls_settle (r : Running) : r.site.calls <+: (r.settle setup).site.calls :=
  calls_turns _ r.wake

theorem calls_passTimers (target fuel : Nat) (r : Running) :
    r.site.calls <+: (passTimers setup target fuel r).site.calls := by
  induction fuel generalizing r with
  | zero => exact List.prefix_rfl
  | succ fuel ih =>
    unfold passTimers
    split
    · rename_i due _
      split
      · exact (calls_settle (r.setClock due)).trans (ih _)
      · exact List.prefix_rfl
    · exact List.prefix_rfl

theorem calls_pass (ms : Nat) (r : Running) : r.site.calls <+: (r.pass setup ms).site.calls :=
  (calls_settle r).trans (calls_passTimers _ _ _)

/-- No worker has anything to do, now or later. -/
structure Rests (r : Running) : Prop where
  channel : r.site.queue.channel = []
  ready : r.ready = []
  timers : r.timers = []

theorem Rests.settle (rests : r.Rests) : r.settle setup = r := by
  have woken : r.wake = r := by
    obtain ⟨server, waiting, ready, timers⟩ := r
    obtain rfl : ready = [] := rests.ready
    obtain rfl : timers = [] := rests.timers
    simp [wake, dueTimers]
  have left : r.turnsLeft = 0 := by simp [turnsLeft, rests.channel, rests.ready]
  simp only [Running.settle, woken, left, turns]

theorem Rests.pass (rests : r.Rests) (ms : Nat) :
    r.pass setup ms = r.setClock (r.clockMs + ms) := by
  have idle (target fuel : Nat) : passTimers setup target fuel r = r := by
    cases fuel with
    | zero => rfl
    | succ fuel => simp [passTimers, earliestDue?, rests.timers]
  simp only [Running.pass, rests.settle, idle]

theorem Rests.setClock (rests : r.Rests) (ms : Nat) : (r.setClock ms).Rests :=
  ⟨rests.channel, rests.ready, rests.timers⟩

end Running

namespace Api

open Running (Rests)

variable (setup : Setup)

def given (u : ExecutionUnit) (r : Running) : Running :=
  r.withSite { r.site with calls := r.site.calls ++ [u] }

theorem called_cases (u : ExecutionUnit) (r : Running) :
    called setup u r = given u r ∨ ∃ ms, called setup u r = (given u r).pass setup ms := by
  by_cases prompt : (setup.engine r.site.calls u).delayMs = 0
  · exact .inl (if_pos prompt)
  · exact .inr ⟨_, if_neg prompt⟩

/-- A call stands in the log first, and what the workers call until it is answered after it. -/
theorem calls_called (u : ExecutionUnit) (r : Running) :
    r.site.calls ++ [u] <+: (called setup u r).site.calls := by
  rcases called_cases setup u r with prompt | ⟨ms, later⟩
  · rw [prompt]
    exact List.prefix_rfl
  · rw [later]
    exact Running.calls_pass ms (given u r)

theorem called_of_rests {r : Running} (rests : r.Rests) (u : ExecutionUnit) :
    (called setup u r).Rests ∧ (called setup u r).site.calls = r.site.calls ++ [u] := by
  have still : (given u r).Rests := ⟨rests.channel, rests.ready, rests.timers⟩
  rcases called_cases setup u r with prompt | ⟨ms, later⟩
  · rw [prompt]
    exact ⟨still, rfl⟩
  · rw [later, still.pass]
    exact ⟨still.setClock _, rfl⟩

/-- On a server at rest the calls of a custom run are what the engine takes of its units. -/
theorem calls_runUnits_of_rests {r : Running} (rests : r.Rests) (us : List ExecutionUnit) :
    (runUnits setup us r).2.site.calls = r.site.calls ++ setup.engine.takes r.site.calls us := by
  induction us generalizing r with
  | nil => exact (List.append_nil _).symm
  | cons u us ih =>
    obtain ⟨still, logged⟩ := called_of_rests setup rests u
    have next {q : Running} (quiet : q.Rests) (same : q.site.calls = r.site.calls ++ [u]) :
        (runUnits setup us q).2.site.calls =
          r.site.calls ++ u :: setup.engine.takes (r.site.calls ++ [u]) us := by
      rw [ih quiet, same, List.append_assoc, List.singleton_append]
    rw [Engine.takes]
    cases ended : (setup.engine r.site.calls u).result with
    | crashed => rw [runUnits_of_crashed us ended, logged, if_pos rfl]
    | answered output =>
      rw [runUnits_of_answered us ended, if_neg nofun]
      exact next still logged
    | failed e =>
      rw [runUnits_of_failed us ended, if_neg nofun]
      exact next ⟨still.channel, still.ready, still.timers⟩ logged

/-- A log grows by calls of one party, in their order, each with calls of others after it. -/
def GrowsBy (own before after : List ExecutionUnit) : Prop :=
  ∃ others : List (List ExecutionUnit), others.length = own.length ∧
    after = before ++ (List.zipWith (· :: ·) own others).flatten

theorem GrowsBy.refl (calls : List ExecutionUnit) : GrowsBy [] calls calls :=
  ⟨[], rfl, (List.append_nil calls).symm⟩

theorem GrowsBy.cons {u : ExecutionUnit} {own before mid after : List ExecutionUnit}
    (first : before ++ [u] <+: mid) (rest : GrowsBy own mid after) :
    GrowsBy (u :: own) before after := by
  obtain ⟨meanwhile, rfl⟩ := first
  obtain ⟨others, length, rfl⟩ := rest
  exact ⟨meanwhile :: others, congrArg Nat.succ length, by simp⟩

/-- However busy the server is, a custom run gives the engine its units in their order, and all of
them unless the engine crashes. -/
theorem runUnits_grows (us : List ExecutionUnit) (r : Running) :
    ∃ own, own <+: us ∧ ((runUnits setup us r).1.isSome → own = us) ∧
      GrowsBy own r.site.calls (runUnits setup us r).2.site.calls := by
  induction us generalizing r with
  | nil => exact ⟨[], List.prefix_rfl, fun _ => rfl, .refl _⟩
  | cons u us ih =>
    have logged := calls_called setup u r
    cases ended : (setup.engine r.site.calls u).result with
    | crashed =>
      rw [runUnits_of_crashed us ended]
      exact ⟨[u], ⟨us, rfl⟩, nofun, .cons logged (.refl _)⟩
    | answered output =>
      obtain ⟨own, part, whole, grows⟩ := ih (called setup u r)
      rw [runUnits_of_answered us ended]
      refine ⟨u :: own, List.cons_prefix_cons.mpr ⟨rfl, part⟩, fun told => ?_, .cons logged grows⟩
      rw [whole (by simpa using told)]
    | failed e =>
      obtain ⟨own, part, whole, grows⟩ :=
        ih ((called setup u r).withSite (countFailure u e (called setup u r).site))
      rw [runUnits_of_failed us ended]
      refine ⟨u :: own, List.cons_prefix_cons.mpr ⟨rfl, part⟩, fun told => ?_, .cons logged grows⟩
      rw [whole (by simpa using told)]

theorem runUnits_isSome {setup : Setup} (calm : setup.engine.NeverCrashes) (us : List ExecutionUnit) (r : Running) :
    (runUnits setup us r).1.isSome = true := by
  induction us generalizing r with
  | nil => rfl
  | cons u us ih =>
    cases ended : (setup.engine r.site.calls u).result with
    | crashed => exact absurd ended (calm _ u)
    | answered output =>
      rw [runUnits_of_answered us ended]
      simpa using ih _
    | failed e =>
      rw [runUnits_of_failed us ended]
      simpa using ih _

end Api

end Grader

import Grader.Evaluation.Run
import Grader.Proofs.Classification

/-! The course of an evaluation, told by the cases in their order. A case is run if the calls for
the cases before it leave some of the budget; from the first case on that is not, none is. -/
namespace Grader

def Engine.NeverCrashes (engine : Engine) : Prop := ∀ calls u, (engine calls u).result ≠ .crashed

/-- A property of every case together with the cases before it. -/
def AtEach (P : List TestCase → TestCase → Prop) (cases : List TestCase) : Prop :=
  ∀ before c after, cases = before ++ c :: after → P before c

@[simp] theorem atEach_nil (P : List TestCase → TestCase → Prop) : AtEach P [] := by
  intro before c after split
  simp at split

theorem atEach_cons (P : List TestCase → TestCase → Prop) (c : TestCase) (cs : List TestCase) :
    AtEach P (c :: cs) ↔ P [] c ∧ AtEach (fun before => P (c :: before)) cs := by
  constructor
  · intro each
    refine ⟨each [] c cs rfl, ?_⟩
    rintro before d after rfl
    exact each (c :: before) d after rfl
  · rintro ⟨first, later⟩ before d after split
    cases before with
    | nil =>
      obtain ⟨rfl, _⟩ := List.cons.inj split
      exact first
    | cons b before =>
      obtain ⟨rfl, rest⟩ := List.cons.inj split
      exact later before d after rest

theorem atEach_and (P Q : List TestCase → TestCase → Prop) (cases : List TestCase) :
    AtEach (fun before c => P before c ∧ Q before c) cases ↔ AtEach P cases ∧ AtEach Q cases :=
  ⟨fun each => ⟨fun b c a h => (each b c a h).1, fun b c a h => (each b c a h).2⟩,
    fun each b c a h => ⟨each.1 b c a h, each.2 b c a h⟩⟩

namespace Plan

def units (plan : Plan) (cases : List TestCase) : List ExecutionUnit :=
  cases.map fun c => plan.unitFor c.input

@[simp] theorem units_cons (plan : Plan) (c : TestCase) (cs : List TestCase) :
    plan.units (c :: cs) = plan.unitFor c.input :: plan.units cs := rfl

def reply (plan : Plan) (engine : Engine) (calls : List ExecutionUnit) (before : List TestCase)
    (c : TestCase) : Reply :=
  engine (calls ++ plan.units before) (plan.unitFor c.input)

@[simp] theorem reply_nil (plan : Plan) (engine : Engine) (calls : List ExecutionUnit)
    (c : TestCase) : plan.reply engine calls [] c = engine calls (plan.unitFor c.input) := by
  simp [reply, units]

@[simp] theorem reply_cons (plan : Plan) (engine : Engine) (calls : List ExecutionUnit)
    (b : TestCase) (before : List TestCase) (c : TestCase) :
    plan.reply engine calls (b :: before) c =
      plan.reply engine (calls ++ [plan.unitFor b.input]) before c := by
  simp [reply]

def durationMs (plan : Plan) (engine : Engine) (calls : List ExecutionUnit) : List TestCase → Nat
  | [] => 0
  | c :: cs =>
    (plan.reply engine calls [] c).delayMs +
      durationMs plan engine (calls ++ [plan.unitFor c.input]) cs

def reached (plan : Plan) (engine : Engine) (elapsedMs : Nat) (calls : List ExecutionUnit) :
    List TestCase → Nat
  | [] => 0
  | c :: cs =>
    if plan.budgetMs.toNat ≤ elapsedMs then 0
    else
      reached plan engine (elapsedMs + (plan.reply engine calls [] c).delayMs)
        (calls ++ [plan.unitFor c.input]) cs + 1

def resultOf? (plan : Plan) (c : TestCase) : CallEnd → Option CaseResult
  | .answered output =>
    some (.ofOutput c (classify output c.expected plan.memoryLimit plan.signatures) output
      plan.memoryLimit)
  | .failed e => some (.unexecuted c (CaseResult.errorMessage e))
  | .crashed => none

def results (plan : Plan) (engine : Engine) (calls : List ExecutionUnit) :
    List TestCase → List CaseResult
  | [] => []
  | c :: cs =>
    (plan.resultOf? c (plan.reply engine calls [] c).result).toList ++
      results plan engine (calls ++ [plan.unitFor c.input]) cs

def detailOf? (c : TestCase) : CallEnd → Option String
  | .failed e => some ("test case " ++ c.id ++ ": " ++ e.message)
  | .answered _ | .crashed => none

def details (plan : Plan) (engine : Engine) (calls : List ExecutionUnit) :
    List TestCase → List String
  | [] => []
  | c :: cs =>
    (detailOf? c (plan.reply engine calls [] c).result).toList ++
      details plan engine (calls ++ [plan.unitFor c.input]) cs

/-- All cases are run exactly if the budget outlasts the calls before each of them. -/
theorem reached_eq_length_iff (plan : Plan) (engine : Engine) (elapsedMs : Nat)
    (calls : List ExecutionUnit) (cases : List TestCase) :
    plan.reached engine elapsedMs calls cases = cases.length ↔
      AtEach (fun before _ => elapsedMs + plan.durationMs engine calls before < plan.budgetMs.toNat)
        cases := by
  induction cases generalizing elapsedMs calls with
  | nil => simp [reached]
  | cons c cs ih =>
    rw [atEach_cons]
    simp only [durationMs, Nat.add_zero, ← Nat.add_assoc]
    rw [← ih, reached]
    split
    · simp only [List.length_cons]
      omega
    · simp only [List.length_cons]
      omega

theorem reached_le_length (plan : Plan) (engine : Engine) (elapsedMs : Nat)
    (calls : List ExecutionUnit) (cases : List TestCase) :
    plan.reached engine elapsedMs calls cases ≤ cases.length := by
  induction cases generalizing elapsedMs calls with
  | nil => exact Nat.le_refl _
  | cons c cs ih =>
    rw [reached]
    split
    · exact Nat.zero_le _
    · exact Nat.succ_le_succ (ih _ _)

end Plan

namespace Progress

theorem run_of_next?_none {plan : Plan} {p : Progress} (h : p.next? plan = none) (engine : Engine)
    (calls : List ExecutionUnit) : p.run plan engine calls = (some p.conclude, calls) := by
  rw [run]
  split
  · rfl
  · rename_i next
    rw [h] at next
    contradiction

theorem run_of_next?_some {plan : Plan} {p q : Progress} {c : TestCase}
    (h : p.next? plan = some (c, q)) (engine : Engine) (calls : List ExecutionUnit) :
    p.run plan engine calls =
      let u := plan.unitFor c.input
      let q := q.afterDelay (engine calls u).delayMs
      match (engine calls u).result with
      | .crashed => (none, calls ++ [u])
      | .answered output => (q.answered plan c output).run plan engine (calls ++ [u])
      | .failed e => (q.failed c e).run plan engine (calls ++ [u]) := by
  rw [run]
  split
  · rename_i next
    rw [h] at next
    contradiction
  · rename_i d r next
    rw [h] at next
    obtain ⟨rfl, rfl⟩ := Prod.mk.inj (Option.some.inj next)
    rfl

/-- How an evaluation ends that gets as far as some number of its pending cases. -/
def conclusion (plan : Plan) (engine : Engine) (calls : List ExecutionUnit) (p : Progress)
    (count : Nat) : Evaluation :=
  let results := p.results ++ plan.results engine calls (p.pending.take count) ++
    (p.pending.drop count).map (CaseResult.unexecuted · CaseResult.notEvaluatedMessage)
  ⟨results, Verdict.summarize results,
    p.diagnostics ++ plan.details engine calls (p.pending.take count)⟩

/-- The calls of an evaluation are those for the cases that the budget leaves time for, and the
other cases have results without a call. -/
theorem run_eq {engine : Engine} (calm : engine.NeverCrashes) (plan : Plan) (p : Progress)
    (calls : List ExecutionUnit) :
    p.run plan engine calls =
      let count := plan.reached engine p.elapsedMs calls p.pending
      (some (p.conclusion plan engine calls count), calls ++ plan.units (p.pending.take count)) := by
  obtain ⟨pending, elapsedMs, results, diagnostics⟩ := p
  induction pending generalizing elapsedMs results diagnostics calls with
  | nil =>
    rw [run_of_next?_none rfl]
    simp [conclude, conclusion, Plan.reached, Plan.units, Plan.results, Plan.details]
  | cons c cs ih =>
    by_cases late : plan.budgetMs.toNat ≤ elapsedMs
    · rw [run_of_next?_none (by simp [next?, exhausted, late])]
      simp [conclude, conclusion, Plan.reached, late, Plan.units, Plan.results, Plan.details]
    · have next : next? plan ⟨c :: cs, elapsedMs, results, diagnostics⟩ =
          some (c, ⟨cs, elapsedMs, results, diagnostics⟩) := by simp [next?, exhausted, late]
      rw [run_of_next?_some next]
      have ended := calm calls (plan.unitFor c.input)
      cases result : (engine calls (plan.unitFor c.input)).result with
      | crashed => exact absurd result ended
      | answered output =>
        simp only [answered, afterDelay, ih]
        simp [conclusion, Plan.reached, late, Plan.results, Plan.resultOf?, Plan.details,
          Plan.detailOf?, result]
      | failed e =>
        simp only [failed, afterDelay, ih]
        simp [conclusion, Plan.reached, late, Plan.results, Plan.resultOf?, Plan.details,
          Plan.detailOf?, result]

end Progress

namespace Plan

/-- A case, run after some others, is answered in a way that passes it. -/
def Answers (plan : Plan) (engine : Engine) (problem : Problem) (calls : List ExecutionUnit)
    (before : List TestCase) (c : TestCase) : Prop :=
  ∃ output, (plan.reply engine calls before c).result = .answered output ∧
    output.Passes problem c.expected

/-- The call for a case starts within the budget, and passes the case. -/
structure Passes (plan : Plan) (engine : Engine) (problem : Problem) (calls : List ExecutionUnit)
    (before : List TestCase) (c : TestCase) : Prop where
  inTime : plan.durationMs engine calls before < plan.budgetMs.toNat
  answers : plan.Answers engine problem calls before c

variable {plan : Plan} {problem : Problem}

theorem answers_cons (engine : Engine) (calls : List ExecutionUnit) (b : TestCase)
    (before : List TestCase) :
    plan.Answers engine problem calls (b :: before) =
      plan.Answers engine problem (calls ++ [plan.unitFor b.input]) before := by
  funext c
  simp only [Answers, reply_cons]

theorem resultOf?_passed_iff (sound : plan.signatures.NeverPass)
    (fits : problem.Fits) (limit : plan.memoryLimit = problem.memoryLimit)
    (c : TestCase) {result : CallEnd} (ended : result ≠ .crashed) :
    (∀ r, plan.resultOf? c result = some r → r.status.rank = 0) ↔
      ∃ output, result = .answered output ∧ output.Passes problem c.expected := by
  cases result with
  | crashed => exact absurd rfl ended
  | failed e => simp [resultOf?, CaseResult.unexecuted, Status.rank]
  | answered output =>
    have passed := classify_rank_eq_zero_iff sound fits output c.expected
    simp [resultOf?, CaseResult.ofOutput, limit, passed]

theorem length_results {engine : Engine} (calm : engine.NeverCrashes)
    (calls : List ExecutionUnit) (cases : List TestCase) :
    (plan.results engine calls cases).length = cases.length := by
  induction cases generalizing calls with
  | nil => rfl
  | cons c cs ih =>
    have ended := calm calls (plan.unitFor c.input)
    cases result : (engine calls (plan.unitFor c.input)).result with
    | crashed => exact absurd result ended
    | answered output => simp [results, resultOf?, result, ih]
    | failed e => simp [results, resultOf?, result, ih]

/-- The cases that are run have all passed exactly if each was answered so. -/
theorem results_passed_iff {engine : Engine} (calm : engine.NeverCrashes)
    (sound : plan.signatures.NeverPass) (fits : problem.Fits)
    (limit : plan.memoryLimit = problem.memoryLimit) (calls : List ExecutionUnit)
    (cases : List TestCase) :
    (∀ r ∈ plan.results engine calls cases, r.status.rank = 0) ↔
      AtEach (plan.Answers engine problem calls) cases := by
  induction cases generalizing calls with
  | nil => simp [results]
  | cons c cs ih =>
    have first := resultOf?_passed_iff sound fits limit c (calm calls (plan.unitFor c.input))
    simp only [atEach_cons, answers_cons, ← ih]
    simp only [results, List.mem_append, Option.mem_toList, or_imp, forall_and,
      reply_nil, first, Answers]

end Plan

theorem TestCase.ordered_ne_nil_iff (cases : List TestCase) : ordered cases ≠ [] ↔ cases ≠ [] := by
  have length := (List.mergeSort_perm cases fun a b => Before a b).length_eq
  rw [← List.length_pos_iff, ← List.length_pos_iff, ordered, length]

/-- Cases that all pass are all run. -/
theorem Plan.reached_of_passes {plan : Plan} {engine : Engine} {problem : Problem}
    {calls : List ExecutionUnit} {cases : List TestCase}
    (each : AtEach (plan.Passes engine problem calls) cases) :
    plan.reached engine 0 calls cases = cases.length := by
  rw [reached_eq_length_iff]
  intro before c after split
  rw [Nat.zero_add]
  exact (each before c after split).inTime

/-- An evaluation accepts exactly if there are cases and each of them is run in time and passes. -/
theorem Progress.start_accepted_iff {engine : Engine} (calm : engine.NeverCrashes) (plan : Plan)
    (sound : plan.signatures.NeverPass) {problem : Problem}
    (fits : problem.Fits) (limit : plan.memoryLimit = problem.memoryLimit)
    (calls : List ExecutionUnit) (cases : List TestCase) :
    (conclusion plan engine calls (start cases)
        (plan.reached engine 0 calls (TestCase.ordered cases))).status = .accepted ↔
      cases ≠ [] ∧ AtEach (plan.Passes engine problem calls) (TestCase.ordered cases) := by
  have nonempty := TestCase.ordered_ne_nil_iff cases
  generalize sorted : TestCase.ordered cases = ordered at nonempty
  have bound := plan.reached_le_length engine 0 calls ordered
  have passes : AtEach (plan.Passes engine problem calls) ordered ↔
      plan.reached engine 0 calls ordered = ordered.length ∧
        AtEach (plan.Answers engine problem calls) ordered := by
    rw [Plan.reached_eq_length_iff, ← atEach_and]
    simp only [Nat.zero_add]
    constructor
    · exact fun each b c a h => ⟨(each b c a h).inTime, (each b c a h).answers⟩
    · exact fun each b c a h => ⟨(each b c a h).1, (each b c a h).2⟩
  rw [Evaluation.status, Verdict.aggregate_eq_accepted_iff, passes, ← nonempty]
  generalize plan.reached engine 0 calls ordered = count at bound
  simp only [conclusion, start, sorted, List.nil_append]
  by_cases whole : count = ordered.length
  · have listed := Plan.results_passed_iff calm sound fits limit calls ordered
    have some_iff : plan.results engine calls ordered ≠ [] ↔ ordered ≠ [] := by
      rw [← List.length_pos_iff, ← List.length_pos_iff, Plan.length_results calm]
    simp only [whole, List.take_length, List.drop_length, List.map_nil, List.append_nil, listed,
      some_iff, true_and]
  · have left : 0 < (ordered.drop count).length := by
      rw [List.length_drop]
      omega
    obtain ⟨c, member⟩ := List.exists_mem_of_length_pos left
    constructor
    · rintro ⟨_, all⟩
      have := all (.unexecuted c CaseResult.notEvaluatedMessage)
        (List.mem_append_right _ (List.mem_map_of_mem member))
      exact absurd this (by simp [CaseResult.unexecuted, Status.rank])
    · rintro ⟨_, every, _⟩
      exact absurd every whole

end Grader

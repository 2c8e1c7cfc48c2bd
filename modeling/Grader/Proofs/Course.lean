import Grader.Proofs.Evaluation
import Mathlib.Data.List.Basic

/-! An evaluation, case by case. The cases that are run are the first ones, as many as start before
the budget is used up. Each of them has the result of its own call, however the others end, and each
case after them the note that it was not evaluated. -/
namespace Grader

namespace Plan

/-- So many of the first cases start within the budget, and the next one would start too late. -/
structure Reaches (plan : Plan) (engine : Engine) (calls : List ExecutionUnit)
    (cases : List TestCase) (count : Nat) : Prop where
  bounded : count ≤ cases.length
  inTime : ∀ i < count, plan.durationMs engine calls (cases.take i) < plan.budgetMs.toNat
  late : count < cases.length →
    plan.budgetMs.toNat ≤ plan.durationMs engine calls (cases.take count)

variable {plan : Plan} {engine : Engine}

theorem Reaches.unique {calls : List ExecutionUnit} {cases : List TestCase} {m n : Nat}
    (first : plan.Reaches engine calls cases m) (second : plan.Reaches engine calls cases n) :
    m = n := by
  have no {m n : Nat} (first : plan.Reaches engine calls cases m)
      (second : plan.Reaches engine calls cases n) (less : m < n) : False := by
    have inTime := second.inTime m less
    have late := first.late (Nat.lt_of_lt_of_le less second.bounded)
    omega
  rcases Nat.lt_trichotomy m n with less | same | more
  · exact (no first second less).elim
  · exact same
  · exact (no second first more).elim

/-- What is reached starts within what is left of the budget. -/
theorem reached_inTime (elapsedMs : Nat) (calls : List ExecutionUnit) (cases : List TestCase) :
    ∀ i < plan.reached engine elapsedMs calls cases,
      elapsedMs + plan.durationMs engine calls (cases.take i) < plan.budgetMs.toNat := by
  induction cases generalizing elapsedMs calls with
  | nil =>
    intro i less
    exact absurd less (Nat.not_lt_zero i)
  | cons c cs ih =>
    intro i less
    rw [reached] at less
    by_cases late : plan.budgetMs.toNat ≤ elapsedMs
    · rw [if_pos late] at less
      exact absurd less (Nat.not_lt_zero i)
    · rw [if_neg late] at less
      cases i with
      | zero =>
        rw [List.take_zero, durationMs]
        omega
      | succ i =>
        have later := ih _ _ i (Nat.lt_of_succ_lt_succ less)
        rw [List.take_succ_cons, durationMs]
        omega

theorem reached_late (elapsedMs : Nat) (calls : List ExecutionUnit) (cases : List TestCase)
    (more : plan.reached engine elapsedMs calls cases < cases.length) :
    plan.budgetMs.toNat ≤ elapsedMs +
      plan.durationMs engine calls (cases.take (plan.reached engine elapsedMs calls cases)) := by
  induction cases generalizing elapsedMs calls with
  | nil => exact absurd more (Nat.not_lt_zero _)
  | cons c cs ih =>
    rw [reached] at more ⊢
    by_cases late : plan.budgetMs.toNat ≤ elapsedMs
    · rw [if_pos late, List.take_zero, durationMs]
      exact late
    · rw [if_neg late] at more ⊢
      have later := ih _ _ (Nat.lt_of_succ_lt_succ more)
      rw [List.take_succ_cons, durationMs]
      omega

theorem reached_reaches (calls : List ExecutionUnit) (cases : List TestCase) :
    plan.Reaches engine calls cases (plan.reached engine 0 calls cases) where
  bounded := plan.reached_le_length engine 0 calls cases
  inTime := by
    intro i less
    have start := reached_inTime 0 calls cases i less
    omega
  late := by
    intro more
    have start := reached_late 0 calls cases more
    omega

theorem getElem?_results (calm : engine.NeverCrashes) (calls : List ExecutionUnit)
    (cases : List TestCase) (i : Nat) :
    (plan.results engine calls cases)[i]? = cases[i]?.bind fun c =>
      plan.resultOf? c (plan.reply engine calls (cases.take i) c).result := by
  induction cases generalizing calls i with
  | nil => rfl
  | cons c cs ih =>
    have ended := calm calls (plan.unitFor c.input)
    obtain ⟨r, first⟩ :
        ∃ r, plan.resultOf? c (engine calls (plan.unitFor c.input)).result = some r := by
      cases result : (engine calls (plan.unitFor c.input)).result with
      | crashed => exact absurd result ended
      | answered output => exact ⟨_, rfl⟩
      | failed e => exact ⟨_, rfl⟩
    cases i with
    | zero => simp [results, first]
    | succ i => simp [results, first, ih]

theorem details_eq (calls : List ExecutionUnit) (cases : List TestCase) :
    plan.details engine calls cases = (List.range cases.length).filterMap fun i =>
      cases[i]?.bind fun c => detailOf? c (plan.reply engine calls (cases.take i) c).result := by
  induction cases generalizing calls with
  | nil => rfl
  | cons c cs ih =>
    rw [details, ih, List.length_cons, List.range_succ_eq_map, List.filterMap_cons,
      List.filterMap_map]
    cases first : detailOf? c (engine calls (plan.unitFor c.input)).result with
    | none => simp [first]
    | some detail => simp [first]

theorem resultOf?_owner {c : TestCase} {result : CallEnd} {r : CaseResult}
    (found : plan.resultOf? c result = some r) : r.caseId = c.id ∧ r.sequence = c.sequence := by
  cases result with
  | answered output =>
    obtain rfl := Option.some.inj found
    exact ⟨rfl, rfl⟩
  | failed e =>
    obtain rfl := Option.some.inj found
    exact ⟨rfl, rfl⟩
  | crashed => contradiction

end Plan

/-- What an evaluation tells of some cases in their order, of which so many are run. -/
structure Evaluation.Records (e : Evaluation) (plan : Plan) (engine : Engine)
    (calls : List ExecutionUnit) (cases : List TestCase) (count : Nat) : Prop where
  length : e.results.length = cases.length
  owner : ∀ (i : Nat) c r, cases[i]? = some c → e.results[i]? = some r →
    r.caseId = c.id ∧ r.sequence = c.sequence
  ran : ∀ (i : Nat) c r, cases[i]? = some c → e.results[i]? = some r → i < count →
    plan.resultOf? c (plan.reply engine calls (cases.take i) c).result = some r
  left : ∀ (i : Nat) r, e.results[i]? = some r → count ≤ i →
    r.status = .internalError ∧ r.error = some CaseResult.notEvaluatedMessage ∧
      r.executionTimeMs = 0 ∧ r.memoryUsedKb = 0
  tally : e.tally = Verdict.summarize e.results
  diagnostics : e.diagnostics = (List.range count).filterMap fun i =>
    cases[i]?.bind fun c => Plan.detailOf? c (plan.reply engine calls (cases.take i) c).result

namespace Progress

variable {plan : Plan} {engine : Engine} {calls : List ExecutionUnit} {ordered : List TestCase}
  {count : Nat}

/-- The result in a place is that of the case there, which was run or was not. -/
theorem getElem?_conclusion (calm : engine.NeverCrashes) (bounded : count ≤ ordered.length)
    (i : Nat) :
    (conclusion plan engine calls ⟨ordered, 0, [], []⟩ count).results[i]? =
      ordered[i]?.bind fun c =>
        if i < count then plan.resultOf? c (plan.reply engine calls (ordered.take i) c).result
        else some (.unexecuted c CaseResult.notEvaluatedMessage) := by
  have length : (plan.results engine calls (ordered.take count)).length = count := by
    rw [Plan.length_results calm, List.length_take]
    omega
  simp only [conclusion, List.nil_append]
  by_cases ran : i < count
  · rw [List.getElem?_append_left (by omega), Plan.getElem?_results calm,
      List.getElem?_take_of_lt ran, List.take_take, Nat.min_eq_left (Nat.le_of_lt ran)]
    simp only [if_pos ran]
  · have place : count + (i - count) = i := by omega
    rw [List.getElem?_append_right (by omega), length, List.getElem?_map, List.getElem?_drop, place]
    simp only [if_neg ran]
    cases ordered[i]? <;> rfl

theorem conclusion_records (calm : engine.NeverCrashes) (bounded : count ≤ ordered.length) :
    (conclusion plan engine calls ⟨ordered, 0, [], []⟩ count).Records plan engine calls ordered
      count where
  length := by
    simp only [conclusion, List.nil_append, List.length_append, Plan.length_results calm,
      List.length_map, List.length_take, List.length_drop]
    omega
  owner := by
    intro i c r listed found
    rw [getElem?_conclusion calm bounded, listed, Option.bind_some] at found
    by_cases ran : i < count
    · rw [if_pos ran] at found
      exact Plan.resultOf?_owner found
    · rw [if_neg ran] at found
      obtain rfl := Option.some.inj found
      exact ⟨rfl, rfl⟩
  ran := by
    intro i c r listed found ran
    rw [getElem?_conclusion calm bounded, listed, Option.bind_some, if_pos ran] at found
    exact found
  left := by
    intro i r found late
    rw [getElem?_conclusion calm bounded] at found
    obtain ⟨c, _, found⟩ := Option.bind_eq_some_iff.mp found
    rw [if_neg (by omega)] at found
    obtain rfl := Option.some.inj found
    exact ⟨rfl, rfl, rfl, rfl⟩
  tally := rfl
  diagnostics := by
    have details : plan.details engine calls (ordered.take count) = _ := Plan.details_eq calls _
    rw [List.length_take, Nat.min_eq_left bounded] at details
    refine details.trans (List.filterMap_congr fun i member => ?_)
    have ran := List.mem_range.mp member
    rw [List.getElem?_take_of_lt ran, List.take_take, Nat.min_eq_left (Nat.le_of_lt ran)]

/-- The next case is the first one that is pending, and nothing else changes with it. -/
theorem next?_eq_some {plan : Plan} {p q : Progress} {c : TestCase}
    (next : p.next? plan = some (c, q)) : p = { q with pending := c :: q.pending } := by
  unfold next? at next
  split at next
  · contradiction
  · rename_i d ds pending
    split at next
    · contradiction
    · obtain ⟨rfl, rfl⟩ := Prod.mk.inj (Option.some.inj next)
      obtain ⟨_, _, _, _⟩ := p
      simpa using pending

/-- Whatever the engine answers, an evaluation that comes to its end has one result for each case
that was pending, in their order. -/
theorem caseIds_of_run {plan : Plan} {engine : Engine} {p : Progress} {calls : List ExecutionUnit}
    {e : Evaluation} (ran : (p.run plan engine calls).1 = some e) :
    e.results.map (·.caseId) = p.results.map (·.caseId) ++ p.pending.map (·.id) := by
  induction p, calls using Progress.run.induct plan engine with
  | case1 p calls ends =>
    rw [run_of_next?_none ends] at ran
    obtain rfl := Option.some.inj ran
    simp only [conclude, List.map_append, List.map_map]
    rfl
  | case2 p calls c q next =>
    rename_i crashed
    have result : (engine calls (plan.unitFor c.input)).result = .crashed := crashed
    rw [run_of_next?_some next] at ran
    simp only [result] at ran
    contradiction
  | case3 p calls c q next =>
    rename_i output answered ih
    have result : (engine calls (plan.unitFor c.input)).result = .answered output := answered
    rw [run_of_next?_some next] at ran
    simp only [result] at ran
    rw [ih ran, next?_eq_some next]
    simp only [Progress.answered, List.map_append, List.append_assoc]
    rfl
  | case4 p calls c q next =>
    rename_i fault failed ih
    have result : (engine calls (plan.unitFor c.input)).result = .failed fault := failed
    rw [run_of_next?_some next] at ran
    simp only [result] at ran
    rw [ih ran, next?_eq_some next]
    simp only [Progress.failed, List.map_append, List.append_assoc]
    rfl

end Progress

namespace Evaluator

theorem evaluate_of_fits (v : Evaluator) (s : Submission) {p : Problem} (fits : p.Fits)
    (cases : List TestCase) (timeLimitMs : UInt64) (calls : List ExecutionUnit) :
    v.evaluate s p cases timeLimitMs calls =
      (Progress.start cases).run (v.planFor s p cases timeLimitMs) v.engine calls := by
  have limit := Problem.memoryLimit_ne_overflow fits
  unfold evaluate
  split
  · contradiction
  · rfl
  · rfl

theorem evaluate_of_not_fits (v : Evaluator) (s : Submission) {p : Problem} (beyond : ¬p.Fits)
    (cases : List TestCase) (timeLimitMs : UInt64) (calls : List ExecutionUnit) :
    v.evaluate s p cases timeLimitMs calls = (none, calls) := by
  rw [evaluate, Problem.memoryLimit_of_not_fits beyond]

theorem caseIds_of_evaluate {v : Evaluator} {s : Submission} {p : Problem} {cases : List TestCase}
    {timeLimitMs : UInt64} {calls : List ExecutionUnit} {e : Evaluation}
    (ran : (v.evaluate s p cases timeLimitMs calls).1 = some e) :
    e.results.map (·.caseId) = (TestCase.ordered cases).map (·.id) := by
  by_cases fits : p.Fits
  · rw [evaluate_of_fits v s fits] at ran
    exact Progress.caseIds_of_run ran
  · rw [evaluate_of_not_fits v s fits] at ran
    contradiction

theorem evaluate_eq {v : Evaluator} (calm : v.engine.NeverCrashes) (s : Submission) {p : Problem}
    (fits : p.Fits) {cases : List TestCase} {timeLimitMs : UInt64} {calls : List ExecutionUnit}
    {plan : Plan} (planned : v.planFor s p cases timeLimitMs = plan) {count : Nat}
    (reached : plan.reached v.engine 0 calls (TestCase.ordered cases) = count) :
    v.evaluate s p cases timeLimitMs calls =
      (some (Progress.conclusion plan v.engine calls ⟨TestCase.ordered cases, 0, [], []⟩ count),
        calls ++ plan.units ((TestCase.ordered cases).take count)) := by
  rw [evaluate_of_fits v s fits, planned, ← reached]
  exact Progress.run_eq calm plan (.start cases) calls

/-- A submission is run on the first cases, as many as start within the budget, with one call for
each and no other, and every case has its result. This goes for all problems whose memory limit is
a number of kilobytes in 64 bits; for any other the evaluation breaks down before its first call. -/
theorem evaluate_records (v : Evaluator) (calm : v.engine.NeverCrashes) (s : Submission)
    (p : Problem) (cases : List TestCase) (timeLimitMs : UInt64) (calls : List ExecutionUnit) :
    let plan := v.planFor s p cases timeLimitMs
    let ordered := TestCase.ordered cases
    (p.Fits → ∃ count e, plan.Reaches v.engine calls ordered count ∧
      v.evaluate s p cases timeLimitMs calls =
        (some e, calls ++ (ordered.take count).map fun c => plan.unitFor c.input) ∧
      e.Records plan v.engine calls ordered count) ∧
    (¬p.Fits → v.evaluate s p cases timeLimitMs calls = (none, calls)) := by
  intro plan ordered
  constructor
  · intro fits
    have reaches : plan.Reaches v.engine calls ordered _ := Plan.reached_reaches calls ordered
    exact ⟨_, _, reaches, evaluate_eq calm s fits rfl rfl,
      Progress.conclusion_records calm reaches.bounded⟩
  · intro beyond
    exact evaluate_of_not_fits v s beyond cases timeLimitMs calls

end Evaluator

namespace Hasty

def engine : Engine := fun _ u =>
  ⟨300, if u.input = "2" then .failed (.unavailable u.language "refused")
    else .answered ⟨u.input, 1, 512, .success⟩⟩

def evaluator : Evaluator := ⟨engine, .default, 100, 60000⟩

def submission : Submission := .new (.ofNat 7) "ada" "echo" .python "print(input())" default

def problem : Problem := ⟨"echo", "Echo", 100, 1, none, .const none⟩

/-- More memory than 64 bits count in kilobytes. -/
def boundless : Problem := { problem with memoryLimitMb := 18014398509481984 }

def cases : List TestCase :=
  [⟨"a", "echo", "1", "1", true, 0, 1⟩, ⟨"b", "echo", "2", "2", false, 0, 2⟩,
    ⟨"c", "echo", "3", "3", false, 0, 3⟩]

def plan : Plan := evaluator.planFor submission problem cases 100

theorem engine_calm : engine.NeverCrashes := by
  intro calls u crashed
  by_cases second : u.input = "2" <;> simp [engine, second] at crashed

theorem cases_ordered : TestCase.ordered cases = cases := List.mergeSort_of_pairwise (by decide)

theorem reaches_two : plan.Reaches engine [] cases 2 where
  bounded := by decide
  inTime := by decide
  late := by decide

theorem evaluate_two_of_three :
    (∃ e, evaluator.evaluate submission problem cases 100 [] =
      (some e, [plan.unitFor "1", plan.unitFor "2"]) ∧ e.Records plan engine [] cases 2) ∧
    evaluator.evaluate submission boundless cases 100 [] = (none, []) := by
  have runs (p : Problem) := evaluator.evaluate_records engine_calm submission p cases 100 []
  obtain ⟨count, e, reaches, evaluated, records⟩ := (runs problem).1 (by decide)
  rw [cases_ordered] at reaches evaluated records
  obtain rfl := reaches.unique reaches_two
  exact ⟨⟨e, evaluated, records⟩, (runs boundless).2 (by decide)⟩

end Hasty

end Grader

import Grader.Engine.Http
import Grader.Proofs.Course

/-! The budget of a submission and the time that its calls take. The budget leaves time for all cases
if each call keeps its deadline, and whatever the calls do, a run ends with the call that it has
begun when the budget is used up. -/
namespace Grader

theorem toNat_min (a b : UInt64) : (min a b).toNat = min a.toNat b.toNat := by
  have least : min a b = if a ≤ b then a else b := rfl
  rw [least]
  by_cases less : a ≤ b
  · have le := UInt64.le_iff_toNat_le.mp less
    rw [if_pos less]
    omega
  · have gt : ¬a.toNat ≤ b.toNat := fun le => less (UInt64.le_iff_toNat_le.mpr le)
    rw [if_neg less]
    omega

namespace Budget

theorem toNat_saturate (n : Nat) : (saturate n).toNat = min n (UInt64.size - 1) := by
  have size : UInt64.size = 18446744073709551616 := rfl
  unfold saturate
  split
  · rw [UInt64.toNat_ofNat_of_lt' (by omega)]
    omega
  · rw [UInt64.toNat_ofNat_of_lt' (by omega)]
    omega

/-- The budget is exact: what does not fit in 64 bits is more than the maximum. -/
theorem toNat_ofCases (count : Nat) (timeLimitMs marginMs maxMs : UInt64) :
    (ofCases count timeLimitMs marginMs maxMs).toNat =
      min (count * (timeLimitMs.toNat + marginMs.toNat)) maxMs.toNat := by
  have bound : maxMs.toNat ≤ UInt64.size - 1 := Nat.le_sub_one_of_lt maxMs.toNat_lt
  simp only [ofCases, toNat_min, toNat_saturate]
  generalize timeLimitMs.toNat + marginMs.toNat = perCase
  generalize UInt64.size - 1 = greatest at bound
  rw [Nat.mul_comm _ count]
  by_cases fits : perCase ≤ greatest
  · rw [Nat.min_eq_left fits]
    omega
  · have more : greatest ≤ perCase := Nat.le_of_not_le fits
    rw [Nat.min_eq_right more]
    cases count with
    | zero => simp
    | succ n =>
      have first : greatest ≤ (n + 1) * greatest := Nat.le_mul_of_pos_left _ n.succ_pos
      have second : perCase ≤ (n + 1) * perCase := Nat.le_mul_of_pos_left _ n.succ_pos
      omega

end Budget

namespace Engine

def durationMs (engine : Engine) (calls : List ExecutionUnit) : List ExecutionUnit → Nat
  | [] => 0
  | u :: us => (engine calls u).delayMs + durationMs engine (calls ++ [u]) us

def longestMs (engine : Engine) (calls : List ExecutionUnit) : List ExecutionUnit → Nat
  | [] => 0
  | u :: us => max (engine calls u).delayMs (longestMs engine (calls ++ [u]) us)

/-- No call for a unit of this time limit takes longer than its deadline. -/
def Punctual (engine : Engine) (timeLimitMs : UInt64) (deadlineMs : Nat) : Prop :=
  ∀ calls u, u.timeLimitMs = timeLimitMs → (engine calls u).delayMs ≤ deadlineMs

/-- Each unit is given to the engine before the budget is used up. -/
def StartsWithin (engine : Engine) (budgetMs elapsedMs : Nat) (calls : List ExecutionUnit) :
    List ExecutionUnit → Prop
  | [] => True
  | u :: us => elapsedMs < budgetMs ∧
    StartsWithin engine budgetMs (elapsedMs + (engine calls u).delayMs) (calls ++ [u]) us

variable {engine : Engine}

/-- Only the last call may go beyond the budget. -/
theorem StartsWithin.durationMs_lt {budgetMs elapsedMs : Nat} {calls us : List ExecutionUnit}
    (starts : engine.StartsWithin budgetMs elapsedMs calls us) (some : us ≠ []) :
    elapsedMs + engine.durationMs calls us < budgetMs + engine.longestMs calls us := by
  induction us generalizing elapsedMs calls with
  | nil => contradiction
  | cons u us ih =>
    obtain ⟨inTime, later⟩ := starts
    simp only [durationMs, longestMs]
    by_cases last : us = []
    · rw [last, durationMs, longestMs]
      omega
    · have rest := ih later last
      omega

end Engine

namespace Plan

variable {plan : Plan} {engine : Engine}

theorem durationMs_le {deadlineMs : Nat} (punctual : engine.Punctual plan.timeLimitMs deadlineMs)
    (calls : List ExecutionUnit) (cases : List TestCase) :
    plan.durationMs engine calls cases ≤ cases.length * deadlineMs := by
  induction cases generalizing calls with
  | nil => exact Nat.zero_le _
  | cons c cs ih =>
    have first := punctual calls (plan.unitFor c.input) rfl
    have rest := ih (calls ++ [plan.unitFor c.input])
    rw [durationMs, reply_nil, List.length_cons, Nat.succ_mul]
    omega

theorem reached_of_punctual {deadlineMs : Nat}
    (punctual : engine.Punctual plan.timeLimitMs deadlineMs) (positive : 0 < deadlineMs)
    (calls : List ExecutionUnit) {cases : List TestCase}
    (budget : plan.budgetMs.toNat = cases.length * deadlineMs) :
    plan.reached engine 0 calls cases = cases.length := by
  rw [reached_eq_length_iff]
  intro before c after split
  have duration := durationMs_le punctual calls before
  have length : cases.length = before.length + (after.length + 1) := by
    rw [split, List.length_append, List.length_cons]
  have tail : 0 < (after.length + 1) * deadlineMs := Nat.mul_pos (Nat.succ_pos _) positive
  rw [budget, length, Nat.add_mul]
  omega

end Plan

/-- Every call of a run starts within the budget, whether the run comes to its end or not. -/
theorem Progress.run_startsWithin (plan : Plan) (engine : Engine) (p : Progress)
    (calls : List ExecutionUnit) :
    ∃ made, (p.run plan engine calls).2 = calls ++ made ∧
      engine.StartsWithin plan.budgetMs.toNat p.elapsedMs calls made := by
  have inTime {p q : Progress} {c : TestCase} (next : p.next? plan = some (c, q)) :
      p.elapsedMs < plan.budgetMs.toNat ∧ q.elapsedMs = p.elapsedMs := by
    unfold next? at next
    split at next
    · contradiction
    · by_cases late : plan.budgetMs.toNat ≤ p.elapsedMs
      · simp [exhausted, late] at next
      · obtain ⟨-, rfl⟩ : _ ∧ _ := by simpa [exhausted, late] using next
        exact ⟨Nat.not_le.mp late, rfl⟩
  induction p, calls using Progress.run.induct plan engine with
  | case1 p calls ends =>
    rw [run_of_next?_none ends]
    exact ⟨[], (List.append_nil _).symm, trivial⟩
  | case2 p calls c q next =>
    rename_i crashed
    have result : (engine calls (plan.unitFor c.input)).result = .crashed := crashed
    rw [run_of_next?_some next]
    simp only [result]
    exact ⟨[_], rfl, (inTime next).1, trivial⟩
  | case3 p calls c q next =>
    rename_i output answered ih
    have result : (engine calls (plan.unitFor c.input)).result = .answered output := answered
    obtain ⟨started, same⟩ := inTime next
    obtain ⟨made, ran, starts⟩ := ih
    rw [run_of_next?_some next]
    simp only [result]
    refine ⟨plan.unitFor c.input :: made, ?_, started, ?_⟩
    · exact ran.trans (List.append_assoc ..)
    · rw [← same]
      exact starts
  | case4 p calls c q next =>
    rename_i e failed ih
    have result : (engine calls (plan.unitFor c.input)).result = .failed e := failed
    obtain ⟨started, same⟩ := inTime next
    obtain ⟨made, ran, starts⟩ := ih
    rw [run_of_next?_some next]
    simp only [result]
    refine ⟨plan.unitFor c.input :: made, ?_, started, ?_⟩
    · exact ran.trans (List.append_assoc ..)
    · rw [← same]
      exact starts

theorem HttpEngine.callTimeout_le (e : HttpEngine) (timeLimitMs : UInt64) :
    e.callTimeout timeLimitMs ≤ timeLimitMs.toNat + e.marginMs.toNat := by
  rw [callTimeout, toNat_min]
  omega

theorem TestCase.length_ordered (cases : List TestCase) : (ordered cases).length = cases.length :=
  (List.mergeSort_perm cases fun a b => Before a b).length_eq

namespace Evaluator

theorem toNat_budgetMs (v : Evaluator) (s : Submission) (p : Problem) (cases : List TestCase)
    (timeLimitMs : UInt64) : (v.planFor s p cases timeLimitMs).budgetMs.toNat =
      min (cases.length * (timeLimitMs.toNat + v.marginMs.toNat)) v.maxBudgetMs.toNat :=
  Budget.toNat_ofCases ..

theorem evaluate_of_punctual {v : Evaluator} (calm : v.engine.NeverCrashes) {timeLimitMs : UInt64}
    (punctual : v.engine.Punctual timeLimitMs (timeLimitMs.toNat + v.marginMs.toNat))
    (positive : 0 < timeLimitMs.toNat + v.marginMs.toNat) {cases : List TestCase}
    (enough : cases.length * (timeLimitMs.toNat + v.marginMs.toNat) ≤ v.maxBudgetMs.toNat)
    (s : Submission) {p : Problem} (fits : p.Fits) (calls : List ExecutionUnit) :
    let plan := v.planFor s p cases timeLimitMs
    let ordered := TestCase.ordered cases
    ∃ e, v.evaluate s p cases timeLimitMs calls =
        (some e, calls ++ ordered.map fun c => plan.unitFor c.input) ∧
      e.Records plan v.engine calls ordered ordered.length := by
  have budget := v.toNat_budgetMs s p cases timeLimitMs
  rw [Nat.min_eq_left enough, ← TestCase.length_ordered] at budget
  have all := Plan.reached_of_punctual punctual positive calls budget
  have evaluated := evaluate_eq calm s fits rfl all
  rw [List.take_length] at evaluated
  exact ⟨_, evaluated, Progress.conclusion_records calm (Nat.le_refl _)⟩

/-- The budget is the exact sum of the deadlines up to the maximum. It leaves time for every case if
all calls keep their deadlines, as those of an engine behind HTTP do, and a run never goes beyond
the maximum by more than its longest call. A problem whose memory limit does not fit in 64 bits has
no run at all. -/
theorem budget_covers_deadlines (v : Evaluator) (timeLimitMs : UInt64) :
    let deadlineMs := timeLimitMs.toNat + v.marginMs.toNat
    (∀ count, (Budget.ofCases count timeLimitMs v.marginMs v.maxBudgetMs).toNat =
      min (count * deadlineMs) v.maxBudgetMs.toNat) ∧
    (∀ http : HttpEngine, http.marginMs = v.marginMs →
      http.callTimeout timeLimitMs ≤ deadlineMs) ∧
    (∀ s p cases calls, v.engine.NeverCrashes → v.engine.Punctual timeLimitMs deadlineMs →
      0 < deadlineMs → cases.length * deadlineMs ≤ v.maxBudgetMs.toNat →
      let plan := v.planFor s p cases timeLimitMs
      let ordered := TestCase.ordered cases
      (p.Fits → ∃ e, v.evaluate s p cases timeLimitMs calls =
          (some e, calls ++ ordered.map fun c => plan.unitFor c.input) ∧
        e.Records plan v.engine calls ordered ordered.length) ∧
      (¬p.Fits → v.evaluate s p cases timeLimitMs calls = (none, calls))) ∧
    (∀ s p cases calls, ∃ made, (v.evaluate s p cases timeLimitMs calls).2 = calls ++ made ∧
      (made ≠ [] →
        v.engine.durationMs calls made < v.maxBudgetMs.toNat + v.engine.longestMs calls made)) := by
  intro deadlineMs
  refine ⟨?_, ?_, ?_, ?_⟩
  · intro count
    exact Budget.toNat_ofCases count timeLimitMs v.marginMs v.maxBudgetMs
  · intro http margin
    have timeout := http.callTimeout_le timeLimitMs
    rwa [margin] at timeout
  · intro s p cases calls calm punctual positive enough
    constructor
    · intro fits
      exact evaluate_of_punctual calm punctual positive enough s fits calls
    · intro beyond
      exact evaluate_of_not_fits v s beyond cases timeLimitMs calls
  · intro s p cases calls
    by_cases fits : p.Fits
    · have budget := v.toNat_budgetMs s p cases timeLimitMs
      obtain ⟨made, ran, starts⟩ := Progress.run_startsWithin (v.planFor s p cases timeLimitMs)
        v.engine (.start cases) calls
      rw [evaluate_of_fits v s fits]
      refine ⟨made, ran, fun some => ?_⟩
      have last := starts.durationMs_lt some
      rw [budget, Progress.start] at last
      omega
    · rw [evaluate_of_not_fits v s fits]
      exact ⟨[], (List.append_nil _).symm, fun some => absurd rfl some⟩

end Evaluator

namespace OnTime

def engine : Engine := fun _ u => ⟨200, .answered ⟨u.input, 1, 512, .success⟩⟩

def evaluator : Evaluator := ⟨engine, .default, 100, 600⟩

def plan : Plan := evaluator.planFor Hasty.submission Hasty.problem Hasty.cases 100

theorem budget_covers_three :
    (∃ e, evaluator.evaluate Hasty.submission Hasty.problem Hasty.cases 100 [] =
      (some e, [plan.unitFor "1", plan.unitFor "2", plan.unitFor "3"]) ∧ e.diagnostics = []) ∧
    evaluator.evaluate Hasty.submission Hasty.boundless Hasty.cases 100 [] = (none, []) := by
  have calm : engine.NeverCrashes := fun _ _ => nofun
  have punctual : engine.Punctual 100 200 := fun _ _ _ => Nat.le_refl 200
  obtain ⟨-, -, covers, -⟩ := evaluator.budget_covers_deadlines 100
  have runs (p : Problem) := covers Hasty.submission p Hasty.cases [] calm punctual (by decide)
    (by decide)
  obtain ⟨e, evaluated, records⟩ := (runs Hasty.problem).1 (by decide)
  rw [Hasty.cases_ordered] at evaluated records
  exact ⟨⟨e, evaluated, records.diagnostics⟩, (runs Hasty.boundless).2 (by decide)⟩

end OnTime

end Grader

import Grader.Proofs.Evaluation
import Mathlib.Data.List.Forall2

/-! What a run tells of the expected outputs that are not shown. Two runs on cases that differ in
these alone make the same calls, and their results differ where a status does and nowhere else. -/
namespace Grader

namespace TestCase

/-- The case as its submitter may know it. -/
def withoutSecret (c : TestCase) : TestCase := if c.isSample then c else { c with expected := "" }

@[simp] theorem withoutSecret_id (c : TestCase) : c.withoutSecret.id = c.id := by
  unfold withoutSecret
  split <;> rfl

@[simp] theorem withoutSecret_input (c : TestCase) : c.withoutSecret.input = c.input := by
  unfold withoutSecret
  split <;> rfl

@[simp] theorem withoutSecret_sequence (c : TestCase) : c.withoutSecret.sequence = c.sequence := by
  unfold withoutSecret
  split <;> rfl

@[simp] theorem withoutSecret_isSample (c : TestCase) : c.withoutSecret.isSample = c.isSample := by
  unfold withoutSecret
  split <;> rfl

theorem withoutSecret_of_sample {c : TestCase} (sample : c.isSample = true) :
    c.withoutSecret = c := if_pos sample

theorem ordered_withoutSecret (cases : List TestCase) :
    (ordered cases).map withoutSecret = ordered (cases.map withoutSecret) := by
  refine List.map_mergeSort fun a _ b _ => decide_eq_decide.mpr ?_
  simp only [Before, withoutSecret_sequence, withoutSecret_id]

end TestCase

namespace CaseResult

open TestCase

@[simp] theorem explanation_withoutSecret (c : TestCase) (status : Status)
    (output : ExecutionOutput) (limit : MemoryLimit) :
    explanation c.withoutSecret status output limit = explanation c status output limit := by
  by_cases sample : c.isSample = true
  · rw [withoutSecret_of_sample sample]
  · cases status <;> simp [explanation, sample]

@[simp] theorem ofOutput_withoutSecret (c : TestCase) (status : Status) (output : ExecutionOutput)
    (limit : MemoryLimit) : ofOutput c.withoutSecret status output limit =
      ofOutput c status output limit := by
  simp only [ofOutput, withoutSecret_id, withoutSecret_sequence, explanation_withoutSecret]

@[simp] theorem unexecuted_withoutSecret (c : TestCase) (message : String) :
    unexecuted c.withoutSecret message = unexecuted c message := by
  simp only [unexecuted, withoutSecret_id, withoutSecret_sequence]

/-- The results are the same, or their statuses tell them apart. -/
def Told (r t : CaseResult) : Prop := r.status = t.status → r = t

theorem Told.refl (r : CaseResult) : r.Told r := fun _ => rfl

theorem told_ofOutput {c d : TestCase} (same : c.withoutSecret = d.withoutSecret)
    (first second : Status) (output : ExecutionOutput) (limit : MemoryLimit) :
    (ofOutput c first output limit).Told (ofOutput d second output limit) := by
  intro status
  obtain rfl : first = second := status
  rw [← ofOutput_withoutSecret c, same, ofOutput_withoutSecret]

theorem eq_of_told {first second : List CaseResult} (told : List.Forall₂ Told first second)
    (statuses : first.map (·.status) = second.map (·.status)) : first = second := by
  induction told with
  | nil => rfl
  | cons told _ ih =>
    obtain ⟨status, statuses⟩ := List.cons.inj statuses
    rw [told status, ih statuses]

theorem unexecuted_eq_of_same {cs ds : List TestCase}
    (same : cs.map withoutSecret = ds.map withoutSecret) (message : String) :
    cs.map (unexecuted · message) = ds.map (unexecuted · message) := by
  have mapped := congrArg (List.map (unexecuted · message)) same
  simpa only [List.map_map, Function.comp_def, unexecuted_withoutSecret] using mapped

end CaseResult

open CaseResult (Told)

/-- The evaluations are the same as far as the statuses of their cases are. -/
structure Evaluation.Agrees (e f : Evaluation) : Prop where
  results : List.Forall₂ Told e.results f.results
  tally : e.tally = Verdict.summarize e.results ∧ f.tally = Verdict.summarize f.results
  diagnostics : e.diagnostics = f.diagnostics

theorem Evaluation.Agrees.eq {e f : Evaluation} (agrees : e.Agrees f)
    (statuses : e.results.map (·.status) = f.results.map (·.status)) : e = f := by
  have results := CaseResult.eq_of_told agrees.results statuses
  obtain ⟨first, second⟩ := agrees.tally
  obtain ⟨_, _, _⟩ := e
  obtain ⟨_, _, _⟩ := f
  obtain rfl := results
  obtain rfl := first.trans second.symm
  obtain rfl := agrees.diagnostics
  rfl

theorem isSome_of_rel {r : α → β → Prop} {a? : Option α} {b? : Option β}
    (related : Option.Rel r a? b?) : a?.isSome = b?.isSome := by
  cases related <;> rfl

namespace Progress

/-- Two runs have come equally far, on cases that differ in what is not shown. -/
structure Agrees (p q : Progress) : Prop where
  pending : p.pending.map TestCase.withoutSecret = q.pending.map TestCase.withoutSecret
  elapsedMs : p.elapsedMs = q.elapsedMs
  results : List.Forall₂ Told p.results q.results
  diagnostics : p.diagnostics = q.diagnostics

variable {p q : Progress} {c d : TestCase}

theorem agrees_start {cases others : List TestCase}
    (same : cases.map TestCase.withoutSecret = others.map TestCase.withoutSecret) :
    (start cases).Agrees (start others) where
  pending := by simp only [start, TestCase.ordered_withoutSecret, same]
  elapsedMs := rfl
  results := .nil
  diagnostics := rfl

namespace Agrees

theorem conclude (agrees : p.Agrees q) : p.conclude.Agrees q.conclude where
  results := by
    refine List.rel_append agrees.results ?_
    rw [CaseResult.unexecuted_eq_of_same agrees.pending]
    exact List.forall₂_same.mpr fun r _ => .refl r
  tally := ⟨rfl, rfl⟩
  diagnostics := agrees.diagnostics

theorem next? (agrees : p.Agrees q) (plan : Plan) :
    p.next? plan = none ∧ q.next? plan = none ∨
      ∃ c d p' q', p.next? plan = some (c, p') ∧ q.next? plan = some (d, q') ∧
        c.withoutSecret = d.withoutSecret ∧ p'.Agrees q' := by
  obtain ⟨pending, elapsedMs, results, diagnostics⟩ := p
  obtain ⟨others, _, _, _⟩ := q
  obtain ⟨same, rfl, told, rfl⟩ := agrees
  cases pending with
  | nil =>
    obtain rfl := List.map_eq_nil_iff.mp same.symm
    exact .inl ⟨rfl, rfl⟩
  | cons c cs =>
    obtain ⟨d, ds, rfl, first, rest⟩ := List.map_eq_cons_iff.mp same.symm
    by_cases late : plan.budgetMs.toNat ≤ elapsedMs
    · left
      simp [Progress.next?, exhausted, late]
    · right
      refine ⟨c, d, ⟨cs, elapsedMs, results, diagnostics⟩, ⟨ds, elapsedMs, _, diagnostics⟩,
        ?_, ?_, first.symm, ⟨rest.symm, rfl, told, rfl⟩⟩
      · simp [Progress.next?, exhausted, late]
      · simp [Progress.next?, exhausted, late]

theorem next?_some (agrees : p.Agrees q) {plan : Plan} {p' : Progress}
    (next : p.next? plan = some (c, p')) :
    ∃ d q', q.next? plan = some (d, q') ∧ c.withoutSecret = d.withoutSecret ∧ p'.Agrees q' := by
  rcases agrees.next? plan with ⟨first, _⟩ | ⟨_, d, _, q', first, second, same, agrees⟩
  · rw [first] at next
    contradiction
  · rw [first] at next
    obtain ⟨rfl, rfl⟩ := Prod.mk.inj (Option.some.inj next)
    exact ⟨d, q', second, same, agrees⟩

theorem afterDelay (agrees : p.Agrees q) (delayMs : Nat) :
    (p.afterDelay delayMs).Agrees (q.afterDelay delayMs) :=
  { agrees with elapsedMs := congrArg (· + delayMs) agrees.elapsedMs }

theorem answered (agrees : p.Agrees q) (same : c.withoutSecret = d.withoutSecret) (plan : Plan)
    (output : ExecutionOutput) : (p.answered plan c output).Agrees (q.answered plan d output) :=
  { agrees with
    results := List.rel_append agrees.results (.cons (CaseResult.told_ofOutput same _ _ _ _) .nil) }

theorem failed (agrees : p.Agrees q) (same : c.withoutSecret = d.withoutSecret) (e : EngineError) :
    (p.failed c e).Agrees (q.failed d e) where
  pending := agrees.pending
  elapsedMs := agrees.elapsedMs
  results := by
    refine List.rel_append agrees.results (.cons ?_ .nil)
    rw [← CaseResult.unexecuted_withoutSecret c, same, CaseResult.unexecuted_withoutSecret]
    exact .refl _
  diagnostics := by
    have id : c.id = d.id := by simpa using congrArg TestCase.id same
    simp only [Progress.failed, agrees.diagnostics, id]

end Agrees

theorem unitFor_of_same (same : c.withoutSecret = d.withoutSecret) (plan : Plan) :
    plan.unitFor c.input = plan.unitFor d.input := by
  rw [← c.withoutSecret_input, same, d.withoutSecret_input]

/-- Both runs make the same calls, and both end or neither does. -/
theorem Agrees.run (agrees : p.Agrees q) (plan : Plan) (engine : Engine)
    (calls : List ExecutionUnit) :
    (p.run plan engine calls).2 = (q.run plan engine calls).2 ∧
      Option.Rel Evaluation.Agrees (p.run plan engine calls).1 (q.run plan engine calls).1 := by
  -- The induction follows the first run, and each of its steps finds the same one in the second.
  induction p, calls using Progress.run.induct plan engine generalizing q with
  | case1 p calls ends =>
    rcases agrees.next? plan with ⟨first, second⟩ | ⟨_, _, _, _, first, _⟩
    · rw [run_of_next?_none first, run_of_next?_none second]
      exact ⟨rfl, .some agrees.conclude⟩
    · rw [ends] at first
      contradiction
  | case2 p calls c p' next =>
    rename_i crashed
    obtain ⟨d, q', other, same, _⟩ := agrees.next?_some next
    rw [run_of_next?_some next, run_of_next?_some other, ← unitFor_of_same same]
    have result : (engine calls (plan.unitFor c.input)).result = .crashed := crashed
    simp only [result]
    exact ⟨trivial, .none⟩
  | case3 p calls c p' next =>
    rename_i output answered ih
    obtain ⟨d, q', other, same, agrees⟩ := agrees.next?_some next
    rw [run_of_next?_some next, run_of_next?_some other, ← unitFor_of_same same]
    have result : (engine calls (plan.unitFor c.input)).result = .answered output := answered
    simp only [result]
    exact ih ((agrees.afterDelay _).answered same plan output)
  | case4 p calls c p' next =>
    rename_i e failed ih
    obtain ⟨d, q', other, same, agrees⟩ := agrees.next?_some next
    rw [run_of_next?_some next, run_of_next?_some other, ← unitFor_of_same same]
    have result : (engine calls (plan.unitFor c.input)).result = .failed e := failed
    simp only [result]
    exact ih ((agrees.afterDelay _).failed same e)

/-- The runs of two lists make the same calls, and differ where the status of a case does. -/
theorem run_tells_statuses {cases others : List TestCase}
    (same : cases.map TestCase.withoutSecret = others.map TestCase.withoutSecret) (plan : Plan)
    (engine : Engine) (calls : List ExecutionUnit) :
    let run (cases : List TestCase) := (start cases).run plan engine calls
    (run cases).2 = (run others).2 ∧ (run cases).1.isSome = (run others).1.isSome ∧
      ∀ e f, (run cases).1 = some e → (run others).1 = some f →
        e.results.map (·.status) = f.results.map (·.status) → e = f := by
  intro run
  obtain ⟨units, ends⟩ := (agrees_start same).run plan engine calls
  refine ⟨units, isSome_of_rel ends, fun e f first second statuses => ?_⟩
  change Option.Rel Evaluation.Agrees (run cases).1 (run others).1 at ends
  rw [first, second] at ends
  cases ends with
  | some agrees => exact agrees.eq statuses

end Progress

/-- An expected output that is not shown changes no call, and what it changes of an evaluation it
changes with the status of a case. -/
theorem Evaluator.evaluate_tells_statuses {cases others : List TestCase}
    (same : cases.map TestCase.withoutSecret = others.map TestCase.withoutSecret) (v : Evaluator)
    (s : Submission) (p : Problem) (timeLimitMs : UInt64) (calls : List ExecutionUnit) :
    let evaluated (cases : List TestCase) := v.evaluate s p cases timeLimitMs calls
    (evaluated cases).2 = (evaluated others).2 ∧
      (evaluated cases).1.isSome = (evaluated others).1.isSome ∧
      ∀ e f, (evaluated cases).1 = some e → (evaluated others).1 = some f →
        e.results.map (·.status) = f.results.map (·.status) → e = f := by
  intro evaluated
  have length : cases.length = others.length := by simpa using congrArg List.length same
  have plan : v.planFor s p others timeLimitMs = v.planFor s p cases timeLimitMs :=
    congrArg (Plan.make s p · timeLimitMs v.marginMs v.maxBudgetMs v.signatures) length.symm
  simp only [evaluated, evaluate, plan]
  cases p.memoryLimit with
  | overflow => exact ⟨rfl, rfl, fun _ _ none => nomatch none⟩
  | none | kilobytes => exact Progress.run_tells_statuses same _ v.engine calls

namespace Hidden

def submission : Submission := .new (.ofNat 7) "ada" "echo" .python "print(input())" default

def problem : Problem := ⟨"echo", "Echo", 1000, 1, none, .const none⟩

/-- The sandbox prints the input whatever the program is. -/
def evaluator : Evaluator where
  engine _ u := ⟨5, .answered ⟨u.input, 1, 512, .success⟩⟩
  signatures := .default
  marginMs := 500
  maxBudgetMs := 60000

def cases (secret : String) : List TestCase :=
  [⟨"a", "echo", "1", "1", true, 0, 1⟩, ⟨"b", "echo", "2", secret, false, 0, 2⟩]

def plan : Plan := .make submission problem 2 1000 500 60000 .default

theorem ordered_cases (secret : String) : TestCase.ordered (cases secret) = cases secret :=
  List.mergeSort_of_pairwise (List.pairwise_pair.mpr rfl)

theorem evaluate_cases (secret : String) :
    (evaluator.evaluate submission problem (cases secret) 1000 []).1 =
      some (Progress.conclusion plan evaluator.engine [] ⟨cases secret, 0, [], []⟩ 2) := by
  have calm : evaluator.engine.NeverCrashes := fun _ _ => nofun
  show ((Progress.start (cases secret)).run plan evaluator.engine []).1 = _
  rw [Progress.run_eq calm, Progress.start, ordered_cases]
  rfl

theorem evaluate_tells_no_secret :
    (cases "three").map TestCase.withoutSecret = (cases "four").map TestCase.withoutSecret ∧
      evaluator.evaluate submission problem (cases "three") 1000 [] =
        evaluator.evaluate submission problem (cases "four") 1000 [] := by
  have same : (cases "three").map TestCase.withoutSecret =
      (cases "four").map TestCase.withoutSecret := rfl
  obtain ⟨calls, _, agree⟩ := Evaluator.evaluate_tells_statuses same evaluator submission problem
    1000 []
  refine ⟨same, Prod.ext ?_ calls⟩
  rw [evaluate_cases "three", evaluate_cases "four"] at agree ⊢
  exact congrArg some (agree _ _ rfl rfl (by decide))

end Hidden

end Grader

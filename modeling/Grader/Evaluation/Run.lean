import Grader.Evaluation.Budget
import Grader.Evaluation.Classification
import Grader.Evaluation.Order
import Grader.Evaluation.Verdict

/-! Running a submission against the cases of its problem. The cases run one after another, each
once. A case that fails stops nothing; when the budget is used up, the cases left are not run. -/
namespace Grader

structure Evaluation where
  results : List CaseResult
  tally : Tally
  diagnostics : List String
  deriving DecidableEq, Repr

namespace Evaluation

def status (e : Evaluation) : Status := Verdict.aggregate e.results

def diagnostic (e : Evaluation) : Option String :=
  if e.diagnostics.isEmpty then none else some ("; ".intercalate e.diagnostics)

end Evaluation

/-- What stays the same while a submission is run. -/
structure Plan where
  language : Language
  code : String
  functionName : Option String
  parser : Option String
  timeLimitMs : UInt64
  memoryLimit : MemoryLimit
  signatures : Signatures
  budgetMs : UInt64

/-- How far a run has come. -/
structure Progress where
  pending : List TestCase
  elapsedMs : Nat
  results : List CaseResult
  diagnostics : List String
  deriving DecidableEq, Repr

namespace Plan

def make (s : Submission) (p : Problem) (count : Nat) (timeLimitMs marginMs maxBudgetMs : UInt64)
    (signatures : Signatures) : Plan where
  language := s.language
  code := s.code
  functionName := p.functionName
  parser := p.parsers.get s.language
  timeLimitMs := timeLimitMs
  memoryLimit := p.memoryLimit
  signatures := signatures
  budgetMs := Budget.ofCases count timeLimitMs marginMs maxBudgetMs

def unitFor (plan : Plan) (input : String) : ExecutionUnit :=
  ⟨plan.language, plan.code, input, plan.functionName, plan.parser, plan.timeLimitMs⟩

end Plan

namespace Progress

def start (cases : List TestCase) : Progress := ⟨TestCase.ordered cases, 0, [], []⟩

def exhausted (plan : Plan) (p : Progress) : Bool := plan.budgetMs.toNat ≤ p.elapsedMs

def conclude (p : Progress) : Evaluation :=
  let results := p.results ++ p.pending.map (CaseResult.unexecuted · CaseResult.notEvaluatedMessage)
  ⟨results, Verdict.summarize results, p.diagnostics⟩

/-- The case to run next and what is left after it, nothing at the end of the run. -/
def next? (plan : Plan) (p : Progress) : Option (TestCase × Progress) :=
  match p.pending with
  | [] => none
  | c :: cs => if exhausted plan p then none else some (c, { p with pending := cs })

def answered (plan : Plan) (p : Progress) (c : TestCase) (output : ExecutionOutput) : Progress :=
  let status := classify output c.expected plan.memoryLimit plan.signatures
  { p with results := p.results ++ [.ofOutput c status output plan.memoryLimit] }

def failed (p : Progress) (c : TestCase) (e : EngineError) : Progress :=
  { p with
    results := p.results ++ [.unexecuted c (CaseResult.errorMessage e)]
    diagnostics := p.diagnostics ++ ["test case " ++ c.id ++ ": " ++ e.message] }

def afterDelay (p : Progress) (delayMs : Nat) : Progress :=
  { p with elapsedMs := p.elapsedMs + delayMs }

theorem next?_pending {plan : Plan} {p q : Progress} {c : TestCase}
    (h : p.next? plan = some (c, q)) : p.pending = c :: q.pending := by
  unfold next? at h
  split at h
  · simp at h
  · rename_i d ds hp
    split at h
    · simp at h
    · obtain ⟨rfl, rfl⟩ := by simpa using h
      simpa using hp

end Progress

/-- Runs the pending cases with an engine that has seen some calls before, and tells the calls
that it has seen then. There is no evaluation where the engine crashes. -/
def Progress.run (plan : Plan) (engine : Engine) (p : Progress) (calls : List ExecutionUnit) :
    Option Evaluation × List ExecutionUnit :=
  match h : p.next? plan with
  | none => (some p.conclude, calls)
  | some (c, q) =>
    have : q.pending.length < p.pending.length := by simp [next?_pending h]
    let u := plan.unitFor c.input
    let reply := engine calls u
    let q := q.afterDelay reply.delayMs
    match reply.result with
    | .crashed => (none, calls ++ [u])
    | .answered output => (q.answered plan c output).run plan engine (calls ++ [u])
    | .failed e => (q.failed c e).run plan engine (calls ++ [u])
termination_by p.pending.length

structure Evaluator where
  engine : Engine
  signatures : Signatures
  marginMs : UInt64
  maxBudgetMs : UInt64

namespace Evaluator

def planFor (v : Evaluator) (s : Submission) (p : Problem) (cases : List TestCase)
    (timeLimitMs : UInt64) : Plan :=
  .make s p cases.length timeLimitMs v.marginMs v.maxBudgetMs v.signatures

/-- Runs a submission on the cases of its problem. There is no evaluation, and no call, where the
memory limit of the problem is more kilobytes than 64 bits count. -/
def evaluate (v : Evaluator) (s : Submission) (p : Problem) (cases : List TestCase)
    (timeLimitMs : UInt64) (calls : List ExecutionUnit) :
    Option Evaluation × List ExecutionUnit :=
  match p.memoryLimit with
  | .overflow => (none, calls)
  | .none | .kilobytes _ =>
    (Progress.start cases).run (v.planFor s p cases timeLimitMs) v.engine calls

end Evaluator

end Grader

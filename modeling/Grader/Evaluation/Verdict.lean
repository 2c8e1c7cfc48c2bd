import Grader.Submission

/-! The verdict on a submission from the results of its cases: the worst failure of a case, and
the figures of the run. -/
namespace Grader

/-- How bad a failure is. What is no failure has rank 0. -/
def Status.rank : Status → Nat
  | .compilationError => 6
  | .runtimeError => 5
  | .timeLimitExceeded => 4
  | .memoryLimitExceeded => 3
  | .wrongAnswer => 2
  | .internalError => 1
  | .accepted | .pending | .running => 0

def Status.worse (a b : Status) : Status := if a.rank < b.rank then b else a

namespace Verdict

/-- The worst failure of the cases. A run without any case is a failure of ours, so that nothing
is accepted which nobody has graded. -/
def aggregate (results : List CaseResult) : Status :=
  if results.isEmpty then .internalError
  else (results.map (·.status)).foldl Status.worse .accepted

def worst (f : CaseResult → UInt64) (results : List CaseResult) : UInt64 :=
  (results.map f).foldl max 0

def summarize (results : List CaseResult) : Tally :=
  ⟨worst (·.executionTimeMs) results, worst (·.memoryUsedKb) results,
    UInt32.ofNat (results.countP (·.passed)), UInt32.ofNat results.length⟩

end Grader.Verdict

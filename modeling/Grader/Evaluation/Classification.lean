import Grader.Engine.Basic
import Grader.Evaluation.Signatures
import Grader.Problem
import Grader.Submission
import Grader.Text.Decimal
import Grader.Text.LineEnding

/-! The result of one case from what a sandbox has answered. The expected output of a case is shown
to the submitter for samples only. -/
namespace Grader

def MemoryLimit.exceededBy (limit : MemoryLimit) (usedKb : UInt64) : Bool :=
  match limit with
  | .kilobytes n => n < usedKb
  | .none | .overflow => false

/-- The status of a case. Signatures count only where the run has failed already, or where its
output is not the expected one. -/
def classify (output : ExecutionOutput) (expected : String) (limit : MemoryLimit)
    (signatures : Signatures) : Status :=
  match output.status with
  | .runtimeError => (signatures.reclassify output.output).getD .runtimeError
  | .success =>
    if limit.exceededBy output.memoryUsedKb then .memoryLimitExceeded
    else if Text.normalized output.output = Text.normalized expected then .accepted
    else (signatures.reclassify output.output).getD .wrongAnswer
  | .compilationError | .timeLimitExceeded | .memoryLimitExceeded => output.status.canonical

namespace CaseResult

def mismatchMessage : String := "Output does not match expected output"

/-- Shown to the submitter in place of what went wrong on our side. -/
def failedMessage : String := "Execution failed due to an internal error"

def notEvaluatedMessage : String := "Not evaluated: submission time budget exceeded"

def unsupportedMessage : String := "Language is not supported"

def comparison (expected actual : String) : String :=
  "Expected:\n" ++ Text.normalized expected ++ "\n\nActual:\n" ++ Text.normalized actual

def memoryMessage (limit : MemoryLimit) (usedKb : UInt64) : String :=
  match limit with
  | .kilobytes n =>
    "Memory limit exceeded: used " ++ Text.ofNat usedKb.toNat ++ " KB of " ++ Text.ofNat n.toNat ++
      " KB"
  | .none | .overflow => "Memory limit exceeded"

def explanation (c : TestCase) (status : Status) (output : ExecutionOutput) (limit : MemoryLimit) :
    Option String :=
  match status with
  | .accepted => none
  | .wrongAnswer =>
    some (if c.isSample then comparison c.expected output.output else mismatchMessage)
  | .timeLimitExceeded => some "Time limit exceeded"
  | .memoryLimitExceeded => some (memoryMessage limit output.memoryUsedKb)
  | _ => some output.output

/-- The program has run to its end, so that its output is what it meant to print. -/
def ranThrough : Status → Bool
  | .accepted | .wrongAnswer => true
  | _ => false

def ofOutput (c : TestCase) (status : Status) (output : ExecutionOutput) (limit : MemoryLimit) :
    CaseResult where
  caseId := c.id
  sequence := c.sequence
  status := status
  stdout := if ranThrough status then output.output else ""
  stderr := if ranThrough status then "" else output.output
  error := explanation c status output limit
  executionTimeMs := output.executionTimeMs
  memoryUsedKb := output.memoryUsedKb

def unexecuted (c : TestCase) (message : String) : CaseResult :=
  ⟨c.id, c.sequence, .internalError, "", "", some message, 0, 0⟩

def errorMessage : EngineError → String
  | .unsupportedLanguage _ => unsupportedMessage
  | .unavailable .. | .malformedResponse .. => failedMessage

end Grader.CaseResult

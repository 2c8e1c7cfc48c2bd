import Grader.Language
import Grader.Status

/-! Sandboxes run programs. A sandbox that answers late or reports a fault of the program is the
user's affair; one that cannot be reached or answers nonsense is ours, and an engine error. -/
namespace Grader

structure ExecutionUnit where
  language : Language
  code : String
  input : String
  functionName : Option String
  parser : Option String
  timeLimitMs : UInt64
  deriving DecidableEq, Repr

inductive SandboxStatus where
  | success
  | compilationError
  | runtimeError
  | timeLimitExceeded
  | memoryLimitExceeded
  deriving DecidableEq, Repr

namespace SandboxStatus

def all : List SandboxStatus :=
  [.success, .compilationError, .runtimeError, .timeLimitExceeded, .memoryLimitExceeded]

def name : SandboxStatus → String
  | .success => "success"
  | .compilationError => "compilation_error"
  | .runtimeError => "runtime_error"
  | .timeLimitExceeded => "time_limit_exceeded"
  | .memoryLimitExceeded => "memory_limit_exceeded"

def names : List (String × SandboxStatus) := all.map fun s => (s.name, s)

def ofName? (text : String) : Option SandboxStatus := names.lookup text

/-- The status of the case before outputs are compared. -/
def canonical : SandboxStatus → Status
  | .success => .accepted
  | .compilationError => .compilationError
  | .runtimeError => .runtimeError
  | .timeLimitExceeded => .timeLimitExceeded
  | .memoryLimitExceeded => .memoryLimitExceeded

theorem ofName?_name (s : SandboxStatus) : ofName? s.name = some s := by cases s <;> decide

end SandboxStatus

structure ExecutionOutput where
  output : String
  executionTimeMs : UInt64
  memoryUsedKb : UInt64
  status : SandboxStatus
  deriving DecidableEq, Repr

/-- The output of a run whose call had no answer in time. -/
def ExecutionOutput.deadlineExceeded (timeLimitMs : UInt64) : ExecutionOutput :=
  ⟨"time limit exceeded", timeLimitMs, 0, .timeLimitExceeded⟩

inductive EngineError where
  | unsupportedLanguage (language : Language)
  | unavailable (language : Language) (reason : String)
  | malformedResponse (language : Language) (reason : String)
  deriving DecidableEq, Repr

namespace EngineError

def kind : EngineError → String
  | .unsupportedLanguage _ => "unsupported_language"
  | .unavailable .. => "unavailable"
  | .malformedResponse .. => "malformed_response"

def message : EngineError → String
  | .unsupportedLanguage l => "unsupported language: " ++ l.name
  | .unavailable l reason => l.name ++ " executor unavailable: " ++ reason
  | .malformedResponse l reason => l.name ++ " executor sent a malformed response: " ++ reason

end EngineError

inductive CallEnd where
  | answered (output : ExecutionOutput)
  | failed (error : EngineError)
  /-- The engine itself broke down, and whatever called it with it. -/
  | crashed
  deriving DecidableEq, Repr

structure Reply where
  delayMs : Nat
  result : CallEnd
  deriving DecidableEq, Repr

/-- An engine answers a unit in the light of all units that it was given before, oldest first. -/
abbrev Engine := List ExecutionUnit → ExecutionUnit → Reply

end Grader

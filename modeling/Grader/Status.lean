/-! The states of a submission. A case result uses the same words, and of them only those that
end a run. -/
namespace Grader

inductive Status where
  | pending
  | running
  | accepted
  | wrongAnswer
  | compilationError
  | runtimeError
  | timeLimitExceeded
  | memoryLimitExceeded
  | internalError
  deriving DecidableEq, Repr

namespace Status

def all : List Status :=
  [.pending, .running, .accepted, .wrongAnswer, .compilationError, .runtimeError,
   .timeLimitExceeded, .memoryLimitExceeded, .internalError]

def name : Status → String
  | .pending => "PENDING"
  | .running => "RUNNING"
  | .accepted => "ACCEPTED"
  | .wrongAnswer => "WRONG_ANSWER"
  | .compilationError => "COMPILATION_ERROR"
  | .runtimeError => "RUNTIME_ERROR"
  | .timeLimitExceeded => "TIME_LIMIT_EXCEEDED"
  | .memoryLimitExceeded => "MEMORY_LIMIT_EXCEEDED"
  | .internalError => "INTERNAL_ERROR"

/-- No run is due or under way any more. -/
def isTerminal : Status → Bool
  | .pending | .running => false
  | _ => true

def names : List (String × Status) := all.map fun s => (s.name, s)

theorem mem_all (s : Status) : s ∈ all := by cases s <;> decide

theorem lookup_name (s : Status) : names.lookup s.name = some s := by cases s <;> decide

end Grader.Status

import Grader.Language
import Grader.Status
import Grader.Time.Instant
import Grader.Uuid

/-! Submissions, the results of their cases, and the steps in a submission's life. -/
namespace Grader

structure CaseResult where
  caseId : String
  sequence : Int32
  status : Status
  stdout : String
  stderr : String
  error : Option String
  executionTimeMs : UInt64
  memoryUsedKb : UInt64
  deriving DecidableEq, Repr

def CaseResult.passed (r : CaseResult) : Bool := r.status = .accepted

/-- The figures of a whole run: the worst time and memory of a case, and how many passed. -/
structure Tally where
  executionTimeMs : UInt64
  memoryUsedKb : UInt64
  passed : UInt32
  total : UInt32
  deriving DecidableEq, Repr

def Tally.zero : Tally := ⟨0, 0, 0, 0⟩

structure Submission where
  id : Uuid
  userId : String
  problemId : String
  language : Language
  code : String
  status : Status
  results : List CaseResult
  tally : Tally
  submittedAt : Instant
  updatedAt : Instant
  timeComplexity : Option String
  memoryComplexity : Option String
  /-- Detail of a failure for operators. -/
  diagnostic : Option String
  deriving DecidableEq, Repr

namespace Submission

def new (id : Uuid) (userId problemId : String) (language : Language) (code : String)
    (now : Instant) : Submission where
  id := id
  userId := userId
  problemId := problemId
  language := language
  code := code
  status := .pending
  results := []
  tally := .zero
  submittedAt := now
  updatedAt := now
  timeComplexity := none
  memoryComplexity := none
  diagnostic := none

def markRunning (s : Submission) (now : Instant) : Submission :=
  { s with status := .running, updatedAt := now }

def complete (s : Submission) (status : Status) (results : List CaseResult) (tally : Tally)
    (diagnostic : Option String) (now : Instant) : Submission :=
  { s with status, results, tally, diagnostic, updatedAt := now }

/-- Ends a run that could not be made, without results. -/
def fail (s : Submission) (diagnostic : String) (now : Instant) : Submission :=
  s.complete .internalError [] .zero (some diagnostic) now

def reset (s : Submission) (now : Instant) : Submission :=
  { s with
    status := .pending, results := [], tally := .zero, diagnostic := none, updatedAt := now }

def withoutDiagnostic (s : Submission) : Submission := { s with diagnostic := none }

end Grader.Submission

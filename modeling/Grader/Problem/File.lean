import Grader.Document.Problem

/-! Problem files: a problem together with its test cases, as one document. A file is checked
as a whole before anything of it is stored. -/
namespace Grader

structure ProblemFile where
  problem : Problem
  cases : List TestCase
  deriving DecidableEq, Repr

/-- Why a text is no problem file that can be stored. -/
inductive ProblemFileError where
  | notDocument
  | blankId
  | noTime
  | noCases (problemId : String)
  | foreignCase (caseId problemId expected : String)
  | duplicateCase (caseId : String)
  deriving DecidableEq, Repr

def ProblemFileError.message : ProblemFileError → String
  | .notDocument => "Problem file is not valid JSON"
  | .blankId => "problem_id must not be empty"
  | .noTime => "time_limit_ms must be greater than zero"
  | .noCases id => "Problem '" ++ id ++ "' has no test cases"
  | .foreignCase caseId id expected =>
    "Test case '" ++ caseId ++ "' belongs to problem '" ++ id ++ "', expected '" ++ expected ++ "'"
  | .duplicateCase caseId => "Duplicate test case id '" ++ caseId ++ "'"

namespace ProblemFile

open Json

def fields : Fields ProblemFile :=
  Fields.pure ProblemFile.mk
    |>.apply (.required "problem" Problem.fields.decode)
    |>.apply (.required "test_cases" (.list TestCase.fields.decode))

instance : Document ProblemFile where
  toJson f := .record <|
    field "problem" (Document.toJson f.problem) ++
    field "test_cases" (Document.toJson f.cases)
  decoder := fields.decode

/-- The first case of another problem or with the id of an earlier case. -/
def caseFault? (problemId : String) (seen : List String) : List TestCase → Option ProblemFileError
  | [] => none
  | c :: cs =>
    if c.problemId ≠ problemId then some (.foreignCase c.id c.problemId problemId)
    else if c.id ∈ seen then some (.duplicateCase c.id)
    else caseFault? problemId (c.id :: seen) cs

/-- The first rule that a file breaks. -/
def fault? (f : ProblemFile) : Option ProblemFileError :=
  if Text.isAllBlank f.problem.id then some .blankId
  else if f.problem.timeLimitMs = 0 then some .noTime
  else if f.cases = [] then some (.noCases (Text.trimmed f.problem.id))
  else caseFault? f.problem.id [] f.cases

def parse (text : String) : Except ProblemFileError ProblemFile :=
  match Document.ofText? text with
  | none => .error .notDocument
  | some f =>
    match fault? f with
    | some e => .error e
    | none => .ok f

end Grader.ProblemFile

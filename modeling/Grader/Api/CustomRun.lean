import Grader.Api.Submissions
import Grader.Evaluation.Classification

/-! Running a program on inputs of the caller's own, without a verdict. -/
namespace Grader.Api

open Json

def inputLimit : Nat := 10

structure NewRun where
  language : String
  code : String
  problemId : Option String
  inputs : List String
  /-- The input where the list is empty. -/
  stdin : String
  deriving DecidableEq, Repr

def NewRun.fields : Fields NewRun :=
  Fields.pure NewRun.mk
    |>.apply (.required "language" .text)
    |>.apply (.required "code" .text)
    |>.apply (.nullable ["problem_id"] .text)
    |>.apply (.defaulted "test_cases" (.list .text) [])
    |>.apply (.defaulted "stdin" .text "")

def NewRun.allInputs (r : NewRun) : List String :=
  if r.inputs.isEmpty then [r.stdin] else r.inputs

def findProblem (id : Option String) : Handler (Option Problem) :=
  match id with
  | none => pure none
  | some id => do
    match ← Handler.fromStore (DocumentStore.problem? id (← get).store) with
    | none => throw (noProblem id)
    | some p => pure (some p)

def readRun (config : Config) (r : Request) : Handler (List ExecutionUnit) := do
  let new ← Handler.body r NewRun.fields.decode
  let language ← readLanguage new.language
  checkCode new.code
  let inputs := new.allInputs
  if inputLimit < inputs.length then
    throw (.invalid ("At most " ++ Text.ofNat inputLimit ++ " inputs per run"))
  else do
    let problem ← findProblem new.problemId
    let timeLimitMs := config.effectiveTimeLimit ((problem.map (·.timeLimitMs)).getD 0)
    pure <| inputs.map fun input =>
      ⟨language, new.code, input, problem.bind (·.functionName),
        problem.bind (·.parsers.get language), timeLimitMs⟩

structure RunResult where
  status : String
  stdout : String
  stderr : String
  error : Option String
  executionTimeMs : UInt64
  memoryUsedKb : UInt64
  deriving DecidableEq, Repr

namespace RunResult

/-- The output of a run that went wrong is what it wrote about that. -/
def ofOutput (o : ExecutionOutput) : RunResult :=
  if o.status = .success then ⟨o.status.name, o.output, "", none, o.executionTimeMs, o.memoryUsedKb⟩
  else ⟨o.status.name, "", o.output, none, o.executionTimeMs, o.memoryUsedKb⟩

def failed : RunResult := ⟨"error", "", "", some CaseResult.failedMessage, 0, 0⟩

def isSuccess (r : RunResult) : Bool := r.status = SandboxStatus.success.name

def toJson (r : RunResult) : Json :=
  .record <|
    field "status" (.text r.status) ++
    field "stdout" (.text r.stdout) ++
    field "stderr" (.text r.stderr) ++
    optionalField "error" r.error ++
    field "execution_time_ms" (.nat r.executionTimeMs.toNat) ++
    field "memory_used_kb" (.nat r.memoryUsedKb.toNat)

end RunResult

/-- The answer to a run: the output of the first input, and the results of all. -/
def runResponse (results : List RunResult) : Response :=
  .json 200 <| .record <|
    field "status" (.text (if results.all RunResult.isSuccess then "success" else "error")) ++
    field "stdout" (.text ((results.head?.map (·.stdout)).getD "")) ++
    field "stderr" (.text ((results.head?.map (·.stderr)).getD "")) ++
    field "execution_time_ms" (.nat ((results.map RunResult.executionTimeMs).foldl max 0).toNat) ++
    field "results" (.list (results.map RunResult.toJson))

end Grader.Api

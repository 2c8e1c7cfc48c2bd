import Grader.Console.Reason
import Grader.Console.Report
import Grader.Console.Session
import Grader.Problem.File

/-! What an operator can do: import problems, look at submissions and quotas, set ceilings, and have
a submission run again. The queue belongs to the server, so the last goes through its interface. -/
namespace Grader.Console

inductive Task where
  | importProblem (path : String)
  | showSubmission (id : Uuid)
  | requeue (id : Uuid) (apiUrl admin : String)
  | showQuotas (userId : String)
  | setCeiling (userId service : String) (ceiling : UInt32)
  deriving DecidableEq, Repr

namespace Task

open Session

def printMemory (p : Problem) : Session Unit :=
  match p.memoryLimit with
  | .none => pure ()
  | .kilobytes n => printLine ("   Memory:      " ++ Text.ofNat n.toNat ++ "KB")
  | .overflow => throw .overflow

def printImported (f : ProblemFile) : Session Unit := do
  printLine ("✅ Imported problem '" ++ f.problem.id ++ "'")
  printLine ("   Time limit:  " ++ Text.ofNat f.problem.timeLimitMs.toNat ++ "ms")
  printMemory f.problem
  printLine ("   Test cases:  " ++ Text.ofNat f.cases.length ++ " (" ++
    Text.ofNat (f.cases.countP (·.isSample)) ++ " sample)")

/-- Stores the problem of a file and its cases, once the whole file has been checked. -/
def runImport (path : String) : Session Unit := do
  printLine ("📦 Importing problem from " ++ path)
  match (← read).fileText path with
  | none => fail ("Failed to read " ++ path)
  | some text =>
    match ProblemFile.parse text with
    | .error e => fail e.message
    | .ok f =>
      let server ← connect
      let server ← write (DocumentStore.saveProblem f.problem server)
      discard (write (DocumentStore.saveCases f.problem.id f.cases server))
      printImported f

def runShow (id : Uuid) : Session Unit := do
  match ← fromStore (DocumentStore.submission? id (← connect)) with
  | none => fail ("Submission " ++ id.text ++ " not found")
  | some s => (submissionLines s).forM printLine

def requeueRequest (id : Uuid) (apiUrl admin : String) : HttpRequest where
  method := "POST"
  url := String.ofList ((apiUrl.toList.reverse.dropWhile (· = '/')).reverse) ++
    "/admin/submissions/" ++ id.text ++ "/requeue"
  headers := [("x-user-id", admin), ("x-user-role", "admin")]
  body := ""

/-- A text that may be the value of a header. -/
def sendable (s : String) : Bool :=
  s.toList.all fun c => c = '\t' || (0x20 ≤ c.toNat && c.toNat ≠ 0x7F)

def refusalMessage (body : String) : String :=
  match Json.parse? body with
  | some v =>
    if v.isWhole then ((v.field? "message").bind Json.text?).getD "no message" else "no message"
  | none => "no message"

def runRequeue (id : Uuid) (apiUrl admin : String) : Session Unit := do
  printLine ("🔁 Requeueing submission " ++ id.text)
  let response ← if sendable admin then send (requeueRequest id apiUrl admin) else pure none
  match response with
  | none => fail ("Failed to reach judge API at " ++ apiUrl)
  | some (status, body) =>
    if HttpEngine.isSuccess status then printLine ("✅ Submission " ++ id.text ++ " queued")
    else fail ("Requeue rejected (" ++ statusText status ++ "): " ++ refusalMessage body)

def runShowQuotas (userId : String) : Session Unit := do
  match ← fromLimiter (Limiter.find userId) with
  | some r => (recordLines r (← read).now).forM printLine
  | none => printLine ("ℹ️  No rate limit record for '" ++ userId ++ "' yet")

def runSetCeiling (userId service : String) (ceiling : UInt32) : Session Unit := do
  match Service.ofName? service with
  | none =>
    fail ("Unknown service '" ++ service ++ "'. Valid services: " ++
      ", ".intercalate (Service.all.map Service.name))
  | some s =>
    let q ← fromLimiter (Limiter.setCeiling userId s ceiling (← read).now)
    printLine ("✅ " ++ q.service.name ++ " limit for '" ++ userId ++ "' set to " ++
      Text.ofNat q.maxRequests.toNat ++ " per " ++ Text.ofInt q.windowMinutes.toInt ++ " minutes")
    printLine ("   Used in current window: " ++ Text.ofNat q.count.toNat)

def session : Task → Session Unit
  | .importProblem path => runImport path
  | .showSubmission id => runShow id
  | .requeue id apiUrl admin => runRequeue id apiUrl admin
  | .showQuotas userId => runShowQuotas userId
  | .setCeiling userId service ceiling => runSetCeiling userId service ceiling

def run (t : Task) (around : Surroundings) (s : State) : Option Failure × State :=
  match StateT.run (ExceptT.run (ReaderT.run t.session around)) s with
  | (.ok (), s) => (none, s)
  | (.error f, s) => (some f, s)

end Task

end Grader.Console

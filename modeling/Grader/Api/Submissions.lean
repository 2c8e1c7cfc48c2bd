import Grader.Api.Handler
import Grader.Document.Submission

/-! Taking in submissions and running them again. Both go in steps, each of which reads or writes
the store once or makes one offer to the queue, so that the steps of several requests and of the
workers may follow one another in any order. -/
namespace Grader.Api

open Json

def codeLimit : Nat := 65536

def readLanguage (text : String) : Handler Language :=
  match Language.ofText? text with
  | some l => pure l
  | none =>
    throw (.invalid ("Unsupported language '" ++ text ++ "'. Supported: " ++
      ", ".intercalate (Language.all.map Language.name)))

def checkCode (code : String) : Handler Unit :=
  if Text.isAllBlank code then throw (.invalid "Code must not be empty")
  else if codeLimit < code.utf8ByteSize then
    throw (.invalid ("Code exceeds " ++ Text.ofNat codeLimit ++ " bytes"))
  else pure ()

def readId (text : String) : Handler Uuid :=
  match Uuid.ofText? text with
  | some id => pure id
  | none => throw (.invalid ("Invalid submission id '" ++ text ++ "'"))

def noSubmission (id : Uuid) : Failure := .notFound ("Submission " ++ id.text ++ " not found")

def noProblem (id : String) : Failure := .notFound ("Problem " ++ id ++ " not found")

def accepted (s : Submission) : Response :=
  .json 202 (.record (field "submission_id" (.text s.id.text) ++ field "status" (.text s.status.name)))

def countEnqueued (site : Site) (l : Language) : Site :=
  { site with metrics := site.metrics.recordEnqueued l.name }

/-- Where a request with a new submission stands, named for the step that comes next. -/
inductive Intake where
  | findProblem (s : Submission)
  | store (s : Submission)
  | offer (s : Submission)
  | withdraw (s : Submission) (error : QueueError)
  | done (result : Except Failure Submission)

namespace Intake

def step (site : Site) : Intake → Site × Intake
  | .findProblem s =>
    match DocumentStore.problem? s.problemId site.store with
    | .error e => (site, .done (.error (.ofStore e)))
    | .ok none => (site, .done (.error (noProblem s.problemId)))
    | .ok (some _) => (site, .store s)
  | .store s =>
    match site.saveSubmission s with
    | .error e => (site, .done (.error (.ofStore e)))
    | .ok site => (site, .offer s)
  | .offer s =>
    match site.enqueue s.id with
    | (.refused e, site) => (site, .withdraw s e)
    | (_, site) => (countEnqueued site s.language, .done (.ok s))
  | .withdraw s error =>
    match site.saveSubmission (s.fail ("not queued: " ++ error.message) site.now) with
    | .error e => (site, .done (.error (.ofStore e)))
    | .ok site => (site, .done (.error (.unavailable error)))
  | .done result => (site, .done result)

def finish (site : Site) (i : Intake) : Site × Intake := Nat.repeat (fun p => p.2.step p.1) 4 (site, i)

end Intake

structure NewSubmission where
  problemId : String
  language : String
  code : String
  deriving DecidableEq, Repr

def NewSubmission.fields : Fields NewSubmission :=
  Fields.pure NewSubmission.mk
    |>.apply (.required "problem_id" .text)
    |>.apply (.required "language" .text)
    |>.apply (.required "code" .text)

def concluded (result : Site × Except Failure Submission) : Handler Response := do
  set result.1
  match result.2 with
  | .ok s => pure (accepted s)
  | .error f => throw f

def Intake.result : Intake → Except Failure Submission
  | .done result => result
  | _ => .error (.internal "unfinished")

/-- Stores a new submission under an id that is not in use and puts it into the queue. -/
def createSubmission (fresh : Uuid) (r : Request) : Handler Response := do
  let caller ← Handler.caller r
  let new ← Handler.body r NewSubmission.fields.decode
  let language ← readLanguage new.language
  checkCode new.code
  let site ← get
  let s := Submission.new fresh caller.userId new.problemId language new.code site.now
  let (site, i) := Intake.finish site (.findProblem s)
  concluded (site, i.result)

/-- Shows a submission to its owner, and to an admin with the detail of a failure. -/
def showSubmission (r : Request) (raw : String) : Handler Response := do
  let caller ← Handler.caller r
  let id ← readId (← Handler.segment raw)
  let site ← get
  match ← Handler.fromStore (DocumentStore.submission? id site.store) with
  | none => throw (noSubmission id)
  | some s =>
    if s.userId ≠ caller.userId ∧ !caller.isAdmin then throw .forbidden
    else
      pure (.json 200 (Document.toJson (if caller.isAdmin then s else s.withoutDiagnostic)))

/-- Where a request to run a failed submission again stands. The failed state is kept until the
queue has taken the submission, and written back if it does not. -/
inductive Requeue where
  | load (id : Uuid)
  | reset (failed : Submission)
  | offer (failed current : Submission)
  | restore (failed : Submission) (rejection : Failure)
  | done (result : Except Failure Submission)

namespace Requeue

def onlyFailed (status : Status) : Failure :=
  .invalid ("Only INTERNAL_ERROR submissions can be requeued (current: " ++ status.name ++ ")")

def stillProcessed (id : Uuid) : Failure :=
  .conflict ("Submission " ++ id.text ++ " is still being processed")

def step (site : Site) : Requeue → Site × Requeue
  | .load id =>
    match DocumentStore.submission? id site.store with
    | .error e => (site, .done (.error (.ofStore e)))
    | .ok none => (site, .done (.error (noSubmission id)))
    | .ok (some s) =>
      if s.status = .internalError then (site, .reset s)
      else (site, .done (.error (onlyFailed s.status)))
  | .reset failed =>
    let current := failed.reset site.now
    match site.saveSubmission current with
    | .error e => (site, .done (.error (.ofStore e)))
    | .ok site => (site, .offer failed current)
  | .offer failed current =>
    match site.enqueue failed.id with
    | (.queued, site) => (countEnqueued site current.language, .done (.ok current))
    | (.alreadyQueued, site) => (site, .restore failed (stillProcessed failed.id))
    | (.refused e, site) => (site, .restore failed (.unavailable e))
  | .restore failed rejection =>
    match site.saveSubmission failed with
    | .error e => (site, .done (.error (.ofStore e)))
    | .ok site => (site, .done (.error rejection))
  | .done result => (site, .done result)

def finish (site : Site) (q : Requeue) : Site × Requeue := Nat.repeat (fun p => p.2.step p.1) 4 (site, q)

def result : Requeue → Except Failure Submission
  | .done result => result
  | _ => .error (.internal "unfinished")

end Requeue

/-- Runs a submission again that has failed for a reason of ours. -/
def requeueSubmission (r : Request) (raw : String) : Handler Response := do
  let caller ← Handler.caller r
  let text ← Handler.segment raw
  Handler.admin caller
  let id ← readId text
  let site ← get
  let (site, q) := Requeue.finish site (.load id)
  concluded (site, q.result)

end Grader.Api

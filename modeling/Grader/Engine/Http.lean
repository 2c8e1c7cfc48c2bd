import Grader.Config
import Grader.Document.Basic
import Grader.Engine.Basic
import Grader.Text.Quoted

/-! Sandboxes behind HTTP, one endpoint for each language. A unit takes one request, and no
request is made twice. -/
namespace Grader

open Json

structure HttpRequest where
  method : String
  url : String
  headers : List (String × String)
  body : String
  deriving DecidableEq, Repr

inductive PeerAnswer where
  /-- No connection, or none that was kept up to the head of a response. -/
  | unreachable (reason : String)
  | complete (status : Nat) (body : String)
  | truncated (status : Nat)
  /-- The deadline passed without the head of a response. -/
  | silent
  /-- The deadline passed within the body. -/
  | stalled (status : Nat)
  deriving DecidableEq, Repr

abbrev Peer := HttpRequest → PeerAnswer

structure SandboxResponse where
  output : String
  executionTimeMs : UInt64
  memoryUsedKb : UInt64
  status : String
  deriving DecidableEq, Repr

def SandboxResponse.fields : Fields SandboxResponse :=
  Fields.pure SandboxResponse.mk
    |>.apply (.defaulted "output" .text "")
    |>.apply (.defaulted "execution_time_ms" .uint64 0)
    |>.apply (.defaulted "memory_used_kb" .uint64 0)
    |>.apply (.required "status" .text)

def refusalFields : Fields (Option String) := .nullable ["error", "message"] .text

structure HttpEngine where
  endpoints : PerLanguage (Option String)
  marginMs : UInt64
  maxTimeLimitMs : UInt64
  deriving DecidableEq, Repr

namespace HttpEngine

def ofConfig (c : Config) : HttpEngine :=
  ⟨.ofFn fun l => some (c.executorUrls.get l), c.dispatchMarginMs, c.maxTimeLimitMs⟩

/-- The deadline of a call: the time limit, bounded by the maximum, and the margin. -/
def callTimeout (e : HttpEngine) (timeLimitMs : UInt64) : Nat :=
  (min timeLimitMs e.maxTimeLimitMs).toNat + e.marginMs.toNat

def payload (u : ExecutionUnit) : Json :=
  .record <|
    field "code" (.text u.code) ++
    field "input" (.text u.input) ++
    field "time_limit_ms" (.nat u.timeLimitMs.toNat) ++
    field "language" (.text u.language.name) ++
    field "function_name" (.text (u.functionName.getD "")) ++
    optionalField "parser" u.parser

def request (url : String) (u : ExecutionUnit) : HttpRequest :=
  ⟨"POST", url, [("content-type", "application/json")], Json.render (payload u)⟩

/-- Stands for the reason that a reader of documents gives. -/
def undecodable : String := "<decode>"

def isSuccess (status : Nat) : Bool := 200 ≤ status && status < 300

def refusalDetail (body : String) : String :=
  match refusalFields.decode.ofText body with
  | .ok (some detail) => detail
  | _ => ""

def ofResponse (l : Language) (r : SandboxResponse) : CallEnd :=
  match SandboxStatus.ofName? r.status with
  | some status => .answered ⟨r.output, r.executionTimeMs, r.memoryUsedKb, status⟩
  | none => .failed (.malformedResponse l ("unknown status " ++ Text.quoted r.status))

def refused (l : Language) (status : Nat) (detail : String) : CallEnd :=
  .failed (.unavailable l ("HTTP " ++ Text.ofNat status ++ ": " ++ detail))

def ofAnswer (u : ExecutionUnit) : PeerAnswer → CallEnd
  | .unreachable reason => .failed (.unavailable u.language reason)
  | .silent => .answered (.deadlineExceeded u.timeLimitMs)
  | .complete status body =>
    if isSuccess status then
      match SandboxResponse.fields.decode.ofText body with
      | .ok r => ofResponse u.language r
      | .error _ => .failed (.malformedResponse u.language undecodable)
    else refused u.language status (refusalDetail body)
  | .truncated status =>
    if isSuccess status then .failed (.malformedResponse u.language undecodable)
    else refused u.language status ""
  | .stalled status =>
    if isSuccess status then .answered (.deadlineExceeded u.timeLimitMs)
    else refused u.language status ""

def execute (e : HttpEngine) (peer : Peer) (u : ExecutionUnit) : List HttpRequest × CallEnd :=
  match e.endpoints.get u.language with
  | none => ([], .failed (.unsupportedLanguage u.language))
  | some url =>
    let r := request url u
    ([r], ofAnswer u (peer r))

end Grader.HttpEngine

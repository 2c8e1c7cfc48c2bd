import Grader.Api.Http
import Grader.Queue
import Grader.Quota.Limiter

/-! How a request fails, and what the client is told. What went wrong inside is not told. -/
namespace Grader.Api

open Json

inductive Failure where
  | invalid (message : String)
  | unauthorized
  | forbidden
  | notFound (message : String)
  | conflict (message : String)
  | limited (usage : Usage)
  | unavailable (error : QueueError)
  | internal (detail : String)
  /-- The request itself could not be read. -/
  | unreadable (status : Nat)
  deriving DecidableEq, Repr

namespace Failure

def status : Failure → Nat
  | .invalid _ => 400
  | .unauthorized => 401
  | .forbidden => 403
  | .notFound _ => 404
  | .conflict _ => 409
  | .limited _ => 429
  | .unavailable _ => 503
  | .internal _ => 500
  | .unreadable status => status

def message : Failure → String
  | .invalid message | .notFound message | .conflict message => message
  | .unauthorized => "Authentication required"
  | .forbidden => "Insufficient permissions"
  | .limited u =>
    "Rate limit exceeded for " ++ u.service.name ++ ". Try again after " ++ u.resetAt.offsetText
  | .unavailable .full => "Submission queue is full, please try again shortly"
  | .unavailable .closed => "Server is shutting down"
  | .internal _ => "An unexpected error occurred"
  | .unreadable _ => ""

def usage? : Failure → Option Usage
  | .limited u => some u
  | _ => none

def response (f : Failure) : Response :=
  match f with
  | .unreadable status => ⟨status, none, .remark⟩
  | f => ⟨f.status, f.usage?, .json (.record (field "message" (.text f.message)))⟩

def ofStore (e : StoreError) : Failure := .internal e.message

def ofLimiter : LimiterError → Failure
  | .store e => ofStore e
  | .unknownUser user => .notFound ("No rate limit record for user " ++ user)
  | .unknownService service => .invalid ("Service " ++ service.name ++ " is not limited per user")

end Failure

end Grader.Api

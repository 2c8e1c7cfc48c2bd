import Grader.Api.Caller

/-! The routes by the segments of a path. The last segment of a path is never empty, while one that
stands for a value in the middle of a path may be. -/
namespace Grader.Api

inductive Route where
  | submissions
  | submission (id : String)
  | execute
  | guest
  | usages
  | consume (service : String)
  | ceilings
  | record (userId : String)
  | requeue (id : String)
  | health
  | metrics
  deriving DecidableEq, Repr

namespace Route

def ofSegments? : List String → Option Route
  | ["submissions"] => some .submissions
  | ["submissions", id] => last id (.submission id)
  | ["execute"] => some .execute
  | ["guest"] => some .guest
  | ["rate-limits"] => some .usages
  | ["rate-limits", service, "consume"] => some (.consume service)
  | ["admin", "rate-limits"] => some .ceilings
  | ["admin", "rate-limits", userId] => last userId (.record userId)
  | ["admin", "submissions", id, "requeue"] => some (.requeue id)
  | ["health"] => some .health
  | ["metrics"] => some .metrics
  | _ => none
where
  last (segment : String) (route : Route) : Option Route :=
    if segment = "" then none else some route

def method : Route → String
  | .submissions | .execute | .guest | .consume _ | .requeue _ => "POST"
  | .submission _ | .usages | .record _ | .health | .metrics => "GET"
  | .ceilings => "PUT"

/-- A request for the head of what a route would answer. -/
def takesHead (route : Route) (method : String) : Bool := route.method = "GET" && method = "HEAD"

def takes (route : Route) (method : String) : Bool := route.method = method || route.takesHead method

/-- The service that every request to a route counts for. -/
def gate? : Route → Option Service
  | .submissions => some .codeSubmission
  | .execute => some .codeExecution
  | _ => none

end Route

end Grader.Api

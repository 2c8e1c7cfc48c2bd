import Grader.Api.CustomRun
import Grader.Api.Quotas
import Grader.Metrics.Exposition

/-! The answer to a request. Most requests are answered at once; a custom run names the units that
have to be run first. A route that counts requests does so for whatever comes to its path, and
tells what is left also with a failure. -/
namespace Grader.Api

open Json

inductive Answer where
  | reply (response : Response)
  | run (units : List ExecutionUnit) (usage : Usage)

def showHealth : Handler Response := do
  let site ← get
  pure <| .json 200 <| .record <|
    field "status" (.text (if site.queue.isClosed then "draining" else "ok")) ++
    field "uptime_secs" (.nat (site.clockMs / 1000)) ++
    field "queue_depth" (.nat site.queue.depth)

def showMetrics : Handler Response := do
  pure ⟨200, none, .lines (← get).metrics.lines⟩

def methodNotAllowed : Response := ⟨405, none, .empty⟩

def pathNotFound : Response := ⟨404, none, .empty⟩

/-- The response of a route that needs no unit to be run. -/
def plain (fresh : Uuid) (r : Request) : Route → Handler Response
  | .submissions => createSubmission fresh r
  | .submission id => showSubmission r id
  | .guest => pure (createGuest fresh)
  | .usages => showUsages r
  | .consume service => consume r service
  | .ceilings => setCeiling r
  | .record userId => showRecord r userId
  | .requeue id => requeueSubmission r id
  | .health => showHealth
  | .metrics => showMetrics
  | .execute => pure methodNotAllowed

/-- The response to a request that has a route, before anything is said about its quota. -/
def routed (fresh : Uuid) (r : Request) (route : Route) : Handler Response :=
  if route.takes r.method then plain fresh r route else pure methodNotAllowed

/-- A response of which only the head is asked for. -/
def headOnly (r : Response) : Response := { r with body := .empty }

/-- Units to run, or the response where there is nothing to run. -/
def begin (config : Config) (r : Request) (usage : Usage) : Handler Answer :=
  tryCatch (do pure (.run (← readRun config r) usage)) fun f =>
    pure (.reply (f.response.withUsage usage))

def answerRoute (config : Config) (fresh : Uuid) (r : Request) (route : Route) : Handler Answer :=
  match route.gate? with
  | some service => do
    let usage ← Handler.gate (← Handler.caller r) service
    if route = .execute ∧ route.takes r.method then begin config r usage
    else pure (.reply ((← Handler.told (routed fresh r route)).withUsage usage))
  | none =>
    if route = .guest then do
      let usage ← Handler.gateGuest r.address
      pure (.reply ((← routed fresh r route).withUsage usage))
    else do
      let response ← routed fresh r route
      pure (.reply (if route.takesHead r.method then headOnly response else response))

def answer (config : Config) (fresh : Uuid) (r : Request) : StateM Site Answer :=
  match Route.ofSegments? r.segments with
  | none => pure (.reply pathNotFound)
  | some route => do
    match ← ExceptT.run (answerRoute config fresh r route) with
    | .ok a => pure a
    | .error f =>
      let response := f.response
      pure (.reply (if route.takesHead r.method then headOnly response else response))

end Grader.Api

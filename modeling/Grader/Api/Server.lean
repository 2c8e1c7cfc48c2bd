import Grader.Api.Answer
import Grader.Pool.Schedule

/-! Answering requests while the workers go on. A custom run gives its units to the engine one
after another, and time passes for everybody while it waits. -/
namespace Grader.Api

def runUnits (setup : Setup) : List ExecutionUnit → Running → Option (List RunResult) × Running
  | [], r => (some [], r)
  | u :: us, r =>
    let (reply, site) := r.site.call setup.engine u
    let r := r.withSite site
    let r := if reply.delayMs = 0 then r else r.pass setup reply.delayMs
    match reply.result with
    | .crashed => (none, r)
    | .answered output =>
      let (results, r) := runUnits setup us r
      (results.map (.ofOutput output :: ·), r)
    | .failed e =>
      let count (s : Site) : Site :=
        { s with metrics := s.metrics.recordDispatchFailure u.language.name e.kind }
      let (results, r) := runUnits setup us (r.mapSite count)
      (results.map (.failed :: ·), r)

/-- The response to a request, for which an id that is not in use is kept ready. -/
def respond (setup : Setup) (fresh : Uuid) (request : Request) (r : Running) : Response × Running :=
  let (a, site) := StateT.run (answer setup.config fresh request) r.site
  let r := r.withSite site
  match a with
  | .reply response => (response, r)
  | .run units usage =>
    match runUnits setup units r with
    | (some results, r) => ((runResponse results).withUsage usage, r)
    | (none, r) => ((Failure.internal "engine crashed").response.withUsage usage, r)

end Grader.Api

import Grader.Config
import Grader.Engine.Http
import Grader.Quota.Limiter
import Grader.Store.Server

/-! A session of an operator: what was printed, what was asked of others, and how it failed. -/
namespace Grader.Console

structure Surroundings where
  env : Environment
  now : Instant
  fileText : String → Option String
  peer : Peer

structure State where
  lines : List String
  /-- The server with the documents, if it can be reached. -/
  server : Option ServerStore
  requests : List HttpRequest

inductive Failure where
  | store (error : StoreError)
  | message (text : String)
  /-- The session breaks off at a product that has more than 64 bits. -/
  | overflow
  deriving DecidableEq, Repr

def Failure.text : Failure → String
  | .store e => e.message
  | .message text => text
  | .overflow => "attempt to multiply with overflow"

abbrev Session (α : Type) := ReaderT Surroundings (ExceptT Failure (StateM State)) α

namespace Session

def printLine (line : String) : Session Unit := modify fun s => { s with lines := s.lines ++ [line] }

def fail (text : String) : Session α := throw (.message text)

def connect : Session ServerStore := do
  match (← get).server with
  | some server => pure server
  | none => fail ("Failed to connect to Redis at " ++ (Config.ofEnvironment (← read).env).redisUrl)

def fromStore (r : Except StoreError α) : Session α :=
  match r with
  | .ok a => pure a
  | .error e => throw (.store e)

def write (r : Except StoreError ServerStore) : Session ServerStore := do
  let server ← fromStore r
  modify fun s => { s with server := some server }
  pure server

def fromLimiter (call : Limiter.Call ServerStore α) : Session α := do
  let (result, server) := StateT.run (ExceptT.run call) (← connect)
  modify fun s => { s with server := some server }
  match result with
  | .ok a => pure a
  | .error (.store e) => throw (.store e)
  | .error e => fail e.message

/-- Sends a request, and answers with the status and the body if there was a response. -/
def send (request : HttpRequest) : Session (Option (Nat × String)) := do
  modify fun s => { s with requests := s.requests ++ [request] }
  match (← read).peer request with
  | .complete status body => pure (some (status, body))
  | .truncated status | .stalled status => pure (some (status, ""))
  | .unreachable _ | .silent => pure none

end Session

end Grader.Console

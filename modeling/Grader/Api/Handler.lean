import Grader.Api.Route
import Grader.Grading.Site

/-! What handlers are made of. A handler reads and changes the site and answers or fails; what it
has changed stays changed when it fails. -/
namespace Grader.Api

abbrev Handler (α : Type) := ExceptT Failure (StateM Site) α

namespace Handler

def fromStore (r : Except StoreError α) : Handler α :=
  match r with
  | .ok a => pure a
  | .error e => throw (.ofStore e)

def fromLimiter (call : Limiter.Call MemoryStore α) : Handler α := do
  let site ← get
  let (result, store) := StateT.run (ExceptT.run call) site.store
  set { site with store }
  match result with
  | .ok a => pure a
  | .error e => throw (.ofLimiter e)

/-- Counts one request of a caller, or fails where nothing is left of the ceiling. -/
def gate (caller : Caller) (service : Service) : Handler Usage := do
  let site ← get
  let decision ← fromLimiter (Limiter.check caller.subject service site.now)
  if decision.allowed then pure decision.usage
  else
    modify fun s => { s with metrics := s.metrics.recordLimited service.name }
    throw (.limited decision.usage)

def gateGuest (address : String) : Handler Usage := do
  let site ← get
  let (decision, guests) := site.guests.check address site.now
  set { site with guests }
  if decision.allowed then pure decision.usage
  else
    modify fun s => { s with metrics := s.metrics.recordLimited Service.guestCreation.name }
    throw (.limited decision.usage)

def caller (r : Request) : Handler Caller := liftExcept (Caller.ofRequest r)
where
  liftExcept (e : Except Failure Caller) : Handler Caller :=
    match e with
    | .ok c => pure c
    | .error f => throw f

def admin (caller : Caller) : Handler Unit :=
  match caller.requireAdmin with
  | .ok () => pure ()
  | .error f => throw f

/-- A segment of the path without percent signs. -/
def segment (raw : String) : Handler String :=
  match Text.percentDecode? raw with
  | some s => pure s
  | none => throw (.unreadable 400)

def bodyLimit : Nat := 2097152

/-- The document at the head of the body. -/
def body (r : Request) (d : Json.Decoder α) : Handler α :=
  if !r.hasJsonType then throw (.unreadable 415)
  else if bodyLimit < r.body.utf8ByteSize then throw (.unreadable 413)
  else
    match d.ofHead r.body with
    | .ok a => pure a
    | .error .malformed => throw (.unreadable 400)
    | .error .mismatched => throw (.unreadable 422)

def told (h : Handler Response) : Handler Response := tryCatch h fun f => pure f.response

end Handler

end Grader.Api

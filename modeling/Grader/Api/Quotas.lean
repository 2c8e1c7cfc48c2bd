import Grader.Api.Handler

/-! Telling, using and setting the quotas of users, and handing out names to guests. -/
namespace Grader.Api

open Json

/-- A service that is limited for each user. -/
def readService (name : String) : Handler Service :=
  match Service.ofName? name with
  | some .guestCreation | none =>
    throw (.invalid ("Unknown rate-limited service '" ++ name ++ "'"))
  | some service => pure service

def showUsages (r : Request) : Handler Response := do
  let caller ← Handler.caller r
  let usages ← Handler.fromLimiter (Limiter.usages caller.subject (← get).now)
  pure (.json 200 (Document.toJson usages))

/-- Counts one request for a service that is offered elsewhere. -/
def consume (r : Request) (raw : String) : Handler Response := do
  let caller ← Handler.caller r
  let service ← readService (← Handler.segment raw)
  let usage ← Handler.gate caller service
  pure ((Response.json 200 (Document.toJson usage)).withUsage usage)

structure NewCeiling where
  userId : String
  service : String
  ceiling : UInt32
  deriving DecidableEq, Repr

def NewCeiling.fields : Fields NewCeiling :=
  Fields.pure NewCeiling.mk
    |>.apply (.required "user_id" .text)
    |>.apply (.required "service" .text)
    |>.apply (.required "new_limit" .uint32)

def setCeiling (r : Request) : Handler Response := do
  let caller ← Handler.caller r
  let new ← Handler.body r NewCeiling.fields.decode
  Handler.admin caller
  let service ← readService new.service
  let quota ← Handler.fromLimiter (Limiter.setCeiling new.userId service new.ceiling (← get).now)
  pure (.json 200 (Document.toJson quota))

def showRecord (r : Request) (raw : String) : Handler Response := do
  let caller ← Handler.caller r
  let userId ← Handler.segment raw
  Handler.admin caller
  match ← Handler.fromLimiter (Limiter.find userId) with
  | none => throw (.ofLimiter (.unknownUser userId))
  | some record => pure (.json 200 (Document.toJson record))

/-- A guest has a name of its own for as long as it keeps it. -/
def createGuest (fresh : Uuid) : Response :=
  .json 201 <| .record <|
    field "user_id" (.text ("guest-" ++ fresh.text)) ++
    field "username" (.text ("guest_" ++ String.ofList (fresh.plainText.take 8))) ++
    field "role" (.text "guest")

end Grader.Api

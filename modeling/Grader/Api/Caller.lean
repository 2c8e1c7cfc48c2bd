import Grader.Api.Error

/-! Who sends a request. The headers were set by whoever has checked the identity before. -/
namespace Grader.Api

structure Caller where
  userId : String
  username : String
  isAdmin : Bool
  deriving DecidableEq, Repr

namespace Caller

def subject (c : Caller) : Subject := ⟨c.userId, c.username, c.isAdmin⟩

/-- The caller of a request. A caller without a name goes by the id. -/
def ofRequest (r : Request) : Except Failure Caller :=
  match r.filledHeader? "x-user-id" with
  | none => .error .unauthorized
  | some userId =>
    .ok ⟨userId, (r.filledHeader? "x-username").getD userId,
      (r.filledHeader? "x-user-role").any (·.toLower = "admin")⟩

def requireAdmin (c : Caller) : Except Failure Unit :=
  if c.isAdmin then .ok () else .error .forbidden

end Caller

/-- The address that a guest is counted under: the first one that the request was forwarded for, as
it was sent, or else that of the client. -/
def Request.address (r : Request) : String :=
  let forwarded := (r.header? "x-forwarded-for").map fun v =>
    Text.trimmed (String.ofList (v.toList.takeWhile (· ≠ ',')))
  match forwarded.filter (· ≠ "") with
  | some address => address
  | none => (r.peer.map Address.text).getD "unknown"

end Grader.Api

import Grader.Address
import Grader.Api.MediaType
import Grader.Api.Target
import Grader.Document.Quota
import Grader.Text.Percent

/-! Requests and responses, as far as the routes look at them. -/
namespace Grader.Api

structure Request where
  method : String
  /-- As it was sent, with percent signs and a query. -/
  target : String
  headers : List (String × String)
  body : String
  peer : Option Address
  deriving Repr

inductive Body where
  | json (value : Json)
  | lines (text : List String)
  /-- Words for a person, whose wording is no part of the interface. -/
  | remark
  | empty

structure Response where
  status : Nat
  usage : Option Usage
  body : Body

namespace Response

def json (status : Nat) (v : Json) : Response := ⟨status, none, .json v⟩

def withUsage (r : Response) (u : Usage) : Response := { r with usage := some u }

def headers (r : Response) : List (String × String) :=
  match r.usage with
  | none => []
  | some u =>
    [("x-ratelimit-limit", Text.ofNat u.limit.toNat),
      ("x-ratelimit-remaining", Text.ofNat u.remaining.toNat),
      ("x-ratelimit-reset", u.resetAt.offsetText),
      ("x-ratelimit-service", u.service.name)]

end Response

namespace Request

def isPlain (c : Char) : Bool := c = '\t' || (0x20 ≤ c.toNat && c.toNat < 0x7F)

/-- The text of a header without blanks around. Of repeated headers the first counts, and one
that is no text counts as absent. -/
def header? (r : Request) (name : String) : Option String := do
  let value := (← r.headers.find? fun h => h.1.toLower = name).2
  if value.toList.all isPlain then some (Text.trimmed value) else none

def filledHeader? (r : Request) (name : String) : Option String :=
  (r.header? name).filter (· ≠ "")

def segments (r : Request) : List String := Target.segments r.target

/-- The body is said to be JSON. The type is looked at as it was sent, with any blanks. -/
def hasJsonType (r : Request) : Bool :=
  match r.headers.find? fun h => h.1.toLower = "content-type" with
  | some h => h.2.toList.all isPlain && MediaType.isJson h.2
  | none => false

end Request

end Grader.Api

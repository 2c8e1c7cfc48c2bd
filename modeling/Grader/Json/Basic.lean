/-! JSON values as they are read. A text that stops being JSON at some point is read up to
that point: the value has a hole there, and everything before it is known. So a reader of
documents can tell which fault a text has first, going through it from left to right. -/
namespace Grader

inductive Json where
  | null
  | bool (value : Bool)
  /-- A numeral of digits with or without a minus whose digits fit in 64 bits, minus zero apart. -/
  | int (value : Int)
  /-- Any other numeral: `mantissa · 10 ^ exponent`, without the digits that do not fit. -/
  | decimal (mantissa exponent : Int)
  | text (value : String)
  /-- `closed` says that the bracket was found; otherwise the text breaks after the items. -/
  | array (items : List Json) (closed : Bool)
  | object (members : List (Option String × Json)) (closed : Bool)
  /-- A scalar of sound spelling that denotes no value: half a surrogate pair, or a numeral
  beyond the range of numbers. -/
  | unreadable
  | broken
  deriving Inhabited, Repr

namespace Json

def list (items : List Json) : Json := .array items true

def record (members : List (String × Json)) : Json :=
  .object (members.map fun (key, v) => (some key, v)) true

def nat (n : Nat) : Json := .int n

def field? : Json → String → Option Json
  | .object members true, key => members.reverse.lookup (some key)
  | _, _ => none

def text? : Json → Option String
  | .text s => some s
  | _ => none

mutual

def isWhole : Json → Bool
  | .null | .bool _ | .int _ | .decimal .. | .text _ => true
  | .array items closed => closed && areWhole items
  | .object members closed => closed && haveWhole members
  | .unreadable | .broken => false

def areWhole : List Json → Bool
  | [] => true
  | v :: vs => isWhole v && areWhole vs

def haveWhole : List (Option String × Json) → Bool
  | [] => true
  | (key, v) :: members => key.isSome && isWhole v && haveWhole members

end

end Grader.Json

import Grader.Text.Decimal
import Grader.Text.Percent
import Grader.Text.Quoted

/-! Internet addresses: four octets, or eight groups of 16 bits. Every address has one text. Octets
are written in decimal with points between. Groups are written in hexadecimal with colons between,
and the first of the longest runs of two or more zero groups is left out between two colons; only an
address that stands for four octets has these for its last two groups. -/
namespace Grader

inductive Address where
  | octets (a b c d : UInt8)
  | groups (gs : Vector UInt16 8)
  deriving DecidableEq, Repr

namespace Address

def joined (separator : List Char) : List (List Char) → List Char
  | [] => []
  | [s] => s
  | s :: t :: ts => s ++ separator ++ joined separator (t :: ts)

def octetsText (os : List UInt8) : List Char := joined ['.'] (os.map fun o => Text.digits o.toNat)

def groupsText (gs : List UInt16) : List Char := joined [':'] (gs.map fun g => Text.hexDigits g.toNat)

def zerosAt (gs : List UInt16) (i : Nat) : Nat := ((gs.drop i).takeWhile (· = 0)).length

def longestZeros (gs : List UInt16) : Nat :=
  (List.range gs.length).foldl (fun best i => if zerosAt gs best < zerosAt gs i then i else best) 0

def high (g : UInt16) : UInt8 := (g / 256).toUInt8

def low (g : UInt16) : UInt8 := g.toUInt8

def chars : Address → List Char
  | .octets a b c d => octetsText [a, b, c, d]
  | .groups gs =>
    match gs.toList with
    | [0, 0, 0, 0, 0, 0xFFFF, g, h] =>
      "::ffff:".toList ++ octetsText [high g, low g, high h, low h]
    | gs =>
      let start := longestZeros gs
      let count := zerosAt gs start
      if 2 ≤ count then groupsText (gs.take start) ++ ':' :: ':' :: groupsText (gs.drop (start + count))
      else groupsText gs

def text (a : Address) : String := String.ofList a.chars

def number? (limit : Nat) (ds : List Char) : Option Nat :=
  if ds ≠ [] ∧ ds.all Text.isDigit ∧ Text.digitsValue ds < limit then some (Text.digitsValue ds)
  else none

/-- An octet has no zeros in front. -/
def octet? (s : String) : Option UInt8 := do
  let n ← number? 256 s.toList
  if Text.digits n = s.toList then pure (.ofNat n) else none

def octets? (s : String) : Option (UInt8 × UInt8 × UInt8 × UInt8) :=
  match s.splitOn "." with
  | [a, b, c, d] => do pure (← octet? a, ← octet? b, ← octet? c, ← octet? d)
  | _ => none

/-- One to four hexadecimal digits. -/
def group? (s : String) : Option UInt16 := do
  let ds ← s.toList.mapM Text.hexValue?
  if 1 ≤ ds.length ∧ ds.length ≤ 4 then pure (.ofNat (ds.foldl (16 * · + ·) 0)) else none

def joinOctets (a b : UInt8) : UInt16 := a.toUInt16 * 256 + b.toUInt16

/-- Groups of which the last two may be written as octets. -/
def groups? : List String → Option (List UInt16)
  | [] => some []
  | [s] =>
    match octets? s with
    | some (a, b, c, d) => some [joinOctets a b, joinOctets c d]
    | none => (group? s).map fun g => [g]
  | s :: t :: ts => do pure ((← group? s) :: (← groups? (t :: ts)))

def pieces (s : String) : List String := if s = "" then [] else s.splitOn ":"

/-- All eight groups, or fewer with two colons in place of the others. -/
def allGroups? (s : String) : Option (List UInt16) :=
  match s.splitOn "::" with
  | [s] => groups? (pieces s)
  | [before, after] => do
    let front ← (pieces before).mapM group?
    let back ← groups? (pieces after)
    if front.length + back.length < 8 then
      pure (front ++ List.replicate (8 - front.length - back.length) 0 ++ back)
    else none
  | _ => none

def ofGroups? (gs : List UInt16) : Option Address :=
  if h : gs.length = 8 then some (.groups ⟨gs.toArray, by simpa using h⟩) else none

/-- Nothing, or a percent sign and a number of 32 bits. -/
def isScope : List Char → Bool
  | [] => true
  | '%' :: ds => (number? UInt32.size ds).isSome
  | _ => false

def isSocket (s : List Char) : Bool := (number? UInt16.size s).isSome

/-- The address of an end point, which is written with a colon and the number of a socket behind it.
Groups stand in brackets, and a scope may follow them. -/
def ofEndPoint? (s : String) : Option Address :=
  match s.toList with
  | '[' :: s =>
    match s.dropWhile (· ≠ ']') with
    | ']' :: ':' :: socket => do
      let inside := s.takeWhile (· ≠ ']')
      let gs ← allGroups? (String.ofList (inside.takeWhile (· ≠ '%')))
      if isScope (inside.dropWhile (· ≠ '%')) ∧ isSocket socket then ofGroups? gs else none
    | _ => none
  | s =>
    match s.dropWhile (· ≠ ':') with
    | ':' :: socket => do
      let (a, b, c, d) ← octets? (String.ofList (s.takeWhile (· ≠ ':')))
      if isSocket socket then pure (.octets a b c d) else none
    | _ => none

end Grader.Address

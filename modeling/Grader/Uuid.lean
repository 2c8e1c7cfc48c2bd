import Grader.Text.Percent
import Grader.Text.Quoted

/-! Identifiers of 128 bits, as 32 hexadecimal digits. They are written in lower case in groups of
8, 4, 4, 4 and 12 digits with hyphens between, and read in that form with or without braces or the
prefix `urn:uuid:`, or as 32 digits without hyphens. Reading takes either case throughout. -/
namespace Grader

structure Uuid where
  digits : List (Fin 16)
  length_digits : digits.length = 32
  deriving DecidableEq, Repr

namespace Uuid

def ofDigits? (ds : List (Fin 16)) : Option Uuid :=
  if h : ds.length = 32 then some ⟨ds, h⟩ else none

def ofNat (n : Nat) : Uuid :=
  ⟨(List.range 32).map fun i => Fin.ofNat 16 (n / Nat.pow 16 (31 - i)), by simp⟩

instance : Inhabited Uuid := ⟨ofNat 0⟩

def digitOf? (c : Char) : Option (Fin 16) := (Text.hexValue? c).map (Fin.ofNat 16)

def digitText (d : Fin 16) : Char := Text.hexDigit d.val

def plainText (id : Uuid) : List Char := id.digits.map digitText

/-- Puts the hyphens between the groups. -/
def hyphenated (s : List Char) : List Char :=
  s.take 8 ++ '-' :: (s.drop 8).take 4 ++ '-' :: (s.drop 12).take 4 ++ '-' :: (s.drop 16).take 4 ++
    '-' :: s.drop 20

def text (id : Uuid) : String := String.ofList (hyphenated id.plainText)

def unhyphenated? (s : List Char) : Option (List Char) :=
  if s.length = 36 ∧ s[8]? = some '-' ∧ s[13]? = some '-' ∧ s[18]? = some '-' ∧ s[23]? = some '-' then
    some (s.take 8 ++ (s.drop 9).take 4 ++ (s.drop 14).take 4 ++ (s.drop 19).take 4 ++ s.drop 24)
  else none

def nameStart : List Char := "urn:uuid:".toList

/-- The text inside of braces or after the start of a name. -/
def unwrapped (s : List Char) : List Char :=
  if s.length = 38 ∧ s.head? = some '\x7b' ∧ s.getLast? = some '\x7d' then (s.drop 1).dropLast
  else if (s.take 9).map Char.toLower = nameStart then s.drop 9
  else s

def ofText? (text : String) : Option Uuid := do
  let s := text.toList
  let ds ← if s.length = 32 then some s else unhyphenated? (unwrapped s)
  ofDigits? (← ds.mapM digitOf?)

end Grader.Uuid

/-! Percent encoding of a path segment: three characters `%XY` stand for one byte, and the
bytes are UTF-8. A percent sign that no two hexadecimal digits follow stands for itself. -/
namespace Grader.Text

def hexValue? (c : Char) : Option Nat :=
  if '0' ≤ c ∧ c ≤ '9' then some (c.toNat - 48)
  else if 'a' ≤ c ∧ c ≤ 'f' then some (c.toNat - 87)
  else if 'A' ≤ c ∧ c ≤ 'F' then some (c.toNat - 55)
  else none

def hexPair? (a b : Char) : Option Nat := do
  let high ← hexValue? a
  let low ← hexValue? b
  pure (16 * high + low)

def percentBytes : List Char → List UInt8
  | '%' :: a :: b :: s =>
    match hexPair? a b with
    | some byte => byte.toUInt8 :: percentBytes s
    | none => 0x25 :: percentBytes (a :: b :: s)
  | c :: s => (String.singleton c).toUTF8.toList ++ percentBytes s
  | [] => []
termination_by s => s.length

/-- Fails where the bytes are not UTF-8. -/
def percentDecode? (s : String) : Option String :=
  String.fromUTF8? (percentBytes s.toList).toByteArray

end Grader.Text

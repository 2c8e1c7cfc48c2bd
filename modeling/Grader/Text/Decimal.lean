/-! Decimal numerals: digits of a number, and numbers read from digits. -/
namespace Grader.Text

def digitChar (d : Nat) : Char := Char.ofNat (48 + d)

def digitValue? (c : Char) : Option Nat :=
  if '0' ≤ c ∧ c ≤ '9' then some (c.toNat - 48) else none

def isDigit (c : Char) : Bool := (digitValue? c).isSome

/-- The digits of a number, most significant first, and one zero for zero. -/
def digits (n : Nat) : List Char :=
  if _ : n < 10 then [digitChar n] else digits (n / 10) ++ [digitChar (n % 10)]
termination_by n
decreasing_by omega

/-- At least `width` digits, with zeros in front. -/
def paddedDigits (width n : Nat) : List Char :=
  let ds := digits n
  List.replicate (width - ds.length) '0' ++ ds

def intDigits : Int → List Char
  | .ofNat n => digits n
  | .negSucc n => '-' :: digits (n + 1)

def digitsValue (ds : List Char) : Nat :=
  ds.foldl (fun n c => 10 * n + (digitValue? c).getD 0) 0

def spanDigits (s : List Char) : List Char × List Char := (s.takeWhile isDigit, s.dropWhile isDigit)

/-- A nonempty text of digits only, with a sign in front if the sign is allowed:
a plus always, a minus where `signed`. -/
def readInt? (signed : Bool) (s : List Char) : Option Int :=
  match s with
  | '+' :: ds => (natural? ds).map Int.ofNat
  | '-' :: ds => if signed then (natural? ds).map (fun n => -(n : Int)) else none
  | ds => (natural? ds).map Int.ofNat
where
  natural? (ds : List Char) : Option Nat :=
    if ds ≠ [] ∧ ds.all isDigit then some (digitsValue ds) else none

def ofNat (n : Nat) : String := String.ofList (digits n)

def ofInt (n : Int) : String := String.ofList (intDigits n)

end Grader.Text

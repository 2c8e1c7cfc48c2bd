import Grader.Json.Basic
import Grader.Text.Decimal

/-! Reading numerals. The digits of a numeral are gathered in a significand of 64 bits, and digits
that do not fit are left out of it: before the point they raise the exponent of ten, after it they
do not count. A numeral is beyond the range of numbers where the product of significand and power,
each rounded to binary64, is. -/
namespace Grader.Json

def gather (significand : Nat) : List Char → Nat × Nat
  | [] => (significand, 0)
  | c :: ds =>
    let next := 10 * significand + (Text.digitValue? c).getD 0
    if next < UInt64.size then
      let (n, count) := gather next ds
      (n, count + 1)
    else (significand, 0)

theorem gather_of_fits (n : Nat) (ds : List Char)
    (h : ds.foldl (fun n c => 10 * n + (Text.digitValue? c).getD 0) n < UInt64.size) :
    gather n ds =
      (ds.foldl (fun n c => 10 * n + (Text.digitValue? c).getD 0) n, ds.length) := by
  have grows (ds : List Char) (n : Nat) :
      n ≤ ds.foldl (fun n c => 10 * n + (Text.digitValue? c).getD 0) n := by
    induction ds generalizing n with
    | nil => exact Nat.le_refl n
    | cons c ds ih => exact Nat.le_trans (by omega) (ih (10 * n + (Text.digitValue? c).getD 0))
  induction ds generalizing n with
  | nil => rfl
  | cons c ds ih =>
    have fits := Nat.lt_of_le_of_lt (grows ds (10 * n + (Text.digitValue? c).getD 0)) h
    simp [gather, fits, ih _ h]

/-- The nearest number with a mantissa of 53 bits; halfway between two, the one whose mantissa is
even. -/
def rounded (n : Nat) : Nat :=
  let unit := Nat.pow 2 (n.log2 - 52)
  let mantissa := n / unit
  let twice := 2 * (n % unit)
  if twice < unit ∨ twice = unit ∧ mantissa % 2 = 0 then mantissa * unit else (mantissa + 1) * unit

theorem rounded_of_short {n : Nat} (h : n.log2 ≤ 52) : rounded n = n := by
  simp [rounded, Nat.sub_eq_zero_of_le h, Nat.mod_one]

/-- The least number that rounds to infinity in binary64. -/
def overflowBound : Nat := Nat.pow 2 1024 - Nat.pow 2 970

def maxPower : Nat := 308

def overflows (significand : Nat) (exponent : Int) : Bool :=
  if significand = 0 ∨ exponent < 0 then false
  else if exponent > maxPower then true
  else rounded significand * rounded (Nat.pow 10 exponent.toNat) ≥ overflowBound

def signed (negative : Bool) (n : Nat) : Int := if negative then -n else n

/-- The value of a numeral from its digits before and after the point and its exponent. Digits alone
are an integer where they all fit, unless they are minus zero. -/
def numeral (negative : Bool) (whole : List Char) (fraction : Option (List Char))
    (power : Option Int) : Json :=
  let (significand, used) := gather 0 whole
  let (significand, places) := gather significand (fraction.getD [])
  let exponent : Int := (whole.length - used : Nat) - places + power.getD 0
  if overflows significand exponent then .unreadable
  else if fraction.isNone ∧ power.isNone ∧ used = whole.length ∧ ¬(negative ∧ significand = 0) then
    .int (signed negative significand)
  else .decimal (signed negative significand) exponent

/-- The exponent part, if there is one: its value and the rest. Nothing where the letter is
there and digits are not. -/
def readPower : List Char → Option (Option Int × List Char)
  | c :: s =>
    if c = 'e' ∨ c = 'E' then
      let (negative, t) := match s with
        | '-' :: t => (true, t)
        | '+' :: t => (false, t)
        | t => (false, t)
      match Text.spanDigits t with
      | ([], _) => none
      | (ds, rest) => some (some (signed negative (Text.digitsValue ds)), rest)
    else some (none, c :: s)
  | [] => some (none, [])

def readFraction : List Char → Option (Option (List Char) × List Char)
  | '.' :: s =>
    match Text.spanDigits s with
    | ([], _) => none
    | (ds, rest) => some (some ds, rest)
  | s => some (none, s)

/-- A numeral without its sign. A leading zero has no digit after it. -/
def readNumber (negative : Bool) (s : List Char) : Option (Json × List Char) := do
  let (whole, s) ← match Text.spanDigits s with
    | ([], _) => none
    | ('0' :: _ :: _, _) => none
    | (ds, rest) => some (ds, rest)
  let (fraction, s) ← readFraction s
  let (power, s) ← readPower s
  pure (numeral negative whole fraction power, s)

end Grader.Json

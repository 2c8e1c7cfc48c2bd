import Grader.Text.Decimal

/-! The shortest decimal of a binary64 number: of all decimals that round to the number, those with
the fewest digits, and of these the nearest, of two that are equally near the greater. All steps are
exact. -/
namespace Grader.Shortest

structure Binary where
  mantissa : Nat
  exponent : Int
  deriving DecidableEq, Repr

structure Decimal where
  mantissa : Nat
  exponent : Int
  deriving DecidableEq, Repr

structure Ratio where
  num : Nat
  den : Nat
  deriving DecidableEq, Repr

def Ratio.ofPower (m base : Nat) (exponent : Int) : Ratio :=
  if 0 ≤ exponent then ⟨m * Nat.pow base exponent.toNat, 1⟩ else ⟨m, Nat.pow base (-exponent).toNat⟩

def Ratio.lt (a b : Ratio) : Bool := a.num * b.den < b.num * a.den

def Binary.value (x : Binary) : Ratio := .ofPower x.mantissa 2 x.exponent

namespace Decimal

def value (d : Decimal) : Ratio := .ofPower d.mantissa 10 d.exponent

def next (d : Decimal) : Decimal := { d with mantissa := d.mantissa + 1 }

def middle (d : Decimal) : Ratio := .ofPower (10 * d.mantissa + 5) 10 (d.exponent - 1)

end Decimal

namespace Binary

/-- The least mantissa of a number that is not subnormal: the fraction has 52 bits. -/
def leastNormal : Nat := 4503599627370496

def leastExponent : Int := -1074

def upperEnd (x : Binary) : Ratio := .ofPower (2 * x.mantissa + 1) 2 (x.exponent - 1)

/-- Halfway to the number before, which is nearer where the mantissa is the least one. -/
def lowerEnd (x : Binary) : Ratio :=
  if x.mantissa = leastNormal ∧ leastExponent < x.exponent then
    .ofPower (4 * x.mantissa - 1) 2 (x.exponent - 2)
  else .ofPower (2 * x.mantissa - 1) 2 (x.exponent - 1)

/-- A rational rounds to the number. The ends of the interval do where the mantissa is even. -/
def Accepts (x : Binary) (r : Ratio) : Bool :=
  if x.mantissa % 2 = 0 then !r.lt x.lowerEnd && !x.upperEnd.lt r
  else x.lowerEnd.lt r && r.lt x.upperEnd

/-- The least exponent of ten whose power is above the number, found by walking up. -/
def magnitude (x : Binary) : Int :=
  go 700 (-330)
where
  go : Nat → Int → Int
    | 0, e => e
    | fuel + 1, e => if x.value.lt (.ofPower 1 10 e) then e else go fuel (e + 1)

def below (x : Binary) (exponent : Int) : Decimal :=
  let v := x.value
  let u := Ratio.ofPower 1 10 exponent
  ⟨v.num * u.den / (v.den * u.num), exponent⟩

/-- The nearer of a decimal below the number and the next one, which wins where both are equally
near. -/
def nearer (x : Binary) (d : Decimal) : Decimal := if x.value.lt d.middle then d else d.next

def withDigits? (x : Binary) (top : Int) (count : Nat) : Option Decimal :=
  let d := x.below (top - count)
  match x.Accepts d.value, x.Accepts d.next.value with
  | true, true => some (x.nearer d)
  | true, false => some d
  | false, true => some d.next
  | false, false => none

/-- Seventeen digits are enough for any number. -/
def shortest (x : Binary) : Decimal :=
  let top := x.magnitude
  ((List.range 17).findSome? fun n => x.withDigits? top (n + 1)).getD ⟨0, 0⟩

end Binary

/-- Digits without an exponent. Zeros at the end of a fraction are not written. -/
def Decimal.digits (d : Decimal) : List Char :=
  let ds := Text.digits d.mantissa
  if 0 ≤ d.exponent then ds ++ List.replicate d.exponent.toNat '0'
  else
    let places := (-d.exponent).toNat
    let ds := List.replicate (places + 1 - ds.length) '0' ++ ds
    let whole := ds.take (ds.length - places)
    let fraction := (((ds.drop (ds.length - places)).reverse.dropWhile (· = '0')).reverse)
    if fraction.isEmpty then whole else whole ++ '.' :: fraction

def text (x : Float) : String :=
  let bits := x.toBits.toNat
  let e : Nat := bits / Binary.leastNormal % 2048
  let f : Nat := bits % Binary.leastNormal
  let sign := if bits / Binary.leastNormal / 2048 = 1 then ['-'] else []
  if e = 2047 then (if f = 0 then String.ofList (sign ++ "inf".toList) else "NaN")
  else
    let b : Binary := if e = 0 then ⟨f, Binary.leastExponent⟩ else ⟨f + Binary.leastNormal, (e : Int) - 1075⟩
    String.ofList (sign ++ if b.mantissa = 0 then ['0'] else b.shortest.digits)

end Grader.Shortest

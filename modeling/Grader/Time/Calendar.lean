/-! Days of the proleptic Gregorian calendar. Years of 400 repeat, and a year is counted from
March, so that the leap day is its last. -/
namespace Grader

structure Day where
  year : Int
  month : Nat
  day : Nat
  deriving DecidableEq, Repr

namespace Calendar

def isLeap (year : Int) : Bool := year % 4 = 0 && (year % 100 ≠ 0 || year % 400 = 0)

def monthLength (year : Int) (month : Nat) : Nat :=
  if month = 2 then (if isLeap year then 29 else 28)
  else if month = 4 ∨ month = 6 ∨ month = 9 ∨ month = 11 then 30
  else 31

end Calendar

def Day.Valid (d : Day) : Prop :=
  1 ≤ d.month ∧ d.month ≤ 12 ∧ 1 ≤ d.day ∧ d.day ≤ Calendar.monthLength d.year d.month

instance (d : Day) : Decidable d.Valid := inferInstanceAs (Decidable (_ ∧ _))

namespace Calendar

def periodLength : Nat := 146097

/-- Days from the first of March of a period's first year to that of its year `n`. -/
def yearStart (n : Nat) : Nat := 365 * n + n / 4 - n / 100

/-- Days from the first of March to the first of the month `n` months later. -/
def monthStart (n : Nat) : Nat := (153 * n + 2) / 5

def epoch : Int := 719468

/-- The number of a day, 0 for the first of January 1970. -/
def number (d : Day) : Int :=
  let year := if d.month ≤ 2 then d.year - 1 else d.year
  let month := if d.month ≤ 2 then d.month + 9 else d.month - 3
  let ofPeriod := yearStart (year % 400).toNat + monthStart month + (d.day - 1)
  year / 400 * periodLength + ofPeriod - epoch

/-- The year of a period that holds a day of it. A year has 366 days at most, so the quotient
is this year or the one before. -/
def yearOf (n : Nat) : Nat :=
  let guess := n / 366
  if yearStart (guess + 1) ≤ n then guess + 1 else guess

def monthOf (n : Nat) : Nat := (5 * n + 2) / 153

def ofNumber (n : Int) : Day :=
  let n := n + epoch
  let ofPeriod := (n % periodLength).toNat
  let year := min (yearOf ofPeriod) 399
  let ofYear := ofPeriod - yearStart year
  let month := monthOf ofYear
  let day := ofYear - monthStart month + 1
  let year := n / periodLength * 400 + year
  if month < 10 then ⟨year, month + 3, day⟩ else ⟨year + 1, month - 9, day⟩

end Grader.Calendar

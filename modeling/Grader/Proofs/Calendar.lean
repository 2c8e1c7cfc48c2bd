import Grader.Time.Calendar
import Mathlib.Tactic.IntervalCases

/-! Days and their numbers. Every number has a valid day, and it is the number of that day. -/
namespace Grader.Calendar

theorem yearOf_cases (p : Nat) :
    yearOf p = p / 366 + 1 ∧ yearStart (p / 366 + 1) ≤ p ∨
      yearOf p = p / 366 ∧ p < yearStart (p / 366 + 1) := by
  by_cases reached : yearStart (p / 366 + 1) ≤ p
  · exact .inl ⟨if_pos reached, reached⟩
  · exact .inr ⟨if_neg reached, Nat.lt_of_not_le reached⟩

def yearIn (p : Nat) : Nat := min (yearOf p) 399

theorem yearIn_lt (p : Nat) : yearIn p < 400 :=
  Nat.lt_succ_of_le (Nat.min_le_right _ _)

theorem yearStart_yearIn_le (p : Nat) : yearStart (yearIn p) ≤ p := by
  have chosen := yearOf_cases p
  simp only [yearStart] at chosen
  simp only [yearIn, yearStart]
  omega

/-- A year ends where the next one starts, but the last of a period has one day more. -/
theorem lt_yearStart_succ {p : Nat} (inPeriod : p < periodLength) :
    p < yearStart (yearIn p + 1) ∨ yearIn p = 399 ∧ p ≤ yearStart 400 := by
  by_cases last : yearOf p ≤ 398
  · left
    rw [yearIn, min_eq_left (by omega)]
    rcases yearOf_cases p with ⟨chosen, -⟩ | ⟨chosen, short⟩
    · have below : p < 366 * (p / 366 + 1) := Nat.lt_mul_div_succ p (by decide)
      rw [chosen] at last ⊢
      simp only [yearStart]
      omega
    · rwa [chosen]
  · right
    exact ⟨min_eq_right (Nat.lt_of_not_le last), Nat.le_of_lt_succ inPeriod⟩

/-- The year before the one of number `n + 1` has a day more than 365 if that one has a leap day. -/
theorem yearStart_succ (n : Nat) :
    yearStart (n + 1) ≤ yearStart n + 365 ∨
      yearStart (n + 1) = yearStart n + 366 ∧ isLeap (n + 1) = true := by
  simp only [yearStart, Nat.succ_div, isLeap, Bool.and_eq_true, Bool.or_eq_true, decide_eq_true_eq]
  split <;> split <;> omega

theorem isLeap_add_period (periods year : Int) : isLeap (periods * 400 + year) = isLeap year := by
  simp only [isLeap, show (periods * 400 + year) % 4 = year % 4 by omega,
    show (periods * 400 + year) % 100 = year % 100 by omega,
    show (periods * 400 + year) % 400 = year % 400 by omega]

/-- A day of a year, counted from March. It is number 365 only where the year of the calendar
that has begun by then is a leap year. -/
structure OfYear (year : Int) (d : Nat) : Prop where
  le : d ≤ 365
  leap : d = 365 → isLeap (year + 1) = true

theorem ofYear_yearIn {p : Nat} (inPeriod : p < periodLength) (periods : Int) :
    OfYear (periods * 400 + yearIn p) (p - yearStart (yearIn p)) := by
  have start := yearStart_yearIn_le p
  have leaps : isLeap (periods * 400 + yearIn p + 1) = isLeap (yearIn p + 1) := by
    rw [add_assoc, isLeap_add_period]
  rcases lt_yearStart_succ inPeriod with stop | ⟨last, stop⟩
  · rcases yearStart_succ (yearIn p) with ordinary | ⟨long, leap⟩
    · exact ⟨by omega, by omega⟩
    · exact ⟨by omega, fun _ => leaps.trans leap⟩
  · rw [last] at start leaps ⊢
    simp only [yearStart] at start stop ⊢
    exact ⟨by omega, fun _ => leaps.trans (by decide)⟩

theorem monthStart_monthOf_le (d : Nat) : monthStart (monthOf d) ≤ d := by
  simp only [monthStart, monthOf]
  omega

theorem monthOf_le {d : Nat} (short : d ≤ 365) : monthOf d ≤ 11 := by
  simp only [monthOf]
  omega

def lengthFromMarch (leap : Bool) (month : Nat) : Nat :=
  if month = 11 then (if leap then 29 else 28)
  else if month = 1 ∨ month = 3 ∨ month = 6 ∨ month = 8 then 30
  else 31

theorem ofMonth_lt {year : Int} {d : Nat} (day : OfYear year d) :
    d - monthStart (monthOf d) < lengthFromMarch (isLeap (year + 1)) (monthOf d) := by
  have below := monthOf_le day.le
  have last : 5 * d + 2 < 153 * (monthOf d + 1) := Nat.lt_mul_div_succ _ (by decide)
  have short := day.le
  have leap := day.leap
  generalize monthOf d = m at *
  interval_cases m
  case «11» =>
    cases common : isLeap (year + 1) with
    | false =>
      have ordinary : d ≠ 365 := fun full => by simp [leap full] at common
      simp +decide only [lengthFromMarch, monthStart, if_true, if_false]
      omega
    | true =>
      simp +decide only [lengthFromMarch, monthStart, if_true, if_false]
      omega
  all_goals
    simp +decide only [lengthFromMarch, monthStart, if_true, if_false]
    omega

/-- The months of a year that starts in March are those of the calendar. -/
theorem lengthFromMarch_eq (year : Int) {month : Nat} (below : month ≤ 11) :
    lengthFromMarch (isLeap year) month =
      if month < 10 then monthLength (year - 1) (month + 3) else monthLength year (month - 9) := by
  interval_cases month <;> rfl

/-- The day of a year that starts in March. -/
def dayOf (year : Int) (d : Nat) : Day :=
  if monthOf d < 10 then ⟨year, monthOf d + 3, d - monthStart (monthOf d) + 1⟩
  else ⟨year + 1, monthOf d - 9, d - monthStart (monthOf d) + 1⟩

theorem valid_dayOf {year : Int} {d : Nat} (day : OfYear year d) : (dayOf year d).Valid := by
  have below := monthOf_le day.le
  have inMonth := ofMonth_lt day
  rw [lengthFromMarch_eq (year + 1) below, add_sub_cancel_right] at inMonth
  unfold dayOf
  split <;> rename_i early
  · rw [if_pos early] at inMonth
    exact ⟨Nat.le_add_left 1 _, show monthOf d + 3 ≤ 12 by omega, Nat.le_add_left 1 _, inMonth⟩
  · rw [if_neg early] at inMonth
    exact ⟨show 1 ≤ monthOf d - 9 by omega, show monthOf d - 9 ≤ 12 by omega, Nat.le_add_left 1 _,
      inMonth⟩

theorem number_dayOf (periods : Int) {year d : Nat} (inPeriod : year < 400) (short : d ≤ 365) :
    number (dayOf (periods * 400 + year) d) =
      periods * periodLength + (yearStart year + d) - epoch := by
  have below := monthOf_le short
  have start := monthStart_monthOf_le d
  have quotient : (periods * 400 + year) / 400 = periods := by omega
  have remainder : ((periods * 400 + year) % 400).toNat = year := by omega
  unfold dayOf
  split
  · have late : ¬monthOf d + 3 ≤ 2 := by omega
    simp only [number, late, if_false, quotient, remainder, Nat.add_sub_cancel]
    omega
  · have early : monthOf d - 9 ≤ 2 := by omega
    simp only [number, early, if_true, add_sub_cancel_right, quotient, remainder,
      show monthOf d - 9 + 9 = monthOf d by omega, Nat.add_sub_cancel]
    omega

def ofPeriod (n : Int) : Nat := ((n + epoch) % periodLength).toNat

theorem ofPeriod_lt (n : Int) : ofPeriod n < periodLength := by
  simp only [ofPeriod, periodLength]
  omega

theorem ofNumber_eq (n : Int) :
    ofNumber n =
      dayOf ((n + epoch) / periodLength * 400 + yearIn (ofPeriod n))
        (ofPeriod n - yearStart (yearIn (ofPeriod n))) := rfl

theorem valid_ofNumber (n : Int) : (ofNumber n).Valid :=
  valid_dayOf (ofYear_yearIn (ofPeriod_lt n) _)

theorem number_ofNumber (n : Int) : number (ofNumber n) = n := by
  have day := ofYear_yearIn (ofPeriod_lt n) ((n + epoch) / periodLength)
  have start := yearStart_yearIn_le (ofPeriod n)
  have whole : (n + epoch) / periodLength * periodLength + ofPeriod n = n + epoch := by
    simp only [ofPeriod, periodLength]
    omega
  rw [ofNumber_eq, number_dayOf _ (yearIn_lt _) day.le]
  omega

end Grader.Calendar

import Grader.Proofs.Calendar
import Grader.Proofs.Digits
import Grader.Time.Rfc3339
import Mathlib.Data.List.TakeWhile

/-! Reading what was written as a time. A time whose year has four digits is read back from its
text, to the nanosecond and within leap seconds too. -/
namespace Grader.Instant

/-- The times that are written with a year of four digits. -/
def FourDigitYear (t : Instant) : Prop := 0 ≤ t.day.year ∧ t.day.year ≤ 9999

instance (t : Instant) : Decidable t.FourDigitYear :=
  inferInstanceAs (Decidable (0 ≤ t.day.year ∧ t.day.year ≤ 9999))

/-- The first of some padded digits. -/
theorem paddedDigits_head (width n : Nat) :
    ∃ c cs, Text.paddedDigits width n = c :: cs ∧ Text.isDigit c = true := by
  obtain ⟨c, cs, written⟩ := List.exists_cons_of_ne_nil (Text.paddedDigits_ne_nil width n)
  have member : c ∈ Text.paddedDigits width n := by
    rw [written]
    exact List.mem_cons_self
  exact ⟨c, cs, written, Text.isDigit_of_mem_paddedDigits member⟩

theorem trimLeft_paddedDigits (width n : Nat) (s : List Char) :
    Text.trimLeft (Text.paddedDigits width n ++ s) = Text.paddedDigits width n ++ s := by
  obtain ⟨c, cs, written, digit⟩ := paddedDigits_head width n
  rw [written, List.cons_append, Text.trimLeft_cons_other (Text.isBlank_of_isDigit digit)]

theorem readNumber_paddedDigits {k n : Nat} (below : n < 10 ^ (k + 1)) (s : List Char) :
    readNumber (k + 1) (Text.paddedDigits (k + 1) n ++ s) = some (n, s) := by
  have taken : ((Text.paddedDigits (k + 1) n ++ s).take (k + 1)).takeWhile Text.isDigit =
      Text.paddedDigits (k + 1) n := by
    rw [List.take_left' (Text.length_paddedDigits below)]
    exact List.takeWhile_eq_self_iff.mpr fun c => Text.isDigit_of_mem_paddedDigits
  simp only [readNumber, trimLeft_paddedDigits, taken, Text.paddedDigits_ne_nil, if_false,
    Text.digitsValue_paddedDigits, List.drop_left]

theorem readMark_cons (mark : Char) (ink : Text.isBlank mark = false) (s : List Char) :
    readMark mark (mark :: s) = some s := by
  simp [readMark, Text.trimLeft_cons_other ink]

theorem readYear_paddedDigits {n : Nat} (below : n < 10 ^ 4) (s : List Char) :
    readYear (Text.paddedDigits 4 n ++ s) = some ((n : Int), s) := by
  obtain ⟨c, cs, written, digit⟩ := paddedDigits_head 4 n
  have number := readNumber_paddedDigits below s
  rw [written] at number
  rw [readYear, trimLeft_paddedDigits, written]
  split
  · exact absurd (List.cons.inj ‹_›).1 (Text.ne_of_isDigit digit (by decide))
  · exact absurd (List.cons.inj ‹_›).1 (Text.ne_of_isDigit digit (by decide))
  · rw [number]
    rfl

theorem readDay_dayText {d : Day} (valid : d.Valid) (low : 0 ≤ d.year) (high : d.year ≤ 9999)
    (s : List Char) : readDay (dayText d ++ s) = some (d, s) := by
  obtain ⟨year, month, day⟩ := d
  obtain ⟨n, rfl⟩ := Int.eq_ofNat_of_zero_le low
  obtain ⟨monthLow, monthHigh, dayLow, dayHigh⟩ := id valid
  simp only at high monthLow monthHigh dayLow dayHigh
  have short : Calendar.monthLength n month ≤ 31 := by
    unfold Calendar.monthLength
    split
    · split <;> decide
    · split <;> decide
  have inRange : yearInRange n = true := by
    simp only [yearInRange, Bool.and_eq_true, decide_eq_true_eq]
    omega
  simp only [dayText, yearText, low, high, and_self, if_true, Int.toNat_natCast, List.append_assoc,
    List.cons_append, readDay]
  rw [readYear_paddedDigits (by omega)]
  simp only [Option.bind_eq_bind, Option.bind_some, readMark_cons '-' (by decide),
    readNumber_paddedDigits (k := 1) (show month < 10 ^ 2 by omega),
    readNumber_paddedDigits (k := 1) (show day < 10 ^ 2 by omega), within, monthLow, monthHigh,
    and_self, if_true, inRange, valid]
  rfl

theorem readClock_clockText {clock leaps : Nat} (inDay : clock < secondsPerDay)
    (leap : leaps = 0 ∨ leaps = 1 ∧ clock % 60 = 59) (s : List Char) :
    readClock (clockText clock leaps ++ s) = some (clock, leaps, s) := by
  simp only [secondsPerDay] at inDay
  have hour : clock / 3600 ≤ 23 := by omega
  have minute : clock / 60 % 60 ≤ 59 := by omega
  have second : clock % 60 + leaps ≤ 60 := by omega
  have last : (clock % 60 + leaps) / 60 = leaps := by omega
  have whole : clock / 3600 * 3600 + clock / 60 % 60 * 60 + (clock % 60 + leaps - leaps) = clock := by
    omega
  simp only [clockText, List.append_assoc, List.cons_append, readClock]
  rw [readNumber_paddedDigits (k := 1) (show clock / 3600 < 10 ^ 2 by omega)]
  simp only [Option.bind_eq_bind, Option.bind_some, readMark_cons ':' (by decide),
    readNumber_paddedDigits (k := 1) (show clock / 60 % 60 < 10 ^ 2 by omega),
    readNumber_paddedDigits (k := 1) (show clock % 60 + leaps < 10 ^ 2 by omega),
    within, hour, minute, second, Nat.zero_le, and_self, if_true, last, whole]
  rfl

/-- A fraction of up to nine digits. -/
theorem readFraction_digits {ds s : List Char} (some' : ds ≠ []) (short : ds.length ≤ 9)
    (digits : ∀ c ∈ ds, Text.isDigit c = true) (ends : Text.EndsDigits s) :
    readFraction ('.' :: ds ++ s) = some (Text.digitsValue ds * 10 ^ (9 - ds.length), s) := by
  rw [List.cons_append, readFraction, Text.spanDigits_append digits ends]
  split
  · rename_i none'
    exact absurd (Prod.mk.inj none').1 some'
  · rename_i same
    obtain ⟨rfl, rfl⟩ := Prod.mk.inj same
    rw [List.take_of_length_le short]
    rfl

theorem readFraction_paddedDigits {k n : Nat} (below : n < 10 ^ (k + 1)) (short : k < 9)
    {s : List Char} (ends : Text.EndsDigits s) :
    readFraction ('.' :: Text.paddedDigits (k + 1) n ++ s) = some (n * 10 ^ (8 - k), s) := by
  have size := Text.length_paddedDigits below
  rw [readFraction_digits (Text.paddedDigits_ne_nil (k + 1) n) (by omega)
    (fun c => Text.isDigit_of_mem_paddedDigits) ends, size, Text.digitsValue_paddedDigits,
    show 9 - (k + 1) = 8 - k by omega]

theorem readFraction_fractionText {nanos : Nat} (below : nanos < nanosPerSecond) (s : List Char) :
    readFraction (fractionText nanos ++ 'Z' :: s) = some (nanos, 'Z' :: s) := by
  have ends : Text.EndsDigits ('Z' :: s) := Text.endsDigits_cons.mpr (by decide)
  simp only [nanosPerSecond] at below
  unfold fractionText
  split
  · rename_i zero
    rw [zero]
    rfl
  split
  · rename_i millis
    rw [readFraction_paddedDigits (k := 2) (by omega) (by decide) ends]
    exact congrArg (fun n => some (n, _)) (by omega)
  split
  · rename_i micros
    rw [readFraction_paddedDigits (k := 5) (by omega) (by decide) ends]
    exact congrArg (fun n => some (n, _)) (by omega)
  · rw [readFraction_paddedDigits (k := 8) (by omega) (by decide) ends]
    exact congrArg (fun n => some (n, _)) (by omega)

theorem readOffset_zulu (s : List Char) : readOffset ('Z' :: s) = some (0, s) := rfl

theorem valid_day (t : Instant) : t.day.Valid := Calendar.valid_ofNumber _

theorem number_day (t : Instant) :
    Calendar.number t.day * secondsPerDay + t.clock.toNat = t.second := by
  rw [day, Calendar.number_ofNumber]
  simp only [clock, secondsPerDay]
  omega

theorem leap_fraction (t : Instant) :
    t.nanos / nanosPerSecond * nanosPerSecond + t.fraction = t.nanos :=
  Nat.div_add_mod' t.nanos nanosPerSecond

/-- A time has at most one leap second, and only after the second 59. -/
theorem leap_cases (t : Instant) :
    t.nanos / nanosPerSecond = 0 ∨ t.nanos / nanosPerSecond = 1 ∧ t.clock.toNat % 60 = 59 := by
  have possible := t.nanos_lt
  simp only [clock, secondsPerDay, nanosPerSecond] at possible ⊢
  omega

/-- A time from the parts of its text. -/
theorem ofText?_of_parts {text : String} {d : Day} {s u v w : List Char} {clock leaps nanos : Nat}
    {offset : Int} {t : Instant} (dayPart : readDay text.toList = some (d, 'T' :: s))
    (clockPart : readClock s = some (clock, leaps, u)) (fraction : readFraction u = some (nanos, v))
    (zone : readOffset (Text.trimLeft v) = some (offset, w)) (ends : Text.trimLeft w = [])
    (point : of? (Calendar.number d * secondsPerDay + clock - offset)
      (leaps * nanosPerSecond + nanos) = some t)
    (inRange : yearInRange t.day.year = true) : ofText? text = some t := by
  refine Option.bind_eq_some_iff.mpr ⟨_, dayPart, ?_⟩
  refine Option.bind_eq_some_iff.mpr ⟨s, rfl, ?_⟩
  refine Option.bind_eq_some_iff.mpr ⟨_, clockPart, ?_⟩
  refine Option.bind_eq_some_iff.mpr ⟨_, fraction, ?_⟩
  refine Option.bind_eq_some_iff.mpr ⟨_, zone, ?_⟩
  refine Option.bind_eq_some_iff.mpr ⟨_, point, ?_⟩
  exact if_pos ⟨ends, inRange⟩

/-- A time is read back from its form in documents. -/
theorem ofText?_documentText {t : Instant} (year : t.FourDigitYear) :
    ofText? t.documentText = some t := by
  obtain ⟨low, high⟩ := year
  have inDay : t.clock.toNat < secondsPerDay := by
    simp only [clock, secondsPerDay]
    omega
  have dayPart : readDay t.documentText.toList = some (t.day, 'T' ::
      (clockText t.clock.toNat (t.nanos / nanosPerSecond) ++
        (fractionText t.fraction ++ ['Z']))) := by
    simp only [documentText, textWith, String.toList_ofList, List.append_assoc, List.cons_append]
    exact readDay_dayText t.valid_day low high _
  refine ofText?_of_parts dayPart (readClock_clockText inDay t.leap_cases _)
    (readFraction_fractionText t.fraction_lt []) (readOffset_zulu []) rfl ?_ ?_
  · rw [sub_zero, number_day, leap_fraction, of?_self]
  · simp only [yearInRange, Bool.and_eq_true, decide_eq_true_eq]
    omega

end Grader.Instant

/-! Points in time and spans of time, exact to the nanosecond. A leap second has no number of its
own: it goes on where the second before it ends, with `10^9` nanoseconds and more. -/
namespace Grader

def nanosPerSecond : Nat := 1000000000

def secondsPerDay : Nat := 86400

/-- Seconds since the start of 1970, negative before it, and the nanoseconds of the second. Only the
last second of a minute can go on as a leap second. -/
structure Instant where
  second : Int
  nanos : Nat
  nanos_lt : nanos < nanosPerSecond ∨ second % 60 = 59 ∧ nanos < 2 * nanosPerSecond
  deriving DecidableEq, Repr

/-- A length of time in nanoseconds. -/
structure Span where
  nanos : Int
  deriving DecidableEq, Repr

def Span.minutes (n : Int) : Span := ⟨n * 60 * nanosPerSecond⟩

instance : LT Span := ⟨fun a b => a.nanos < b.nanos⟩
instance (a b : Span) : Decidable (a < b) := inferInstanceAs (Decidable (a.nanos < b.nanos))

theorem Span.lt_iff (a b : Span) : a < b ↔ a.nanos < b.nanos := Iff.rfl

namespace Instant

/-- The point within a leap second or another one, if there is such a point. -/
def of? (second : Int) (nanos : Nat) : Option Instant :=
  if h : nanos < nanosPerSecond ∨ second % 60 = 59 ∧ nanos < 2 * nanosPerSecond then
    some ⟨second, nanos, h⟩
  else none

theorem of?_self (t : Instant) : of? t.second t.nanos = some t := dif_pos t.nanos_lt

instance : Inhabited Instant := ⟨⟨0, 0, .inl (by decide)⟩⟩

def InLeapSecond (t : Instant) : Prop := nanosPerSecond ≤ t.nanos

instance (t : Instant) : Decidable t.InLeapSecond :=
  inferInstanceAs (Decidable (nanosPerSecond ≤ t.nanos))

/-- Seconds since midnight. -/
def clock (t : Instant) : Int := t.second % secondsPerDay

/-- The nanoseconds past the last full second, the leap second counted as one. -/
def fraction (t : Instant) : Nat := t.nanos % nanosPerSecond

theorem fraction_lt (t : Instant) : t.fraction < nanosPerSecond := Nat.mod_lt _ (by decide)

/-- The point some minutes later, or earlier if there are fewer than none. From within a leap second
the count starts at the same fraction of the second before it to go forwards, and of the second
after it to go backwards. -/
def addMinutes (t : Instant) (n : Int) : Instant :=
  if n = 0 then t
  else ⟨t.second + n * 60 + (if t.InLeapSecond ∧ n < 0 then 1 else 0), t.fraction, .inl t.fraction_lt⟩

/-- What a difference of seconds leaves out. Of two points the one with the earlier clock time may
lie in a leap second, which ends before the other. -/
def leapBetween (t start : Instant) : Int :=
  if start.clock < t.clock ∧ start.InLeapSecond then 1
  else if t.clock < start.clock ∧ t.InLeapSecond then -1
  else 0

/-- The time gone by since another point. Only leap seconds that one of the two lies in count. -/
def since (t start : Instant) : Span :=
  ⟨(t.second - start.second + leapBetween t start) * nanosPerSecond + (t.nanos - start.nanos)⟩

/-- A leap second comes after the second that it belongs to and before the next one. -/
instance : LT Instant :=
  ⟨fun a b => a.second < b.second ∨ a.second = b.second ∧ a.nanos < b.nanos⟩

instance : LE Instant :=
  ⟨fun a b => a.second < b.second ∨ a.second = b.second ∧ a.nanos ≤ b.nanos⟩

instance (a b : Instant) : Decidable (a < b) :=
  inferInstanceAs (Decidable (a.second < b.second ∨ a.second = b.second ∧ a.nanos < b.nanos))

instance (a b : Instant) : Decidable (a ≤ b) :=
  inferInstanceAs (Decidable (a.second < b.second ∨ a.second = b.second ∧ a.nanos ≤ b.nanos))

theorem lt_iff (a b : Instant) :
    a < b ↔ a.second < b.second ∨ a.second = b.second ∧ a.nanos < b.nanos := Iff.rfl

theorem le_iff (a b : Instant) :
    a ≤ b ↔ a.second < b.second ∨ a.second = b.second ∧ a.nanos ≤ b.nanos := Iff.rfl

theorem not_lt_iff (a b : Instant) : ¬a < b ↔ b ≤ a := by
  rw [lt_iff, le_iff]; omega

theorem since_of_ordinary {t start : Instant} (ht : ¬t.InLeapSecond) (hs : ¬start.InLeapSecond) :
    (t.since start).nanos =
      (t.second - start.second) * nanosPerSecond + (t.nanos - start.nanos) := by
  simp [since, leapBetween, ht, hs]

theorem fraction_of_ordinary {t : Instant} (h : ¬t.InLeapSecond) : t.fraction = t.nanos :=
  Nat.mod_eq_of_lt (Nat.lt_of_not_le h)

theorem second_addMinutes_of_ordinary {t : Instant} (h : ¬t.InLeapSecond) (n : Int) :
    (t.addMinutes n).second = t.second + n * 60 := by
  by_cases hn : n = 0
  · simp [addMinutes, hn]
  · simp [addMinutes, hn, h]

theorem nanos_addMinutes_of_ordinary {t : Instant} (h : ¬t.InLeapSecond) (n : Int) :
    (t.addMinutes n).nanos = t.nanos := by
  by_cases hn : n = 0
  · simp [addMinutes, hn]
  · simp [addMinutes, hn, fraction_of_ordinary h]

/-- Outside of leap seconds a point lies after the end of some minutes exactly when more time than
these has gone by. -/
theorem addMinutes_lt_iff {t start : Instant} (ht : ¬t.InLeapSecond) (hs : ¬start.InLeapSecond)
    (n : Int) : start.addMinutes n < t ↔ .minutes n < t.since start := by
  rw [Span.lt_iff, since_of_ordinary ht hs, lt_iff, second_addMinutes_of_ordinary hs,
    nanos_addMinutes_of_ordinary hs]
  simp only [InLeapSecond, nanosPerSecond] at ht hs
  simp only [Span.minutes, nanosPerSecond]
  omega

end Instant

end Grader

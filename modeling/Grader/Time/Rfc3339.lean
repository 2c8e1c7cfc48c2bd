import Grader.Text.Blank
import Grader.Text.Decimal
import Grader.Time.Calendar
import Grader.Time.Instant

/-! Times as text, in the form of RFC 3339. A time is written in UTC with as few groups of three
fraction digits as keep it exact. Reading is lenient: blanks between the parts, numbers with fewer
digits, a space for the `T`, any offset and any number of fraction digits. The second of a leap
second is number 60. -/
namespace Grader.Instant

/-- Four digits; a year outside of four digits has a sign. -/
def yearText (year : Int) : List Char :=
  if 0 ≤ year ∧ year ≤ 9999 then Text.paddedDigits 4 year.toNat
  else (if year < 0 then '-' else '+') :: Text.paddedDigits 4 year.natAbs

def fractionText (nanos : Nat) : List Char :=
  if nanos = 0 then []
  else if nanos % 1000000 = 0 then '.' :: Text.paddedDigits 3 (nanos / 1000000)
  else if nanos % 1000 = 0 then '.' :: Text.paddedDigits 6 (nanos / 1000)
  else '.' :: Text.paddedDigits 9 nanos

/-- The hour, minute and second of a day; `leaps` is 1 in a leap second and else 0. -/
def clockText (second leaps : Nat) : List Char :=
  Text.paddedDigits 2 (second / 3600) ++ ':' :: Text.paddedDigits 2 (second / 60 % 60) ++
    ':' :: Text.paddedDigits 2 (second % 60 + leaps)

def day (t : Instant) : Day := Calendar.ofNumber (t.second / secondsPerDay)

def dayText (d : Day) : List Char :=
  yearText d.year ++ '-' :: Text.paddedDigits 2 d.month ++ '-' :: Text.paddedDigits 2 d.day

def textWith (offset : String) (t : Instant) : String :=
  String.ofList (dayText t.day ++ 'T' :: clockText t.clock.toNat (t.nanos / nanosPerSecond) ++
    fractionText t.fraction ++ offset.toList)

def documentText (t : Instant) : String := t.textWith "Z"

/-- The form in headers, messages and tables, with a numeric offset. -/
def offsetText (t : Instant) : String := t.textWith "+00:00"

def readNumber (width : Nat) (s : List Char) : Option (Nat × List Char) :=
  let s := Text.trimLeft s
  let ds := (s.take width).takeWhile Text.isDigit
  if ds = [] then none else some (Text.digitsValue ds, s.drop ds.length)

/-- A year of up to four digits, or of any number of digits after a sign. -/
def readYear (s : List Char) : Option (Int × List Char) :=
  match Text.trimLeft s with
  | '-' :: s => (unbounded s).map fun (n, s) => (-(n : Int), s)
  | '+' :: s => (unbounded s).map fun (n, s) => ((n : Int), s)
  | s => (readNumber 4 s).map fun (n, s) => ((n : Int), s)
where
  unbounded (s : List Char) : Option (Nat × List Char) :=
    match Text.spanDigits s with
    | ([], _) => none
    | (ds, rest) => some (Text.digitsValue ds, rest)

def readMark (mark : Char) (s : List Char) : Option (List Char) :=
  match Text.trimLeft s with
  | c :: s => if c = mark then some s else none
  | [] => none

def within (low high n : Nat) : Option Unit := if low ≤ n ∧ n ≤ high then some () else none

def readFraction : List Char → Option (Nat × List Char)
  | '.' :: s =>
    match Text.spanDigits s with
    | ([], _) => none
    | (ds, rest) =>
      let ds := ds.take 9
      some (Text.digitsValue ds * Nat.pow 10 (9 - ds.length), rest)
  | s => some (0, s)

/-- An offset in seconds: `Z`, `UTC`, or a sign, two digits of hours and two of minutes with
colons or blanks between them. It is less than a day. -/
def readOffset (s : List Char) : Option (Int × List Char) :=
  match s with
  | 'Z' :: s | 'z' :: s => some (0, s)
  | _ =>
    if (s.take 3).map Char.toUpper = ['U', 'T', 'C'] then some (0, s.drop 3)
    else match s with
      | '+' :: s => amount s
      | '-' :: s | '−' :: s => (amount s).map fun (n, s) => (-n, s)
      | _ => none
where
  amount (s : List Char) : Option (Int × List Char) := do
    let (hours, s) ← pair s
    let (minutes, s) ← pair (s.dropWhile fun c => c = ':' || Text.isBlank c)
    within 0 59 minutes
    within 0 23 hours
    pure (((hours * 3600 + minutes * 60 : Nat) : Int), s)
  pair : List Char → Option (Nat × List Char)
    | a :: b :: s => do pure (10 * (← Text.digitValue? a) + (← Text.digitValue? b), s)
    | _ => none

def yearInRange (year : Int) : Bool := -262143 ≤ year && year ≤ 262142

def readDay (s : List Char) : Option (Day × List Char) := do
  let (year, s) ← readYear s
  let s ← readMark '-' s
  let (month, s) ← readNumber 2 s
  within 1 12 month
  let s ← readMark '-' s
  let (day, s) ← readNumber 2 s
  let d : Day := ⟨year, month, day⟩
  if yearInRange year ∧ d.Valid then pure (d, s) else none

/-- Seconds since midnight and leap seconds among them. The second 60 is the leap second of the
second 59. -/
def readClock (s : List Char) : Option (Nat × Nat × List Char) := do
  let (hour, s) ← readNumber 2 s
  within 0 23 hour
  let s ← readMark ':' s
  let (minute, s) ← readNumber 2 s
  within 0 59 minute
  let s ← readMark ':' s
  let (second, s) ← readNumber 2 s
  within 0 60 second
  let leaps := second / 60
  pure (hour * 3600 + minute * 60 + (second - leaps), leaps, s)

/-- Both the day as written and the day in UTC have a place on the time line. -/
def ofText? (text : String) : Option Instant := do
  let (day, s) ← readDay text.toList
  let s ← match s with
    | 'T' :: s | 't' :: s | ' ' :: s => some s
    | _ => none
  let (clock, leaps, s) ← readClock s
  let (nanos, s) ← readFraction s
  let (offset, s) ← readOffset (Text.trimLeft s)
  let t ← Instant.of? (Calendar.number day * secondsPerDay + clock - offset)
    (leaps * nanosPerSecond + nanos)
  if Text.trimLeft s = [] ∧ yearInRange t.day.year then pure t else none

end Grader.Instant

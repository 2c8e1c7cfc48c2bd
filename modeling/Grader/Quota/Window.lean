import Grader.Quota.Service
import Grader.Time.Instant

/-! Counting within windows of fixed length. A window opens at the first request after the one
before it has ended, and its last moment is the reset time itself. -/
namespace Grader

structure Quota where
  service : Service
  maxRequests : UInt32
  windowMinutes : Int64
  count : UInt32
  startedAt : Instant
  lastRequestAt : Instant
  deriving DecidableEq, Repr

structure Usage where
  service : Service
  remaining : UInt32
  resetAt : Instant
  limit : UInt32
  deriving DecidableEq, Repr

structure Decision where
  allowed : Bool
  usage : Usage
  deriving DecidableEq, Repr

namespace Quota

/-- A quota that nobody has used, with its window open. -/
def new (service : Service) (maxRequests : UInt32) (windowMinutes : Int64) (now : Instant) : Quota :=
  ⟨service, maxRequests, windowMinutes, 0, now, now⟩

def window (q : Quota) : Span := .minutes q.windowMinutes.toInt

def resetAt (q : Quota) : Instant := q.startedAt.addMinutes q.windowMinutes.toInt

def Expired (q : Quota) (now : Instant) : Prop := q.window < now.since q.startedAt

instance (q : Quota) (now : Instant) : Decidable (q.Expired now) :=
  inferInstanceAs (Decidable (q.window < now.since q.startedAt))

def usage (q : Quota) (remaining : UInt32) : Usage :=
  ⟨q.service, remaining, q.resetAt, q.maxRequests⟩

def reopen (q : Quota) (now : Instant) : Quota :=
  if q.Expired now then { q with count := 0, startedAt := now } else q

def check (q : Quota) (now : Instant) : Decision × Quota :=
  let q := q.reopen now
  if q.maxRequests ≤ q.count then (⟨false, q.usage 0⟩, q)
  else
    let q := { q with count := q.count + 1, lastRequestAt := now }
    (⟨true, q.usage (q.maxRequests - q.count)⟩, q)

/-- What is left of a ceiling, nothing where the count is above it. -/
def left (ceiling count : UInt32) : UInt32 := if ceiling ≤ count then 0 else ceiling - count

/-- The usage at a time, without counting anything. A window that has ended leaves the whole
ceiling, and its reset time stays. -/
def peek (q : Quota) (now : Instant) : Usage :=
  q.usage (if q.Expired now then q.maxRequests else left q.maxRequests q.count)

/-- Outside of leap seconds a window has ended exactly when its reset time is past. -/
theorem expired_iff {q : Quota} {now : Instant} (hs : ¬q.startedAt.InLeapSecond)
    (hn : ¬now.InLeapSecond) : q.Expired now ↔ q.resetAt < now :=
  (Instant.addMinutes_lt_iff hn hs q.windowMinutes.toInt).symm

@[simp] theorem reopen_service (q : Quota) (now : Instant) : (q.reopen now).service = q.service := by
  unfold reopen; split <;> rfl

@[simp] theorem check_service (q : Quota) (now : Instant) : (q.check now).2.service = q.service := by
  simp only [check]; split <;> simp

end Grader.Quota

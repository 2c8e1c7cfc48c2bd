import Grader.Quota.Window
import Grader.Store.Table

/-! Limiting the guests of each address. The counts are kept in memory only, and a window that
has ended may be forgotten. -/
namespace Grader

structure GuestWindow where
  count : UInt32
  resetAt : Instant
  deriving DecidableEq, Repr

structure GuestLimiter where
  maxRequests : UInt32
  windowMinutes : Int64
  windows : Table String GuestWindow

namespace GuestLimiter

def new (maxRequests : UInt32) (windowMinutes : Int64) : GuestLimiter :=
  ⟨maxRequests, windowMinutes, .empty⟩

/-- A window that opens now. -/
def opened (l : GuestLimiter) (now : Instant) : GuestWindow :=
  ⟨0, now.addMinutes l.windowMinutes.toInt⟩

/-- The window that a request of an address falls into. -/
def current (l : GuestLimiter) (address : String) (now : Instant) : GuestWindow :=
  match l.windows.get? address with
  | some w => if w.resetAt < now then l.opened now else w
  | none => l.opened now

def check (l : GuestLimiter) (address : String) (now : Instant) : Decision × GuestLimiter :=
  let w := l.current address now
  let allowed := w.count < l.maxRequests
  let w := if allowed then { w with count := w.count + 1 } else w
  (⟨allowed, ⟨.guestCreation, Quota.left l.maxRequests w.count, w.resetAt, l.maxRequests⟩⟩,
    { l with windows := l.windows.put address w })

def tracked (l : GuestLimiter) : Nat := l.windows.entries.length

/-- Forgets the windows that have ended, and tells how many they were. -/
def prune (l : GuestLimiter) (now : Instant) : Nat × GuestLimiter :=
  let kept := l.windows.entries.filter fun e => now ≤ e.2.resetAt
  (l.windows.entries.length - kept.length, { l with windows := ⟨kept⟩ })

end Grader.GuestLimiter

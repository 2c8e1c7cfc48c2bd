import Grader.Proofs.Window
import Grader.Quota.Guest

/-! The guests of each address are limited as by a quota of their own, which starts with the first
check of the address and sees nothing but its checks. No other address counts, and that a window
which has ended is forgotten changes no decision. -/
namespace Grader

namespace Table

def Distinct (t : Table κ α) : Prop := (t.entries.map Prod.fst).Nodup

variable [BEq κ] [LawfulBEq κ]

theorem keys_putEntry (key : κ) (a : α) (es : List (κ × α)) :
    (putEntry key a es).map Prod.fst =
      if key ∈ es.map Prod.fst then es.map Prod.fst else es.map Prod.fst ++ [key] := by
  induction es with
  | nil => simp [putEntry]
  | cons e es ih =>
    by_cases same : key == e.1
    · obtain rfl := eq_of_beq same
      simp [putEntry]
    · have other : key ≠ e.1 := fun eq => same (by simp [eq])
      simp only [putEntry, same, Bool.false_eq_true, if_false, List.map_cons, ih, List.mem_cons,
        other, false_or]
      split <;> rfl

theorem Distinct.put {t : Table κ α} (distinct : t.Distinct) (key : κ) (a : α) :
    (t.put key a).Distinct := by
  show ((putEntry key a t.entries).map Prod.fst).Nodup
  rw [keys_putEntry]
  split
  · exact distinct
  · rename_i new
    refine List.nodup_append.mpr ⟨distinct, by simp, ?_⟩
    rintro k member other single rfl
    exact new (List.mem_singleton.mp single ▸ member)

theorem get?_eq_some_iff {t : Table κ α} (distinct : t.Distinct) (key : κ) (a : α) :
    t.get? key = some a ↔ (key, a) ∈ t.entries := by
  obtain ⟨es⟩ := t
  induction es with
  | nil => simp [get?]
  | cons e es ih =>
    obtain ⟨k, b⟩ := e
    obtain ⟨new, rest⟩ := List.nodup_cons.mp distinct
    have later := ih rest
    simp only [get?, List.lookup_cons, List.mem_cons, Prod.mk.injEq] at *
    by_cases same : key == k
    · obtain rfl := eq_of_beq same
      have absent : (key, a) ∉ es := fun member => new (List.mem_map.mpr ⟨_, member, rfl⟩)
      simp [absent, eq_comm]
    · have other : key ≠ k := fun eq => same (by simp [eq])
      simp only [same, later, other, false_and, false_or]

end Table

namespace Quota

/-- The decisions of checks that follow one another. A refused check leaves its window open. -/
def checks (q : Quota) : List Instant → List Decision
  | [] => []
  | t :: ts => (q.check t).1 :: (q.check t).2.checks ts

def guestWindow (q : Quota) : GuestWindow := ⟨q.count, q.resetAt⟩

end Quota

namespace GuestLimiter

inductive Turn where
  | check (address : String) (now : Instant)
  | prune (now : Instant)

namespace Turn

def now : Turn → Instant
  | .check _ now | .prune now => now

def checkedAt? (address : String) : Turn → Option Instant
  | .check asked now => if asked = address then some now else none
  | .prune _ => none

def take (l : GuestLimiter) : Turn → Option Decision × GuestLimiter
  | .check address now => (some (l.check address now).1, (l.check address now).2)
  | .prune now => (none, (l.prune now).2)

end Turn

def execute : List Turn → GuestLimiter → GuestLimiter
  | [], l => l
  | t :: ts, l => execute ts (t.take l).2

def decisions (address : String) : List Turn → GuestLimiter → List Decision
  | [], _ => []
  | t :: ts, l =>
    (if (t.checkedAt? address).isSome then (t.take l).1.toList else []) ++
      decisions address ts (t.take l).2

/-- The decisions of a quota that starts with the first of its checks. -/
def alone (maxRequests : UInt32) (windowMinutes : Int64) : List Instant → List Decision
  | [] => []
  | t :: ts => (Quota.new .guestCreation maxRequests windowMinutes t).checks (t :: ts)

def Distinct (l : GuestLimiter) : Prop := l.windows.Distinct

theorem new_distinct (maxRequests : UInt32) (windowMinutes : Int64) :
    (new maxRequests windowMinutes).Distinct := List.nodup_nil

theorem Turn.take_maxRequests (t : Turn) (l : GuestLimiter) :
    (t.take l).2.maxRequests = l.maxRequests := by
  cases t <;> rfl

theorem Turn.take_windowMinutes (t : Turn) (l : GuestLimiter) :
    (t.take l).2.windowMinutes = l.windowMinutes := by
  cases t <;> rfl

theorem check_distinct {l : GuestLimiter} (distinct : l.Distinct) (address : String)
    (now : Instant) : (l.check address now).2.Distinct := Table.Distinct.put distinct _ _

theorem Turn.take_distinct {l : GuestLimiter} (distinct : l.Distinct) (t : Turn) :
    (t.take l).2.Distinct := by
  cases t with
  | check address now => exact check_distinct distinct address now
  | prune now => exact distinct.sublist (List.filter_sublist.map _)

theorem execute_distinct {l : GuestLimiter} (distinct : l.Distinct) (schedule : List Turn) :
    (execute schedule l).Distinct := by
  induction schedule generalizing l with
  | nil => exact distinct
  | cons t ts ih => exact ih (t.take_distinct distinct)

theorem prune_removes {l : GuestLimiter} (distinct : l.Distinct) (now : Instant) :
    (l.prune now).1 = l.windows.entries.countP (·.2.resetAt < now) ∧
      ∀ address w, (l.prune now).2.windows.get? address = some w ↔
        l.windows.get? address = some w ∧ ¬w.resetAt < now := by
  constructor
  · have parted := List.length_eq_countP_add_countP
      (fun e : String × GuestWindow => e.2.resetAt < now) (l := l.windows.entries)
    simp only [prune, ← List.countP_eq_length_filter]
    have kept : l.windows.entries.countP (fun e => now ≤ e.2.resetAt) =
        l.windows.entries.countP (fun e => ¬decide (e.2.resetAt < now) = true) := by
      refine List.countP_congr fun e _ => ?_
      simp [Instant.not_lt_iff]
    omega
  · intro address w
    have left : (l.prune now).2.Distinct := (Turn.prune now).take_distinct distinct
    rw [Table.get?_eq_some_iff left, Table.get?_eq_some_iff distinct]
    simp [prune, Instant.not_lt_iff]

/-- What the limiter keeps of an address is told by a quota. It may have forgotten a window that has
ended by some time. -/
structure Follows (address : String) (since : Instant) (q : Quota) (l : GuestLimiter) : Prop where
  service : q.service = .guestCreation
  maxRequests : q.maxRequests = l.maxRequests
  windowMinutes : q.windowMinutes = l.windowMinutes
  ordinary : ¬q.startedAt.InLeapSecond
  window : l.windows.get? address = some q.guestWindow ∨
    l.windows.get? address = none ∧ q.resetAt < since

variable {address : String} {since now : Instant} {q : Quota} {l : GuestLimiter}

theorem guestWindow_reopen (same : q.windowMinutes = l.windowMinutes) :
    (q.reopen now).guestWindow = if q.Expired now then l.opened now else q.guestWindow := by
  unfold Quota.reopen
  split
  · simp only [Quota.guestWindow, Quota.resetAt, opened, same]
  · rfl

/-- A request falls into the window that the quota has then. -/
theorem Follows.current (follows : l.Follows address since q) (later : since ≤ now)
    (ordinary : ¬now.InLeapSecond) : l.current address now = (q.reopen now).guestWindow := by
  have expired := Quota.expired_iff follows.ordinary ordinary
  rw [guestWindow_reopen follows.windowMinutes]
  unfold GuestLimiter.current
  rcases follows.window with kept | ⟨forgotten, ended⟩
  · simp only [kept, expired, Quota.guestWindow]
  · simp only [forgotten, expired, if_pos (Instant.lt_of_lt_of_le ended later)]

theorem current_of_unknown (unknown : l.windows.get? address = none) (now : Instant) :
    let first := Quota.new .guestCreation l.maxRequests l.windowMinutes now
    l.current address now = (first.reopen now).guestWindow := by
  intro first
  rw [guestWindow_reopen rfl]
  unfold GuestLimiter.current
  simp only [unknown]
  split <;> rfl

/-- From the same window the limiter and the quota decide alike. -/
theorem check_eq (service : q.service = .guestCreation) (same : q.maxRequests = l.maxRequests)
    (current : l.current address now = (q.reopen now).guestWindow) :
    l.check address now =
      ((q.check now).1,
        { l with windows := l.windows.put address (q.check now).2.guestWindow }) := by
  unfold GuestLimiter.check
  simp only [current, Quota.guestWindow, ← same]
  by_cases room : (q.reopen now).count < q.maxRequests
  · rw [Quota.check_of_room room]
    simp [room, Quota.left_succ room, Quota.usage, service]
  · have full := UInt32.not_lt.mp room
    rw [Quota.check_of_full full]
    simp [room, Quota.left, full, Quota.usage, service]

/-- From a window that it follows, a check goes on to follow the quota. -/
theorem follows_check (service : q.service = .guestCreation)
    (maxRequests : q.maxRequests = l.maxRequests)
    (windowMinutes : q.windowMinutes = l.windowMinutes) (started : ¬q.startedAt.InLeapSecond)
    (ordinary : ¬now.InLeapSecond) (current : l.current address now = (q.reopen now).guestWindow) :
    (l.check address now).2.Follows address now (q.check now).2 := by
  rw [check_eq service maxRequests current]
  exact
    { service := (q.check_service now).trans service
      maxRequests := (q.check_maxRequests now).trans maxRequests
      windowMinutes := (q.check_windowMinutes now).trans windowMinutes
      ordinary := by
        rcases q.check_startedAt now with ⟨same, _⟩ | ⟨opened, _⟩
        · rwa [same]
        · rwa [opened]
      window := .inl (Table.get?_put_same _ _ _) }

theorem Follows.check (follows : l.Follows address since q) (later : since ≤ now)
    (ordinary : ¬now.InLeapSecond) :
    (l.check address now).1 = (q.check now).1 ∧
      (l.check address now).2.Follows address now (q.check now).2 := by
  have current := follows.current later ordinary
  refine ⟨?_, follows_check follows.service follows.maxRequests follows.windowMinutes
    follows.ordinary ordinary current⟩
  rw [check_eq follows.service follows.maxRequests current]

/-- A turn about another address changes nothing, and one that removes windows only what has ended. -/
theorem Turn.take_other (distinct : l.Distinct) {t : Turn} (other : t.checkedAt? address = none) :
    (t.take l).2.windows.get? address = l.windows.get? address ∨
      (t.take l).2.windows.get? address = none ∧
        ∃ w, l.windows.get? address = some w ∧ w.resetAt < t.now := by
  cases t with
  | check asked now =>
    have differs : address ≠ asked := by
      rintro rfl
      simp [checkedAt?] at other
    exact .inl (Table.get?_put_other _ differs _)
  | prune now =>
    have removes := (prune_removes distinct now).2 address
    cases kept : l.windows.get? address with
    | none =>
      refine .inl (Option.eq_none_iff_forall_ne_some.mpr fun w found => ?_)
      rw [((removes w).mp found).1] at kept
      contradiction
    | some w =>
      by_cases past : w.resetAt < now
      · refine .inr ⟨Option.eq_none_iff_forall_ne_some.mpr fun v found => ?_, w, rfl, past⟩
        obtain ⟨there, lasts⟩ := (removes v).mp found
        obtain rfl := Option.some.inj (kept.symm.trans there)
        exact lasts past
      · exact .inl ((removes w).mpr ⟨kept, past⟩)

theorem Follows.aside (follows : l.Follows address since q) (distinct : l.Distinct) {t : Turn}
    (later : since ≤ t.now) (other : t.checkedAt? address = none) :
    (t.take l).2.Follows address t.now q where
  service := follows.service
  maxRequests := follows.maxRequests.trans (t.take_maxRequests l).symm
  windowMinutes := follows.windowMinutes.trans (t.take_windowMinutes l).symm
  ordinary := follows.ordinary
  window := by
    have ended (before : q.resetAt < since) : q.resetAt < t.now :=
      Instant.lt_of_lt_of_le before later
    rcases Turn.take_other distinct other with same | ⟨gone, w, kept, past⟩
    · rw [same]
      exact follows.window.imp_right (.imp_right ended)
    · refine .inr ⟨gone, ?_⟩
      rcases follows.window with there | ⟨_, before⟩
      · obtain rfl := Option.some.inj (there.symm.trans kept)
        exact past
      · exact ended before

/-- An address that is not kept is not kept after turns about others. -/
theorem unknown_aside (unknown : l.windows.get? address = none) (distinct : l.Distinct) {t : Turn}
    (other : t.checkedAt? address = none) : (t.take l).2.windows.get? address = none := by
  rcases Turn.take_other distinct other with same | ⟨gone, _⟩
  · rw [same, unknown]
  · exact gone

theorem decisions_cons_of_own {t : Turn} (own : t.checkedAt? address = some now)
    (ts : List Turn) (l : GuestLimiter) :
    decisions address (t :: ts) l =
      (l.check address now).1 :: decisions address ts (l.check address now).2 := by
  cases t with
  | check asked time =>
    by_cases same : asked = address
    · obtain rfl := same
      obtain rfl : time = now := by simpa [Turn.checkedAt?] using own
      simp [decisions, Turn.checkedAt?, Turn.take]
    · simp [Turn.checkedAt?, same] at own
  | prune => contradiction

theorem decisions_cons_of_other {t : Turn} (other : t.checkedAt? address = none)
    (ts : List Turn) (l : GuestLimiter) :
    decisions address (t :: ts) l = decisions address ts (t.take l).2 := by
  simp [decisions, other]

theorem Turn.now_of_own {t : Turn} (own : t.checkedAt? address = some now) : t.now = now := by
  cases t with
  | check asked time =>
    simp only [checkedAt?] at own
    split at own
    · exact Option.some.inj own
    · contradiction
  | prune => contradiction

def times (address : String) (schedule : List Turn) : List Instant :=
  schedule.filterMap (Turn.checkedAt? address)

/-- Once the limiter follows a quota it decides like it. -/
theorem decisions_of_follows (follows : l.Follows address since q) (distinct : l.Distinct)
    {schedule : List Turn} (ordered : (since :: schedule.map Turn.now).Pairwise (· ≤ ·))
    (ordinary : ∀ now ∈ times address schedule, ¬now.InLeapSecond) :
    decisions address schedule l = q.checks (times address schedule) := by
  -- The time of the last turn goes along: a window that was forgotten has ended before it.
  induction schedule generalizing l since q with
  | nil => rfl
  | cons t ts ih =>
    obtain ⟨bounds, rest⟩ := List.pairwise_cons.mp ordered
    have later : since ≤ t.now := bounds _ List.mem_cons_self
    unfold times at *
    cases own : t.checkedAt? address with
    | none =>
      rw [List.filterMap_cons_none own] at *
      rw [decisions_cons_of_other own]
      exact ih (follows.aside distinct later own) (t.take_distinct distinct) rest ordinary
    | some now =>
      rw [List.filterMap_cons_some own] at *
      obtain rfl := Turn.now_of_own own
      obtain ⟨same, follows'⟩ := follows.check later (ordinary _ List.mem_cons_self)
      have distinct' := check_distinct distinct address t.now
      have ordinary' : ∀ now ∈ ts.filterMap (Turn.checkedAt? address), ¬now.InLeapSecond :=
        fun now member => ordinary now (List.mem_cons_of_mem _ member)
      rw [decisions_cons_of_own own, same, Quota.checks, ih follows' distinct' rest ordinary']

/-- An address that is not kept is limited as by a quota that starts with its first check. -/
theorem decisions_of_unknown (unknown : l.windows.get? address = none) (distinct : l.Distinct)
    {schedule : List Turn} (ordered : (schedule.map Turn.now).Pairwise (· ≤ ·))
    (ordinary : ∀ now ∈ times address schedule, ¬now.InLeapSecond) :
    decisions address schedule l =
      alone l.maxRequests l.windowMinutes (times address schedule) := by
  induction schedule generalizing l with
  | nil => rfl
  | cons t ts ih =>
    obtain ⟨_, rest⟩ := List.pairwise_cons.mp ordered
    unfold times at *
    cases own : t.checkedAt? address with
    | none =>
      rw [List.filterMap_cons_none own] at *
      rw [decisions_cons_of_other own, ih (unknown_aside unknown distinct own)
        (t.take_distinct distinct) rest ordinary, t.take_maxRequests, t.take_windowMinutes]
    | some now =>
      rw [List.filterMap_cons_some own] at *
      obtain rfl := Turn.now_of_own own
      have opened := current_of_unknown unknown t.now
      have started := ordinary _ List.mem_cons_self
      have follows := follows_check rfl rfl rfl started started opened
      have left := check_distinct distinct address t.now
      rw [decisions_cons_of_own own, decisions_of_follows follows left ordered
        fun now member => ordinary now (List.mem_cons_of_mem _ member)]
      rw [check_eq rfl rfl opened]
      rfl

/-- Whatever else is checked and removed, an address that is not checked within a leap second is
limited as by a quota of its own that starts with its first check. What is removed are the windows
that have ended, each of its own address, and their number is told. -/
theorem guests_limited_alone (maxRequests : UInt32) (windowMinutes : Int64) {schedule : List Turn}
    (ordered : (schedule.map Turn.now).Pairwise (· ≤ ·)) :
    (∀ address, (∀ now ∈ times address schedule, ¬now.InLeapSecond) →
        decisions address schedule (new maxRequests windowMinutes) =
          alone maxRequests windowMinutes (times address schedule)) ∧
      let l := execute schedule (new maxRequests windowMinutes)
      l.Distinct ∧ ∀ now,
        (l.prune now).1 = l.windows.entries.countP (·.2.resetAt < now) ∧
        ∀ address w, (l.prune now).2.windows.get? address = some w ↔
          l.windows.get? address = some w ∧ ¬w.resetAt < now := by
  have distinct := new_distinct maxRequests windowMinutes
  have left := execute_distinct distinct schedule
  exact ⟨fun address => decisions_of_unknown rfl distinct ordered, left, prune_removes left⟩

end GuestLimiter

namespace NewYear

open GuestLimiter

def noon : Instant := ⟨1483185600, 0, .inl (by decide)⟩

def atNoon : List Turn :=
  [.check "10.0.0.1" noon, .check "10.0.0.2" noon, .check "10.0.0.1" (noon.addMinutes 60),
    .prune (noon.addMinutes 61), .check "10.0.0.1" (noon.addMinutes 62)]

theorem guests_limited_at_noon :
    (atNoon.map Turn.now).Pairwise (· ≤ ·) ∧
      (∀ now ∈ times "10.0.0.1" atNoon, ¬now.InLeapSecond) ∧
      decisions "10.0.0.1" atNoon (new 1 60) =
        [⟨true, ⟨.guestCreation, 0, noon.addMinutes 60, 1⟩⟩,
          ⟨false, ⟨.guestCreation, 0, noon.addMinutes 60, 1⟩⟩,
          ⟨true, ⟨.guestCreation, 0, noon.addMinutes 122, 1⟩⟩] := by
  have ordered : (atNoon.map Turn.now).Pairwise (· ≤ ·) := by decide
  have ordinary : ∀ now ∈ times "10.0.0.1" atNoon, ¬now.InLeapSecond := by decide
  refine ⟨ordered, ordinary, ?_⟩
  rw [(guests_limited_alone 1 60 ordered).1 "10.0.0.1" ordinary]
  rfl

def leap : Instant := ⟨1483228799, 1000000000, .inr (by decide)⟩

def hourLater : Instant := ⟨1483232399, 500000000, .inl (by decide)⟩

/-- A window that opens in a leap second is told to end a second early, and the limiter of guests
goes by what it tells. -/
theorem differs_after_leap_second :
    let schedule := [Turn.check "10.0.0.1" leap, .check "10.0.0.1" hourLater]
    (schedule.map Turn.now).Pairwise (· ≤ ·) ∧
      decisions "10.0.0.1" schedule (new 1 60) ≠ alone 1 60 (times "10.0.0.1" schedule) := by
  decide

end NewYear

end Grader

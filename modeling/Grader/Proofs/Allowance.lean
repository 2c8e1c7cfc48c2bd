import Grader.Proofs.Ration

/-! The statistics promise what the gate grants. As many checks at one time are allowed as the
statistics of that time have left for a service, and each of them is told what the statistics report
from then on. -/
namespace Grader

namespace Quota

variable (q : Quota) (now : Instant)

theorem toNat_left (ceiling count : UInt32) :
    (left ceiling count).toNat = ceiling.toNat - count.toNat := by
  unfold left
  split
  · rename_i full
    rw [UInt32.le_iff_toNat_le] at full
    rw [UInt32.toNat_zero]
    omega
  · rename_i room
    exact UInt32.toNat_sub_of_le _ _ (UInt32.le_of_lt (UInt32.not_le.mp room))

/-- What is left is what the window leaves that a check would be counted in. -/
theorem toNat_peek_remaining :
    (q.peek now).remaining.toNat = q.maxRequests.toNat - (q.reopen now).count.toNat := by
  by_cases ended : q.Expired now
  · simp [peek, usage, ended, reopen_of_expired]
  · simp [peek, usage, ended, reopen_of_open, toNat_left]

variable {q now}

theorem peek_of_open (lasts : ¬q.Expired now) :
    q.peek now = q.usage (left q.maxRequests q.count) := by
  rw [peek, if_neg lasts]

/-- While a window lasts a check is told the reset time that the statistics tell. -/
theorem resetAt_peek (lasts : ¬q.Expired now) : (q.peek now).resetAt = (q.reopen now).resetAt := by
  rw [reopen_of_open lasts]
  rfl

theorem reopen_not_expired (forwards : 0 ≤ q.windowMinutes) : ¬(q.reopen now).Expired now := by
  by_cases ended : q.Expired now
  · rw [reopen_of_expired ended]
    exact not_expired_startedAt (q := { q with count := 0, startedAt := now }) forwards
  · rwa [reopen_of_open ended]

/-- What one check makes of a quota, next to what the statistics say before it and after it. -/
structure Honours (q : Quota) (now : Instant) (d : Decision) (after : Quota) : Prop where
  service : after.service = q.service
  window : after.windowMinutes = q.windowMinutes
  allowed : d.allowed = true ↔ 0 < (q.peek now).remaining.toNat
  remaining : d.usage.remaining.toNat = (q.peek now).remaining.toNat - 1
  reported : (after.peek now).remaining = d.usage.remaining
  limit : d.usage.limit = q.maxRequests ∧ after.maxRequests = q.maxRequests
  resetAt : d.usage.resetAt = (q.reopen now).resetAt
  reset : (after.reopen now).resetAt = (q.reopen now).resetAt

theorem check_honours (forwards : 0 ≤ q.windowMinutes) (now : Instant) :
    q.Honours now (q.check now).1 (q.take (.check now)) := by
  have promised := q.toNat_peek_remaining now
  rw [take]
  by_cases full : q.maxRequests ≤ (q.reopen now).count
  · have nothing : (q.peek now).remaining.toNat = 0 := by
      rw [UInt32.le_iff_toNat_le] at full
      omega
    rw [check_of_full full]
    exact {
      service := rfl
      window := rfl
      allowed := by simp [nothing]
      remaining := by simp [usage, nothing]
      reported := UInt32.toNat_inj.mp nothing
      limit := ⟨q.reopen_maxRequests now, rfl⟩
      resetAt := rfl
      reset := rfl }
  · have room : (q.reopen now).count < q.maxRequests := UInt32.not_le.mp full
    have more := toNat_succ_of_lt room
    have below := UInt32.lt_iff_toNat_lt.mp room
    have lasts : ¬((q.reopen now).counted now).Expired now := reopen_not_expired forwards
    rw [check_of_room room, if_pos rfl]
    exact {
      service := by simp
      window := by simp
      allowed := iff_of_true rfl (by omega)
      remaining := by
        have fits : (q.reopen now).count + 1 ≤ q.maxRequests := by
          rw [UInt32.le_iff_toNat_le, more]
          exact below
        simp only [usage]
        rw [promised, UInt32.toNat_sub_of_le _ _ fits, more]
        omega
      reported := by
        rw [peek_of_open lasts]
        simp only [usage, counted_maxRequests, reopen_maxRequests, counted_count]
        exact left_succ room
      limit := ⟨q.reopen_maxRequests now, q.reopen_maxRequests now⟩
      resetAt := rfl
      reset := by rw [reopen_of_open lasts, counted_resetAt] }

structure Becomes (q : Quota) (now : Instant) (count : Nat) (p : Quota) : Prop where
  service : p.service = q.service
  forwards : 0 ≤ p.windowMinutes
  remaining : (p.peek now).remaining.toNat = (q.peek now).remaining.toNat - count
  limit : p.maxRequests = q.maxRequests
  reset : (p.reopen now).resetAt = (q.reopen now).resetAt

theorem Becomes.check {p : Quota} {count : Nat} (becomes : q.Becomes now count p) :
    q.Becomes now (count + 1) (p.take (.check now)) := by
  have honours := p.check_honours becomes.forwards now
  exact {
    service := honours.service.trans becomes.service
    forwards := honours.window ▸ becomes.forwards
    remaining := by
      rw [honours.reported, honours.remaining, becomes.remaining]
      omega
    limit := honours.limit.2.trans becomes.limit
    reset := honours.reset.trans becomes.reset }

end Quota

namespace QuotaRecord

variable {qs : List Quota} {q : Quota}

theorem filter_service (nodup : (qs.map Quota.service).Nodup) (listed : q ∈ qs) :
    qs.filter (·.service = q.service) = [q] := by
  induction qs with
  | nil => contradiction
  | cons p qs ih =>
    obtain ⟨apart, nodup⟩ := List.nodup_cons.mp nodup
    rcases List.mem_cons.mp listed with rfl | later
    · have others : qs.filter (·.service = q.service) = [] := by
        refine List.filter_eq_nil_iff.mpr fun p member same => apart ?_
        exact List.mem_map.mpr ⟨p, member, of_decide_eq_true same⟩
      simp [others]
    · have differ : p.service ≠ q.service := fun same =>
        apart (same ▸ List.mem_map_of_mem later)
      simp [differ, ih nodup later]

theorem find?_service (nodup : (qs.map Quota.service).Nodup) (listed : q ∈ qs) :
    qs.find? (·.service = q.service) = some q := by
  rw [← List.head?_filter, filter_service nodup listed]
  rfl

theorem mem_put (q : Quota) (qs : List Quota) : q ∈ put q qs :=
  List.mem_of_find?_eq_some (find?_put_same q qs)

end QuotaRecord

/-- The store works, and the subject's own record lists a quota and no service twice. -/
structure MemoryStore.Lists (s : MemoryStore) (subject : Subject) (q : Quota) : Prop where
  serves : s.ServesRecords
  record : ∃ r, s.records.get? subject.userId = some r ∧ r.userId = subject.userId ∧
    (r.quotas.map Quota.service).Nodup ∧ q ∈ r.quotas

namespace MemoryStore.Lists

variable {s : MemoryStore} {subject : Subject} {q : Quota} (lists : s.Lists subject q)
include lists

theorem quota? : s.quota? subject.userId q.service = some q := by
  obtain ⟨r, known, -, nodup, listed⟩ := lists.record
  rw [MemoryStore.quota?, known, Option.bind_some, QuotaRecord.find?_service nodup listed]

theorem loaded (now : Instant) : s.opened subject now = s ∧
    (s.recordFor subject now).userId = subject.userId ∧
    ((s.recordFor subject now).quotas.map Quota.service).Nodup ∧
    q ∈ (s.recordFor subject now).quotas := by
  obtain ⟨r, known, kept⟩ := lists.record
  rw [MemoryStore.opened, MemoryStore.recordFor, known, Option.getD_some]
  exact ⟨rfl, kept⟩

end MemoryStore.Lists

namespace Limiter

variable {s : MemoryStore} {subject : Subject} {q : Quota}

/-- The statistics of a time say this of a service and no more, and change nothing. -/
def Reports (s : MemoryStore) (subject : Subject) (service : Service) (now : Instant)
    (u : Usage) : Prop :=
  ∃ us, run (usages subject now) s = (.ok us, s) ∧ us.filter (·.service = service) = [u]

theorem reports_peek (lists : s.Lists subject q) (now : Instant) :
    Reports s subject q.service now (q.peek now) := by
  obtain ⟨stays, -, nodup, listed⟩ := lists.loaded now
  refine ⟨_, by rw [run_usages lists.serves, stays], ?_⟩
  rw [List.filter_map]
  change ((s.recordFor subject now).quotas.filter (·.service = q.service)).map _ = _
  rw [QuotaRecord.filter_service nodup listed, List.map_singleton]

theorem Reports.unique {service : Service} {now : Instant} {u v : Usage}
    (first : Reports s subject service now u) (other : Reports s subject service now v) :
    u = v := by
  obtain ⟨us, ran, told⟩ := first
  obtain ⟨vs, again, said⟩ := other
  obtain rfl : us = vs := Except.ok.inj (Prod.ext_iff.mp (ran.symm.trans again)).1
  exact List.head_eq_of_cons_eq (told.symm.trans said)

/-- A check is answered by the quota that is listed, and what it leaves is listed next. -/
theorem check_lists (lists : s.Lists subject q) (now : Instant) :
    (run (check subject q.service now) s).1 = .ok (q.check now).1 ∧
      (run (check subject q.service now) s).2.Lists subject (q.take (.check now)) := by
  obtain ⟨stays, own, nodup, listed⟩ := lists.loaded now
  rw [run_check lists.serves, stays,
    QuotaRecord.quota?_of_listed (QuotaRecord.find?_service nodup listed)]
  refine ⟨rfl, ?_⟩
  simp only [Quota.take]
  cases allowed : (q.check now).1.allowed with
  | false => exact lists
  | true =>
    simp only [if_true]
    refine ⟨lists.serves.alters (MemoryStore.alters_putRecord s own), _,
      MemoryStore.record?_putRecord s own, own, ?_, QuotaRecord.mem_put _ _⟩
    change ((QuotaRecord.put (q.check now).2 _).map Quota.service).Nodup
    rwa [QuotaRecord.services_put, q.check_service now, if_pos (List.mem_map_of_mem listed)]

def afterChecks (subject : Subject) (service : Service) (now : Instant) (count : Nat)
    (s : MemoryStore) : MemoryStore :=
  execute (List.replicate count (.check subject service now)) s

theorem afterChecks_succ (subject : Subject) (service : Service) (now : Instant) (count : Nat)
    (s : MemoryStore) :
    afterChecks subject service now (count + 1) s =
      (run (check subject service now) (afterChecks subject service now count s)).2 := by
  induction count generalizing s with
  | zero => rfl
  | succ count ih => exact ih _

theorem afterChecks_lists (lists : s.Lists subject q) (forwards : 0 ≤ q.windowMinutes)
    (now : Instant) (count : Nat) :
    ∃ p, (afterChecks subject q.service now count s).Lists subject p ∧ q.Becomes now count p := by
  induction count with
  | zero => exact ⟨q, lists, rfl, forwards, rfl, rfl, rfl⟩
  | succ count ih =>
    obtain ⟨p, listed, becomes⟩ := ih
    have checked := (check_lists listed now).2
    rw [becomes.service, ← afterChecks_succ] at checked
    exact ⟨p.take (.check now), checked, becomes.check⟩

/-- The check that follows so many others at one time, next to the statistics before all of them. -/
structure Grants (s : MemoryStore) (subject : Subject) (service : Service) (now : Instant)
    (u : Usage) (reset : Instant) (count : Nat) (d : Decision) (next : Usage) : Prop where
  decided : (run (check subject service now) (afterChecks subject service now count s)).1 = .ok d
  reported : Reports (afterChecks subject service now (count + 1) s) subject service now next
  allowed : d.allowed = true ↔ count < u.remaining.toNat
  remaining : d.usage.remaining.toNat = u.remaining.toNat - (count + 1)
  agrees : next.remaining = d.usage.remaining
  limit : d.usage.limit = u.limit ∧ next.limit = u.limit
  resetAt : d.usage.resetAt = reset
  lasts : ∀ p, (afterChecks subject service now (count + 1) s).quota? subject.userId service =
    some p → ¬p.Expired now → next.resetAt = reset

end Limiter

namespace Neighbours

open Limiter

def nearlyUsed : Quota := ⟨.codeExecution, 50, 60, 49, default, default⟩

theorem store_lists : store.Lists ada nearlyUsed where
  serves := ⟨rfl, rfl⟩
  record := ⟨record, rfl, rfl, by decide, List.mem_singleton_self nearlyUsed⟩

end Neighbours

end Grader

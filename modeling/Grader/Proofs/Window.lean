import Grader.Quota.Window

/-! What a check does to a quota: it opens a new window if the last has ended, and counts itself if
there is room. -/
namespace Grader

namespace Instant

theorem lt_of_lt_of_le {a b c : Instant} (first : a < b) (next : b ≤ c) : a < c := by
  rw [lt_iff] at *
  rw [le_iff] at next
  omega

end Instant

namespace Quota

variable (q : Quota) (now : Instant)

/-- The quota with one request more. -/
def counted : Quota := { q with count := q.count + 1, lastRequestAt := now }

@[simp] theorem counted_service : (q.counted now).service = q.service := rfl

@[simp] theorem counted_maxRequests : (q.counted now).maxRequests = q.maxRequests := rfl

@[simp] theorem counted_windowMinutes : (q.counted now).windowMinutes = q.windowMinutes := rfl

@[simp] theorem counted_count : (q.counted now).count = q.count + 1 := rfl

@[simp] theorem counted_startedAt : (q.counted now).startedAt = q.startedAt := rfl

@[simp] theorem counted_resetAt : (q.counted now).resetAt = q.resetAt := rfl

@[simp] theorem reopen_maxRequests : (q.reopen now).maxRequests = q.maxRequests := by
  unfold reopen
  split <;> rfl

@[simp] theorem reopen_windowMinutes : (q.reopen now).windowMinutes = q.windowMinutes := by
  unfold reopen
  split <;> rfl

variable {q now}

theorem reopen_of_expired (ended : q.Expired now) :
    q.reopen now = { q with count := 0, startedAt := now } := if_pos ended

theorem reopen_of_open (lasts : ¬q.Expired now) : q.reopen now = q := if_neg lasts

theorem check_of_full (full : q.maxRequests ≤ (q.reopen now).count) :
    q.check now = (⟨false, (q.reopen now).usage 0⟩, q.reopen now) := by
  simp only [check, q.reopen_maxRequests, if_pos full]

theorem check_of_room (room : (q.reopen now).count < q.maxRequests) :
    q.check now =
      (⟨true, ((q.reopen now).counted now).usage (q.maxRequests - ((q.reopen now).count + 1))⟩,
        (q.reopen now).counted now) := by
  have left : ¬q.maxRequests ≤ (q.reopen now).count := UInt32.not_le.mpr room
  simp only [check, q.reopen_maxRequests, if_neg left, counted]

variable (q now)

@[simp] theorem check_maxRequests : (q.check now).2.maxRequests = q.maxRequests := by
  simp only [check]
  split <;> simp

@[simp] theorem check_windowMinutes : (q.check now).2.windowMinutes = q.windowMinutes := by
  simp only [check]
  split <;> simp

/-- A window starts with the check that opens it. -/
theorem check_startedAt :
    (q.check now).2.startedAt = q.startedAt ∧ ¬q.Expired now ∨
      (q.check now).2.startedAt = now ∧ q.Expired now := by
  have same : (q.check now).2.startedAt = (q.reopen now).startedAt := by
    simp only [check]
    split <;> rfl
  rw [same]
  by_cases ended : q.Expired now
  · exact .inr ⟨by rw [reopen_of_expired ended], ended⟩
  · exact .inl ⟨by rw [reopen_of_open ended], ended⟩

theorem toNat_succ_of_lt {count ceiling : UInt32} (room : count < ceiling) :
    (count + 1).toNat = count.toNat + 1 := by
  rw [UInt32.lt_iff_toNat_lt] at room
  have bound := ceiling.toNat_lt
  rw [UInt32.toNat_add, UInt32.toNat_one]
  omega

theorem left_succ {count ceiling : UInt32} (room : count < ceiling) :
    left ceiling (count + 1) = ceiling - (count + 1) := by
  have more := toNat_succ_of_lt room
  rw [UInt32.lt_iff_toNat_lt] at room
  unfold left
  split
  · rename_i last
    rw [UInt32.le_iff_toNat_le, more] at last
    have same : count + 1 = ceiling := UInt32.toNat_inj.mp (by omega)
    rw [same, UInt32.sub_self]
  · rfl

end Quota

end Grader

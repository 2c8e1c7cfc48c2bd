import Grader.Proofs.Limiter

/-! The turns of a limiter on a store that fails. Whatever cannot be read or written leaves the store
as it is, and no request is allowed that was not counted. -/
namespace Grader

namespace Limiter

variable {s : MemoryStore}

theorem run_bind_of_error {call : Call MemoryStore α} {e : LimiterError} {after : MemoryStore}
    (ran : run call s = (.error e, after)) (f : α → Call MemoryStore β) :
    run (call >>= f) s = (.error e, after) := bind_of_error ran f

theorem run_find_of_fault {e : StoreError} (fault : s.fault? .findRecord = some e)
    (userId : String) : run (find userId) s = (.error (.store e), s) := by
  have failed : RecordStore.record? userId s = .error e := by
    simp only [RecordStore.record?, MemoryStore.answer, fault]
  unfold find
  rw [run_bind_of_ok run_get, failed]
  rfl

theorem run_find_of_none (fault : s.fault? .findRecord = none) (userId : String) :
    run (find userId) s = (.ok (s.records.get? userId), s) := by
  have found : RecordStore.record? userId s = .ok (s.records.get? userId) := by
    simp only [RecordStore.record?, MemoryStore.answer, fault]
  unfold find
  rw [run_bind_of_ok run_get, found]
  rfl

theorem run_save_of_fault {e : StoreError} (fault : s.fault? .saveRecord = some e)
    (r : QuotaRecord) : run (save r) s = (.error (.store e), s) := by
  have failed : RecordStore.saveRecord r s = .error e := by
    simp only [RecordStore.saveRecord, MemoryStore.answer, fault]
  unfold save
  rw [run_bind_of_ok run_get, failed]
  rfl

/-- A store that cannot be read answers every turn with its error. -/
theorem Turn.take_of_find_fault {e : StoreError} (fault : s.fault? .findRecord = some e)
    (t : Turn) : (t.take s).2 = s ∧ ∀ d, (t.take s).1 ≠ some (.ok d) := by
  have found (userId : String) := run_find_of_fault fault userId
  have loaded (subject : Subject) (now : Instant) :
      run (load subject now) s = (.error (.store e), s) := run_bind_of_error (found _) _
  cases t with
  | check subject service now =>
    have ran : run (Limiter.check subject service now) s = (.error (.store e), s) :=
      run_bind_of_error (loaded subject now) _
    simp [take, ran]
  | usages subject now =>
    have ran : run (Limiter.usages subject now) s = (.error (.store e), s) :=
      run_bind_of_error (loaded subject now) _
    simp [take, ran]
  | setCeiling userId service ceiling now =>
    have ran : run (Limiter.setCeiling userId service ceiling now) s = (.error (.store e), s) :=
      run_bind_of_error (found _) _
    simp [take, ran]

section ReadOnly

variable {e : StoreError} (readable : s.fault? .findRecord = none)
  (fault : s.fault? .saveRecord = some e)
include readable fault

theorem run_load_of_save_fault (subject : Subject) (now : Instant) :
    run (load subject now) s =
      match s.records.get? subject.userId with
      | some r => (.ok r, s)
      | none => (.error (.store e), s) := by
  unfold load
  rw [run_bind_of_ok (run_find_of_none readable subject.userId)]
  cases s.records.get? subject.userId with
  | some r => rfl
  | none => exact run_bind_of_error (run_save_of_fault fault _) _

theorem run_check_of_save_fault (subject : Subject) (service : Service) (now : Instant) :
    (run (check subject service now) s).2 = s ∧ ∀ d, (run (check subject service now) s).1 = .ok d →
      d.allowed = false ∧ ∃ r q, s.records.get? subject.userId = some r ∧
        r.quota? service subject.isAdmin now = some q ∧ d = (q.check now).1 := by
  have loaded := run_load_of_save_fault readable fault subject now
  unfold check
  cases known : s.records.get? subject.userId with
  | none =>
    rw [known] at loaded
    rw [run_bind_of_error loaded]
    exact ⟨rfl, nofun⟩
  | some r =>
    rw [known] at loaded
    rw [run_bind_of_ok loaded]
    cases listed : r.quota? service subject.isAdmin now with
    | none => exact ⟨rfl, nofun⟩
    | some q =>
      simp only
      cases allowed : (q.check now).1.allowed with
      | true =>
        rw [if_pos rfl, run_bind_of_error (run_save_of_fault fault _)]
        exact ⟨rfl, nofun⟩
      | false =>
        refine ⟨rfl, fun d same => ?_⟩
        obtain rfl := Except.ok.inj same
        exact ⟨allowed, r, q, rfl, listed, rfl⟩

theorem run_setCeiling_of_save_fault (userId : String) (service : Service) (ceiling : UInt32)
    (now : Instant) : (run (setCeiling userId service ceiling now) s).2 = s := by
  unfold setCeiling
  rw [run_bind_of_ok (run_find_of_none readable userId)]
  cases s.records.get? userId with
  | none => rfl
  | some r =>
    simp only
    cases r.quota? service r.isAdmin now with
    | none => rfl
    | some q =>
      simp only
      rw [run_bind_of_error (run_save_of_fault fault _)]

/-- A store that cannot be written stays, and a check that it answers is refused. -/
theorem Turn.take_of_save_fault (t : Turn) :
    (t.take s).2 = s ∧ ∀ d, (t.take s).1 = some (.ok d) →
      d.allowed = false ∧ t.answer? (s.records.get? t.userId) = some (.ok d) := by
  cases t with
  | check subject service now =>
    obtain ⟨stays, refused⟩ := run_check_of_save_fault readable fault subject service now
    refine ⟨stays, fun d answered => ?_⟩
    obtain ⟨refused, r, q, known, listed, rfl⟩ := refused d (Option.some.inj answered)
    refine ⟨refused, ?_⟩
    simp only [answer?, userId, known, Option.getD_some, listed]
  | usages subject now =>
    refine ⟨?_, by simp [take]⟩
    have loaded := run_load_of_save_fault readable fault subject now
    simp only [take, Limiter.usages]
    cases known : s.records.get? subject.userId with
    | none =>
      rw [known] at loaded
      rw [run_bind_of_error loaded]
    | some r =>
      rw [known] at loaded
      rw [run_bind_of_ok loaded]
      rfl
  | setCeiling userId service ceiling now =>
    exact ⟨run_setCeiling_of_save_fault readable fault userId service ceiling now, by simp [take]⟩

end ReadOnly

/-- Where the store fails a turn changes nothing, and a check that it answers all the same is
refused as it would be anyway. -/
theorem Turn.take_of_fault (unserved : ¬s.ServesRecords) (t : Turn) :
    (t.take s).2 = s ∧ ∀ d, (t.take s).1 = some (.ok d) →
      d.allowed = false ∧ t.answer? (s.records.get? t.userId) = some (.ok d) := by
  cases find : s.fault? .findRecord with
  | some e =>
    obtain ⟨stays, failed⟩ := take_of_find_fault find t
    exact ⟨stays, fun d answered => absurd answered (failed d)⟩
  | none =>
    cases save : s.fault? .saveRecord with
    | some e => exact take_of_save_fault find save t
    | none => exact absurd ⟨find, save⟩ unserved

end Limiter
end Grader

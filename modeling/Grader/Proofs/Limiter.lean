import Grader.Proofs.Store
import Grader.Quota.Limiter

/-! The turns of a limiter on a store that does not fail. A turn reads and writes the record of its
own user and no other, and what it does is told by that record alone. -/
namespace Grader

namespace MemoryStore

/-- Records can be read and written. -/
structure ServesRecords (s : MemoryStore) : Prop where
  find : s.fault? .findRecord = none
  save : s.fault? .saveRecord = none

/-- The stores differ in the record of one user at most. -/
structure Alters (userId : String) (a b : MemoryStore) : Prop where
  fault? : b.fault? = a.fault?
  others : ∀ other, other ≠ userId → b.records.get? other = a.records.get? other

theorem Alters.refl (s : MemoryStore) (userId : String) : s.Alters userId s := ⟨rfl, fun _ _ => rfl⟩

theorem Alters.trans {a b c : MemoryStore} {userId : String} (first : a.Alters userId b)
    (next : b.Alters userId c) : a.Alters userId c :=
  ⟨next.fault?.trans first.fault?,
    fun other differs => (next.others other differs).trans (first.others other differs)⟩

theorem ServesRecords.alters {a b : MemoryStore} {userId : String} (serves : a.ServesRecords)
    (alters : a.Alters userId b) : b.ServesRecords :=
  ⟨(congrFun alters.fault? _).trans serves.find, (congrFun alters.fault? _).trans serves.save⟩

def putRecord (s : MemoryStore) (r : QuotaRecord) : MemoryStore :=
  { s with records := s.records.put r.userId r }

theorem record?_putRecord (s : MemoryStore) {r : QuotaRecord} {userId : String}
    (own : r.userId = userId) : (s.putRecord r).records.get? userId = some r := by
  obtain rfl := own
  exact Table.get?_put_same _ _ _

theorem alters_putRecord (s : MemoryStore) {r : QuotaRecord} {userId : String}
    (own : r.userId = userId) : s.Alters userId (s.putRecord r) := by
  obtain rfl := own
  exact ⟨rfl, fun other differs => Table.get?_put_other _ differs _⟩

/-- The record that a subject's request is counted in. -/
def recordFor (s : MemoryStore) (subject : Subject) (now : Instant) : QuotaRecord :=
  (s.records.get? subject.userId).getD (.new subject now)

/-- The store once that record is there. -/
def opened (s : MemoryStore) (subject : Subject) (now : Instant) : MemoryStore :=
  match s.records.get? subject.userId with
  | some _ => s
  | none => s.putRecord (.new subject now)

theorem record?_opened (s : MemoryStore) (subject : Subject) (now : Instant) :
    (s.opened subject now).records.get? subject.userId = some (s.recordFor subject now) := by
  unfold opened recordFor
  cases found : s.records.get? subject.userId with
  | some r => exact found
  | none => exact record?_putRecord s rfl

theorem alters_opened (s : MemoryStore) (subject : Subject) (now : Instant) :
    s.Alters subject.userId (s.opened subject now) := by
  unfold opened
  split
  · exact .refl s _
  · exact alters_putRecord s rfl

end MemoryStore

namespace QuotaRecord

/-- No service is listed twice, and the one that is limited for each address is not listed. -/
structure WellKept (r : QuotaRecord) : Prop where
  nodup : (r.quotas.map Quota.service).Nodup
  noGuests : .guestCreation ∉ r.quotas.map Quota.service

theorem services_defaults (isAdmin : Bool) (now : Instant) :
    (defaults isAdmin now).map Quota.service = Service.ceilings.map Prod.fst := rfl

theorem new_wellKept (subject : Subject) (now : Instant) : (new subject now).WellKept := by
  constructor
  · show ((defaults subject.isAdmin now).map Quota.service).Nodup
    rw [services_defaults]
    decide
  · show _ ∉ (defaults subject.isAdmin now).map Quota.service
    rw [services_defaults]
    decide

/-- What a request finds or creates is well kept. -/
theorem wellKept_getD {r? : Option QuotaRecord} (kept : ∀ r ∈ r?, r.WellKept) (subject : Subject)
    (now : Instant) : (r?.getD (new subject now)).WellKept := by
  cases r? with
  | none => exact new_wellKept subject now
  | some r => exact kept r rfl

theorem services_put (q : Quota) (qs : List Quota) :
    (put q qs).map Quota.service =
      if q.service ∈ qs.map Quota.service then qs.map Quota.service
      else qs.map Quota.service ++ [q.service] := by
  induction qs with
  | nil => simp [put]
  | cons p ps ih =>
    by_cases same : p.service = q.service
    · simp [put, same]
    · simp only [put, if_neg same, List.map_cons, ih, List.mem_cons, Ne.symm same, false_or]
      split <;> rfl

theorem WellKept.withQuota {r : QuotaRecord} (kept : r.WellKept) (q : Quota)
    (limited : q.service ≠ .guestCreation) (now : Instant) : (r.withQuota q now).WellKept := by
  have services := services_put q r.quotas
  constructor
  · show ((put q r.quotas).map Quota.service).Nodup
    rw [services]
    split
    · exact kept.nodup
    · rename_i new
      refine List.nodup_append.mpr ⟨kept.nodup, by simp, ?_⟩
      rintro service member other single rfl
      exact new (List.mem_singleton.mp single ▸ member)
  · show _ ∉ (put q r.quotas).map Quota.service
    rw [services]
    split
    · exact kept.noGuests
    · intro member
      rcases List.mem_append.mp member with old | new
      · exact kept.noGuests old
      · exact limited (List.mem_singleton.mp new).symm

theorem quota?_service {r : QuotaRecord} {service : Service} {isAdmin : Bool} {now : Instant}
    {q : Quota} (found : r.quota? service isAdmin now = some q) : q.service = service := by
  unfold quota? at found
  split at found
  · rename_i listed
    obtain rfl := Option.some.inj found
    simpa using List.find?_some listed
  · simpa using List.find?_some found

theorem WellKept.quota?_guestCreation {r : QuotaRecord} (kept : r.WellKept) (isAdmin : Bool)
    (now : Instant) : r.quota? .guestCreation isAdmin now = none := by
  have unlisted (qs : List Quota) (noGuests : .guestCreation ∉ qs.map Quota.service) :
      qs.find? (·.service = .guestCreation) = none := by
    refine List.find?_eq_none.mpr fun q member guests => noGuests ?_
    exact List.mem_map.mpr ⟨q, member, of_decide_eq_true guests⟩
  unfold quota?
  rw [unlisted r.quotas kept.noGuests]
  exact unlisted _ (new_wellKept ⟨r.userId, r.username, isAdmin⟩ now).noGuests

end QuotaRecord

/-- The record of a subject is the subject's own. -/
theorem Table.Keyed.recordFor {s : MemoryStore} (keyed : s.records.Keyed QuotaRecord.userId)
    (subject : Subject) (now : Instant) : (s.recordFor subject now).userId = subject.userId := by
  unfold MemoryStore.recordFor
  cases found : s.records.get? subject.userId with
  | none => rfl
  | some r => exact keyed _ r found

namespace Limiter

section AnyStore

variable {σ : Type} {call : Call σ α} {s t : σ}

theorem bind_of_ok {a : α} (ran : call.run.run s = (.ok a, t)) (f : α → Call σ β) :
    (call >>= f).run.run s = (f a).run.run t := by
  have bound : (call >>= f).run.run s =
      (ExceptT.bindCont f (call.run.run s).1).run (call.run.run s).2 := rfl
  rw [bound, ran]
  rfl

theorem bind_of_error {e : LimiterError} (ran : call.run.run s = (.error e, t))
    (f : α → Call σ β) : (call >>= f).run.run s = (.error e, t) := by
  have bound : (call >>= f).run.run s =
      (ExceptT.bindCont f (call.run.run s).1).run (call.run.run s).2 := rfl
  rw [bound, ran]
  rfl

theorem bind_get (f : σ → Call σ β) : ((get : Call σ σ) >>= f).run.run s = (f s).run.run s :=
  bind_of_ok rfl f

end AnyStore

variable {s : MemoryStore}

/-- How a call ends, and the store that it leaves. -/
def run (call : Call MemoryStore α) (s : MemoryStore) : Except LimiterError α × MemoryStore :=
  StateT.run (ExceptT.run call) s

theorem run_bind_of_ok {call : Call MemoryStore α} {a : α} {after : MemoryStore}
    (ran : run call s = (.ok a, after)) (f : α → Call MemoryStore β) :
    run (call >>= f) s = run (f a) after := bind_of_ok ran f

theorem run_get : run (get : Call MemoryStore MemoryStore) s = (.ok s, s) := rfl

section Calls

variable (serves : s.ServesRecords)
include serves

theorem run_find (userId : String) : run (find userId) s = (.ok (s.records.get? userId), s) := by
  have found : RecordStore.record? userId s = .ok (s.records.get? userId) := by
    simp only [RecordStore.record?, MemoryStore.answer, serves.find]
  unfold find
  rw [run_bind_of_ok run_get, found]
  rfl

theorem run_save (r : QuotaRecord) : run (save r) s = (.ok (), s.putRecord r) := by
  have saved : RecordStore.saveRecord r s = .ok (s.putRecord r) := by
    simp only [RecordStore.saveRecord, MemoryStore.answer, serves.save]
    rfl
  unfold save
  rw [run_bind_of_ok run_get, saved]
  rfl

theorem run_load (subject : Subject) (now : Instant) :
    run (load subject now) s = (.ok (s.recordFor subject now), s.opened subject now) := by
  unfold load
  rw [run_bind_of_ok (run_find serves subject.userId)]
  unfold MemoryStore.recordFor MemoryStore.opened
  cases s.records.get? subject.userId with
  | some r => rfl
  | none => exact run_bind_of_ok (run_save serves (.new subject now)) _

theorem run_check (subject : Subject) (service : Service) (now : Instant) :
    run (check subject service now) s =
      match (s.recordFor subject now).quota? service subject.isAdmin now with
      | none => (.error (.unknownService service), s.opened subject now)
      | some q => (.ok (q.check now).1,
          if (q.check now).1.allowed then
            (s.opened subject now).putRecord ((s.recordFor subject now).withQuota (q.check now).2 now)
          else s.opened subject now) := by
  unfold check
  rw [run_bind_of_ok (run_load serves subject now)]
  cases (s.recordFor subject now).quota? service subject.isAdmin now with
  | none => rfl
  | some q =>
    simp only
    cases allowed : (q.check now).1.allowed with
    | true => exact run_bind_of_ok (run_save (serves.alters (s.alters_opened subject now)) _) _
    | false => rfl

theorem run_usages (subject : Subject) (now : Instant) :
    run (usages subject now) s =
      (.ok ((s.recordFor subject now).quotas.map (·.peek now)), s.opened subject now) :=
  run_bind_of_ok (run_load serves subject now) _

theorem run_setCeiling (userId : String) (service : Service) (ceiling : UInt32) (now : Instant) :
    run (setCeiling userId service ceiling now) s =
      match s.records.get? userId with
      | none => (.error (.unknownUser userId), s)
      | some r =>
        match r.quota? service r.isAdmin now with
        | none => (.error (.unknownService service), s)
        | some q => (.ok { q with maxRequests := ceiling },
            s.putRecord (r.withQuota { q with maxRequests := ceiling } now)) := by
  unfold setCeiling
  rw [run_bind_of_ok (run_find serves userId)]
  cases s.records.get? userId with
  | none => rfl
  | some r =>
    simp only
    cases r.quota? service r.isAdmin now with
    | none => rfl
    | some q => exact run_bind_of_ok (run_save serves _) _

end Calls

/-- A call at its time. -/
inductive Turn where
  | check (subject : Subject) (service : Service) (now : Instant)
  | usages (subject : Subject) (now : Instant)
  | setCeiling (userId : String) (service : Service) (ceiling : UInt32) (now : Instant)

namespace Turn

/-- The user that a turn is about. -/
def userId : Turn → String
  | .check subject _ _ | .usages subject _ => subject.userId
  | .setCeiling userId _ _ _ => userId

/-- The answer to a check, and the store after any turn. -/
def take (s : MemoryStore) : Turn → Option (Except LimiterError Decision) × MemoryStore
  | .check subject service now =>
    (some (run (Limiter.check subject service now) s).1, (run (Limiter.check subject service now) s).2)
  | .usages subject now => (none, (run (Limiter.usages subject now) s).2)
  | .setCeiling userId service ceiling now =>
    (none, (run (Limiter.setCeiling userId service ceiling now) s).2)

/-- What a turn makes of the record of its user. -/
def record? (r? : Option QuotaRecord) : Turn → Option QuotaRecord
  | .check subject service now =>
    let r := r?.getD (.new subject now)
    match r.quota? service subject.isAdmin now with
    | none => some r
    | some q =>
      some (if (q.check now).1.allowed then r.withQuota (q.check now).2 now else r)
  | .usages subject now => some (r?.getD (.new subject now))
  | .setCeiling _ service ceiling now =>
    r?.map fun r =>
      match r.quota? service r.isAdmin now with
      | none => r
      | some q => r.withQuota { q with maxRequests := ceiling } now

/-- The answer to a check by the record of its user. -/
def answer? (r? : Option QuotaRecord) : Turn → Option (Except LimiterError Decision)
  | .check subject service now =>
    match (r?.getD (.new subject now)).quota? service subject.isAdmin now with
    | none => some (.error (.unknownService service))
    | some q => some (.ok (q.check now).1)
  | .usages _ _ | .setCeiling _ _ _ _ => none

theorem take_answer (serves : s.ServesRecords) (t : Turn) :
    (t.take s).1 = t.answer? (s.records.get? t.userId) := by
  cases t with
  | check subject service now =>
    simp only [take, answer?, userId, run_check serves, MemoryStore.recordFor]
    split <;> rfl
  | usages | setCeiling => rfl

/-- A turn changes the record of its user at most. -/
theorem take_alters (serves : s.ServesRecords) (keyed : s.records.Keyed QuotaRecord.userId)
    (t : Turn) : s.Alters t.userId (t.take s).2 := by
  cases t with
  | check subject service now =>
    have own := keyed.recordFor subject now
    have opened := s.alters_opened subject now
    simp only [take, run_check serves]
    split
    · exact opened
    · simp only
      split
      · exact opened.trans (MemoryStore.alters_putRecord _ own)
      · exact opened
  | usages subject now =>
    simp only [take, run_usages serves]
    exact s.alters_opened subject now
  | setCeiling userId service ceiling now =>
    simp only [take, run_setCeiling serves]
    split
    · exact .refl s userId
    · rename_i r found
      split
      · exact .refl s userId
      · exact MemoryStore.alters_putRecord s (keyed userId r found)

theorem take_record (serves : s.ServesRecords) (keyed : s.records.Keyed QuotaRecord.userId)
    (t : Turn) : (t.take s).2.records.get? t.userId = t.record? (s.records.get? t.userId) := by
  cases t with
  | check subject service now =>
    have opened := s.record?_opened subject now
    have own := keyed.recordFor subject now
    simp only [take, run_check serves]
    change _ = match (s.recordFor subject now).quota? service subject.isAdmin now with
      | none => some (s.recordFor subject now)
      | some q => some (if (q.check now).1.allowed then
          (s.recordFor subject now).withQuota (q.check now).2 now else s.recordFor subject now)
    cases (s.recordFor subject now).quota? service subject.isAdmin now with
    | none => exact opened
    | some q =>
      simp only
      split
      · exact MemoryStore.record?_putRecord _ own
      · exact opened
  | usages subject now =>
    simp only [take, run_usages serves]
    exact s.record?_opened subject now
  | setCeiling userId service ceiling now =>
    simp only [take, run_setCeiling serves]
    show _ = (s.records.get? userId).map _
    cases found : s.records.get? userId with
    | none => exact found
    | some r =>
      simp only [Option.map_some]
      split
      · exact found
      · exact MemoryStore.record?_putRecord s (keyed userId r found)

theorem record?_userId {r? : Option QuotaRecord} {t : Turn}
    (own : ∀ r ∈ r?, r.userId = t.userId) : ∀ r ∈ t.record? r?, r.userId = t.userId := by
  have opened (subject : Subject) (now : Instant) (same : t.userId = subject.userId) :
      (r?.getD (.new subject now)).userId = t.userId := by
    cases r? with
    | none => exact same.symm
    | some r => exact own r rfl
  intro r member
  cases t with
  | check subject service now =>
    have opened := opened subject now rfl
    simp only [record?] at member
    split at member
    · obtain rfl := Option.some.inj member
      exact opened
    · obtain rfl := Option.some.inj member
      split <;> exact opened
  | usages subject now =>
    obtain rfl := Option.some.inj member
    exact opened subject now rfl
  | setCeiling userId service ceiling now =>
    obtain ⟨r', there, rfl⟩ := Option.map_eq_some_iff.mp member
    split <;> exact own r' there

theorem record?_wellKept {r? : Option QuotaRecord} (kept : ∀ r ∈ r?, r.WellKept) (t : Turn) :
    ∀ r ∈ t.record? r?, r.WellKept := by
  have limited {r : QuotaRecord} (kept : r.WellKept) {service : Service} {isAdmin : Bool}
      {now : Instant} {q : Quota} (found : r.quota? service isAdmin now = some q) :
      q.service ≠ .guestCreation := by
    rw [QuotaRecord.quota?_service found]
    rintro rfl
    rw [kept.quota?_guestCreation] at found
    contradiction
  intro r member
  cases t with
  | check subject service now =>
    have opened := QuotaRecord.wellKept_getD kept subject now
    simp only [record?] at member
    split at member
    · obtain rfl := Option.some.inj member
      exact opened
    · rename_i q found
      obtain rfl := Option.some.inj member
      split
      · refine opened.withQuota _ ?_ now
        rw [Quota.check_service]
        exact limited opened found
      · exact opened
  | usages subject now =>
    obtain rfl := Option.some.inj member
    exact QuotaRecord.wellKept_getD kept subject now
  | setCeiling userId service ceiling now =>
    obtain ⟨r', there, rfl⟩ := Option.map_eq_some_iff.mp member
    split
    · exact kept r' there
    · rename_i q found
      have limited : q.service ≠ .guestCreation := limited (kept r' there) found
      exact (kept r' there).withQuota { q with maxRequests := ceiling } limited now

end Turn

end Limiter

/-- Each record is kept under its own user, and is well kept itself. -/
structure MemoryStore.WellKept (s : MemoryStore) : Prop where
  keyed : s.records.Keyed QuotaRecord.userId
  records : ∀ userId r, s.records.get? userId = some r → r.WellKept

theorem Limiter.Turn.take_wellKept {s : MemoryStore} (serves : s.ServesRecords)
    (kept : s.WellKept) (t : Turn) : (t.take s).2.WellKept := by
  have own := take_record serves kept.keyed t
  have others := (take_alters serves kept.keyed t).others
  constructor
  · intro userId r found
    by_cases same : userId = t.userId
    · obtain rfl := same
      rw [own] at found
      exact record?_userId (kept.keyed t.userId) r found
    · rw [others userId same] at found
      exact kept.keyed userId r found
  · intro userId r found
    by_cases same : userId = t.userId
    · obtain rfl := same
      rw [own] at found
      exact record?_wellKept (kept.records t.userId) t r found
    · rw [others userId same] at found
      exact kept.records userId r found

end Grader

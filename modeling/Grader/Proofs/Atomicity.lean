import Grader.Proofs.Admission
import Grader.Proofs.Limiter

/-! What a call of the limiter leaves behind on a store whose operations may fail one by one. A
check is allowed only once it is counted in the store, and a call that fails or refuses has at most
created the record of a user who had none. -/
namespace Grader

namespace QuotaRecord

variable {r : QuotaRecord} {service : Service} {isAdmin : Bool} {now : Instant} {q changed : Quota}

/-- The quotas of a record after one of them has changed: the first one of its service, or one from
the defaults of a role where the record has none of the service. -/
inductive Changes (r : QuotaRecord) (service : Service) (isAdmin : Bool) (now : Instant)
    (q changed : Quota) : List Quota → Prop where
  | listed (before after : List Quota) (listed : r.quotas = before ++ q :: after)
      (own : q.service = service) (first : ∀ p ∈ before, p.service ≠ service) :
      Changes r service isAdmin now q changed (before ++ changed :: after)
  | added (unlisted : ∀ p ∈ r.quotas, p.service ≠ service)
      (fresh : q ∈ defaults isAdmin now) (own : q.service = service) :
      Changes r service isAdmin now q changed (r.quotas ++ [changed])

theorem put_listed {p : Quota} {before after : List Quota} (same : p.service = q.service)
    (first : ∀ p ∈ before, p.service ≠ q.service) :
    put q (before ++ p :: after) = before ++ q :: after := by
  induction before with
  | nil => simp [put, same]
  | cons b before ih =>
    have other := first b List.mem_cons_self
    simp only [List.cons_append, put, other, if_false]
    rw [ih fun p member => first p (List.mem_cons_of_mem b member)]

theorem put_unlisted {qs : List Quota} (unlisted : ∀ p ∈ qs, p.service ≠ q.service) :
    put q qs = qs ++ [q] := by
  induction qs with
  | nil => rfl
  | cons p qs ih =>
    have other := unlisted p List.mem_cons_self
    simp only [List.cons_append, put, other, if_false]
    rw [ih fun p member => unlisted p (List.mem_cons_of_mem _ member)]

theorem changes_put (found : r.quota? service isAdmin now = some q)
    (same : changed.service = q.service) :
    r.Changes service isAdmin now q changed (put changed r.quotas) := by
  unfold quota? at found
  split at found
  · rename_i listed
    obtain rfl := Option.some.inj found
    obtain ⟨own, before, after, split, first⟩ := List.find?_eq_some_iff_append.mp listed
    simp only [decide_eq_true_eq, Bool.not_eq_eq_eq_not, Bool.not_true, decide_eq_false_iff_not]
      at own first
    rw [split, put_listed (same.symm) (by rwa [same, own])]
    exact .listed before after split own first
  · rename_i unlisted
    have own : q.service = service := by simpa using List.find?_some found
    have unlisted : ∀ p ∈ r.quotas, p.service ≠ service := by simpa using unlisted
    rw [put_unlisted (by rwa [same, own])]
    exact .added unlisted (List.mem_of_find?_eq_some found) own

theorem new_count (subject : Subject) (now : Instant) :
    ∀ q ∈ (new subject now).quotas, q.count = 0 := by
  intro q member
  obtain ⟨_, -, rfl⟩ := List.mem_map.mp member
  rfl

end QuotaRecord

theorem Quota.check_count {q : Quota} {now : Instant} (allowed : (q.check now).1.allowed = true) :
    (q.check now).2.count.toNat = (if q.Expired now then 0 else q.count.toNat) + 1 := by
  have room := check_room allowed
  rw [check_of_room room, counted_count, toNat_succ_of_lt room]
  by_cases ended : q.Expired now
  · simp [reopen_of_expired ended, ended]
  · simp [reopen_of_open ended, ended]

/-- The records that a store holds. An operation that does not fail finds what is held, or puts a
record in its place and leaves all others. -/
structure RecordView (σ : Type) [RecordStore σ] where
  record? : σ → String → Option QuotaRecord
  found : ∀ {userId s r?}, RecordStore.record? userId s = .ok r? → r? = record? s userId
  saved : ∀ {r s t}, RecordStore.saveRecord r s = .ok t →
    ∀ userId, record? t userId = if userId = r.userId then some r else record? s userId

def MemoryStore.recordView : RecordView MemoryStore where
  record? s userId := s.records.get? userId
  found {userId s r?} ran := by
    simp only [RecordStore.record?, answer] at ran
    split at ran
    · contradiction
    · exact (Except.ok.inj ran).symm
  saved {r s t} ran userId := by
    simp only [RecordStore.saveRecord, answer] at ran
    split at ran
    · contradiction
    · obtain rfl := Except.ok.inj ran
      simp [Table.get?_put]

namespace RecordView

variable {σ : Type} [RecordStore σ] (v : RecordView σ)

def Puts (r : QuotaRecord) (s t : σ) : Prop :=
  ∀ userId, v.record? t userId = if userId = r.userId then some r else v.record? s userId

/-- Nothing has happened, or the record of a user who had none was created, with nothing counted. -/
def Spares (subject : Subject) (now : Instant) (s t : σ) : Prop :=
  v.record? t = v.record? s ∨
    v.record? s subject.userId = none ∧ v.Puts (.new subject now) s t ∧
      ∀ q ∈ (QuotaRecord.new subject now).quotas, q.count = 0

def recordFor (s : σ) (subject : Subject) (now : Instant) : QuotaRecord :=
  (v.record? s subject.userId).getD (.new subject now)

def Loads (subject : Subject) (now : Instant) (s t : σ) : Prop :=
  v.record? s subject.userId = some (v.recordFor s subject now) ∧ t = s ∨
    v.record? s subject.userId = none ∧ v.Puts (v.recordFor s subject now) s t

variable {v} {subject : Subject} {now : Instant} {r r' : QuotaRecord} {s t u : σ}

theorem Puts.again (first : v.Puts r s t) (next : v.Puts r' t u) (same : r'.userId = r.userId) :
    v.Puts r' s u := by
  intro userId
  rw [next userId, first userId, same]
  split <;> rfl

theorem Loads.spares (loads : v.Loads subject now s t) : v.Spares subject now s t := by
  rcases loads with ⟨-, rfl⟩ | ⟨none, puts⟩
  · exact .inl rfl
  · rw [recordFor, none, Option.getD_none] at puts
    exact .inr ⟨none, puts, QuotaRecord.new_count subject now⟩

theorem Loads.puts (loads : v.Loads subject now s t) (next : v.Puts r t u)
    (same : r.userId = (v.recordFor s subject now).userId) : v.Puts r s u := by
  rcases loads with ⟨-, rfl⟩ | ⟨-, puts⟩
  · exact next
  · exact puts.again next same

end RecordView

namespace Limiter

variable {σ : Type} [RecordStore σ]

def StoreFails (σ : Type) [RecordStore σ] (e : LimiterError) : Prop :=
  ∃ f, e = .store f ∧ ((∃ userId, ∃ s : σ, RecordStore.record? userId s = .error f) ∨
    ∃ r, ∃ s : σ, RecordStore.saveRecord r s = .error f)

variable (v : RecordView σ) {s : σ}

theorem find_ends (userId : String) (s : σ) :
    (find userId).run.run s = (.ok (v.record? s userId), s) ∨
      ∃ e, StoreFails σ e ∧ (find userId).run.run s = (.error e, s) := by
  rw [find, bind_get]
  cases read : RecordStore.record? userId s with
  | ok r? =>
    rw [← v.found read]
    exact .inl rfl
  | error f => exact .inr ⟨_, ⟨f, rfl, .inl ⟨userId, s, read⟩⟩, rfl⟩

theorem save_ends (r : QuotaRecord) (s : σ) :
    (∃ t, (save r).run.run s = (.ok (), t) ∧ v.Puts r s t) ∨
      ∃ e, StoreFails σ e ∧ (save r).run.run s = (.error e, s) := by
  rw [save, bind_get]
  cases written : RecordStore.saveRecord r s with
  | ok t => exact .inl ⟨t, rfl, v.saved written⟩
  | error f => exact .inr ⟨_, ⟨f, rfl, .inr ⟨r, s, written⟩⟩, rfl⟩

theorem load_ends (subject : Subject) (now : Instant) (s : σ) :
    (∃ t, (load subject now).run.run s = (.ok (v.recordFor s subject now), t) ∧
        v.Loads subject now s t) ∨
      ∃ e, StoreFails σ e ∧ (load subject now).run.run s = (.error e, s) := by
  unfold load
  rcases find_ends v subject.userId s with found | ⟨e, fails, ran⟩
  · rw [bind_of_ok found]
    cases known : v.record? s subject.userId with
    | some r =>
      have same : v.recordFor s subject now = r := by rw [RecordView.recordFor, known]; rfl
      rw [same]
      exact .inl ⟨s, rfl, .inl ⟨by rw [known, same], rfl⟩⟩
    | none =>
      have same : v.recordFor s subject now = .new subject now := by
        rw [RecordView.recordFor, known]; rfl
      rcases save_ends v (.new subject now) s with ⟨t, ran, puts⟩ | ⟨e, fails, ran⟩
      · simp only [bind_of_ok ran]
        rw [same]
        exact .inl ⟨t, rfl, .inr ⟨known, same ▸ puts⟩⟩
      · simp only [bind_of_error ran]
        exact .inr ⟨e, fails, rfl⟩
  · rw [bind_of_error ran]
    exact .inr ⟨e, fails, rfl⟩

/-- How a check may end, and the store that it leaves. -/
inductive CheckEnds (subject : Subject) (service : Service) (now : Instant) (s : σ) :
    Except LimiterError Decision × σ → Prop where
  | failed (e : LimiterError) (t : σ) (fails : StoreFails σ e) (spares : v.Spares subject now s t) :
      CheckEnds subject service now s (.error e, t)
  | unlimited (t : σ) (loads : v.Loads subject now s t)
      (none : (v.recordFor s subject now).quota? service subject.isAdmin now = none) :
      CheckEnds subject service now s (.error (.unknownService service), t)
  | refused (t : σ) (q : Quota) (loads : v.Loads subject now s t)
      (found : (v.recordFor s subject now).quota? service subject.isAdmin now = some q)
      (full : (q.check now).1.allowed = false) :
      CheckEnds subject service now s (.ok (q.check now).1, t)
  | counted (t : σ) (q : Quota)
      (found : (v.recordFor s subject now).quota? service subject.isAdmin now = some q)
      (allowed : (q.check now).1.allowed = true)
      (puts : v.Puts ((v.recordFor s subject now).withQuota (q.check now).2 now) s t) :
      CheckEnds subject service now s (.ok (q.check now).1, t)

theorem check_ends (subject : Subject) (service : Service) (now : Instant) (s : σ) :
    CheckEnds v subject service now s ((check subject service now).run.run s) := by
  unfold check
  rcases load_ends v subject now s with ⟨t, ran, loads⟩ | ⟨e, fails, ran⟩
  · rw [bind_of_ok ran]
    cases found : (v.recordFor s subject now).quota? service subject.isAdmin now with
    | none => exact .unlimited t loads found
    | some q =>
      simp only
      cases allowed : (q.check now).1.allowed with
      | false => exact .refused t q loads found allowed
      | true =>
        simp only [if_true]
        rcases save_ends v ((v.recordFor s subject now).withQuota (q.check now).2 now) t with
          ⟨u, saved, puts⟩ | ⟨e, fails, saved⟩
        · rw [bind_of_ok saved]
          exact .counted u q found allowed (loads.puts puts rfl)
        · rw [bind_of_error saved]
          exact .failed e t fails loads.spares
  · rw [bind_of_error ran]
    exact .failed e s fails (.inl rfl)

/-- How the ceiling of a quota is set, if it is. -/
inductive CeilingEnds (userId : String) (service : Service) (ceiling : UInt32) (now : Instant)
    (s : σ) : Except LimiterError Quota × σ → Prop where
  | failed (e : LimiterError) (fails : StoreFails σ e ∨
      e = .unknownUser userId ∧ v.record? s userId = none ∨
      e = .unknownService service ∧ ∀ r, v.record? s userId = some r →
        r.quota? service r.isAdmin now = none) :
      CeilingEnds userId service ceiling now s (.error e, s)
  | set (t : σ) (r : QuotaRecord) (q : Quota) (known : v.record? s userId = some r)
      (found : r.quota? service r.isAdmin now = some q)
      (puts : v.Puts (r.withQuota { q with maxRequests := ceiling } now) s t) :
      CeilingEnds userId service ceiling now s (.ok { q with maxRequests := ceiling }, t)

theorem setCeiling_ends (userId : String) (service : Service) (ceiling : UInt32) (now : Instant)
    (s : σ) :
    CeilingEnds v userId service ceiling now s
      ((setCeiling userId service ceiling now).run.run s) := by
  unfold setCeiling
  rcases find_ends v userId s with ran | ⟨e, fails, ran⟩
  · rw [bind_of_ok ran]
    cases known : v.record? s userId with
    | none => exact .failed _ (.inr (.inl ⟨rfl, known⟩))
    | some r =>
      simp only
      cases found : r.quota? service r.isAdmin now with
      | none =>
        refine .failed _ (.inr (.inr ⟨rfl, fun p same => ?_⟩))
        obtain rfl := Option.some.inj (known.symm.trans same)
        exact found
      | some q =>
        simp only
        rcases save_ends v (r.withQuota { q with maxRequests := ceiling } now) s with
          ⟨t, saved, puts⟩ | ⟨e, fails, saved⟩
        · rw [bind_of_ok saved]
          exact .set t r q known found puts
        · rw [bind_of_error saved]
          exact .failed e (.inl fails)
  · rw [bind_of_error ran]
    exact .failed e (.inl fails)

theorem usages_spares (subject : Subject) (now : Instant) (s : σ) :
    v.Spares subject now s ((usages subject now).run.run s).2 := by
  unfold usages
  rcases load_ends v subject now s with ⟨t, ran, loads⟩ | ⟨e, fails, ran⟩
  · rw [bind_of_ok ran]
    exact loads.spares
  · rw [bind_of_error ran]
    exact .inl rfl

/-- Whichever operations of the store fail, a check is allowed only if the record has been put back
with one request more in the window, and one that fails or is refused has created the record of a
new user at most. A ceiling that is set is all that changes, next to the time of the change, and one
that is not set leaves everything as it was. -/
theorem calls_all_or_nothing (v : RecordView σ) (s : σ) :
    (∀ subject service now,
      let ended := (check subject service now).run.run s
      let r := v.recordFor s subject now
      (∀ d, ended.1 = .ok d → d.allowed = true → ∃ q quotas,
        d = (q.check now).1 ∧
        (q.check now).2.count.toNat = (if q.Expired now then 0 else q.count.toNat) + 1 ∧
        r.Changes service subject.isAdmin now q (q.check now).2 quotas ∧
        v.Puts { r with quotas, updatedAt := now } s ended.2) ∧
      ((∀ d, ended.1 = .ok d → d.allowed = false) → v.Spares subject now s ended.2) ∧
      ∀ e, ended.1 = .error e → StoreFails σ e ∨
        e = .unknownService service ∧ r.quota? service subject.isAdmin now = none) ∧
    (∀ subject now, v.Spares subject now s ((usages subject now).run.run s).2) ∧
    ∀ userId service ceiling now,
      let ended := (setCeiling userId service ceiling now).run.run s
      (∀ changed, ended.1 = .ok changed → ∃ r q quotas,
        v.record? s userId = some r ∧ changed = { q with maxRequests := ceiling } ∧
        r.Changes service r.isAdmin now q changed quotas ∧
        v.Puts { r with quotas, updatedAt := now } s ended.2) ∧
      ∀ e, ended.1 = .error e → ended.2 = s ∧ (StoreFails σ e ∨
        e = .unknownUser userId ∧ v.record? s userId = none ∨
        e = .unknownService service ∧ ∀ r, v.record? s userId = some r →
          r.quota? service r.isAdmin now = none) := by
  refine ⟨fun subject service now => ?_, fun subject now => usages_spares v subject now s,
    fun userId service ceiling now => ?_⟩
  · intro ended r
    have ends : CheckEnds v subject service now s ended := check_ends v subject service now s
    generalize ended = ended at ends
    cases ends with
    | failed e t fails spares =>
      refine ⟨nofun, fun _ => spares, fun f same => ?_⟩
      obtain rfl := Except.error.inj same
      exact .inl fails
    | unlimited t loads none =>
      refine ⟨nofun, fun _ => loads.spares, fun e same => ?_⟩
      obtain rfl := Except.error.inj same
      exact .inr ⟨rfl, none⟩
    | refused t q loads found full =>
      refine ⟨fun d same allowed => ?_, fun _ => loads.spares, nofun⟩
      obtain rfl := Except.ok.inj same
      rw [full] at allowed
      contradiction
    | counted t q found allowed puts =>
      refine ⟨fun d same _ => ?_, fun refused => ?_, nofun⟩
      · obtain rfl := Except.ok.inj same
        exact ⟨q, _, rfl, Quota.check_count allowed,
          QuotaRecord.changes_put found (q.check_service now), puts⟩
      · have refused := refused _ rfl
        rw [allowed] at refused
        contradiction
  · intro ended
    have ends : CeilingEnds v userId service ceiling now s ended :=
      setCeiling_ends v userId service ceiling now s
    generalize ended = ended at ends
    cases ends with
    | failed e fails =>
      refine ⟨nofun, fun f same => ?_⟩
      obtain rfl := Except.error.inj same
      exact ⟨rfl, fails⟩
    | set t r q known found puts =>
      refine ⟨fun changed same => ?_, nofun⟩
      obtain rfl := Except.ok.inj same
      exact ⟨r, q, _, known, rfl, QuotaRecord.changes_put found rfl, puts⟩

end Limiter

namespace HalfSaved

/-- A store in memory, and the errors of the saves to come. -/
structure Store where
  memory : MemoryStore
  errors : List (Option StoreError)

instance : RecordStore Store where
  record? userId s := RecordStore.record? userId s.memory
  saveRecord r s :=
    match s.errors with
    | some e :: _ => .error e
    | none :: errors => (RecordStore.saveRecord r s.memory).map (⟨·, errors⟩)
    | [] => (RecordStore.saveRecord r s.memory).map (⟨·, []⟩)

def view : RecordView Store where
  record? s := MemoryStore.recordView.record? s.memory
  found := MemoryStore.recordView.found
  saved {r s t} ran userId := by
    obtain ⟨memory, errors⟩ := s
    have written {errors : List (Option StoreError)}
        (wrote : (RecordStore.saveRecord r memory).map (Store.mk · errors) = .ok t) :
        MemoryStore.recordView.record? t.memory userId =
          if userId = r.userId then some r else MemoryStore.recordView.record? memory userId := by
      cases saved : RecordStore.saveRecord r memory with
      | error e =>
        rw [saved] at wrote
        contradiction
      | ok m =>
        rw [saved] at wrote
        obtain rfl := Except.ok.inj wrote
        exact MemoryStore.recordView.saved saved userId
    rcases errors with _ | ⟨_ | e, errors⟩
    · exact written ran
    · exact written ran
    · contradiction

def ada : Subject := ⟨"ada", "ada", false⟩

/-- The record of a new user is saved, and the request that is to be counted in it is not. -/
def store : Store := ⟨.empty, [none, some (.server "connection reset")]⟩

theorem calls_all_or_nothing_half_saved :
    let ended := (Limiter.check ada .codeExecution default).run.run store
    ended.1 = .error (.store (.server "connection reset")) ∧ view.Spares ada default store ended.2 ∧
      view.record? ended.2 "ada" = some (.new ada default) := by
  intro ended
  have failed : ended.1 = .error (.store (.server "connection reset")) := rfl
  obtain ⟨checks, -, -⟩ := Limiter.calls_all_or_nothing view store
  refine ⟨failed, (checks ada .codeExecution default).2.1 fun d answered => ?_, rfl⟩
  rw [failed] at answered
  contradiction

end HalfSaved

end Grader

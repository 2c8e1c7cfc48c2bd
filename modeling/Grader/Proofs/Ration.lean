import Grader.Proofs.Admission
import Grader.Proofs.Isolation
import Grader.Proofs.Outage

/-! How many requests a user gets from the limiter: what is listed for a service goes through all
turns as a quota does, those that fail included. -/
namespace Grader

theorem QuotaRecord.quota?_of_listed {r : QuotaRecord} {service : Service} {q : Quota}
    (listed : r.quotas.find? (·.service = service) = some q) (isAdmin : Bool) (now : Instant) :
    r.quota? service isAdmin now = some q := by
  simp only [quota?, listed]

theorem QuotaRecord.find?_withQuota (r : QuotaRecord) (p : Quota) (now : Instant)
    (service : Service) :
    (r.withQuota p now).quotas.find? (·.service = service) =
      if service = p.service then some p else r.quotas.find? (·.service = service) := by
  split
  · rename_i same
    rw [same]
    exact find?_put_same p r.quotas
  · rename_i other
    exact find?_put_other p other r.quotas

/-- What is listed for a service stays when a quota of another one is put back. -/
theorem QuotaRecord.find?_withQuota_other {r : QuotaRecord} {service asked : Service}
    (other : asked ≠ service) {isAdmin : Bool} {now : Instant} {p : Quota}
    (found : r.quota? asked isAdmin now = some p) {changed : Quota}
    (same : changed.service = p.service) (updated : Instant) :
    (r.withQuota changed updated).quotas.find? (·.service = service) =
      r.quotas.find? (·.service = service) := by
  have apart : service ≠ changed.service := by
    rw [same, quota?_service found]
    exact other.symm
  rw [find?_withQuota, if_neg apart]

def MemoryStore.quota? (s : MemoryStore) (userId : String) (service : Service) : Option Quota :=
  (s.records.get? userId).bind fun r => r.quotas.find? (·.service = service)

namespace Limiter

variable {userId : String} {service : Service} {q : Quota} {s : MemoryStore}

namespace Turn

def checkedAt? (userId : String) (service : Service) (t : Turn) : Option Instant :=
  match t.own? userId service with
  | some (.check now) => some now
  | _ => none

theorem checkedAt?_eq_some {t : Turn} {now : Instant}
    (asked : t.checkedAt? userId service = some now) :
    ∃ subject, subject.userId = userId ∧ t = .check subject service now := by
  cases t with
  | check subject other time =>
    by_cases own : subject.userId = userId ∧ other = service
    · obtain ⟨rfl, rfl⟩ := own
      exact ⟨subject, rfl, by simpa [checkedAt?, own?] using asked⟩
    · simp [checkedAt?, own?, own] at asked
  | usages => contradiction
  | setCeiling user other =>
    by_cases own : user = userId ∧ other = service <;> simp [checkedAt?, own?, own] at asked

def decided? (userId : String) (service : Service) (t : Turn)
    (answer? : Option (Except LimiterError Decision)) : Option (Instant × Decision) :=
  match t.checkedAt? userId service, answer? with
  | some now, some (.ok d) => some (now, d)
  | _, _ => none

theorem decided?_of_other {t : Turn} (other : t.checkedAt? userId service = none)
    (answer? : Option (Except LimiterError Decision)) :
    t.decided? userId service answer? = none := by
  simp only [decided?, other]

theorem decided?_eq_some {t : Turn} {answer? : Option (Except LimiterError Decision)}
    {now : Instant} {d : Decision} (decided : t.decided? userId service answer? = some (now, d)) :
    t.checkedAt? userId service = some now ∧ answer? = some (.ok d) := by
  unfold decided? at decided
  split at decided
  · simp_all
  · contradiction

/-- What a turn of the user itself makes of a quota that the user's record lists. -/
theorem leads_record {r : QuotaRecord} (listed : r.quotas.find? (·.service = service) = some q)
    (t : Turn) :
    ∃ n : Quota.Note, q.Leads n ∧
      (t.record? (some r)).bind (·.quotas.find? (·.service = service)) = some n.quota ∧
      t.decided? t.userId service (t.answer? (some r)) = n.answer? := by
  have own : service = q.service := by simpa [eq_comm] using List.find?_some listed
  cases t with
  | check subject asked now =>
    simp only [record?, answer?, decided?, checkedAt?, own?, Turn.userId, true_and, Option.getD_some]
    by_cases same : asked = service
    · obtain rfl := same
      rw [QuotaRecord.quota?_of_listed listed]
      cases allowed : (q.check now).1.allowed with
      | true =>
        refine ⟨_, .admitted now allowed, ?_, by simp⟩
        simp only [allowed, if_true, Option.bind_some, QuotaRecord.find?_withQuota,
          Quota.check_service, if_pos own]
      | false =>
        refine ⟨_, .refused now allowed, ?_, by simp⟩
        simp only [allowed, Bool.false_eq_true, if_false, Option.bind_some, listed]
    · refine ⟨_, .aside, ?_, by simp [same]⟩
      cases found : r.quota? asked subject.isAdmin now with
      | none => exact listed
      | some p =>
        simp only
        split
        · exact (QuotaRecord.find?_withQuota_other same found (p.check_service now) now).trans listed
        · exact listed
  | usages subject now => exact ⟨_, .aside, listed, rfl⟩
  | setCeiling user asked ceiling now =>
    have unasked : (setCeiling user asked ceiling now).checkedAt? user service = none := by
      unfold checkedAt? own?
      split <;> simp_all
    simp only [record?, Option.map_some, Option.bind_some, Turn.userId, decided?_of_other unasked]
    by_cases same : asked = service
    · obtain rfl := same
      refine ⟨_, .ceiling ceiling, ?_, rfl⟩
      rw [QuotaRecord.quota?_of_listed listed]
      simp only [QuotaRecord.find?_withQuota, if_pos own]
    · refine ⟨_, .aside, ?_, rfl⟩
      cases found : r.quota? asked r.isAdmin now with
      | none => exact listed
      | some p =>
        have kept : ({ p with maxRequests := ceiling } : Quota).service = p.service := rfl
        exact (QuotaRecord.find?_withQuota_other same found kept now).trans listed

theorem leads_served (serves : s.ServesRecords) (keyed : s.records.Keyed QuotaRecord.userId)
    (listed : s.quota? userId service = some q) (t : Turn) :
    ∃ n : Quota.Note, q.Leads n ∧ (t.take s).2.quota? userId service = some n.quota ∧
      t.decided? userId service (t.take s).1 = n.answer? := by
  unfold MemoryStore.quota?
  by_cases own : t.userId = userId
  · obtain rfl := own
    obtain ⟨r, found, listed⟩ := Option.bind_eq_some_iff.mp listed
    rw [t.take_record serves keyed, t.take_answer serves, found]
    exact t.leads_record listed
  · have unasked : t.checkedAt? userId service = none := by
      refine Option.eq_none_iff_forall_ne_some.mpr fun now asked => own ?_
      obtain ⟨subject, same, rfl⟩ := checkedAt?_eq_some asked
      exact same
    rw [(t.take_alters serves keyed).others userId (Ne.symm own)]
    exact ⟨_, .aside, listed, decided?_of_other unasked _⟩

theorem leads_unserved (unserved : ¬s.ServesRecords) (listed : s.quota? userId service = some q)
    (t : Turn) :
    ∃ n : Quota.Note, q.Leads n ∧ (t.take s).2.quota? userId service = some n.quota ∧
      t.decided? userId service (t.take s).1 = n.answer? := by
  obtain ⟨stays, refused⟩ := t.take_of_fault unserved
  rw [stays]
  cases decided : t.decided? userId service (t.take s).1 with
  | none => exact ⟨_, .aside, listed, rfl⟩
  | some answer =>
    obtain ⟨asked, answered⟩ := decided?_eq_some decided
    obtain ⟨subject, rfl, rfl⟩ := checkedAt?_eq_some asked
    obtain ⟨refused, same⟩ := refused answer.2 answered
    obtain ⟨r, found, own⟩ := Option.bind_eq_some_iff.mp listed
    simp only [Turn.userId, found, answer?, Option.getD_some, QuotaRecord.quota?_of_listed own,
      Option.some.injEq, Except.ok.injEq] at same
    rw [← same] at refused
    exact ⟨_, .refused answer.1 refused, listed, by simp [same]⟩

theorem keyed_take (keyed : s.records.Keyed QuotaRecord.userId) (t : Turn) :
    (t.take s).2.records.Keyed QuotaRecord.userId := by
  by_cases serves : s.ServesRecords
  · intro userId r found
    by_cases own : userId = t.userId
    · obtain rfl := own
      rw [t.take_record serves keyed] at found
      exact record?_userId (keyed t.userId) r found
    · rw [(t.take_alters serves keyed).others userId own] at found
      exact keyed userId r found
  · rw [(t.take_of_fault serves).1]
    exact keyed

end Turn

/-- A turn, and the faults of the store for as long as it lasts. -/
structure Attempt where
  turn : Turn
  fault? : Operation → Option StoreError

namespace Attempt

def meets (s : MemoryStore) (x : Attempt) : MemoryStore := { s with fault? := x.fault? }

def take (s : MemoryStore) (x : Attempt) : Option (Except LimiterError Decision) × MemoryStore :=
  x.turn.take (x.meets s)

/-- What a turn leaves of a user's quota, where one is listed. -/
def note? (userId : String) (service : Service) (s : MemoryStore) (x : Attempt) :
    Option Quota.Note :=
  ((x.take s).2.quota? userId service).map
    fun q => ⟨x.turn.decided? userId service (x.take s).1, q⟩

theorem keyed_take (keyed : s.records.Keyed QuotaRecord.userId) (x : Attempt) :
    (x.take s).2.records.Keyed QuotaRecord.userId :=
  Turn.keyed_take (s := x.meets s) keyed x.turn

theorem note?_leads (keyed : s.records.Keyed QuotaRecord.userId)
    (listed : s.quota? userId service = some q) (x : Attempt) :
    ∃ n, x.note? userId service s = some n ∧ q.Leads n ∧
      (x.take s).2.quota? userId service = some n.quota := by
  have taken : ∃ n : Quota.Note, q.Leads n ∧ (x.take s).2.quota? userId service = some n.quota ∧
      x.turn.decided? userId service (x.take s).1 = n.answer? := by
    by_cases serves : (x.meets s).ServesRecords
    · exact x.turn.leads_served serves keyed listed
    · exact x.turn.leads_unserved serves listed
  obtain ⟨n, leads, left, decided⟩ := taken
  exact ⟨n, by rw [note?, left, decided, Option.map_some], leads, left⟩

theorem times_note? (x : Attempt) :
    (Quota.times (x.note? userId service s).toList).Sublist
      (x.turn.checkedAt? userId service).toList := by
  unfold note?
  cases (x.take s).2.quota? userId service with
  | none => exact List.nil_sublist _
  | some q =>
    cases decided : x.turn.decided? userId service (x.take s).1 with
    | none => exact List.nil_sublist _
    | some answer =>
      rw [(Turn.decided?_eq_some decided).1]
      exact .refl _

end Attempt

def history (userId : String) (service : Service) : List Attempt → MemoryStore → List Quota.Note
  | [], _ => []
  | x :: xs, s => (x.note? userId service s).toList ++ history userId service xs (x.take s).2

def requests (userId : String) (service : Service) (schedule : List Attempt) : List Instant :=
  schedule.filterMap (·.turn.checkedAt? userId service)

/-- Every turn goes on from what the one before has left of the quota, and none loses it. -/
theorem history_course (keyed : s.records.Keyed QuotaRecord.userId)
    (listed : s.quota? userId service = some q) (schedule : List Attempt) :
    (history userId service schedule s).length = schedule.length ∧
      q.Course (history userId service schedule s) := by
  induction schedule generalizing s q with
  | nil => exact ⟨rfl, trivial⟩
  | cons x xs ih =>
    obtain ⟨n, noted, leads, left⟩ := x.note?_leads keyed listed
    obtain ⟨length, course⟩ := ih (x.keyed_take keyed) left
    rw [history, noted, Option.toList_some, List.singleton_append]
    exact ⟨congrArg (· + 1) length, leads, course⟩

/-- No answer is there that was not asked for, and their order is that of the requests. -/
theorem times_history (schedule : List Attempt) :
    (Quota.times (history userId service schedule s)).Sublist
      (requests userId service schedule) := by
  induction schedule generalizing s with
  | nil => exact .slnil
  | cons x xs ih =>
    have split : requests userId service (x :: xs) =
        (x.turn.checkedAt? userId service).toList ++ requests userId service xs := by
      simp only [requests, List.filterMap_eq_flatMap_toList, List.flatMap_cons]
    rw [split, history, Quota.times, List.filterMap_append]
    exact x.times_note?.append ih

/-- A user gets no more of a service than the ceiling of the time in one window, and the starts of
two windows lie further apart than a window is long. While the ceiling stays and no request falls
into a leap second, no interval of that length holds more than twice the ceiling. -/
theorem admissions_bounded {s : MemoryStore} (keyed : s.records.Keyed QuotaRecord.userId)
    {userId : String} {service : Service} {q : Quota}
    (listed : s.quota? userId service = some q) (forwards : 0 ≤ q.windowMinutes)
    {schedule : List Attempt} (ordered : (requests userId service schedule).Pairwise (· ≤ ·)) :
    let notes := history userId service schedule s
    notes.length = schedule.length ∧
      (q.startedAt :: notes.map (·.quota.startedAt)).IsChain
        (fun a b => b = a ∨ q.window < b.since a) ∧
      (∀ before n after now d, notes = before ++ n :: after → n.answer? = some (now, d) →
        d.allowed = true →
          (Quota.admissions (Quota.sinceOpening (before ++ [n]) n)).length ≤
              n.quota.maxRequests.toNat ∧
            d.usage.remaining.toNat + n.quota.count.toNat = n.quota.maxRequests.toNat) ∧
      ∀ ceiling, (∀ n ∈ notes, n.quota.maxRequests = ceiling) →
        (∀ now ∈ requests userId service schedule, ¬now.InLeapSecond) →
          ∀ a, Quota.within a (a.addMinutes q.windowMinutes.toInt) (Quota.admissions notes) ≤
            2 * ceiling.toNat := by
  intro notes
  obtain ⟨length, course⟩ := history_course keyed listed schedule
  have asked : (Quota.times notes).Sublist (requests userId service schedule) :=
    times_history schedule
  refine ⟨length, course.starts, fun before n after now d split answered allowed => ?_,
    fun ceiling same ordinary a => ?_⟩
  · have course : q.Course (before ++ n :: after) := split ▸ course
    exact course.allowed forwards answered allowed
  · have steady : Quota.Steady ceiling notes :=
      ⟨ordered.sublist asked, fun now member => ordinary now (asked.subset member), same⟩
    exact course.within_le forwards steady

end Limiter

namespace LastSecond

open Limiter

def ada : Subject := ⟨"ada", "ada", false⟩

def start : Instant := ⟨1714564799, 950000000, .inl (by decide)⟩

def quota : Quota := ⟨.codeExecution, 1, 60, 0, start, start⟩

def store : MemoryStore := .ofDocuments [] [] [] [⟨"ada", "ada", false, [quota], start, start⟩]

theorem keyed : store.records.Keyed QuotaRecord.userId :=
  Table.keyed_ofList QuotaRecord.userId [⟨"ada", "ada", false, [quota], start, start⟩]

def check (now : Instant) : Attempt := ⟨.check ada .codeExecution now, fun _ => none⟩

def unsaved : Attempt :=
  ⟨.check ada .codeExecution (start.addMinutes 30), fun
    | .saveRecord => some (.server "disk full")
    | _ => none⟩

def schedule : List Attempt :=
  [unsaved, check (start.addMinutes 60), check (start.addMinutes 60), check (start.addMinutes 61)]

theorem admissions_bounded_by_two :
    store.records.Keyed QuotaRecord.userId ∧ store.quota? "ada" .codeExecution = some quota ∧
      0 ≤ quota.windowMinutes ∧
      (requests "ada" .codeExecution schedule).Pairwise (· ≤ ·) ∧
      Quota.admissions (history "ada" .codeExecution schedule store) =
        [start.addMinutes 60, start.addMinutes 61] ∧
      Quota.within (start.addMinutes 60) ((start.addMinutes 60).addMinutes 60)
        (Quota.admissions (history "ada" .codeExecution schedule store)) ≤ 2 := by
  have listed : store.quota? "ada" .codeExecution = some quota := rfl
  have forwards : 0 ≤ quota.windowMinutes := by decide
  have ordered : (requests "ada" .codeExecution schedule).Pairwise (· ≤ ·) := by decide
  have ordinary : ∀ now ∈ requests "ada" .codeExecution schedule, ¬now.InLeapSecond := by decide
  have same : ∀ n ∈ history "ada" .codeExecution schedule store, n.quota.maxRequests = 1 := by
    decide
  obtain ⟨_, _, _, bound⟩ := admissions_bounded keyed listed forwards ordered
  exact ⟨keyed, listed, forwards, ordered, rfl, bound 1 same ordinary _⟩

/-- The end of the hour, and what goes on of it in a leap second. -/
def late : Instant := ⟨1714568399, 900000000, .inl (by decide)⟩

def leap : Instant := ⟨1714568399, 1500000000, .inr (by decide)⟩

def nextHour : Instant := ⟨1714571999, 700000000, .inl (by decide)⟩

/-- An interval that a leap second falls into lasts longer than its ends tell, and three windows meet
it. -/
theorem three_around_leap_second :
    let schedule := [check late, check leap, check nextHour]
    let notes := history "ada" .codeExecution schedule store
    store.quota? "ada" .codeExecution = some quota ∧ 0 ≤ quota.windowMinutes ∧
      (requests "ada" .codeExecution schedule).Pairwise (· ≤ ·) ∧
      (∀ n ∈ notes, n.quota.maxRequests = 1) ∧
      2 * 1 < Quota.within late (late.addMinutes quota.windowMinutes.toInt)
        (Quota.admissions notes) := by
  decide

end LastSecond

end Grader

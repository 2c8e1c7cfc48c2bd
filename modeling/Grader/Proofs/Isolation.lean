import Grader.Proofs.Limiter

/-! Each user's count for a service runs as if it were alone. The records of a store are read and
written as a whole, yet the decisions about a service are those of one quota that sees nothing but
the checks of its own user and service and the ceilings that are set for them. -/
namespace Grader

namespace Quota

inductive Turn where
  | check (now : Instant)
  | ceiling (maxRequests : UInt32)
  deriving DecidableEq, Repr

/-- A refused check leaves the quota as it is. -/
def take (q : Quota) : Turn → Quota
  | .check now => if (q.check now).1.allowed then (q.check now).2 else q
  | .ceiling maxRequests => { q with maxRequests }

def decisions (q : Quota) : List Turn → List Decision
  | [] => []
  | .check now :: ts => (q.check now).1 :: (q.take (.check now)).decisions ts
  | .ceiling maxRequests :: ts => (q.take (.ceiling maxRequests)).decisions ts

theorem new_check_allowed (service : Service) {maxRequests : UInt32} (positive : 0 < maxRequests)
    (windowMinutes : Int64) (now later : Instant) :
    ((new service maxRequests windowMinutes now).check later).1.allowed = true := by
  have room : ¬((new service maxRequests windowMinutes now).reopen later).maxRequests ≤
      ((new service maxRequests windowMinutes now).reopen later).count := by
    unfold reopen
    split <;> exact UInt32.not_le.mpr positive
  simp only [check, if_neg room]

end Quota

namespace QuotaRecord

def default? (service : Service) (isAdmin : Bool) (now : Instant) : Option Quota :=
  (defaults isAdmin now).find? (·.service = service)

theorem default?_isSome {service : Service} (limited : service ≠ .guestCreation) (isAdmin : Bool)
    (now : Instant) : ∃ q, default? service isAdmin now = some q := by
  cases service with
  | guestCreation => contradiction
  | codeCompletion | pseudocodeConversion | codeExecution | codeSubmission | aiAnalysis | aiHint =>
    exact ⟨_, rfl⟩

theorem quota?_isSome {service : Service} (limited : service ≠ .guestCreation) (r : QuotaRecord)
    (isAdmin : Bool) (now : Instant) : ∃ q, r.quota? service isAdmin now = some q := by
  unfold quota?
  split
  · exact ⟨_, rfl⟩
  · exact default?_isSome limited isAdmin now

theorem default?_check_allowed {service : Service} {isAdmin : Bool} {now : Instant} {q : Quota}
    (found : default? service isAdmin now = some q) (later : Instant) :
    (q.check later).1.allowed = true := by
  have positive : ∀ e ∈ Service.ceilings, 0 < e.2.1 ∧ 0 < e.2.2 := by decide
  obtain ⟨⟨_, regular, admin⟩, listed, rfl⟩ := List.mem_map.mp (List.mem_of_find?_eq_some found)
  obtain ⟨some_regular, some_admin⟩ := positive _ listed
  refine Quota.new_check_allowed _ ?_ _ now later
  cases isAdmin
  · exact some_regular
  · exact some_admin

end QuotaRecord

namespace Limiter

def Turn.own? (userId : String) (service : Service) : Turn → Option Quota.Turn
  | .check subject asked now =>
    if subject.userId = userId ∧ asked = service then some (.check now) else none
  | .usages _ _ => none
  | .setCeiling user asked ceiling _ =>
    if user = userId ∧ asked = service then some (.ceiling ceiling) else none

theorem Turn.answer?_guestCreation {userId : String} {t : Turn}
    (own : (t.own? userId .guestCreation).isSome) {r? : Option QuotaRecord}
    (kept : ∀ r ∈ r?, r.WellKept) :
    ∀ answer ∈ t.answer? r?, answer = .error (.unknownService .guestCreation) := by
  intro answer member
  cases t with
  | check subject asked now =>
    obtain ⟨_, rfl⟩ : subject.userId = userId ∧ asked = .guestCreation := by
      simpa [own?] using own
    have kept := QuotaRecord.wellKept_getD kept subject now
    simp only [answer?, kept.quota?_guestCreation] at member
    exact (Option.some.inj member).symm
  | usages | setCeiling => contradiction

/-- How a user stands with a service. -/
inductive Standing where
  | unknown
  | unlisted (isAdmin : Bool)
  | counted (q : Quota)

namespace Standing

variable (userId : String) (service : Service)

def ofRecord? : Option QuotaRecord → Standing
  | none => .unknown
  | some r =>
    match r.quotas.find? (·.service = service) with
    | none => .unlisted r.isAdmin
    | some q => .counted q

/-- The quota that a turn creates: with all others at the first request of the user, or by itself
where the record has none yet. -/
def created? (t : Turn) : Standing → Option Quota
  | .unknown =>
    match t with
    | .check subject _ now | .usages subject now =>
      if subject.userId = userId then QuotaRecord.default? service subject.isAdmin now else none
    | .setCeiling _ _ _ _ => none
  | .unlisted isAdmin =>
    match t with
    | .check subject asked now =>
      if subject.userId = userId ∧ asked = service then
        QuotaRecord.default? service subject.isAdmin now
      else none
    | .setCeiling user asked _ now =>
      if user = userId ∧ asked = service then QuotaRecord.default? service isAdmin now else none
    | .usages _ _ => none
  | .counted _ => none

/-- The quota as it stands, or as the first turn that creates it does so, and the turns from then
on. -/
def opening : Standing → List Turn → Option (Quota × List Turn)
  | .counted q, ts => some (q, ts)
  | _, [] => none
  | st, t :: ts =>
    match st.created? userId service t with
    | some q => some (q, t :: ts)
    | none => st.opening ts

def decisions (st : Standing) (schedule : List Turn) : List Decision :=
  match st.opening userId service schedule with
  | none => []
  | some (q, ts) => q.decisions (ts.filterMap (Turn.own? userId service))

def quota? (t : Turn) (st : Standing) : Option Quota :=
  match st with
  | .counted q => some q
  | .unknown | .unlisted _ => st.created? userId service t

def after (t : Turn) (st : Standing) : Standing :=
  match st.quota? userId service t with
  | none => st
  | some q =>
    match t.own? userId service with
    | none => .counted q
    | some turn => .counted (q.take turn)

variable {userId service}

theorem ofRecord?_listed {r : QuotaRecord} {q : Quota}
    (listed : r.quotas.find? (·.service = service) = some q) :
    ofRecord? service (some r) = .counted q := by
  simp only [ofRecord?, listed]

theorem ofRecord?_unlisted {r : QuotaRecord}
    (unlisted : r.quotas.find? (·.service = service) = none) :
    ofRecord? service (some r) = .unlisted r.isAdmin := by
  simp only [ofRecord?, unlisted]

theorem ofRecord?_known (r : QuotaRecord) : ofRecord? service (some r) ≠ .unknown := by
  unfold ofRecord?
  split
  · contradiction
  · split <;> nofun

theorem ofRecord?_withQuota (r : QuotaRecord) (q : Quota) (now : Instant) :
    ofRecord? service (some (r.withQuota q now)) =
      if service = q.service then .counted q else ofRecord? service (some r) := by
  simp only [ofRecord?, QuotaRecord.withQuota]
  by_cases same : service = q.service
  · rw [if_pos same, same, QuotaRecord.find?_put_same]
  · rw [if_neg same, QuotaRecord.find?_put_other q same]

/-- A new record counts every service from its default. -/
theorem ofRecord?_new (limited : service ≠ .guestCreation) (subject : Subject) (now : Instant) :
    ∃ q, QuotaRecord.default? service subject.isAdmin now = some q ∧
      ofRecord? service (some (.new subject now)) = .counted q := by
  obtain ⟨q, found⟩ := QuotaRecord.default?_isSome limited subject.isAdmin now
  exact ⟨q, found, ofRecord?_listed found⟩

theorem ofRecord?_of_refused {r : QuotaRecord} {isAdmin : Bool} {now : Instant} {q : Quota}
    (found : r.quota? service isAdmin now = some q) (refused : (q.check now).1.allowed = false) :
    ofRecord? service (some r) = .counted q := by
  unfold QuotaRecord.quota? at found
  cases listed : r.quotas.find? (·.service = service) with
  | some p =>
    rw [listed] at found
    obtain rfl := Option.some.inj found
    exact ofRecord?_listed listed
  | none =>
    rw [listed] at found
    have allowed := QuotaRecord.default?_check_allowed found now
    rw [refused] at allowed
    contradiction

theorem quota?_check (r? : Option QuotaRecord) (subject : Subject) (now : Instant) :
    (ofRecord? service r?).quota? subject.userId service (.check subject service now) =
      (r?.getD (.new subject now)).quota? service subject.isAdmin now := by
  cases r? with
  | none =>
    show (if subject.userId = subject.userId then
      QuotaRecord.default? service subject.isAdmin now else none) = _
    rw [if_pos rfl]
    show QuotaRecord.default? service subject.isAdmin now =
      match QuotaRecord.default? service subject.isAdmin now with
      | some q => some q
      | none => QuotaRecord.default? service subject.isAdmin now
    split
    · assumption
    · rfl
  | some r =>
    show _ = r.quota? service subject.isAdmin now
    unfold QuotaRecord.quota?
    cases listed : r.quotas.find? (·.service = service) with
    | some q => rw [ofRecord?_listed listed, quota?]
    | none => simp [ofRecord?_unlisted listed, quota?, created?, QuotaRecord.default?]

theorem quota?_setCeiling (r : QuotaRecord) (userId : String) (ceiling : UInt32) (now : Instant) :
    (ofRecord? service (some r)).quota? userId service (.setCeiling userId service ceiling now) =
      r.quota? service r.isAdmin now := by
  unfold QuotaRecord.quota?
  cases listed : r.quotas.find? (·.service = service) with
  | some q => rw [ofRecord?_listed listed, quota?]
  | none => simp [ofRecord?_unlisted listed, quota?, created?, QuotaRecord.default?]

theorem after_of_own {st : Standing} {t : Turn} {q : Quota} {turn : Quota.Turn}
    (found : st.quota? userId service t = some q) (own : t.own? userId service = some turn) :
    st.after userId service t = .counted (q.take turn) := by
  simp only [after, found, own]

theorem after_of_found {st : Standing} {t : Turn} {q : Quota}
    (found : st.quota? userId service t = some q) (other : t.own? userId service = none) :
    st.after userId service t = .counted q := by
  simp only [after, found, other]

/-- A user with a record stays as a turn about another service finds it. -/
theorem after_of_none {st : Standing} (known : st ≠ .unknown) {t : Turn}
    (other : t.own? userId service = none) : st.after userId service t = st := by
  cases st with
  | unknown => contradiction
  | counted q => exact after_of_found rfl other
  | unlisted isAdmin =>
    have fresh : created? userId service t (.unlisted isAdmin) = none := by
      cases t with
      | usages => rfl
      | check subject asked now | setCeiling user asked ceiling now =>
        refine if_neg fun both => ?_
        simp [Turn.own?, both] at other
    simp only [after, quota?, fresh]

theorem after_known {st : Standing} (known : st ≠ .unknown) (t : Turn) :
    st.after userId service t ≠ .unknown := by
  unfold after
  split
  · exact known
  · split <;> nofun

theorem after_of_other {t : Turn} (other : t.userId ≠ userId) (st : Standing) :
    st.after userId service t = st := by
  cases t with
  | check subject asked now | usages subject now | setCeiling user asked ceiling now =>
    cases st <;> simp_all [after, quota?, created?, Turn.own?, Turn.userId]

theorem ofRecord?_check (limited : service ≠ .guestCreation) (r : QuotaRecord) (subject : Subject)
    (asked : Service) (now : Instant) :
    ofRecord? service ((Turn.check subject asked now).record? (some r)) =
      (ofRecord? service (some r)).after subject.userId service (.check subject asked now) := by
  simp only [Turn.record?, Option.getD_some]
  by_cases same : asked = service
  · obtain rfl := same
    have own : (Turn.check subject asked now).own? subject.userId asked = some (.check now) :=
      if_pos ⟨rfl, rfl⟩
    have quota : (ofRecord? asked (some r)).quota? subject.userId asked (.check subject asked now) =
      r.quota? asked subject.isAdmin now := quota?_check (some r) subject now
    obtain ⟨q, found⟩ := QuotaRecord.quota?_isSome limited r subject.isAdmin now
    rw [after_of_own (quota.trans found) own, found, Quota.take]
    simp only
    cases allowed : (q.check now).1.allowed with
    | true =>
      have service : asked = (q.check now).2.service :=
        (QuotaRecord.quota?_service found).symm.trans (q.check_service now).symm
      simp only [if_true, ofRecord?_withQuota, if_pos service]
    | false => exact ofRecord?_of_refused found allowed
  · have other : (Turn.check subject asked now).own? subject.userId service = none :=
      if_neg fun both => same both.2
    rw [after_of_none (ofRecord?_known r) other]
    cases found : r.quota? asked subject.isAdmin now with
    | none => rfl
    | some q =>
      have own : (q.check now).2.service = asked :=
        (q.check_service now).trans (QuotaRecord.quota?_service found)
      simp only
      split
      · rw [ofRecord?_withQuota, own, if_neg (Ne.symm same)]
      · rfl

theorem ofRecord?_setCeiling (limited : service ≠ .guestCreation) (r : QuotaRecord)
    (userId : String) (asked : Service) (ceiling : UInt32) (now : Instant) :
    ofRecord? service ((Turn.setCeiling userId asked ceiling now).record? (some r)) =
      (ofRecord? service (some r)).after userId service (.setCeiling userId asked ceiling now) := by
  simp only [Turn.record?, Option.map_some]
  by_cases same : asked = service
  · obtain rfl := same
    have own : (Turn.setCeiling userId asked ceiling now).own? userId asked =
      some (.ceiling ceiling) := if_pos ⟨rfl, rfl⟩
    obtain ⟨q, found⟩ := QuotaRecord.quota?_isSome limited r r.isAdmin now
    have service : asked = q.service := (QuotaRecord.quota?_service found).symm
    rw [after_of_own ((quota?_setCeiling r userId ceiling now).trans found) own, found]
    simp only [ofRecord?_withQuota, if_pos service, Quota.take]
  · have other : (Turn.setCeiling userId asked ceiling now).own? userId service = none :=
      if_neg fun both => same both.2
    rw [after_of_none (ofRecord?_known r) other]
    cases found : r.quota? asked r.isAdmin now with
    | none => rfl
    | some q =>
      have own : q.service = asked := QuotaRecord.quota?_service found
      simp only [ofRecord?_withQuota, own, if_neg (Ne.symm same)]

/-- The first request of a user goes on from the record that it creates. -/
theorem after_unknown (limited : service ≠ .guestCreation) (subject : Subject) (now : Instant)
    {t : Turn} (creates : t = .usages subject now ∨ ∃ asked, t = .check subject asked now) :
    after subject.userId service t .unknown =
      (ofRecord? service (some (.new subject now))).after subject.userId service t := by
  obtain ⟨q, found, counted⟩ := ofRecord?_new limited subject now
  have created : created? subject.userId service t .unknown = some q := by
    rcases creates with rfl | ⟨asked, rfl⟩
    · exact (if_pos rfl).trans found
    · exact (if_pos rfl).trans found
  rw [counted]
  simp only [after, quota?, created]

/-- What a turn makes of a record shows where it leaves the user. -/
theorem ofRecord?_record? (limited : service ≠ .guestCreation) (r? : Option QuotaRecord)
    (t : Turn) :
    ofRecord? service (t.record? r?) = (ofRecord? service r?).after t.userId service t := by
  cases t with
  | check subject asked now =>
    cases r? with
    | some r => exact ofRecord?_check limited r subject asked now
    | none =>
      exact (ofRecord?_check limited (.new subject now) subject asked now).trans
        (after_unknown limited subject now (.inr ⟨asked, rfl⟩)).symm
  | usages subject now =>
    cases r? with
    | some r => exact (after_of_none (ofRecord?_known r) rfl).symm
    | none =>
      exact (after_of_none (ofRecord?_known _) rfl).symm.trans
        (after_unknown limited subject now (.inl rfl)).symm
  | setCeiling userId asked ceiling now =>
    cases r? with
    | some r => exact ofRecord?_setCeiling limited r userId asked ceiling now
    | none => rfl

def decision? (userId : String) (service : Service) (t : Turn) (st : Standing) : Option Decision :=
  match st.quota? userId service t, t.own? userId service with
  | some q, some (.check now) => some (q.check now).1
  | _, _ => none

theorem decisions_counted (q : Quota) (ts : List Turn) :
    (counted q).decisions userId service ts =
      q.decisions (ts.filterMap (Turn.own? userId service)) := by
  cases ts <;> rfl

variable (userId service) in
theorem opening_cons (st : Standing) (t : Turn) (ts : List Turn) :
    st.opening userId service (t :: ts) =
      match st.quota? userId service t with
      | some q => some (q, t :: ts)
      | none => st.opening userId service ts := by
  cases st <;> rfl

theorem decisions_cons (st : Standing) (t : Turn) (ts : List Turn) :
    st.decisions userId service (t :: ts) =
      (st.decision? userId service t).toList ++
        (st.after userId service t).decisions userId service ts := by
  have opening := opening_cons userId service st t ts
  cases found : st.quota? userId service t with
  | none =>
    rw [found] at opening
    simp only [decisions, opening, decision?, after, found, Option.toList_none, List.nil_append]
  | some q =>
    rw [found] at opening
    simp only [decision?, found]
    cases own : t.own? userId service with
    | none =>
      rw [after_of_found found own, decisions_counted]
      simp only [decisions, opening, List.filterMap_cons, own, Option.toList_none, List.nil_append]
    | some turn =>
      rw [after_of_own found own, decisions_counted]
      simp only [decisions, opening, List.filterMap_cons, own]
      cases turn <;> rfl

/-- What the record of its user answers to a turn for the quota itself is the quota's decision. -/
theorem answer?_eq (limited : service ≠ .guestCreation) (r? : Option QuotaRecord) {t : Turn}
    (own : (t.own? userId service).isSome) :
    t.userId = userId ∧
      t.answer? r? = ((ofRecord? service r?).decision? userId service t).map .ok := by
  cases t with
  | check subject asked now =>
    obtain ⟨rfl, rfl⟩ : subject.userId = userId ∧ asked = service := by
      simpa [Turn.own?] using own
    refine ⟨rfl, ?_⟩
    have quota : (ofRecord? asked r?).quota? subject.userId asked (.check subject asked now) = _ :=
      quota?_check r? subject now
    obtain ⟨q, found⟩ := QuotaRecord.quota?_isSome limited (r?.getD (.new subject now))
      subject.isAdmin now
    simp [Turn.answer?, decision?, quota, found, Turn.own?]
  | usages subject now => contradiction
  | setCeiling user asked ceiling now =>
    obtain ⟨rfl, rfl⟩ : user = userId ∧ asked = service := by
      simpa [Turn.own?] using own
    refine ⟨rfl, ?_⟩
    simp only [decision?, Turn.own?, and_self, if_true, Turn.answer?]
    split <;> simp_all

theorem decision?_of_none {st : Standing} {t : Turn} (other : t.own? userId service = none) :
    st.decision? userId service t = none := by
  simp only [decision?, other]
  cases st.quota? userId service t <;> rfl

/-- What is none of a user's quota can be left out once the user has a record. -/
theorem decisions_filter {st : Standing} (known : st ≠ .unknown) (ts : List Turn) :
    st.decisions userId service (ts.filter fun t => (t.own? userId service).isSome) =
      st.decisions userId service ts := by
  induction ts generalizing st with
  | nil => rfl
  | cons t ts ih =>
    cases own : t.own? userId service with
    | none =>
      rw [List.filter_cons_of_neg (by simp [own]), decisions_cons, decision?_of_none own,
        after_of_none known own]
      exact ih known
    | some turn =>
      rw [List.filter_cons_of_pos (by simp [own]), decisions_cons, decisions_cons]
      rw [ih (after_known known t)]

end Standing

def answers (userId : String) (service : Service) :
    List Turn → MemoryStore → List (Except LimiterError Decision)
  | [], _ => []
  | t :: ts, s =>
    (if (t.own? userId service).isSome then (t.take s).1.toList else []) ++
      answers userId service ts (t.take s).2

def execute : List Turn → MemoryStore → MemoryStore
  | [], s => s
  | t :: ts, s => execute ts (t.take s).2

section Runs

variable {userId : String} {service : Service} {s : MemoryStore} (serves : s.ServesRecords)
include serves

theorem answer_take (limited : service ≠ .guestCreation) (t : Turn) :
    (if (t.own? userId service).isSome then (t.take s).1.toList else []) =
      ((Standing.ofRecord? service (s.records.get? userId)).decision? userId service
        t).toList.map .ok := by
  cases own : t.own? userId service with
  | none =>
    rw [Standing.decision?_of_none own]
    rfl
  | some turn =>
    obtain ⟨rfl, answer⟩ := Standing.answer?_eq limited (s.records.get? t.userId)
      (show (t.own? userId service).isSome by rw [own]; rfl)
    rw [t.take_answer serves, answer]
    cases Standing.decision? t.userId service t _ <;> rfl

variable (kept : s.WellKept)
include kept

theorem execute_wellKept (schedule : List Turn) : (execute schedule s).WellKept := by
  induction schedule generalizing s with
  | nil => exact kept
  | cons t ts ih =>
    exact ih (serves.alters (t.take_alters serves kept.keyed)) (t.take_wellKept serves kept)

theorem standing_take (limited : service ≠ .guestCreation) (t : Turn) :
    Standing.ofRecord? service ((t.take s).2.records.get? userId) =
      (Standing.ofRecord? service (s.records.get? userId)).after userId service t := by
  by_cases same : t.userId = userId
  · obtain rfl := same
    rw [t.take_record serves kept.keyed, Standing.ofRecord?_record? limited]
  · rw [(t.take_alters serves kept.keyed).others userId (Ne.symm same),
      Standing.after_of_other same]

/-- The checks of a service that is limited for each user are answered by the quota alone. -/
theorem answers_eq (limited : service ≠ .guestCreation) (schedule : List Turn) :
    answers userId service schedule s =
      ((Standing.ofRecord? service (s.records.get? userId)).decisions userId service schedule).map
        .ok := by
  induction schedule generalizing s with
  | nil => cases Standing.ofRecord? service (s.records.get? userId) <;> rfl
  | cons t ts ih =>
    have serves' := serves.alters (t.take_alters serves kept.keyed)
    have rest := ih serves' (t.take_wellKept serves kept)
    rw [standing_take serves kept limited] at rest
    rw [Standing.decisions_cons, List.map_append, ← rest, ← answer_take serves limited]
    rfl

theorem answers_guestCreation (schedule : List Turn) :
    ∀ answer ∈ answers userId .guestCreation schedule s,
      answer = .error (.unknownService .guestCreation) := by
  induction schedule generalizing s with
  | nil => nofun
  | cons t ts ih =>
    intro answer member
    rcases List.mem_append.mp member with first | later
    · split at first
      · rename_i own
        rw [t.take_answer serves] at first
        exact t.answer?_guestCreation own (kept.records t.userId) answer (Option.mem_toList.mp first)
      · contradiction
    · exact ih (serves.alters (t.take_alters serves kept.keyed)) (t.take_wellKept serves kept)
        answer later

end Runs

/-- Whatever the users ask for, each quota of a user decides as if it were alone, from how the record
has it or from the request that creates it. Records stay well kept, and requests for the service
that is limited for each address are never counted for a user. -/
theorem quotas_isolated {s : MemoryStore} (serves : s.ServesRecords) (kept : s.WellKept)
    (schedule : List Turn) :
    (execute schedule s).WellKept ∧ ∀ userId,
      (∀ answer ∈ answers userId .guestCreation schedule s,
        answer = .error (.unknownService .guestCreation)) ∧
      ∀ service, service ≠ .guestCreation →
        answers userId service schedule s =
            ((Standing.ofRecord? service (s.records.get? userId)).decisions userId service
              schedule).map .ok ∧
          (s.records.get? userId ≠ none →
            answers userId service schedule s =
              answers userId service (schedule.filter fun t => (t.own? userId service).isSome) s) := by
  refine ⟨execute_wellKept serves kept schedule, fun userId =>
    ⟨answers_guestCreation serves kept schedule, fun service limited =>
      ⟨answers_eq serves kept limited schedule, fun known => ?_⟩⟩⟩
  rw [answers_eq serves kept limited, answers_eq serves kept limited, Standing.decisions_filter]
  cases found : s.records.get? userId with
  | none => contradiction
  | some r => exact Standing.ofRecord?_known r

end Limiter

namespace Neighbours

open Limiter

def ada : Subject := ⟨"ada", "ada", false⟩

def bob : Subject := ⟨"bob", "bob", true⟩

def record : QuotaRecord :=
  ⟨"ada", "ada", false, [⟨.codeExecution, 50, 60, 49, default, default⟩], default, default⟩

def store : MemoryStore := .ofDocuments [] [] [] [record]

def schedule : List Turn :=
  [.check ada .codeExecution default, .usages bob default, .check ada .aiHint default,
    .setCeiling "ada" .codeExecution 51 default, .check bob .codeExecution default,
    .check ada .codeExecution default, .check ada .guestCreation default,
    .check ada .codeExecution default]

theorem store_wellKept : store.WellKept where
  keyed := Table.keyed_ofList QuotaRecord.userId [record]
  records userId r found := by
    have held : ((Table.empty : Table String QuotaRecord).put record.userId record).get? userId =
        some r := found
    rw [Table.get?_put] at held
    split at held
    · obtain rfl := Option.some.inj held
      exact ⟨by decide, by decide⟩
    · contradiction

theorem quotas_isolated_neighbours :
    let resetAt := (default : Instant).addMinutes 60
    store.ServesRecords ∧ store.WellKept ∧ (execute schedule store).WellKept ∧
      answers "ada" .codeExecution schedule store =
          [.ok ⟨true, ⟨.codeExecution, 0, resetAt, 50⟩⟩, .ok ⟨true, ⟨.codeExecution, 0, resetAt, 51⟩⟩,
            .ok ⟨false, ⟨.codeExecution, 0, resetAt, 51⟩⟩] ∧
        answers "bob" .codeExecution schedule store =
          [.ok ⟨true, ⟨.codeExecution, 199, resetAt, 200⟩⟩] := by
  have serves : store.ServesRecords := ⟨rfl, rfl⟩
  obtain ⟨kept, isolated⟩ := quotas_isolated serves store_wellKept schedule
  refine ⟨serves, store_wellKept, kept, ?_, ?_⟩
  · rw [((isolated "ada").2 .codeExecution (by decide)).1]
    rfl
  · rw [((isolated "bob").2 .codeExecution (by decide)).1]
    rfl

end Neighbours

end Grader

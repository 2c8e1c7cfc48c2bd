import Grader.Proofs.Window
import Mathlib.Data.List.DropRight

/-! How many requests a quota admits. A window is opened by the first request after the last one has
ended, so that two starts lie further apart than a window is long and no interval of that length
meets three windows. -/
namespace Grader

namespace Instant

theorem le_trans {a b c : Instant} (first : a ≤ b) (next : b ≤ c) : a ≤ c := by
  rw [le_iff] at *
  omega

theorem lt_of_le_of_lt {a b c : Instant} (first : a ≤ b) (next : b < c) : a < c := by
  rw [lt_iff] at *
  rw [le_iff] at first
  omega

theorem since_self (t : Instant) : (t.since t).nanos = 0 := by
  simp [since, leapBetween]

/-- From a later point outside of leap seconds the same minutes lead no less far. -/
theorem addMinutes_le_addMinutes {a b : Instant} (before : a ≤ b) (ordinary : ¬b.InLeapSecond)
    {n : Int} (forwards : 0 ≤ n) : a.addMinutes n ≤ b.addMinutes n := by
  rw [le_iff] at *
  rw [second_addMinutes_of_ordinary ordinary, nanos_addMinutes_of_ordinary ordinary]
  unfold InLeapSecond at ordinary
  unfold addMinutes
  split
  · simp_all
  · have short := a.fraction_lt
    have cut : a.fraction ≤ a.nanos := Nat.mod_le ..
    simp only [show ¬n < 0 by omega, and_false, if_false]
    omega

end Instant

namespace Quota

/-- What a turn leaves behind: the check that it answers, and the quota. -/
structure Note where
  answer? : Option (Instant × Decision)
  quota : Quota

namespace Note

def answeredAt? (n : Note) : Option Instant := n.answer?.map Prod.fst

def admittedAt? (n : Note) : Option Instant :=
  (n.answer?.filter (·.2.allowed)).map Prod.fst

end Note

inductive Leads (q : Quota) : Note → Prop where
  | aside : Leads q ⟨none, q⟩
  | ceiling (maxRequests : UInt32) : Leads q ⟨none, { q with maxRequests }⟩
  | refused (now : Instant) (refused : (q.check now).1.allowed = false) :
      Leads q ⟨some (now, (q.check now).1), q⟩
  | admitted (now : Instant) (allowed : (q.check now).1.allowed = true) :
      Leads q ⟨some (now, (q.check now).1), (q.check now).2⟩

/-- A check that is allowed is counted in the window that it falls into. -/
structure Admits (q : Quota) (n : Note) (now : Instant) : Prop where
  answered : n.answeredAt? = some now
  admitted : n.admittedAt? = some now
  window : ¬q.Expired now ∧ n.quota.startedAt = q.startedAt ∧
      n.quota.count.toNat = q.count.toNat + 1 ∨
    q.Expired now ∧ n.quota.startedAt = now ∧ n.quota.count.toNat = 1
  room : n.quota.count ≤ n.quota.maxRequests

theorem check_room {q : Quota} {now : Instant} (allowed : (q.check now).1.allowed = true) :
    (q.reopen now).count < q.maxRequests := by
  by_contra none
  rw [check_of_full (UInt32.not_lt.mp none)] at allowed
  contradiction

variable {q : Quota} {n : Note}

theorem Leads.windowMinutes (leads : q.Leads n) : n.quota.windowMinutes = q.windowMinutes := by
  cases leads with
  | aside | ceiling | refused => rfl
  | admitted now => exact q.check_windowMinutes now

/-- A turn leaves the count of a window alone or adds a check that it allows. -/
theorem Leads.outcome (leads : q.Leads n) :
    n.admittedAt? = none ∧ n.quota.startedAt = q.startedAt ∧ n.quota.count = q.count ∨
      ∃ now, q.Admits n now := by
  cases leads with
  | aside | ceiling => exact .inl ⟨rfl, rfl, rfl⟩
  | refused now refused => exact .inl ⟨by simp [Note.admittedAt?, refused], rfl, rfl⟩
  | admitted now allowed =>
    have room := check_room allowed
    have more := toNat_succ_of_lt room
    refine .inr ⟨now, rfl, by simp [Note.admittedAt?, allowed], ?_, ?_⟩
    · rw [check_of_room room]
      simp only [counted_startedAt, counted_count, more]
      by_cases ended : q.Expired now
      · exact .inr ⟨ended, by simp [reopen_of_expired ended]⟩
      · exact .inl ⟨ended, by simp [reopen_of_open ended]⟩
    · rw [check_of_room room]
      simp only [counted_count, counted_maxRequests, reopen_maxRequests]
      rw [UInt32.le_iff_toNat_le, more]
      rwa [UInt32.lt_iff_toNat_lt] at room

theorem Leads.remaining (leads : q.Leads n) {now : Instant} {d : Decision}
    (answered : n.answer? = some (now, d)) (allowed : d.allowed = true) :
    d.usage.remaining.toNat + n.quota.count.toNat = n.quota.maxRequests.toNat := by
  cases leads with
  | aside | ceiling => contradiction
  | refused time refused =>
    obtain ⟨rfl, rfl⟩ := Prod.mk.inj (Option.some.inj answered)
    rw [refused] at allowed
    contradiction
  | admitted time counted =>
    obtain ⟨rfl, rfl⟩ := Prod.mk.inj (Option.some.inj answered)
    have room := check_room counted
    have more := toNat_succ_of_lt room
    rw [check_of_room room]
    have fits : (q.reopen time).count + 1 ≤ q.maxRequests := by
      rw [UInt32.le_iff_toNat_le, more]
      rwa [UInt32.lt_iff_toNat_lt] at room
    show (q.maxRequests - ((q.reopen time).count + 1)).toNat + _ = (q.reopen time).maxRequests.toNat
    rw [UInt32.toNat_sub_of_le _ _ fits, reopen_maxRequests, counted_count]
    rw [UInt32.le_iff_toNat_le] at fits
    omega

/-- A quota through some turns, each of which goes on from what the one before has left. -/
def Course : Quota → List Note → Prop
  | _, [] => True
  | q, n :: ns => q.Leads n ∧ n.quota.Course ns

theorem Course.append {before after : List Note} (course : q.Course (before ++ after)) :
    ∃ p : Quota, p.windowMinutes = q.windowMinutes ∧ p.Course after := by
  induction before generalizing q with
  | nil => exact ⟨q, rfl, course⟩
  | cons n ns ih =>
    obtain ⟨p, same, rest⟩ := ih course.2
    exact ⟨p, same.trans course.1.windowMinutes, rest⟩

theorem Course.of_append {before after : List Note} (course : q.Course (before ++ after)) :
    q.Course before := by
  induction before generalizing q with
  | nil => trivial
  | cons n ns ih => exact ⟨course.1, ih course.2⟩

def admissions (notes : List Note) : List Instant := notes.filterMap Note.admittedAt?

theorem admissions_cons (n : Note) (ns : List Note) :
    admissions (n :: ns) = n.admittedAt?.toList ++ admissions ns := by
  simp only [admissions, List.filterMap_eq_flatMap_toList, List.flatMap_cons]

theorem Leads.startedAt (leads : q.Leads n) :
    n.quota.startedAt = q.startedAt ∨ q.window < n.quota.startedAt.since q.startedAt := by
  rcases leads.outcome with ⟨_, same, _⟩ | ⟨now, admits⟩
  · exact .inl same
  · rcases admits.window with ⟨_, same, _⟩ | ⟨ended, opened, _⟩
    · exact .inl same
    · exact .inr (opened ▸ ended)

/-- The starts of two windows that follow one another lie further apart than a window is long. -/
theorem Course.starts {notes : List Note} (course : q.Course notes) :
    (q.startedAt :: notes.map (·.quota.startedAt)).IsChain
      fun a b => b = a ∨ q.window < b.since a := by
  induction notes generalizing q with
  | nil => exact .singleton _
  | cons n ns ih =>
    have later := ih course.2
    simp only [window, course.1.windowMinutes] at later
    exact .cons_cons course.1.startedAt later

theorem not_expired_startedAt (forwards : 0 ≤ q.windowMinutes) : ¬q.Expired q.startedAt := by
  have positive := Int64.le_iff_toInt_le.mp forwards
  rw [Int64.toInt_zero] at positive
  unfold Expired window
  rw [Span.lt_iff, Instant.since_self]
  simp only [Span.minutes, nanosPerSecond]
  omega

/-- The count of a quota is that of the checks which were allowed in its window. -/
theorem Leads.count (leads : q.Leads n) (forwards : 0 ≤ q.windowMinutes) :
    n.quota.count.toNat =
      (if q.startedAt = n.quota.startedAt then q.count.toNat else 0) +
        n.admittedAt?.toList.length := by
  rcases leads.outcome with ⟨none, same, count⟩ | ⟨now, admits⟩
  · simp [none, same, count]
  · rcases admits.window with ⟨_, same, count⟩ | ⟨ended, opened, count⟩
    · simp [admits.admitted, same, count]
    · have new : q.startedAt ≠ now := by
        rintro rfl
        exact not_expired_startedAt forwards ended
      simp [admits.admitted, opened, new, count]

theorem Course.admissions_le {notes : List Note} (course : q.Course notes)
    (forwards : 0 ≤ q.windowMinutes) {start : Instant}
    (window : ∀ n ∈ notes, n.quota.startedAt = start) {last : Note}
    (ends : notes.getLast? = some last) :
    (if q.startedAt = start then q.count.toNat else 0) + (admissions notes).length =
      last.quota.count.toNat := by
  induction notes generalizing q with
  | nil => contradiction
  | cons n ns ih =>
    have count := course.1.count forwards
    have opened := window n List.mem_cons_self
    rw [admissions_cons, List.length_append]
    rw [opened] at count
    cases ns with
    | nil =>
      obtain rfl := Option.some.inj ends
      simp [count, admissions]
    | cons m ms =>
      have later := ih course.2 (course.1.windowMinutes ▸ forwards)
        (fun k member => window k (List.mem_cons_of_mem _ member)) ends
      rw [if_pos opened] at later
      omega

/-- The notes since the window of the last of them was opened. -/
def sinceOpening (notes : List Note) (n : Note) : List Note :=
  notes.rtakeWhile fun m => m.quota.startedAt = n.quota.startedAt

theorem Course.admissions_sinceOpening {notes : List Note}
    (course : q.Course (notes ++ [n])) (forwards : 0 ≤ q.windowMinutes) :
    (admissions (sinceOpening (notes ++ [n]) n)).length ≤ n.quota.count.toNat := by
  obtain ⟨before, split⟩ : ∃ before, before ++ sinceOpening (notes ++ [n]) n = notes ++ [n] :=
    List.rtakeWhile_suffix ..
  have ends : (sinceOpening (notes ++ [n]) n).getLast? = some n := by
    unfold sinceOpening
    rw [List.rtakeWhile_concat_pos _ _ _ (by simp)]
    simp
  rw [← split] at course
  obtain ⟨p, same, later⟩ := course.append
  have counted := later.admissions_le (same ▸ forwards)
    (fun m member => by simpa using List.mem_rtakeWhile_imp member) ends
  omega

/-- A check that is allowed is within the ceiling of the time, with all that were allowed since the
window was opened. -/
theorem Course.allowed {before after : List Note} (course : q.Course (before ++ n :: after))
    (forwards : 0 ≤ q.windowMinutes) {now : Instant} {d : Decision}
    (answered : n.answer? = some (now, d)) (allowed : d.allowed = true) :
    (admissions (sinceOpening (before ++ [n]) n)).length ≤ n.quota.maxRequests.toNat ∧
      d.usage.remaining.toNat + n.quota.count.toNat = n.quota.maxRequests.toNat := by
  obtain ⟨_, _, leads, _⟩ := course.append
  have adds := leads.remaining answered allowed
  rw [List.append_cons] at course
  have counted := course.of_append.admissions_sinceOpening forwards
  exact ⟨by omega, adds⟩

def times (notes : List Note) : List Instant := notes.filterMap Note.answeredAt?

theorem times_cons (n : Note) (ns : List Note) :
    times (n :: ns) = n.answeredAt?.toList ++ times ns := by
  simp only [times, List.filterMap_eq_flatMap_toList, List.flatMap_cons]

theorem Note.answeredAt?_of_admitted {n : Note} {now : Instant}
    (admitted : n.admittedAt? = some now) : n.answeredAt? = some now := by
  obtain ⟨answer, found, rfl⟩ := Option.map_eq_some_iff.mp admitted
  rw [answeredAt?, (Option.filter_eq_some_iff.mp found).1, Option.map_some]

theorem mem_times_of_admissions {notes : List Note} {now : Instant}
    (member : now ∈ admissions notes) : now ∈ times notes := by
  obtain ⟨n, listed, admitted⟩ := List.mem_filterMap.mp member
  exact List.mem_filterMap.mpr ⟨n, listed, Note.answeredAt?_of_admitted admitted⟩

/-- Time goes on through the notes, not within leap seconds, and the ceiling stays. -/
structure Steady (ceiling : UInt32) (notes : List Note) : Prop where
  ordered : (times notes).Pairwise (· ≤ ·)
  ordinary : ∀ now ∈ times notes, ¬now.InLeapSecond
  ceiling : ∀ n ∈ notes, n.quota.maxRequests = ceiling

variable {ceiling : UInt32} {ns : List Note} {a now : Instant}

theorem Steady.tail (steady : Steady ceiling (n :: ns)) : Steady ceiling ns := by
  obtain ⟨ordered, ordinary, same⟩ := steady
  rw [times_cons] at ordered ordinary
  exact ⟨(List.pairwise_append.mp ordered).2.1,
    fun now member => ordinary now (List.mem_append_right _ member),
    fun m member => same m (List.mem_cons_of_mem _ member)⟩

theorem Steady.later (steady : Steady ceiling (n :: ns)) (answered : n.answeredAt? = some now) :
    ¬now.InLeapSecond ∧ ∀ t ∈ times ns, now ≤ t := by
  obtain ⟨ordered, ordinary, _⟩ := steady
  rw [times_cons, answered, Option.toList_some, List.singleton_append] at ordered ordinary
  exact ⟨ordinary now List.mem_cons_self, (List.pairwise_cons.mp ordered).1⟩

def within (a b : Instant) (ts : List Instant) : Nat := ts.countP fun t => a ≤ t ∧ t ≤ b

theorem within_le_of_admits (admitted : n.admittedAt? = some now) (a b : Instant)
    (ns : List Note) :
    within a b (admissions (n :: ns)) ≤ within a b (admissions ns) + 1 := by
  rw [admissions_cons, admitted, Option.toList_some, List.singleton_append]
  unfold within
  rw [List.countP_cons]
  split <;> omega

theorem within_of_none (none : n.admittedAt? = none) (b : Instant) :
    within a b (admissions (n :: ns)) = within a b (admissions ns) := by
  rw [admissions_cons, none, Option.toList_none, List.nil_append]

theorem within_eq_zero {b : Instant} (late : ∀ t ∈ times ns, b < t) :
    within a b (admissions ns) = 0 := by
  refine List.countP_eq_zero.mpr fun t member inside => ?_
  have upTo := (of_decide_eq_true inside).2
  exact (Instant.not_lt_iff b t).mpr upTo (late t (mem_times_of_admissions member))

theorem past_of_expired (forwards : 0 ≤ q.windowMinutes) (since : a ≤ q.startedAt)
    (started : ¬q.startedAt.InLeapSecond) (ordinary : ¬now.InLeapSecond) (ended : q.Expired now) :
    a.addMinutes q.windowMinutes.toInt < now := by
  have positive := Int64.le_iff_toInt_le.mp forwards
  have past := (expired_iff started ordinary).mp ended
  exact Instant.lt_of_le_of_lt (Instant.addMinutes_le_addMinutes since started positive) past

/-- No window that starts within an interval is followed by another one there. -/
theorem Course.within_le_of_opened {notes : List Note} (course : q.Course notes)
    (forwards : 0 ≤ q.windowMinutes) (steady : Steady ceiling notes) (since : a ≤ q.startedAt)
    (started : ¬q.startedAt.InLeapSecond) (room : q.count ≤ ceiling) :
    within a (a.addMinutes q.windowMinutes.toInt) (admissions notes) + q.count.toNat ≤
      ceiling.toNat := by
  rw [UInt32.le_iff_toNat_le] at room
  induction notes generalizing q with
  | nil => simpa [within, admissions] using room
  | cons n ns ih =>
    have same := course.1.windowMinutes
    have later := @ih n.quota course.2 (same ▸ forwards) steady.tail
    rw [same] at later
    rcases course.1.outcome with ⟨none, start, count⟩ | ⟨now, admits⟩
    · rw [within_of_none none]
      rw [start, count] at later
      exact later since started room
    · obtain ⟨ordinary, bounds⟩ := steady.later admits.answered
      have limit := steady.ceiling n List.mem_cons_self
      have fits := limit ▸ admits.room
      rw [UInt32.le_iff_toNat_le] at fits
      rcases admits.window with ⟨_, start, count⟩ | ⟨ended, _, _⟩
      · rw [start, count] at later
        have more := within_le_of_admits admits.admitted a
          (a.addMinutes q.windowMinutes.toInt) ns
        have rest := later since started (count ▸ fits)
        omega
      · -- The next window opens past the interval, and with it all that follows lies outside.
        have past := past_of_expired forwards since started ordinary ended
        have late : ∀ t ∈ times (n :: ns), a.addMinutes q.windowMinutes.toInt < t := by
          rw [times_cons, admits.answered]
          rintro t (_ | ⟨_, member⟩)
          · exact past
          · exact Instant.lt_of_lt_of_le past (bounds t member)
        rw [within_eq_zero late]
        omega

/-- An interval holds what is left of the window that it begins in, and at most one window more. -/
theorem Course.within_le_of_begun {notes : List Note} (course : q.Course notes)
    (forwards : 0 ≤ q.windowMinutes) (steady : Steady ceiling notes)
    (since : ∀ t ∈ times notes, a ≤ t) :
    within a (a.addMinutes q.windowMinutes.toInt) (admissions notes) ≤
      (ceiling.toNat - q.count.toNat) + ceiling.toNat := by
  induction notes generalizing q with
  | nil => simp [within, admissions]
  | cons n ns ih =>
    have same := course.1.windowMinutes
    have forwards' := same ▸ forwards
    have since' : ∀ t ∈ times ns, a ≤ t := fun t member =>
      since t (times_cons n ns ▸ List.mem_append_right _ member)
    have later := ih course.2 forwards' steady.tail since'
    rw [same] at later
    rcases course.1.outcome with ⟨none, _, count⟩ | ⟨now, admits⟩
    · rw [within_of_none none]
      rwa [count] at later
    · have begun : a ≤ now := since now (by simp [times_cons, admits.answered])
      have ordinary := (steady.later admits.answered).1
      have limit := steady.ceiling n List.mem_cons_self
      have fits := limit ▸ admits.room
      have more := within_le_of_admits admits.admitted a
        (a.addMinutes q.windowMinutes.toInt) ns
      rcases admits.window with ⟨_, _, count⟩ | ⟨_, opened, count⟩
      · rw [UInt32.le_iff_toNat_le] at fits
        omega
      · -- A window that opens within the interval reaches past its end.
        have first := course.2.within_le_of_opened (a := a) forwards' steady.tail
          (opened ▸ begun) (opened ▸ ordinary) fits
        rw [same] at first
        omega

/-- No interval of the length of a window holds more than two windows' requests. -/
theorem Course.within_le {notes : List Note} (course : q.Course notes)
    (forwards : 0 ≤ q.windowMinutes) (steady : Steady ceiling notes) :
    within a (a.addMinutes q.windowMinutes.toInt) (admissions notes) ≤ 2 * ceiling.toNat := by
  induction notes generalizing q with
  | nil => simp [within, admissions]
  | cons n ns ih =>
    have same := course.1.windowMinutes
    have later := ih course.2 (same ▸ forwards) steady.tail
    rw [same] at later
    cases answered : n.answeredAt? with
    | none =>
      have none : n.admittedAt? = none := by
        refine Option.eq_none_iff_forall_ne_some.mpr fun now admitted => ?_
        rw [Note.answeredAt?_of_admitted admitted] at answered
        contradiction
      rwa [within_of_none none]
    | some now =>
      by_cases begun : a ≤ now
      · have since : ∀ t ∈ times (n :: ns), a ≤ t := by
          rw [times_cons, answered]
          rintro t (_ | ⟨_, member⟩)
          · exact begun
          · exact Instant.le_trans begun ((steady.later answered).2 t member)
        have bound := course.within_le_of_begun forwards steady since
        omega
      · have outside : within a (a.addMinutes q.windowMinutes.toInt) (admissions (n :: ns)) =
            within a (a.addMinutes q.windowMinutes.toInt) (admissions ns) := by
          cases admitted : n.admittedAt? with
          | none => exact within_of_none admitted _
          | some time =>
            have same := (Note.answeredAt?_of_admitted admitted).symm.trans answered
            obtain rfl := Option.some.inj same
            simp [within, admissions_cons, admitted, begun]
        rwa [outside]

end Quota
end Grader

import Grader.Grading.Site
import Grader.Proofs.Store

/-! What one step may do to a site. It tries to save one submission at most; beyond that it changes
counts and calls, and where it makes an offer, the queue. -/
namespace Grader

namespace Queue

def push (q : Queue) (id : Uuid) : Queue :=
  { q with channel := q.channel ++ [id], inFlight := q.inFlight ++ [id] }

theorem mem_channel_push (q : Queue) (id : Uuid) : id ∈ (q.push id).channel :=
  List.mem_append_right _ List.mem_cons_self

theorem mem_channel_of_push {q : Queue} {id x : Uuid} (waits : x ∈ (q.push id).channel) :
    x ∈ q.channel ∨ x = id := (List.mem_append.mp waits).imp_right List.mem_singleton.mp

theorem mem_inFlight_of_push {q : Queue} {id x : Uuid} (flying : x ∈ (q.push id).inFlight) :
    x ∈ q.inFlight ∨ x = id := (List.mem_append.mp flying).imp_right List.mem_singleton.mp

/-- An offer is taken, or changes nothing because it comes too early or is refused. -/
theorem enqueue_cases (q : Queue) (id : Uuid) :
    id ∉ q.inFlight ∧ q.enqueue id = (.queued, q.push id) ∨
      id ∈ q.inFlight ∧ q.enqueue id = (.alreadyQueued, q) ∨
        ∃ e, q.enqueue id = (.refused e, q) := by
  unfold enqueue
  split
  · exact .inr (.inr ⟨.closed, rfl⟩)
  · split
    · rename_i flying
      exact .inr (.inl ⟨List.contains_iff_mem.mp flying, rfl⟩)
    · rename_i grounded
      split
      · exact .inr (.inr ⟨.closed, rfl⟩)
      · split
        · exact .inr (.inr ⟨.full, rfl⟩)
        · exact .inl ⟨fun flying => grounded (List.contains_iff_mem.mpr flying), rfl⟩

/-- An offer is taken exactly if it is new and the queue is open, attended to, and not full. -/
theorem enqueue_queued_iff (q : Queue) (id : Uuid) :
    (q.enqueue id).1 = .queued ↔ q.isClosed = false ∧ id ∉ q.inFlight ∧ q.isAttached = true ∧
      q.channel.length < q.capacity := by
  have flying : q.isInFlight id = true ↔ id ∈ q.inFlight := List.contains_iff_mem
  unfold enqueue
  repeat' split
  all_goals simp_all

end Queue

namespace Site

def keep? (s : Site) (d? : Option Submission) : Site := d?.elim s s.keep

/-- The sites differ in queue, counts and calls at most. -/
def Aside (a b : Site) : Prop := ∃ queue metrics calls, b = { a with queue, metrics, calls }

theorem Aside.refl (s : Site) : s.Aside s := ⟨s.queue, s.metrics, s.calls, rfl⟩

theorem Aside.store {a b : Site} (aside : a.Aside b) : b.store = a.store := by
  obtain ⟨_, _, _, rfl⟩ := aside
  rfl

/-- The second site comes from the first by an attempt to save a submission, if there is one. -/
def Attempted (d? : Option Submission) (a b : Site) : Prop :=
  (a.keep? d?).Aside b ∨ ¬a.Saves ∧ a.Aside b

theorem Attempted.of_none {a b : Site} (aside : a.Aside b) : a.Attempted none b := .inl aside

theorem kept_of_saved {a b : Site} {d : Submission} (saved : a.saveSubmission d = .ok b) :
    b = a.keep d := by
  rcases saveSubmission_cases a d with kept | ⟨e, failed⟩
  · exact Except.ok.inj (saved.symm.trans kept)
  · rw [failed] at saved
    contradiction

theorem Attempted.of_saved {a b : Site} {d : Submission} (saved : a.saveSubmission d = .ok b) :
    a.Attempted (some d) b := by
  rw [kept_of_saved saved]
  exact .inl (.refl _)

theorem Attempted.of_failed {s : Site} {d : Submission} {e : StoreError}
    (failed : s.saveSubmission d = .error e) : s.Attempted (some d) s := by
  refine .inr ⟨fun saves => ?_, .refl s⟩
  rw [saves.save] at failed
  contradiction

theorem fault?_keep? (s : Site) (d? : Option Submission) :
    (s.keep? d?).store.fault? = s.store.fault? := by
  cases d? <;> rfl

theorem Attempted.fault? {a b : Site} {d? : Option Submission} (attempted : a.Attempted d? b) :
    b.store.fault? = a.store.fault? := by
  rcases attempted with aside | ⟨_, aside⟩
  · rw [aside.store, fault?_keep?]
  · rw [aside.store]

theorem Attempted.stored? {a b : Site} {d? : Option Submission} (attempted : a.Attempted d? b)
    (saves : a.Saves) (id : Uuid) : b.stored? id = (a.keep? d?).stored? id := by
  rcases attempted with aside | ⟨fails, _⟩
  · unfold Site.stored?
    rw [aside.store]
  · exact absurd saves fails

/-- Only the submission that is to be saved changes. -/
theorem Attempted.stored?_other {a b : Site} {d? : Option Submission}
    (attempted : a.Attempted d? b) {id : Uuid} (other : ∀ d ∈ d?, id ≠ d.id) :
    b.stored? id = a.stored? id := by
  rcases attempted with aside | ⟨_, aside⟩
  · unfold Site.stored?
    rw [aside.store]
    cases d? with
    | none => rfl
    | some d => exact stored?_keep_other a (other d rfl)
  · unfold Site.stored?
    rw [aside.store]

/-- What is stored afterwards was just saved, or was there and nothing else was saved over it. -/
theorem Attempted.found_cases {a b : Site} {d? : Option Submission} (attempted : a.Attempted d? b)
    (saves : a.Saves) {id : Uuid} {d : Submission} (found : b.stored? id = some d) :
    d ∈ d? ∧ d.id = id ∨ (∀ e ∈ d?, e.id ≠ id) ∧ a.stored? id = some d := by
  rw [attempted.stored? saves] at found
  cases d? with
  | none => exact .inr ⟨fun e saved => (Option.not_mem_none e saved).elim, found⟩
  | some e =>
    change (a.keep e).stored? id = some d at found
    rw [stored?_keep] at found
    split at found
    · rename_i same
      obtain rfl := Option.some.inj found
      exact .inl ⟨rfl, same.symm⟩
    · rename_i other
      refine .inr ⟨fun e' saved same => ?_, found⟩
      obtain rfl := Option.some.inj saved
      exact other same.symm

/-- What is stored is never taken away. -/
theorem Attempted.stays {a b : Site} {d? : Option Submission} (attempted : a.Attempted d? b)
    {id : Uuid} (found : ∃ d, a.stored? id = some d) : ∃ d, b.stored? id = some d := by
  rcases attempted with aside | ⟨_, aside⟩
  · unfold Site.stored?
    rw [aside.store]
    cases d? with
    | none => exact found
    | some e =>
      show ∃ d, (a.keep e).stored? id = some d
      rw [stored?_keep]
      split
      · exact ⟨e, rfl⟩
      · exact found
  · unfold Site.stored?
    rw [aside.store]
    exact found

theorem Attempted.keyed {a b : Site} {d? : Option Submission} (attempted : a.Attempted d? b)
    (keyed : a.Keyed) : b.Keyed := by
  rcases attempted with aside | ⟨_, aside⟩
  · unfold Site.Keyed
    rw [aside.store]
    cases d? with
    | none => exact keyed
    | some d => exact keyed.keep d
  · unfold Site.Keyed
    rw [aside.store]
    exact keyed

theorem aside_enqueue (s : Site) (id : Uuid) : s.Aside (s.enqueue id).2 := ⟨_, _, s.calls, rfl⟩

end Site

end Grader

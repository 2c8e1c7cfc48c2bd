import Grader.Language
import Grader.Metrics.Basic
import Grader.Status
import Mathlib.Algebra.GroupWithZero.Nat
import Mathlib.Data.List.Nodup
import Mathlib.Data.List.ProdSigma

/-! What the counts of a server tell. The labels of languages and statuses have fingerprints of their
own, so that each event is counted for its language and for no other. -/
namespace Grader

/-- A change that adds one to the value under a key adds one to the sum of all. -/
theorem Table.sum_update [BEq κ] [LawfulBEq κ] (weight : α → Nat) {a : α} {f : α → α}
    (nothing : weight a = 0) (grows : ∀ b, weight (f b) = weight b + 1) (t : Table κ α) (key : κ) :
    ((t.update key a f).entries.map (weight ·.2)).sum = (t.entries.map (weight ·.2)).sum + 1 := by
  obtain ⟨es⟩ := t
  simp only [update, put, get?]
  induction es with
  | nil => simp [putEntry, grows, nothing]
  | cons e es ih =>
    obtain ⟨k, b⟩ := e
    by_cases same : key = k
    · subst same
      simp only [putEntry, List.lookup_cons, beq_self_eq_true, if_true, List.map_cons, List.sum_cons,
        Option.getD_some, grows]
      omega
    · have other : (key == k) = false := beq_eq_false_iff_ne.mpr same
      simp only [putEntry, List.lookup_cons, other, if_neg Bool.false_ne_true, List.map_cons,
        List.sum_cons, ih]
      omega

namespace Labelled

/-- What has been counted under some label values. -/
def count (t : Labelled Nat) (values : List String) : Nat := (t.get? values).getD 0

/-- What has been counted under any label values. -/
def total (t : Labelled Nat) : Nat := (t.entries.map (·.2)).sum

theorem total_bump (t : Labelled Nat) (values : List String) :
    (Metrics.bump t values).total = t.total + 1 := by
  simp only [total, entries, List.map_map, Function.comp_def]
  exact Table.sum_update Prod.snd rfl (fun _ => rfl) t.children (key values)

theorem count_bump_same (t : Labelled Nat) {values others : List String}
    (same : key others = key values) :
    (Metrics.bump t values).count others = t.count others + 1 := by
  have gets (u : Labelled Nat) : u.get? others = u.get? values := by simp only [get?, same]
  simp only [count, gets, Metrics.bump, get?_update_same, Option.getD_some]

theorem count_bump_other (t : Labelled Nat) {values others : List String}
    (other : key others ≠ key values) :
    (Metrics.bump t values).count others = t.count others := by
  simp only [count, Metrics.bump, get?_update_other t other]

theorem language_keys_nodup : (Language.all.map fun l => key [l.name]).Nodup := by decide +kernel

theorem language_key_inj {l k : Language} : key [l.name] = key [k.name] ↔ l = k :=
  ⟨fun same => List.inj_on_of_nodup_map language_keys_nodup l.mem_all k.mem_all same,
    fun same => same ▸ rfl⟩

theorem verdict_keys_nodup :
    ((Language.all ×ˢ Status.all).map fun p => key [p.1.name, p.2.name]).Nodup := by decide +kernel

theorem verdict_key_inj {l k : Language} {s r : Status} :
    key [l.name, s.name] = key [k.name, r.name] ↔ l = k ∧ s = r := by
  constructor
  · intro same
    exact Prod.mk.inj (List.inj_on_of_nodup_map verdict_keys_nodup
      (List.mem_product.mpr ⟨l.mem_all, s.mem_all⟩) (List.mem_product.mpr ⟨k.mem_all, r.mem_all⟩)
      same)
  · rintro ⟨rfl, rfl⟩
    rfl

end Labelled

namespace Metrics

def enqueuedOf (m : Metrics) (l : Language) : Nat := m.enqueued.count [l.name]

/-- The submissions in a language that were completed, with whatever status. -/
def completedOf (m : Metrics) (l : Language) : Nat :=
  (Status.all.map fun s => m.completed.count [l.name, s.name]).sum

/-- The observations of evaluation times. -/
def evaluatedOf (m : Metrics) (l : Language) : Nat :=
  ((m.evaluationTime.get? [l.name]).map Histogram.count).getD 0

/-- The offers that were not taken, for whatever reason. -/
def rejectedTotal (m : Metrics) : Nat := m.rejected.total

theorem enqueuedOf_recordEnqueued (m : Metrics) (l k : Language) :
    (m.recordEnqueued l.name).enqueuedOf k = m.enqueuedOf k + if k = l then 1 else 0 := by
  unfold enqueuedOf recordEnqueued
  split
  · rename_i same
    exact Labelled.count_bump_same _ (Labelled.language_key_inj.mpr same)
  · rename_i other
    exact Labelled.count_bump_other _ fun same => other (Labelled.language_key_inj.mp same)

theorem rejectedTotal_recordRejected (m : Metrics) (reason : String) :
    (m.recordRejected reason).rejectedTotal = m.rejectedTotal + 1 := m.rejected.total_bump [reason]

theorem count_recordCompleted (m : Metrics) (l k : Language) (s r : Status) (ms : Float) :
    (m.recordCompleted l.name s.name ms).completed.count [k.name, r.name] =
      m.completed.count [k.name, r.name] + if k = l ∧ r = s then 1 else 0 := by
  unfold recordCompleted
  split
  · rename_i same
    exact Labelled.count_bump_same _ (Labelled.verdict_key_inj.mpr same)
  · rename_i other
    exact Labelled.count_bump_other _ fun same => other (Labelled.verdict_key_inj.mp same)

theorem completedOf_recordCompleted (m : Metrics) (l k : Language) (s : Status) (ms : Float) :
    (m.recordCompleted l.name s.name ms).completedOf k =
      m.completedOf k + if k = l then 1 else 0 := by
  unfold completedOf
  simp only [count_recordCompleted]
  by_cases same : k = l
  · -- One status of all is the one that was counted.
    cases s <;> simp [same, Status.all] <;> omega
  · simp [same]

theorem evaluatedOf_recordCompleted (m : Metrics) (l k : Language) (status : String) (ms : Float) :
    (m.recordCompleted l.name status ms).evaluatedOf k =
      m.evaluatedOf k + if k = l then 1 else 0 := by
  unfold evaluatedOf recordCompleted
  split
  · rename_i same
    subst same
    rw [Labelled.get?_update_same]
    cases m.evaluationTime.get? [k.name] <;> rfl
  · rename_i other
    rw [Labelled.get?_update_other _ fun same => other (Labelled.language_key_inj.mp same)]
    rfl

/-- The counts differ in dispatch failures and limited requests at most. -/
def Aside (a b : Metrics) : Prop := ∃ dispatchFailures limited, b = { a with dispatchFailures, limited }

theorem Aside.refl (m : Metrics) : m.Aside m := ⟨m.dispatchFailures, m.limited, rfl⟩

end Metrics

end Grader

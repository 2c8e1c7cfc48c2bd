import Grader.Evaluation.Verdict

/-! What a verdict says about the cases behind it. It is always a state that ends a run, and it is
ACCEPTED exactly where there are cases and none of them has failed. -/
namespace Grader

namespace Status

/-- Only failures have a rank above 0. -/
theorem rank_pos_iff (s : Status) : 0 < s.rank ↔ s.isTerminal = true ∧ s ≠ .accepted := by
  cases s <;> decide

@[simp] theorem rank_worse (a b : Status) : (worse a b).rank = max a.rank b.rank := by
  unfold worse
  split <;> omega

theorem rank_le_foldl_worse (a : Status) (ss : List Status) :
    a.rank ≤ (ss.foldl worse a).rank := by
  induction ss generalizing a with
  | nil => exact Nat.le_refl _
  | cons s ss ih =>
    have tail := ih (worse a s)
    rw [rank_worse] at tail
    exact Nat.le_trans (Nat.le_max_left _ _) tail

/-- Nothing takes the place of a state unless something worse follows. -/
theorem foldl_worse_eq_self_iff (a : Status) (ss : List Status) :
    ss.foldl worse a = a ↔ ∀ s ∈ ss, s.rank ≤ a.rank := by
  induction ss with
  | nil => simp
  | cons s ss ih =>
    by_cases h : a.rank < s.rank
    · have worse_eq : worse a s = s := by simp [worse, h]
      constructor
      · intro same
        have le := rank_le_foldl_worse s ss
        rw [List.foldl_cons, worse_eq] at same
        rw [same] at le
        omega
      · intro all
        have := all s List.mem_cons_self
        omega
    · have worse_eq : worse a s = a := by simp [worse, h]
      rw [List.foldl_cons, worse_eq, ih]
      simp only [List.mem_cons, forall_eq_or_imp]
      exact ⟨fun all => ⟨Nat.not_lt.mp h, all⟩, fun all => all.2⟩

theorem foldl_worse_terminal {a : Status} (h : a.isTerminal = true) (ss : List Status) :
    (ss.foldl worse a).isTerminal = true := by
  induction ss generalizing a with
  | nil => exact h
  | cons s ss ih =>
    refine ih ?_
    unfold worse
    split
    · rename_i lower
      exact ((rank_pos_iff s).mp (by omega)).1
    · exact h

end Status

namespace Verdict

theorem aggregate_terminal (results : List CaseResult) :
    (aggregate results).isTerminal = true := by
  unfold aggregate
  split
  · rfl
  · exact Status.foldl_worse_terminal rfl _

theorem aggregate_eq_accepted_iff (results : List CaseResult) :
    aggregate results = .accepted ↔ results ≠ [] ∧ ∀ r ∈ results, r.status.rank = 0 := by
  cases results with
  | nil => simp [aggregate]
  | cons r rs =>
    have aggregate_eq : aggregate (r :: rs) =
        ((r :: rs).map (·.status)).foldl Status.worse .accepted := rfl
    rw [aggregate_eq, Status.foldl_worse_eq_self_iff]
    simp [Status.rank]

end Grader.Verdict

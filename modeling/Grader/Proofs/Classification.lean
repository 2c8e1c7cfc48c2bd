import Grader.Evaluation.Classification
import Grader.Proofs.Verdict

/-! When a case counts as passed: the sandbox says so, the memory is within its limit and the output
is the expected one. A table of signatures cannot change that unless one of its rules passes cases. -/
namespace Grader

/-- No rule makes a case pass, or leaves it without an end. -/
def Signatures.NeverPass (t : Signatures) : Prop :=
  ∀ rule ∈ t.rules, rule.status.isTerminal = true ∧ rule.status ≠ .accepted

theorem Signatures.default_neverPass : Signatures.default.NeverPass := by
  intro rule member
  simp only [Signatures.default, List.mem_map] at member
  obtain ⟨pattern, _, rfl⟩ := member
  exact ⟨rfl, nofun⟩

theorem Signatures.rank_reclassify {t : Signatures} (h : t.NeverPass) {output : String}
    {status : Status} (found : t.reclassify output = some status) : 0 < status.rank := by
  obtain ⟨rule, find, rfl⟩ := Option.map_eq_some_iff.mp found
  exact (Status.rank_pos_iff _).mpr (h rule (List.mem_of_find?_eq_some find))

/-- What takes the place of a failure is a failure. -/
theorem Signatures.rank_reclassify_getD {t : Signatures} (h : t.NeverPass) (output : String)
    {failure : Status} (failed : 0 < failure.rank) :
    0 < ((t.reclassify output).getD failure).rank := by
  cases found : t.reclassify output with
  | none => exact failed
  | some status => exact rank_reclassify h found

namespace Problem

/-- The memory that a run has used is within the limit of the problem. -/
def Allows (p : Problem) (usedKb : UInt64) : Prop :=
  0 < p.memoryLimitMb.toNat → usedKb.toNat ≤ p.memoryLimitMb.toNat * 1024

/-- The memory limit is a number of kilobytes too. -/
def Fits (p : Problem) : Prop := p.memoryLimitMb.toNat < Nat.pow 2 54

instance (p : Problem) : Decidable p.Fits := inferInstanceAs (Decidable (_ < _))

theorem fits_iff (p : Problem) : p.Fits ↔ p.memoryLimitMb.toNat * 1024 < UInt64.size := by
  have size : UInt64.size = 18446744073709551616 := rfl
  have bound : p.Fits ↔ p.memoryLimitMb.toNat < 18014398509481984 := Iff.rfl
  rw [bound, size]
  omega

theorem limited_of_not_fits {p : Problem} (beyond : ¬p.Fits) : p.memoryLimitMb ≠ 0 := by
  intro none
  rw [Fits, none] at beyond
  exact beyond (by decide)

theorem limited_iff (p : Problem) : p.memoryLimitMb ≠ 0 ↔ 0 < p.memoryLimitMb.toNat := by
  rw [Nat.pos_iff_ne_zero]
  exact not_congr UInt64.toNat_inj.symm

theorem memoryLimit_ne_overflow {p : Problem} (fits : p.Fits) : p.memoryLimit ≠ .overflow := by
  unfold memoryLimit
  split
  · simp
  · rw [if_pos (p.fits_iff.mp fits)]
    simp

theorem memoryLimit_of_not_fits {p : Problem} (beyond : ¬p.Fits) : p.memoryLimit = .overflow := by
  unfold memoryLimit
  rw [if_neg (limited_of_not_fits beyond), if_neg (mt p.fits_iff.mpr beyond)]

theorem memoryLimit_eq_overflow_iff (p : Problem) : p.memoryLimit = .overflow ↔ ¬p.Fits :=
  ⟨fun overflow fits => memoryLimit_ne_overflow fits overflow, memoryLimit_of_not_fits⟩

/-- The product is the true one. -/
theorem toNat_kilobytes {p : Problem} (fits : p.Fits) :
    (p.memoryLimitMb * 1024).toNat = p.memoryLimitMb.toNat * 1024 := by
  rw [UInt64.toNat_mul]
  exact Nat.mod_eq_of_lt (p.fits_iff.mp fits)

theorem memoryLimit_eq_kilobytes_iff {p : Problem} (fits : p.Fits) (n : UInt64) :
    p.memoryLimit = .kilobytes n ↔
      0 < p.memoryLimitMb.toNat ∧ n.toNat = p.memoryLimitMb.toNat * 1024 := by
  rw [← limited_iff, ← toNat_kilobytes fits, UInt64.toNat_inj]
  unfold memoryLimit
  by_cases none : p.memoryLimitMb = 0
  · simp [none]
  · rw [if_neg none, if_pos (p.fits_iff.mp fits), MemoryLimit.kilobytes.injEq]
    exact ⟨fun same => ⟨none, same.symm⟩, fun same => same.2.symm⟩

theorem exceededBy_memoryLimit {p : Problem} (fits : p.Fits) (usedKb : UInt64) :
    p.memoryLimit.exceededBy usedKb = false ↔ p.Allows usedKb := by
  unfold memoryLimit Allows
  split
  · rename_i none
    simp [none, MemoryLimit.exceededBy]
  · rename_i some
    rw [if_pos (p.fits_iff.mp fits)]
    simp [MemoryLimit.exceededBy, UInt64.lt_iff_toNat_lt, toNat_kilobytes fits,
      p.limited_iff.mp some]

theorem not_allows_iff (p : Problem) (usedKb : UInt64) :
    ¬p.Allows usedKb ↔
      0 < p.memoryLimitMb.toNat ∧ p.memoryLimitMb.toNat * 1024 < usedKb.toNat := by
  unfold Allows
  omega

end Problem

/-- A run of a program that passes a case. -/
structure ExecutionOutput.Passes (output : ExecutionOutput) (p : Problem) (expected : String) :
    Prop where
  success : output.status = .success
  memory : p.Allows output.memoryUsedKb
  text : Text.normalized output.output = Text.normalized expected

theorem classify_rank_eq_zero_iff {signatures : Signatures} (h : signatures.NeverPass)
    {p : Problem} (fits : p.Fits) (output : ExecutionOutput)
    (expected : String) :
    (classify output expected p.memoryLimit signatures).rank = 0 ↔ output.Passes p expected := by
  have allows := Problem.exceededBy_memoryLimit fits output.memoryUsedKb
  have failure (failed : Status) (positive : 0 < failed.rank) :=
    Signatures.rank_reclassify_getD h output.output positive
  constructor
  · intro passed
    unfold classify at passed
    split at passed
    · have := failure .runtimeError (by decide)
      omega
    · rename_i success
      split at passed
      · exact absurd passed (by decide)
      · rename_i within
        split at passed
        · rename_i same
          exact ⟨success, allows.mp (Bool.eq_false_iff.mpr within), same⟩
        · have := failure .wrongAnswer (by decide)
          omega
    all_goals
      rename_i status
      rw [status] at passed
      exact absurd passed (by decide)
  · intro passes
    simp only [classify, passes.success, allows.mpr passes.memory, passes.text, if_true]
    rfl

end Grader

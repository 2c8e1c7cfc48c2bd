import Grader.Evaluation.Run
import Grader.Proofs.ProblemFile
import Mathlib.Data.List.Nodup

/-! The order in which cases are run. It does not depend on how they are stored: cases that differ in
their ids have one order, and all that a run does and tells follows that order. -/
namespace Grader

namespace TestCase

theorem before_total (a b : TestCase) : a.Before b ∨ b.Before a := by
  rcases Int32.lt_or_le a.sequence b.sequence with less | le
  · exact .inl (.inl less)
  rcases Int32.lt_or_eq_of_le le with more | same
  · exact .inr (.inl more)
  · exact (String.le_total a.id b.id).imp (fun le => .inr ⟨same.symm, le⟩) fun le => .inr ⟨same, le⟩

theorem Before.trans {a b c : TestCase} (first : a.Before b) (second : b.Before c) : a.Before c := by
  rcases first with less | ⟨same, le⟩
  · rcases second with less' | ⟨same', -⟩
    · exact .inl (Int32.lt_trans less less')
    · exact .inl (same' ▸ less)
  · rcases second with less' | ⟨same', le'⟩
    · exact .inl (same ▸ less')
    · exact .inr ⟨same.trans same', String.le_trans le le'⟩

/-- Two cases of which either may come first have the same number and the same id. -/
theorem Before.antisymm {a b : TestCase} (first : a.Before b) (second : b.Before a) :
    a.sequence = b.sequence ∧ a.id = b.id := by
  rcases first with less | ⟨same, le⟩
  · rcases second with less' | ⟨same, -⟩
    · exact absurd (Int32.lt_trans less less') (Int32.lt_irrefl)
    · exact absurd (same ▸ less) (Int32.lt_irrefl)
  · rcases second with less | ⟨-, le'⟩
    · exact absurd (same ▸ less) (Int32.lt_irrefl)
    · exact ⟨same, String.le_antisymm le le'⟩

theorem ordered_perm (cases : List TestCase) : (ordered cases).Perm cases := List.mergeSort_perm ..

theorem ordered_pairwise (cases : List TestCase) : (ordered cases).Pairwise Before := by
  have sorted : (ordered cases).Pairwise fun a b => decide (Before a b) = true :=
    List.pairwise_mergeSort (by simpa using fun a b c => Before.trans) (by simpa using before_total)
      cases
  exact sorted.imp fun before => of_decide_eq_true before

/-- The cases of one number and id keep the order they had. -/
theorem filter_ordered (sequence : Int32) (id : String) (cases : List TestCase) :
    (ordered cases).filter (fun c => c.sequence = sequence ∧ c.id = id) =
      cases.filter fun c => c.sequence = sequence ∧ c.id = id := by
  have alike : (cases.filter fun c => c.sequence = sequence ∧ c.id = id).Pairwise fun a b =>
      decide (Before a b) = true := by
    refine List.pairwise_of_forall_mem_list fun a first b second => ?_
    simp only [List.mem_filter, decide_eq_true_eq] at first second ⊢
    exact .inr ⟨first.2.1.trans second.2.1.symm, first.2.2.trans second.2.2.symm ▸ String.le_refl _⟩
  have kept : (cases.filter fun c => c.sequence = sequence ∧ c.id = id).Sublist (ordered cases) :=
    List.sublist_mergeSort (by simpa using fun a b c => Before.trans) (by simpa using before_total)
      alike (List.filter_sublist ..)
  have inside := kept.filter fun c => c.sequence = sequence ∧ c.id = id
  simp only [List.filter_filter, Bool.and_self] at inside
  exact (inside.eq_of_length ((ordered_perm cases).filter _).length_eq.symm).symm

theorem ordered_eq_of_perm {cases others : List TestCase} (perm : cases.Perm others)
    (distinct : (cases.map (·.id)).Nodup) : ordered others = ordered cases := by
  have perm' : (ordered others).Perm (ordered cases) :=
    (ordered_perm others).trans (perm.symm.trans (ordered_perm cases).symm)
  refine List.Perm.eq_of_pairwise (fun a b first second before after => ?_) (ordered_pairwise others)
    (ordered_pairwise cases) perm'
  have member := (ordered_perm cases).mem_iff.mp (perm'.mem_iff.mp first)
  exact List.inj_on_of_nodup_map distinct member ((ordered_perm cases).mem_iff.mp second)
    (before.antisymm after).2

end TestCase

namespace Evaluator

open TestCase

/-- Cases are put in order by number and id, and those that agree in both keep their places. The
cases of a problem file differ in their ids; such cases are run alike however they are stored: the
engine gets the same calls, and the evaluation is the same. -/
theorem storage_order_immaterial :
    (∀ cases, (ordered cases).Perm cases ∧ (ordered cases).Pairwise Before ∧ ∀ sequence id,
      (ordered cases).filter (fun c => c.sequence = sequence ∧ c.id = id) =
        cases.filter fun c => c.sequence = sequence ∧ c.id = id) ∧
    (∀ text file, ProblemFile.parse text = .ok file → (file.cases.map (·.id)).Nodup) ∧
    ∀ cases others : List TestCase, cases.Perm others → (cases.map (·.id)).Nodup →
      ∀ (v : Evaluator) (s : Submission) (p : Problem) (timeLimitMs : UInt64)
        (calls : List ExecutionUnit),
        v.evaluate s p others timeLimitMs calls = v.evaluate s p cases timeLimitMs calls := by
  refine ⟨fun cases => ?_, fun text file => ProblemFile.parse_nodup, ?_⟩
  · exact ⟨ordered_perm cases, ordered_pairwise cases, fun n id => filter_ordered n id cases⟩
  · intro cases others perm distinct v s p timeLimitMs calls
    have start : Progress.start others = Progress.start cases :=
      congrArg (Progress.mk · 0 [] []) (ordered_eq_of_perm perm distinct)
    have plan : v.planFor s p others timeLimitMs = v.planFor s p cases timeLimitMs :=
      congrArg (Plan.make s p · timeLimitMs v.marginMs v.maxBudgetMs v.signatures)
        perm.length_eq.symm
    simp only [evaluate, start, plan]

end Evaluator

namespace Shuffled

def evaluator : Evaluator where
  engine calls u := ⟨100 * (calls.length + 1), .answered ⟨u.input, 1, 512, .success⟩⟩
  signatures := .default
  marginMs := 0
  maxBudgetMs := 250

def submission : Submission := .new (.ofNat 7) "ada" "echo" .python "print(input())" default

/-- Two cases have the same number, and one a number below 0. -/
def file : ProblemFile where
  problem := ⟨"echo", "Echo", 100, 1, none, .const none⟩
  cases := [⟨"b", "echo", "2", "2", false, 0, 1⟩, ⟨"a", "echo", "1", "1", false, 0, 1⟩,
    ⟨"c", "echo", "0", "0", true, 0, -1⟩]

theorem storage_order_immaterial_reversed :
    (file.cases.map (·.id)).Nodup ∧
      evaluator.evaluate submission file.problem file.cases.reverse 100 [] =
        evaluator.evaluate submission file.problem file.cases 100 [] := by
  obtain ⟨-, distinct, same⟩ := Evaluator.storage_order_immaterial
  have apart := distinct _ file (ProblemFile.parse_text (by decide))
  exact ⟨apart, same file.cases _ (List.reverse_perm _).symm apart evaluator submission file.problem
    100 []⟩

end Shuffled

end Grader

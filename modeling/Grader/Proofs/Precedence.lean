import Grader.Proofs.Verdict
import Mathlib.Data.List.Perm.Basic

/-! The verdict by the precedence of failures, and the figures beside it. Both are the same in
whatever order the results come, and those of two lists together are told by those of each. -/
namespace Grader

namespace Status

/-- The failures, the worst first. -/
def failures : List Status :=
  [.compilationError, .runtimeError, .timeLimitExceeded, .memoryLimitExceeded, .wrongAnswer,
   .internalError]

theorem mem_failures_iff (s : Status) : s ∈ failures ↔ 0 < s.rank := by
  cases s <;> decide

/-- The one end of a run that is no failure. -/
theorem rank_eq_zero_iff {s : Status} (ended : s.isTerminal = true) :
    s.rank = 0 ↔ s = .accepted := by
  cases s <;> first | contradiction | decide

theorem failures_pairwise : failures.Pairwise fun a b => b.rank < a.rank := by decide

theorem worse_assoc (a b c : Status) : worse (worse a b) c = worse a (worse b c) := by
  unfold worse
  repeat' split
  all_goals first
    | rfl
    | omega

/-- What is no failure takes the place of nothing. -/
theorem worse_of_rank_eq_zero (a : Status) {s : Status} (fine : s.rank = 0) : worse a s = a :=
  if_neg (by omega)

/-- Several states may be put in place of the first one at once. -/
theorem foldl_worse (a : Status) (ss : List Status) :
    ss.foldl worse a = worse a (ss.foldl worse .accepted) := by
  induction ss generalizing a with
  | nil => exact (worse_of_rank_eq_zero a rfl).symm
  | cons s ss ih =>
    have first : worse a (worse .accepted s) = worse a s := by
      by_cases fine : s.rank = 0
      · rw [worse_of_rank_eq_zero _ fine, worse_of_rank_eq_zero a fine]
        exact worse_of_rank_eq_zero a rfl
      · have failed : worse .accepted s = s := if_pos (Nat.pos_of_ne_zero fine)
        rw [failed]
    rw [List.foldl_cons, List.foldl_cons, ih, ih (worse .accepted s), ← worse_assoc, first]

theorem foldl_worse_mem (a : Status) (ss : List Status) : ss.foldl worse a ∈ a :: ss := by
  induction ss generalizing a with
  | nil => exact List.mem_cons_self
  | cons s ss ih =>
    rcases List.mem_cons.mp (ih (worse a s)) with same | later
    · rw [List.foldl_cons, same]
      unfold worse
      split <;> simp
    · exact List.mem_cons_of_mem _ (List.mem_cons_of_mem _ later)

theorem rank_le_of_mem {s : Status} {ss : List Status} (member : s ∈ ss) (a : Status) :
    s.rank ≤ (ss.foldl worse a).rank := by
  induction ss generalizing a with
  | nil => contradiction
  | cons t ss ih =>
    rcases List.mem_cons.mp member with rfl | later
    · have reached := rank_le_foldl_worse (worse a s) ss
      rw [rank_worse] at reached
      exact Nat.le_trans (Nat.le_max_right _ _) reached
    · exact ih later _

/-- Of states in descending order of rank, the first one that occurs is the worst. -/
theorem find?_worst {order ss : List Status} (descending : order.Pairwise fun a b => b.rank < a.rank)
    {s : Status} (listed : s ∈ order) (member : s ∈ ss) (worst : ∀ t ∈ ss, t.rank ≤ s.rank) :
    order.find? (· ∈ ss) = some s := by
  induction order with
  | nil => contradiction
  | cons t order ih =>
    obtain ⟨lower, descending⟩ := List.pairwise_cons.mp descending
    rcases List.mem_cons.mp listed with rfl | later
    · exact List.find?_cons_of_pos (by simpa using member)
    · have absent : t ∉ ss := fun occurs => Nat.not_lt.mpr (worst t occurs) (lower s later)
      rw [List.find?_cons_of_neg (by simpa using absent)]
      exact ih descending later

/-- The worst state is the first of the failures that occurs. -/
theorem foldl_worse_accepted (ss : List Status) :
    ss.foldl worse .accepted = (failures.find? (· ∈ ss)).getD .accepted := by
  by_cases fine : ss.foldl worse .accepted = .accepted
  · have none : failures.find? (· ∈ ss) = none := by
      refine List.find?_eq_none.mpr fun s failure occurs => ?_
      have bound := rank_le_of_mem (of_decide_eq_true occurs) .accepted
      rw [fine] at bound
      exact Nat.not_lt.mpr bound ((mem_failures_iff s).mp failure)
    rw [fine, none, Option.getD_none]
  · have failed := (rank_pos_iff _).mpr ⟨foldl_worse_terminal rfl ss, fine⟩
    have member := (List.mem_cons.mp (foldl_worse_mem .accepted ss)).resolve_left fine
    rw [find?_worst failures_pairwise ((mem_failures_iff _).mpr failed) member
      fun t occurs => rank_le_of_mem occurs .accepted, Option.getD_some]

end Status

theorem UInt64.toNat_max (a b : UInt64) : (max a b).toNat = max a.toNat b.toNat := by
  show (if a ≤ b then b else a).toNat = _
  split
  · rename_i le
    rw [Nat.max_eq_right (UInt64.le_iff_toNat_le.mp le)]
  · rename_i more
    rw [UInt64.le_iff_toNat_le] at more
    rw [Nat.max_eq_left (by omega)]

namespace Verdict

open Status

/-- The verdict is the first of the failures that occurs among the results. -/
theorem aggregate_eq_find? (results : List CaseResult) :
    aggregate results = (failures.find? (· ∈ results.map (·.status))).getD
      (if results = [] then .internalError else .accepted) := by
  cases results with
  | nil => decide
  | cons r rs => exact foldl_worse_accepted _

theorem aggregate_of_perm {results others : List CaseResult} (perm : results.Perm others) :
    aggregate others = aggregate results := by
  have same (s : Status) : s ∈ others.map (·.status) ↔ s ∈ results.map (·.status) :=
    (perm.map _).mem_iff.symm
  have empty : others = [] ↔ results = [] := by
    rw [← List.length_eq_zero_iff, ← List.length_eq_zero_iff, perm.length_eq]
  simp only [aggregate_eq_find?, same, empty]

theorem aggregate_append {results others : List CaseResult} (some : results ≠ [])
    (more : others ≠ []) :
    aggregate (results ++ others) = worse (aggregate results) (aggregate others) := by
  have verdict {rs : List CaseResult} (some : rs ≠ []) :
      aggregate rs = (rs.map (·.status)).foldl worse .accepted :=
    if_neg (by simpa using some)
  rw [verdict (by simp [some]), verdict some, verdict more, List.map_append, List.foldl_append,
    foldl_worse]

theorem toNat_foldl_max (a : UInt64) (ns : List UInt64) :
    (ns.foldl max a).toNat = (ns.map UInt64.toNat).foldl max a.toNat := by
  induction ns generalizing a with
  | nil => rfl
  | cons n ns ih => rw [List.foldl_cons, ih, UInt64.toNat_max, List.map_cons, List.foldl_cons]

theorem toNat_worst (f : CaseResult → UInt64) (results : List CaseResult) :
    (worst f results).toNat = (results.map fun r => (f r).toNat).foldl max 0 := by
  rw [worst, toNat_foldl_max, List.map_map]
  rfl

theorem worst_of_perm (f : CaseResult → UInt64) {results others : List CaseResult}
    (perm : results.Perm others) : worst f others = worst f results := by
  refine UInt64.toNat_inj.mp ?_
  rw [toNat_worst, toNat_worst]
  exact (perm.map _).symm.foldl_eq 0

theorem worst_append (f : CaseResult → UInt64) (results others : List CaseResult) :
    worst f (results ++ others) = max (worst f results) (worst f others) := by
  have joined (a : Nat) (ns : List Nat) : ns.foldl max a = max a (ns.foldl max 0) := by
    have split : ns.foldl max (max a 0) = max a (ns.foldl max 0) := List.foldl_assoc
    rwa [Nat.max_zero] at split
  refine UInt64.toNat_inj.mp ?_
  rw [UInt64.toNat_max, toNat_worst, toNat_worst, toNat_worst, List.map_append, List.foldl_append,
    joined]

theorem summarize_of_perm {results others : List CaseResult} (perm : results.Perm others) :
    summarize others = summarize results := by
  simp only [summarize, worst_of_perm _ perm, perm.countP_eq, perm.length_eq]

theorem toNat_total {results : List CaseResult} (fits : results.length < UInt32.size) :
    (summarize results).total.toNat = results.length := UInt32.toNat_ofNat_of_lt' fits

theorem toNat_passed {results : List CaseResult} (fits : results.length < UInt32.size) :
    (summarize results).passed.toNat = results.countP (·.passed) :=
  UInt32.toNat_ofNat_of_lt' (Nat.lt_of_le_of_lt List.countP_le_length fits)

/-- A run is accepted where there are cases and all of them count as passed. -/
theorem aggregate_accepted_iff_summarize {results : List CaseResult}
    (ended : ∀ r ∈ results, r.status.isTerminal = true) (fits : results.length < UInt32.size) :
    aggregate results = .accepted ↔
      0 < (summarize results).total ∧ (summarize results).passed = (summarize results).total := by
  have total := toNat_total fits
  have passed := toNat_passed fits
  rw [aggregate_eq_accepted_iff, UInt32.lt_iff_toNat_lt, ← UInt32.toNat_inj, total, passed,
    List.countP_eq_length, ← List.length_pos_iff]
  refine and_congr_right fun _ => forall₂_congr fun r member => ?_
  rw [rank_eq_zero_iff (ended r member), CaseResult.passed, decide_eq_true_eq]

theorem summarize_append (results others : List CaseResult) :
    summarize (results ++ others) =
      ⟨max (summarize results).executionTimeMs (summarize others).executionTimeMs,
        max (summarize results).memoryUsedKb (summarize others).memoryUsedKb,
        (summarize results).passed + (summarize others).passed,
        (summarize results).total + (summarize others).total⟩ := by
  simp only [summarize, worst_append, List.countP_append, List.length_append, UInt32.ofNat_add]

/-- The verdict on results with states that end a run is the first failure that occurs in the order
of precedence, ACCEPTED where there is none, and INTERNAL_ERROR where there is no result. It is
ACCEPTED exactly if the figures tell of cases that have all passed. Verdict and figures do not
depend on the order of the results, and those of two lists together come from those of each: the
worse verdict, the maxima of time and memory, and the sums of the counts. -/
theorem aggregate_by_precedence (results : List CaseResult)
    (ended : ∀ r ∈ results, r.status.isTerminal = true) :
    aggregate results =
      ([.compilationError, .runtimeError, .timeLimitExceeded, .memoryLimitExceeded, .wrongAnswer,
        .internalError].find? (· ∈ results.map (·.status))).getD
        (if results = [] then .internalError else .accepted) ∧
    (results.length < UInt32.size → (aggregate results = .accepted ↔
      0 < (summarize results).total ∧ (summarize results).passed = (summarize results).total)) ∧
    (∀ others, results.Perm others →
      aggregate others = aggregate results ∧ summarize others = summarize results) ∧
    ∀ others, (∀ r ∈ others, r.status.isTerminal = true) → results ≠ [] → others ≠ [] →
      let a := summarize results
      let b := summarize others
      let both := summarize (results ++ others)
      aggregate (results ++ others) = Status.worse (aggregate results) (aggregate others) ∧
      both = ⟨max a.executionTimeMs b.executionTimeMs, max a.memoryUsedKb b.memoryUsedKb,
        a.passed + b.passed, a.total + b.total⟩ ∧
      (results.length + others.length < UInt32.size →
        both.passed.toNat = a.passed.toNat + b.passed.toNat ∧
          both.total.toNat = a.total.toNat + b.total.toNat) := by
  refine ⟨aggregate_eq_find? results, aggregate_accepted_iff_summarize ended,
    fun others perm => ⟨aggregate_of_perm perm, summarize_of_perm perm⟩, ?_⟩
  intro others _ some more a b both
  refine ⟨aggregate_append some more, summarize_append results others, fun fits => ?_⟩
  have whole : (results ++ others).length < UInt32.size := by rwa [List.length_append]
  have first : results.length < UInt32.size := by omega
  have second : others.length < UInt32.size := by omega
  rw [toNat_passed whole, toNat_passed first, toNat_passed second, toNat_total whole,
    toNat_total first, toNat_total second]
  exact ⟨List.countP_append, List.length_append⟩

end Verdict

namespace Mixed

def result (id : String) (status : Status) (timeMs memoryKb : UInt64) : CaseResult :=
  ⟨id, 0, status, "", "", none, timeMs, memoryKb⟩

def results : List CaseResult := [result "a" .wrongAnswer 20 512, result "b" .accepted 30 256]

def others : List CaseResult := [result "c" .timeLimitExceeded 100 128]

theorem aggregate_by_precedence_mixed :
    Verdict.aggregate results = .wrongAnswer ∧ Verdict.aggregate results.reverse = .wrongAnswer ∧
      (Verdict.summarize results).passed ≠ (Verdict.summarize results).total ∧
      Verdict.aggregate (results ++ others) = .timeLimitExceeded ∧
      Verdict.summarize (results ++ others) = ⟨100, 512, 1, 3⟩ := by
  have terminal : ∀ r ∈ results, r.status.isTerminal = true := by decide
  obtain ⟨verdict, accepted, reordered, joined⟩ := Verdict.aggregate_by_precedence results terminal
  have first : Verdict.aggregate results = .wrongAnswer := verdict.trans (by decide)
  obtain ⟨same, -⟩ := reordered results.reverse (List.reverse_perm results).symm
  obtain ⟨worse, figures, counts⟩ := joined others (by decide) (by decide) (by decide)
  obtain ⟨-, total⟩ := counts (by decide)
  have some : 0 < (Verdict.summarize results).total := by decide
  refine ⟨first, same.trans first, fun all => ?_, worse.trans (by rw [first]; decide),
    figures.trans (by decide)⟩
  have passed := (accepted (by decide)).mpr ⟨some, all⟩
  rw [first] at passed
  contradiction

end Mixed

end Grader

import Grader.Text.Blank
import Grader.Text.Decimal
import Grader.Text.Percent
import Grader.Text.Quoted
import Mathlib.Algebra.Group.Nat.Defs

/-! Numbers and their digits. A run of digits that a number is written with reads back as the number,
whatever follows it that is no digit. -/
namespace Grader.Text

/-- No digit stands at the head. -/
def EndsDigits (s : List Char) : Prop := ∀ c ∈ s.head?, isDigit c = false

@[simp] theorem endsDigits_nil : EndsDigits [] := by simp [EndsDigits]

@[simp] theorem endsDigits_cons {c : Char} {s : List Char} :
    EndsDigits (c :: s) ↔ isDigit c = false := by simp [EndsDigits]

theorem digitValue?_digitChar {d : Nat} (h : d < 10) : digitValue? (digitChar d) = some d := by
  have all : ∀ d < 10, digitValue? (digitChar d) = some d := by decide
  exact all d h

theorem isDigit_digitChar {d : Nat} (h : d < 10) : isDigit (digitChar d) = true := by
  rw [isDigit, digitValue?_digitChar h, Option.isSome_some]

theorem isDigit_iff {c : Char} : isDigit c = true ↔ 48 ≤ c.toNat ∧ c.toNat ≤ 57 := by
  rw [isDigit, digitValue?, Option.isSome_ite]
  exact Iff.rfl

theorem ne_of_isDigit {c d : Char} (digit : isDigit c = true) (mark : isDigit d = false) :
    c ≠ d := by
  rintro rfl
  rw [digit] at mark
  contradiction

theorem isBlank_of_isDigit {c : Char} (digit : isDigit c = true) : isBlank c = false := by
  have code := isDigit_iff.mp digit
  refine Bool.eq_false_iff.mpr fun blank => ?_
  simp only [isBlank, blankRanges, List.any_cons, List.any_nil, Bool.or_eq_true,
    Bool.and_eq_true, decide_eq_true_eq, Bool.false_eq_true, or_false] at blank
  omega

theorem digitsValue_concat (ds : List Char) (c : Char) :
    digitsValue (ds ++ [c]) = 10 * digitsValue ds + (digitValue? c).getD 0 := by
  simp [digitsValue, List.foldl_append]

/-- Zeros in front do not count. -/
theorem digitsValue_zeros (k : Nat) (ds : List Char) :
    digitsValue (List.replicate k '0' ++ ds) = digitsValue ds := by
  have zero : (digitValue? '0').getD 0 = 0 := by decide
  induction k with
  | zero => rfl
  | succ k ih =>
    rw [List.replicate_succ, List.cons_append, ← ih]
    simp [digitsValue, zero]

theorem spanDigits_append {ds s : List Char} (digits : ∀ c ∈ ds, isDigit c = true)
    (ends : EndsDigits s) : spanDigits (ds ++ s) = (ds, s) := by
  have taken : s.takeWhile isDigit = [] ∧ s.dropWhile isDigit = s := by
    cases s with
    | nil => exact ⟨rfl, rfl⟩
    | cons c s => simp [endsDigits_cons.mp ends]
  rw [spanDigits, List.takeWhile_append_of_pos digits, List.dropWhile_append_of_pos digits,
    taken.1, taken.2, List.append_nil]

theorem digitsValue_digits (n : Nat) : digitsValue (digits n) = n := by
  fun_induction digits n with
  | case1 n small => simp [digitsValue, digitValue?_digitChar small]
  | case2 n big ih =>
    rw [digitsValue_concat, ih, digitValue?_digitChar (by omega), Option.getD_some]
    omega

theorem isDigit_of_mem_digits {n : Nat} {c : Char} (member : c ∈ digits n) : isDigit c = true := by
  fun_induction digits n with
  | case1 n small =>
    rw [List.mem_singleton.mp member]
    exact isDigit_digitChar small
  | case2 n big ih =>
    rcases List.mem_append.mp member with front | last
    · exact ih front
    · rw [List.mem_singleton.mp last]
      exact isDigit_digitChar (by omega)

theorem digits_ne_nil (n : Nat) : digits n ≠ [] := by
  rw [digits]
  split <;> simp

theorem head?_digits_ne_zero {n : Nat} (positive : 0 < n) : (digits n).head? ≠ some '0' := by
  fun_induction digits n with
  | case1 n small =>
    have all : ∀ d < 10, 0 < d → digitChar d ≠ '0' := by decide
    simpa using all n small positive
  | case2 n big ih =>
    obtain ⟨c, ds, first⟩ := List.exists_cons_of_ne_nil (digits_ne_nil (n / 10))
    have front := ih (by omega)
    rw [first] at front ⊢
    exact front

/-- A number below a power of ten has no more digits than its exponent. -/
theorem length_digits_le {n k : Nat} (below : n < 10 ^ (k + 1)) : (digits n).length ≤ k + 1 := by
  induction k generalizing n with
  | zero =>
    rw [digits, dif_pos (by simpa using below)]
    simp
  | succ k ih =>
    rw [digits]
    split
    · simp
    · have tail : n / 10 < 10 ^ (k + 1) := by
        rw [Nat.pow_succ] at below
        omega
      simpa using ih tail

theorem length_paddedDigits {k n : Nat} (below : n < 10 ^ (k + 1)) :
    (paddedDigits (k + 1) n).length = k + 1 := by
  have := length_digits_le below
  simp only [paddedDigits, List.length_append, List.length_replicate]
  omega

theorem digitsValue_paddedDigits (width n : Nat) : digitsValue (paddedDigits width n) = n := by
  rw [paddedDigits, digitsValue_zeros, digitsValue_digits]

theorem isDigit_of_mem_paddedDigits {width n : Nat} {c : Char}
    (member : c ∈ paddedDigits width n) : isDigit c = true := by
  rcases List.mem_append.mp member with zero | digit
  · rw [List.eq_of_mem_replicate zero]
    decide
  · exact isDigit_of_mem_digits digit

theorem paddedDigits_ne_nil (width n : Nat) : paddedDigits width n ≠ [] := by
  simp [paddedDigits, digits_ne_nil]

theorem hexValue?_hexDigit {d : Nat} (h : d < 16) : hexValue? (hexDigit d) = some d := by
  have all : ∀ d < 16, hexValue? (hexDigit d) = some d := by decide
  exact all d h

end Grader.Text

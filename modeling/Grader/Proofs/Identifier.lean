import Grader.Proofs.Digits
import Grader.Uuid

/-! Reading what was written as an identifier. An identifier is read back from its text, so two
identifiers never share one. -/
namespace Grader.Uuid

theorem digitOf?_digitText (d : Fin 16) : digitOf? (digitText d) = some d := by
  rw [digitOf?, digitText, Text.hexValue?_hexDigit d.isLt]
  simp

theorem mapM_digitOf? (ds : List (Fin 16)) : (ds.map digitText).mapM digitOf? = some ds := by
  induction ds with
  | nil => rfl
  | cons d ds ih => simp [digitOf?_digitText, ih]

theorem length_plainText (id : Uuid) : id.plainText.length = 32 := by
  rw [plainText, List.length_map, id.length_digits]

section

variable {s : List Char} (full : s.length = 32)
include full

theorem length_hyphenated : (hyphenated s).length = 36 := by
  simp [hyphenated, full]

theorem unhyphenated?_hyphenated : unhyphenated? (hyphenated s) = some s := by
  have size := length_hyphenated full
  have marks : (hyphenated s)[8]? = some '-' ∧ (hyphenated s)[13]? = some '-' ∧
      (hyphenated s)[18]? = some '-' ∧ (hyphenated s)[23]? = some '-' := by
    simp [hyphenated, full]
  rw [unhyphenated?, if_pos ⟨size, marks⟩]
  have group (m n : Nat) : (s.drop m).take n ++ s.drop (m + n) = s.drop m := by
    rw [← List.drop_drop, List.take_append_drop]
  have groups : s.take 8 ++ (s.drop 8).take 4 ++ (s.drop 12).take 4 ++ (s.drop 16).take 4 ++
      s.drop 20 = s := by
    rw [List.append_assoc, group 16 4, List.append_assoc, group 12 4, List.append_assoc, group 8 4,
      List.take_append_drop]
  simpa [hyphenated, List.take_append, List.drop_append, List.drop_take, full] using groups

theorem unwrapped_hyphenated (other : ∀ c ∈ s.head?, c.toLower ≠ 'u') :
    unwrapped (hyphenated s) = hyphenated s := by
  have size := length_hyphenated full
  obtain ⟨c, cs, rfl⟩ := List.exists_cons_of_length_pos (l := s) (by omega)
  have unnamed : ((hyphenated (c :: cs)).take 9).map Char.toLower ≠ nameStart := by
    intro named
    exact other c rfl (List.cons.inj named).1
  rw [unwrapped, if_neg (by omega), if_neg unnamed]

end

theorem not_u_of_digit (d : Fin 16) : (digitText d).toLower ≠ 'u' := by
  revert d
  decide

/-- An identifier is read back from its text. -/
theorem ofText?_text (id : Uuid) : ofText? id.text = some id := by
  have full := id.length_plainText
  have size := length_hyphenated full
  have other : ∀ c ∈ id.plainText.head?, c.toLower ≠ 'u' := by
    intro c first
    obtain ⟨d, -, rfl⟩ := List.mem_map.mp (List.mem_of_mem_head? first)
    exact not_u_of_digit d
  have digits : id.plainText.mapM digitOf? = some id.digits := mapM_digitOf? id.digits
  rw [ofText?, text, String.toList_ofList]
  simp only [size, unwrapped_hyphenated full other, unhyphenated?_hyphenated full]
  simp [digits, ofDigits?, id.length_digits]

theorem text_injective {a b : Uuid} (same : a.text = b.text) : a = b :=
  Option.some.inj (by rw [← ofText?_text a, same, ofText?_text b])

end Grader.Uuid

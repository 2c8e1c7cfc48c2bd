/-! Where a text occurs in another one. -/
namespace Grader.Text

/-- A pattern occurs where a text splits into something before it, the pattern and a rest. -/
def Occurs (pattern text : List Char) : Prop := ∃ before after, text = before ++ pattern ++ after

def occurs (pattern : List Char) : List Char → Bool
  | [] => pattern.isEmpty
  | c :: s => pattern.isPrefixOf (c :: s) || occurs pattern s

theorem occurs_iff (pattern text : List Char) : occurs pattern text = true ↔ Occurs pattern text := by
  induction text with
  | nil =>
    simp only [occurs, Occurs, List.isEmpty_iff]
    constructor
    · rintro rfl; exact ⟨[], [], rfl⟩
    · rintro ⟨before, after, h⟩
      have h := congrArg List.length h
      simp only [List.length_nil, List.length_append] at h
      exact List.eq_nil_of_length_eq_zero (by omega)
  | cons c s ih =>
    simp only [occurs, Bool.or_eq_true, List.isPrefixOf_iff_prefix, ih]
    constructor
    · rintro (⟨after, h⟩ | ⟨before, after, rfl⟩)
      · exact ⟨[], after, by simp [h]⟩
      · exact ⟨c :: before, after, rfl⟩
    · rintro ⟨before, after, h⟩
      cases before with
      | nil => exact .inl ⟨after, by simp [h]⟩
      | cons b before =>
        simp only [List.cons_append, List.cons.injEq] at h
        exact .inr ⟨before, after, h.2⟩

end Grader.Text

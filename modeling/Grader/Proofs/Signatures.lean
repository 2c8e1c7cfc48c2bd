import Grader.Evaluation.Classification

/-! Where marks in an output count. A table of signatures is asked about a run that has failed, and
about one within its memory whose output is not the expected one. There the first rule decides whose
pattern stands anywhere in the output; everywhere else all tables say the same. -/
namespace Grader

def Text.Contains (text pattern : String) : Prop := ∃ a b, text = a ++ pattern ++ b

theorem Text.occurs_iff_contains (pattern text : String) :
    occurs pattern.toList text.toList = true ↔ Contains text pattern := by
  rw [occurs_iff]
  constructor
  · rintro ⟨before, after, split⟩
    refine ⟨String.ofList before, String.ofList after, String.toList_inj.mp ?_⟩
    simpa using split
  · rintro ⟨a, b, rfl⟩
    exact ⟨a.toList, b.toList, by simp⟩

namespace Signatures

def Decides (t : Signatures) (output : String) (rule : SignatureRule) : Prop :=
  ∃ before after, t.rules = before ++ rule :: after ∧ Text.Contains output rule.pattern ∧
    ∀ earlier ∈ before, ¬Text.Contains output earlier.pattern

def Silent (t : Signatures) (output : String) : Prop :=
  ∀ rule ∈ t.rules, ¬Text.Contains output rule.pattern

variable {t : Signatures} {output : String} {rule : SignatureRule}

theorem reclassify_of_decides (decides : t.Decides output rule) :
    t.reclassify output = some rule.status := by
  obtain ⟨before, after, split, stands, first⟩ := decides
  have found : t.rules.find? (fun r => Text.occurs r.pattern.toList output.toList) = some rule := by
    refine List.find?_eq_some_iff_append.mpr ⟨(Text.occurs_iff_contains _ _).mpr stands, before,
      after, split, fun earlier member => ?_⟩
    have absent := mt (Text.occurs_iff_contains _ _).mp (first earlier member)
    rw [Bool.not_eq_true', Bool.eq_false_iff]
    exact absent
  rw [reclassify, found, Option.map_some]

theorem reclassify_of_silent (silent : t.Silent output) : t.reclassify output = none := by
  have none_found : t.rules.find? (fun r => Text.occurs r.pattern.toList output.toList) = none := by
    refine List.find?_eq_none.mpr fun rule member => ?_
    simpa [Text.occurs_iff_contains] using silent rule member
  rw [reclassify, none_found, Option.map_none]

theorem decides_or_silent (t : Signatures) (output : String) :
    (∃ rule, t.Decides output rule) ∨ t.Silent output := by
  cases found : t.rules.find? (fun r => Text.occurs r.pattern.toList output.toList) with
  | none =>
    refine .inr fun rule member stands => ?_
    exact List.find?_eq_none.mp found rule member ((Text.occurs_iff_contains _ _).mpr stands)
  | some rule =>
    obtain ⟨stands, before, after, split, first⟩ := List.find?_eq_some_iff_append.mp found
    refine .inl ⟨rule, before, after, split, (Text.occurs_iff_contains _ _).mp stands,
      fun earlier member contains => ?_⟩
    have absent := first earlier member
    rw [(Text.occurs_iff_contains _ _).mpr contains] at absent
    contradiction

/-- A rule that decides still does with more rules behind it. -/
theorem Decides.withRule (decides : t.Decides output rule) (pattern : String) (status : Status) :
    (t.withRule pattern status).Decides output rule := by
  obtain ⟨before, after, split, stands, first⟩ := decides
  refine ⟨before, after ++ [⟨pattern, status⟩], ?_, stands, first⟩
  simp [Signatures.withRule, split]

theorem reclassify_default (known : rule ∈ default.rules)
    (stands : Text.Contains output rule.pattern) :
    default.reclassify output = some .compilationError := by
  rcases decides_or_silent default output with ⟨first, decides⟩ | silent
  · have found := reclassify_of_decides decides
    obtain ⟨before, after, split, -⟩ := decides
    have listed : first ∈ default.rules := split ▸ List.mem_append_right before List.mem_cons_self
    obtain ⟨pattern, -, rfl⟩ := List.mem_map.mp listed
    exact found
  · exact absurd stands (silent rule known)

end Signatures

def MemoryLimit.Admits (limit : MemoryLimit) (usedKb : UInt64) : Prop :=
  ∀ n, limit = .kilobytes n → usedKb.toNat ≤ n.toNat

theorem MemoryLimit.exceededBy_eq_false_iff (limit : MemoryLimit) (usedKb : UInt64) :
    limit.exceededBy usedKb = false ↔ limit.Admits usedKb := by
  cases limit with
  | none | overflow => simp [exceededBy, Admits]
  | kilobytes n => simp [exceededBy, Admits, UInt64.le_iff_toNat_le]

/-- The situations in which marks count, each with the status of a case that has none. -/
inductive ExecutionOutput.Asks (output : ExecutionOutput) (expected : String)
    (limit : MemoryLimit) : Status → Prop where
  | failed (status : output.status = .runtimeError) : Asks output expected limit .runtimeError
  | differs (status : output.status = .success) (within : limit.Admits output.memoryUsedKb)
      (text : Text.normalized output.output ≠ Text.normalized expected) :
      Asks output expected limit .wrongAnswer

section
variable {output : ExecutionOutput} {expected : String} {limit : MemoryLimit} {unmarked : Status}

theorem classify_of_asks (asks : output.Asks expected limit unmarked) (t : Signatures) :
    classify output expected limit t = (t.reclassify output.output).getD unmarked := by
  cases asks with
  | failed status => simp only [classify, status]
  | differs status within text =>
    have free := (limit.exceededBy_eq_false_iff _).mpr within
    simp only [classify, status, free, Bool.false_eq_true, if_false, if_neg text]

/-- Where marks do not count, no table is looked at. -/
theorem classify_of_not_asks (apart : ∀ unmarked, ¬output.Asks expected limit unmarked)
    (t u : Signatures) : classify output expected limit t = classify output expected limit u := by
  unfold classify
  split
  · rename_i status
    exact absurd (.failed status) (apart _)
  · rename_i status
    by_cases exceeded : limit.exceededBy output.memoryUsedKb = true
    · rw [if_pos exceeded, if_pos exceeded]
    · have within := (limit.exceededBy_eq_false_iff _).mp (Bool.eq_false_iff.mpr exceeded)
      have same : Text.normalized output.output = Text.normalized expected :=
        Decidable.byContradiction fun text => apart _ (.differs status within text)
      rw [if_neg exceeded, if_neg exceeded, if_pos same, if_pos same]
  all_goals rfl

theorem classify_of_decides {t : Signatures} {rule : SignatureRule}
    (asks : output.Asks expected limit unmarked) (decides : t.Decides output.output rule) :
    classify output expected limit t = rule.status := by
  rw [classify_of_asks asks, Signatures.reclassify_of_decides decides, Option.getD_some]

theorem classify_of_silent {t : Signatures} (asks : output.Asks expected limit unmarked)
    (silent : t.Silent output.output) : classify output expected limit t = unmarked := by
  rw [classify_of_asks asks, Signatures.reclassify_of_silent silent, Option.getD_none]

theorem classify_withRule {t : Signatures} {rule : SignatureRule}
    (decides : t.Decides output.output rule) (pattern : String) (status : Status) :
    classify output expected limit (t.withRule pattern status) =
      classify output expected limit t := by
  by_cases known : ∃ unmarked, output.Asks expected limit unmarked
  · obtain ⟨unmarked, asks⟩ := known
    rw [classify_of_decides asks (decides.withRule pattern status), classify_of_decides asks decides]
  · exact classify_of_not_asks (not_exists.mp known) _ _

end

/-- A table is looked at only for a run that has failed, or that has printed something else than
expected within its memory. The case then has the status of the first rule whose pattern stands
anywhere in the output, and without such a rule the status of the situation. So a rule behind the one
that decides changes nothing, and a mark of the default table makes it a failed compilation whatever
stands around the mark. -/
theorem classify_by_marks :
    (∀ output expected limit, (∀ unmarked, ¬output.Asks expected limit unmarked) →
      ∀ t u, classify output expected limit t = classify output expected limit u) ∧
    (∀ output expected limit unmarked, output.Asks expected limit unmarked → ∀ t : Signatures,
      ((∃ rule, t.Decides output.output rule) ∨ t.Silent output.output) ∧
      (∀ rule, t.Decides output.output rule → classify output expected limit t = rule.status) ∧
      (t.Silent output.output → classify output expected limit t = unmarked)) ∧
    (∀ (t : Signatures) rule output expected limit, t.Decides output.output rule →
      ∀ pattern status, classify output expected limit (t.withRule pattern status) =
        classify output expected limit t) ∧
    ∀ rule ∈ Signatures.default.rules, ∀ output expected limit unmarked,
      output.Asks expected limit unmarked → ∀ a b, output.output = a ++ rule.pattern ++ b →
        classify output expected limit .default = .compilationError := by
  refine ⟨?_, ?_, ?_, ?_⟩
  · intro output expected limit apart t u
    exact classify_of_not_asks apart t u
  · intro output expected limit unmarked asks t
    exact ⟨t.decides_or_silent output.output, fun _ => classify_of_decides asks,
      classify_of_silent asks⟩
  · intro t rule output expected limit decides pattern status
    exact classify_withRule decides pattern status
  · intro rule known output expected limit unmarked asks a b around
    rw [classify_of_asks asks, Signatures.reclassify_default known ⟨a, b, around⟩,
      Option.getD_some]

namespace Doubled

def output : ExecutionOutput := ⟨"SyntaxErrorSyntaxError", 1, 512, .success⟩

/-- The first rule stands within the second one's pattern. -/
def table : Signatures :=
  Signatures.empty.withRule "Error" .runtimeError |>.withRule "SyntaxError" .compilationError

theorem asks : output.Asks "3" (.kilobytes 512) .wrongAnswer := by
  refine .differs rfl ?_ (by decide)
  intro n same
  obtain rfl := MemoryLimit.kilobytes.inj same
  exact Nat.le_refl _

theorem decides : table.Decides output.output ⟨"Error", .runtimeError⟩ :=
  ⟨[], _, rfl, ⟨"Syntax", "SyntaxError", by decide⟩, nofun⟩

theorem classify_by_marks_doubled :
    classify output "3" (.kilobytes 512) .default = .compilationError ∧
    classify output "3" (.kilobytes 512) table = .runtimeError ∧
    classify output "3" (.kilobytes 512) (table.withRule "" .accepted) = .runtimeError ∧
    ∀ t u, classify output "SyntaxErrorSyntaxError\n" (.kilobytes 512) t =
      classify output "SyntaxErrorSyntaxError\n" (.kilobytes 512) u := by
  obtain ⟨apart, asked, extended, default⟩ := classify_by_marks
  have first : classify output "3" (.kilobytes 512) table = .runtimeError :=
    (asked _ _ _ _ asks table).2.1 _ decides
  refine ⟨?_, first, ?_, ?_⟩
  · exact default ⟨"SyntaxError", .compilationError⟩ (by decide) _ _ _ _ asks "" "SyntaxError"
      (by decide)
  · exact (extended table _ output "3" _ decides "" .accepted).trans first
  · refine apart output _ _ fun unmarked asks => ?_
    cases asks with
    | failed status => contradiction
    | differs _ _ text => exact text (by decide)

end Doubled

end Grader

import Grader.Text.LineEnding
import Mathlib.Data.List.TakeWhile

/-! The normal form of an output. Two outputs are compared in it, so what it keeps and what it
forgets decides between an accepted and a wrong answer: it forgets how the lines end and the
blanks around the text, and nothing else. -/
namespace Grader.Text

/-- No blank stands before or after the text. -/
structure Unpadded (s : List Char) : Prop where
  head : ∀ c ∈ s.head?, isBlank c = false
  last : ∀ c ∈ s.getLast?, isBlank c = false

theorem unpadded_iff (s : List Char) :
    Unpadded s ↔ s.head?.all (!isBlank ·) = true ∧ s.getLast?.all (!isBlank ·) = true := by
  simp only [Option.all_eq_true, Bool.not_eq_true']
  exact ⟨fun h => ⟨h.head, h.last⟩, fun h => ⟨h.1, h.2⟩⟩

instance (s : List Char) : Decidable (Unpadded s) := decidable_of_iff' _ (unpadded_iff s)

theorem trimLeft_eq_self {s : List Char} (h : ∀ c ∈ s.head?, isBlank c = false) :
    trimLeft s = s := by
  cases s with
  | nil => rfl
  | cons c s => exact trimLeft_cons_other (h c rfl) s

theorem trimRight_eq_self {s : List Char} (h : ∀ c ∈ s.getLast?, isBlank c = false) :
    trimRight s = s := by
  have reversed : trimLeft s.reverse = s.reverse := trimLeft_eq_self (by simpa using h)
  simpa [trimRight, trimLeft] using congrArg List.reverse reversed

theorem Unpadded.trim {s : List Char} (h : Unpadded s) : trim s = s := by
  rw [Text.trim, trimLeft_eq_self h.head, trimRight_eq_self h.last]

theorem head?_trimLeft (s : List Char) : ∀ c ∈ (trimLeft s).head?, isBlank c = false := by
  intro c first
  have h := List.head?_dropWhile_not isBlank s
  simp only [trimLeft] at first
  rw [Option.mem_def.mp first] at h
  exact h

theorem getLast?_trimRight (s : List Char) : ∀ c ∈ (trimRight s).getLast?, isBlank c = false := by
  intro c last
  exact head?_trimLeft s.reverse c (by simpa [trimRight, trimLeft] using last)

/-- What stands before the blanks at the end begins as the text does. -/
theorem trimRight_begins (s : List Char) : trimRight s <+: s := by
  have h := List.dropWhile_suffix (l := s.reverse) isBlank
  rw [← List.reverse_prefix] at h
  simpa [trimRight] using h

theorem trim_unpadded (s : List Char) : Unpadded (trim s) where
  last := getLast?_trimRight (trimLeft s)
  head c first := by
    obtain ⟨rest, whole⟩ := trimRight_begins (trimLeft s)
    refine head?_trimLeft s c ?_
    rw [← whole]
    simp only [trim, Option.mem_def] at first
    simp [List.head?_append, first]

theorem trimLeft_append_left {w : List Char} (blank : ∀ c ∈ w, isBlank c = true) (s : List Char) :
    trimLeft (w ++ s) = trimLeft s := by
  have gone : w.dropWhile isBlank = [] := List.dropWhile_eq_nil_iff.mpr blank
  simp [trimLeft, List.dropWhile_append, gone]

theorem trimRight_append_right {w : List Char} (blank : ∀ c ∈ w, isBlank c = true)
    (s : List Char) : trimRight (s ++ w) = trimRight s := by
  have h := trimLeft_append_left (w := w.reverse) (by simpa using blank) s.reverse
  simpa [trimRight, trimLeft] using congrArg List.reverse h

theorem trim_append_right {w : List Char} (blank : ∀ c ∈ w, isBlank c = true) (s : List Char) :
    trim (s ++ w) = trim s := by
  by_cases gone : ∀ c ∈ s, isBlank c = true
  · -- the blanks before the text reach into `w`
    have all : ∀ c ∈ s ++ w, isBlank c = true := by simpa [or_imp, forall_and] using ⟨gone, blank⟩
    simp [trim, trimLeft, List.dropWhile_eq_nil_iff.mpr all, List.dropWhile_eq_nil_iff.mpr gone]
  · have some : trimLeft s ≠ [] := fun h => gone (List.dropWhile_eq_nil_iff.mp h)
    have kept : trimLeft (s ++ w) = trimLeft s ++ w := by
      simp only [trimLeft] at some ⊢
      simp [List.dropWhile_append, List.isEmpty_iff, some]
    rw [trim, kept, trimRight_append_right blank, ← trim]

/-- `Respelled s t`: each LF of `s` is written in `t` as LF, CR LF or CR, one independently of
the other, and all else is as it was. A CR that stands for a line end has no LF right after
it, which would end the same line. -/
inductive Respelled : List Char → List Char → Prop
  | nil : Respelled [] []
  | other {c : Char} {s t : List Char} (h : c ≠ '\n') (h' : c ≠ '\r') :
      Respelled s t → Respelled (c :: s) (c :: t)
  | lf {s t : List Char} : Respelled s t → Respelled ('\n' :: s) ('\n' :: t)
  | crlf {s t : List Char} : Respelled s t → Respelled ('\n' :: s) ('\r' :: '\n' :: t)
  | cr {s t : List Char} (h : t.head? ≠ some '\n') :
      Respelled s t → Respelled ('\n' :: s) ('\r' :: t)

@[simp] theorem foldLines_crlf (s : List Char) :
    foldLines ('\r' :: '\n' :: s) = '\n' :: foldLines s := rfl

theorem foldLines_cr {s : List Char} (h : s.head? ≠ some '\n') :
    foldLines ('\r' :: s) = '\n' :: foldLines s := by
  rw [foldLines.eq_def]
  split <;> simp_all [eq_comm]

theorem Respelled.foldLines {s t : List Char} (h : Respelled s t) : foldLines t = s := by
  induction h with
  | nil => rfl
  | other _ plain _ ih => rw [foldLines_cons plain, ih]
  | lf _ ih => rw [foldLines_cons (by decide), ih]
  | crlf _ ih => rw [foldLines_crlf, ih]
  | cr alone _ ih => rw [foldLines_cr alone, ih]

theorem respelled_foldLines (t : List Char) : Respelled (foldLines t) t := by
  fun_induction Text.foldLines t with
  | case1 => exact .nil
  | case2 t ih => exact .crlf ih
  | case3 t lone ih =>
    refine .cr (fun h => ?_) ih
    obtain ⟨rest, rfl⟩ := List.head?_eq_some_iff.mp h
    exact lone rest rfl
  | case4 c t _ single ih =>
    by_cases feed : c = '\n'
    · subst feed; exact .lf ih
    · exact .other feed (fun h => single h) ih

/-- The texts that fold to one text are its spellings. -/
theorem foldLines_eq_iff {s t : List Char} : foldLines t = s ↔ Respelled s t :=
  ⟨fun h => h ▸ respelled_foldLines t, Respelled.foldLines⟩

theorem isBlank_feed : isBlank '\n' = true := by decide

/-- A blank before a text is gone from its normal form, also where it is a CR and the text
begins with the LF that belongs to it. -/
theorem trimLeft_foldLines_cons {c : Char} (blank : isBlank c = true) (s : List Char) :
    trimLeft (foldLines (c :: s)) = trimLeft (foldLines s) := by
  by_cases ret : c = '\r'
  · subst ret
    by_cases feed : s.head? = some '\n'
    · obtain ⟨rest, rfl⟩ := List.head?_eq_some_iff.mp feed
      rw [foldLines_crlf, foldLines_cons (by decide)]
    · rw [foldLines_cr feed, trimLeft_cons_blank isBlank_feed]
  · rw [foldLines_cons ret, trimLeft_cons_blank blank]

theorem trimLeft_foldLines_append_left {w : List Char} (blank : ∀ c ∈ w, isBlank c = true)
    (s : List Char) : trimLeft (foldLines (w ++ s)) = trimLeft (foldLines s) := by
  induction w with
  | nil => rfl
  | cons c w ih =>
    rw [List.cons_append, trimLeft_foldLines_cons (blank c (by simp)),
      ih fun d mem => blank d (by simp [mem])]

theorem foldLines_blank {w : List Char} (blank : ∀ c ∈ w, isBlank c = true) :
    ∀ c ∈ foldLines w, isBlank c = true := by
  fun_induction Text.foldLines w <;> simp_all [isBlank_feed]

/-- Blanks after a text only add blanks to the folded text, also where they begin with the LF
that belongs to a CR at its end. -/
theorem foldLines_append_right {w : List Char} (blank : ∀ c ∈ w, isBlank c = true)
    (s : List Char) :
    ∃ w', (∀ c ∈ w', isBlank c = true) ∧ foldLines (s ++ w) = foldLines s ++ w' := by
  fun_induction Text.foldLines s with
  | case1 => exact ⟨foldLines w, foldLines_blank blank, rfl⟩
  | case2 s ih =>
    obtain ⟨w', blank', eq⟩ := ih
    exact ⟨w', blank', by simp [eq]⟩
  | case3 s alone ih =>
    by_cases feed : (s ++ w).head? = some '\n'
    · obtain ⟨rest, whole⟩ := List.head?_eq_some_iff.mp feed
      cases s with
      | nil =>
        rw [List.nil_append] at whole
        subst whole
        exact ⟨foldLines rest, foldLines_blank fun c mem => blank c (by simp [mem]), rfl⟩
      | cons d s => exact absurd (by simp_all) (alone s)
    · obtain ⟨w', blank', eq⟩ := ih
      exact ⟨w', blank', by rw [List.cons_append, foldLines_cr feed, eq, List.cons_append]⟩
  | case4 c s _ single ih =>
    obtain ⟨w', blank', eq⟩ := ih
    have plain : c ≠ '\r' := fun h => single h
    exact ⟨w', blank', by rw [List.cons_append, foldLines_cons plain, eq, List.cons_append]⟩

/-- Blanks around a text are gone from its normal form. -/
theorem normal_padded {before after : List Char} (blank : ∀ c ∈ before, isBlank c = true)
    (blank' : ∀ c ∈ after, isBlank c = true) (s : List Char) :
    normal (before ++ s ++ after) = normal s := by
  obtain ⟨w, blankW, eq⟩ := foldLines_append_right blank' s
  calc normal (before ++ s ++ after)
      = trimRight (trimLeft (foldLines (before ++ (s ++ after)))) := by
        rw [List.append_assoc, normal, trim]
    _ = trim (foldLines s ++ w) := by rw [trimLeft_foldLines_append_left blank, eq, ← trim]
    _ = normal s := trim_append_right blankW _

theorem normal_no_return (s : List Char) : '\r' ∉ normal s := fun mem =>
  foldLines_no_return s <|
    (List.dropWhile_suffix isBlank).subset ((trimRight_begins _).subset mem)

/-- A text in normal form is its own normal form. -/
theorem normal_eq_self {s : List Char} (plain : '\r' ∉ s) (h : Unpadded s) : normal s = s := by
  rw [normal, foldLines_eq_self plain, h.trim]

theorem normal_normal (s : List Char) : normal (normal s) = normal s :=
  normal_eq_self (normal_no_return s) (trim_unpadded _)

theorem Respelled.normal {s t : List Char} (h : Respelled s t) : normal t = normal s := by
  have spelled : Text.foldLines t = s := foldLines_eq_iff.mpr h
  have folded : Text.foldLines s = s := foldLines_eq_self (spelled ▸ foldLines_no_return t)
  rw [Text.normal, Text.normal, spelled, folded]

/-- `normalized` is a canonical form of a text up to the spelling of its line ends and the
blanks around it: each text has a normal form that has no CR and no blank around it and is its
own normal form, every spelling of a text between any blanks has the normal form of the text,
and two texts without CR and without blanks around them have one only where they are one. -/
theorem normalized_canonical :
    (∀ s : String, '\r' ∉ (normalized s).toList ∧ Unpadded (normalized s).toList ∧
      normalized (normalized s) = normalized s) ∧
    (∀ s t before after : String, Respelled s.toList t.toList → isAllBlank before = true →
      isAllBlank after = true → normalized (before ++ t ++ after) = normalized s) ∧
    (∀ s t : String, '\r' ∉ s.toList → Unpadded s.toList → '\r' ∉ t.toList →
      Unpadded t.toList → normalized s = normalized t → s = t) := by
  refine ⟨fun s => ⟨?_, ?_, ?_⟩, fun s t before after spelled blank blank' => ?_,
    fun s t plain tight plain' tight' same => ?_⟩
  · simpa [normalized] using normal_no_return s.toList
  · simpa [normalized, normal] using trim_unpadded (foldLines s.toList)
  · simp [normalized, normal_normal]
  · have padded := normal_padded (by simpa [isAllBlank] using blank)
      (by simpa [isAllBlank] using blank') t.toList
    rw [normalized, normalized, String.toList_append, String.toList_append, padded, spelled.normal]
  · have h : normal s.toList = normal t.toList := String.ofList_injective same
    rw [normal_eq_self plain tight, normal_eq_self plain' tight'] at h
    exact String.toList_inj.mp h

/-- Three line ends written as CR, CR LF and LF between blanks that end in a CR and begin with
an LF, and two texts that differ in a line end only. -/
theorem normalized_canonical_mixed :
    (Respelled "a\n\n\nb".toList "a\r\r\n\nb".toList ∧
      normalized ("\t\r" ++ "a\r\r\n\nb" ++ "\n ") = normalized "a\n\n\nb") ∧
    (Unpadded "a b".toList ∧ Unpadded "a\nb".toList ∧
      normalized "a b" ≠ normalized "a\nb") := by
  have spelled : Respelled "a\n\n\nb".toList "a\r\r\n\nb".toList :=
    .other (by decide) (by decide) (.cr (by decide) (.crlf (.lf (.other (by decide) (by decide)
      .nil))))
  have tight : Unpadded "a b".toList := by decide
  have tight' : Unpadded "a\nb".toList := by decide
  obtain ⟨-, spellings, faithful⟩ := normalized_canonical
  refine ⟨⟨spelled, spellings _ _ _ _ spelled (by decide) (by decide)⟩, tight, tight', fun same => ?_⟩
  exact absurd (faithful _ _ (by decide) tight (by decide) tight' same) (by decide)

end Grader.Text

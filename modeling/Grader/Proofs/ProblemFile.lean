import Grader.Problem.File
import Grader.Proofs.Documents

/-! What a problem file must be to be stored. The cases of a file are looked at in their order, each
for its problem first and then for an id that an earlier one has. -/
namespace Grader.ProblemFile

open Document Json Json.Fields

theorem holds (f : ProblemFile) : Holds (toJson f) f := by
  have problem := f.problem.holds
  have cases := holds_list fun c (_ : c ∈ f.cases) => c.holds
  exact holds_record fields rfl
    ((listed_field _ problem.legible)
      |>.append (listed_field _ cases.legible))
    (by decide)
    ((reads_pure ProblemFile.mk)
      |>.apply (reads_required problem.decodes (by simp))
      |>.apply (reads_required cases.decodes (by simp)))

theorem parse_text {f : ProblemFile} (sound : f.fault? = none) : parse (text f) = .ok f := by
  have read : ofText? (text f) = some f := f.holds.ofText?_render
  rw [parse, read]
  simp only [sound]

/-- Nothing is wrong with cases of the problem whose ids are new and differ from one another. -/
theorem caseFault?_eq_none_iff (problemId : String) (seen : List String) (cases : List TestCase) :
    caseFault? problemId seen cases = none ↔ (∀ c ∈ cases, c.problemId = problemId) ∧
      (cases.map (·.id)).Nodup ∧ ∀ c ∈ cases, c.id ∉ seen := by
  induction cases generalizing seen with
  | nil => simp [caseFault?]
  | cons c cs ih =>
    rw [caseFault?]
    by_cases own : c.problemId = problemId
    · rw [if_neg (not_not_intro own)]
      by_cases new : c.id ∈ seen
      · rw [if_pos new]
        simp [new]
      · rw [if_neg new, ih]
        simp only [List.mem_cons, forall_eq_or_imp, List.map_cons, List.nodup_cons, List.mem_map,
          not_or, not_exists, not_and]
        constructor
        · rintro ⟨owned, apart, fresh⟩
          exact ⟨⟨own, owned⟩, ⟨fun d member => (fresh d member).1, apart⟩,
            new, fun d member => (fresh d member).2⟩
        · rintro ⟨⟨-, owned⟩, ⟨other, apart⟩, -, fresh⟩
          exact ⟨owned, apart, fun d member => ⟨other d member, fresh d member⟩⟩
    · rw [if_pos own]
      simp [own]

structure Belong (problemId : String) (cases : List TestCase) : Prop where
  own : ∀ c ∈ cases, c.problemId = problemId
  distinct : (cases.map (·.id)).Nodup

structure Sound (f : ProblemFile) : Prop where
  named : Text.isAllBlank f.problem.id = false
  timed : 0 < f.problem.timeLimitMs.toNat
  nonempty : f.cases ≠ []
  cases : Belong f.problem.id f.cases

/-- What is wrong with a case after some others: first that its problem is another one, then that
its id is taken. -/
inductive CaseBreaks (problemId : String) (earlier : List String) (c : TestCase) :
    ProblemFileError → Prop where
  | foreign (other : c.problemId ≠ problemId) :
      CaseBreaks problemId earlier c (.foreignCase c.id c.problemId problemId)
  | duplicate (own : c.problemId = problemId) (taken : c.id ∈ earlier) :
      CaseBreaks problemId earlier c (.duplicateCase c.id)

/-- The first rule that a file breaks. Among the cases it is that of the first one which does not
go with those before it. -/
inductive Breaks (f : ProblemFile) : ProblemFileError → Prop where
  | unnamed (blank : Text.isAllBlank f.problem.id = true) : Breaks f .blankId
  | untimed (named : Text.isAllBlank f.problem.id = false)
      (none : f.problem.timeLimitMs.toNat = 0) : Breaks f .noTime
  | empty (named : Text.isAllBlank f.problem.id = false) (timed : 0 < f.problem.timeLimitMs.toNat)
      (none : f.cases = []) : Breaks f (.noCases (Text.trimmed f.problem.id))
  | case (named : Text.isAllBlank f.problem.id = false) (timed : 0 < f.problem.timeLimitMs.toNat)
      (before : List TestCase) (c : TestCase) (after : List TestCase)
      (split : f.cases = before ++ c :: after) (sound : Belong f.problem.id before)
      (e : ProblemFileError) (broken : CaseBreaks f.problem.id (before.map (·.id)) c e) : Breaks f e

theorem caseFault?_nil_eq_none_iff (problemId : String) (cases : List TestCase) :
    caseFault? problemId [] cases = none ↔ Belong problemId cases := by
  rw [caseFault?_eq_none_iff]
  constructor
  · rintro ⟨own, distinct, -⟩
    exact ⟨own, distinct⟩
  · rintro ⟨own, distinct⟩
    exact ⟨own, distinct, fun _ _ => List.not_mem_nil⟩

theorem CaseBreaks.of_subset {problemId : String} {earlier others : List String} {c : TestCase}
    {e : ProblemFileError} (breaks : CaseBreaks problemId earlier c e) (subset : earlier ⊆ others) :
    CaseBreaks problemId others c e := by
  cases breaks with
  | foreign other => exact .foreign other
  | duplicate own taken => exact .duplicate own (subset taken)

theorem caseFault?_of_breaks {problemId : String} {seen : List String} {c : TestCase}
    {e : ProblemFileError} (breaks : CaseBreaks problemId seen c e) (cs : List TestCase) :
    caseFault? problemId seen (c :: cs) = some e := by
  cases breaks with
  | foreign other => rw [caseFault?, if_pos other]
  | duplicate own taken => rw [caseFault?, if_neg (not_not_intro own), if_pos taken]

theorem caseBreaks_or_goesOn (problemId : String) (seen : List String) (c : TestCase) :
    (∃ e, CaseBreaks problemId seen c e) ∨
      ∀ cs, caseFault? problemId seen (c :: cs) = caseFault? problemId (c.id :: seen) cs := by
  by_cases own : c.problemId = problemId
  · by_cases taken : c.id ∈ seen
    · exact .inl ⟨_, .duplicate own taken⟩
    · right
      intro cs
      rw [caseFault?, if_neg (not_not_intro own), if_neg taken]
  · exact .inl ⟨_, .foreign own⟩

/-- The scan tells what is wrong with the first case that does not go with those before it. -/
theorem caseFault?_eq_some_iff (problemId : String) (seen : List String) (cases : List TestCase)
    (e : ProblemFileError) :
    caseFault? problemId seen cases = some e ↔ ∃ before c after, cases = before ++ c :: after ∧
      caseFault? problemId seen before = none ∧
      CaseBreaks problemId (seen ++ before.map (·.id)) c e := by
  induction cases generalizing seen with
  | nil => simp [caseFault?]
  | cons d ds ih =>
    rcases caseBreaks_or_goesOn problemId seen d with ⟨e', breaks⟩ | goesOn
    · rw [caseFault?_of_breaks breaks]
      constructor
      · intro same
        obtain rfl := Option.some.inj same
        exact ⟨[], d, ds, rfl, rfl, breaks.of_subset (List.subset_append_left seen _)⟩
      · rintro ⟨before, c, after, split, clean, broken⟩
        cases before with
        | nil =>
          obtain ⟨rfl, rfl⟩ := List.cons.inj split
          rw [List.map_nil, List.append_nil] at broken
          rw [← caseFault?_of_breaks breaks ds, caseFault?_of_breaks broken ds]
        | cons b before =>
          obtain ⟨rfl, -⟩ := List.cons.inj split
          rw [caseFault?_of_breaks breaks] at clean
          contradiction
    · rw [goesOn, ih]
      constructor
      · rintro ⟨before, c, after, rfl, clean, broken⟩
        refine ⟨d :: before, c, after, rfl, (goesOn before).trans clean, broken.of_subset ?_⟩
        intro x taken
        simp only [List.map_cons, List.mem_append, List.mem_cons] at taken ⊢
        tauto
      · rintro ⟨before, c, after, split, clean, broken⟩
        cases before with
        | nil =>
          obtain ⟨rfl, rfl⟩ := List.cons.inj split
          rw [List.map_nil, List.append_nil] at broken
          have stuck := goesOn []
          rw [caseFault?_of_breaks broken, caseFault?] at stuck
          contradiction
        | cons b before =>
          obtain ⟨rfl, rest⟩ := List.cons.inj split
          refine ⟨before, c, after, rest, (goesOn before).symm.trans clean, broken.of_subset ?_⟩
          intro x taken
          simp only [List.map_cons, List.mem_append, List.mem_cons] at taken ⊢
          tauto

theorem fault?_of_unnamed {f : ProblemFile} (blank : Text.isAllBlank f.problem.id = true) :
    f.fault? = some .blankId := if_pos blank

section
variable {f : ProblemFile} (named : Text.isAllBlank f.problem.id = false)
include named

theorem fault?_of_untimed (none : f.problem.timeLimitMs.toNat = 0) : f.fault? = some .noTime := by
  have zero : f.problem.timeLimitMs = 0 := UInt64.toNat_inj.mp none
  rw [fault?, named, if_neg Bool.false_ne_true, if_pos zero]

variable (timed : 0 < f.problem.timeLimitMs.toNat)
include timed

theorem fault?_of_timed : f.fault? =
    if f.cases = [] then some (.noCases (Text.trimmed f.problem.id))
    else caseFault? f.problem.id [] f.cases := by
  have positive : f.problem.timeLimitMs ≠ 0 := by
    intro zero
    rw [zero] at timed
    exact absurd timed (by decide)
  rw [fault?, named, if_neg Bool.false_ne_true, if_neg positive]

theorem fault?_of_empty (none : f.cases = []) :
    f.fault? = some (.noCases (Text.trimmed f.problem.id)) := by
  rw [fault?_of_timed named timed, if_pos none]

theorem fault?_of_listed (some : f.cases ≠ []) :
    f.fault? = caseFault? f.problem.id [] f.cases := by
  rw [fault?_of_timed named timed, if_neg some]

end

/-- What is told of a file is the first rule that it breaks. -/
theorem fault?_eq_some_iff (f : ProblemFile) (e : ProblemFileError) :
    f.fault? = some e ↔ f.Breaks e := by
  constructor
  · intro fault
    cases named : Text.isAllBlank f.problem.id with
    | true =>
      rw [fault?_of_unnamed named] at fault
      obtain rfl := Option.some.inj fault
      exact .unnamed named
    | false =>
      rcases Nat.eq_zero_or_pos f.problem.timeLimitMs.toNat with none | timed
      · rw [fault?_of_untimed named none] at fault
        obtain rfl := Option.some.inj fault
        exact .untimed named none
      · by_cases none : f.cases = []
        · rw [fault?_of_empty named timed none] at fault
          obtain rfl := Option.some.inj fault
          exact .empty named timed none
        · rw [fault?_of_listed named timed none, caseFault?_eq_some_iff] at fault
          obtain ⟨before, c, after, split, clean, broken⟩ := fault
          exact .case named timed before c after split
            ((caseFault?_nil_eq_none_iff _ _).mp clean) e broken
  · intro breaks
    cases breaks with
    | unnamed blank => exact fault?_of_unnamed blank
    | untimed named none => exact fault?_of_untimed named none
    | empty named timed none => exact fault?_of_empty named timed none
    | case named timed before c after split sound e broken =>
      have some : f.cases ≠ [] := by
        rw [split]
        exact List.append_ne_nil_of_right_ne_nil before (List.cons_ne_nil c after)
      rw [fault?_of_listed named timed some, caseFault?_eq_some_iff]
      exact ⟨before, c, after, split, (caseFault?_nil_eq_none_iff _ _).mpr sound, broken⟩

theorem fault?_eq_none_iff (f : ProblemFile) : f.fault? = none ↔ f.Sound := by
  constructor
  · intro clean
    cases named : Text.isAllBlank f.problem.id with
    | true =>
      rw [fault?_of_unnamed named] at clean
      contradiction
    | false =>
      rcases Nat.eq_zero_or_pos f.problem.timeLimitMs.toNat with none | timed
      · rw [fault?_of_untimed named none] at clean
        contradiction
      · by_cases none : f.cases = []
        · rw [fault?_of_empty named timed none] at clean
          contradiction
        · rw [fault?_of_listed named timed none, caseFault?_nil_eq_none_iff] at clean
          exact ⟨named, timed, none, clean⟩
  · rintro ⟨named, timed, some, cases⟩
    rw [fault?_of_listed named timed some, caseFault?_nil_eq_none_iff]
    exact cases

/-- The accepted texts are those of sound files. -/
theorem parse_eq_ok_iff (text : String) (f : ProblemFile) :
    parse text = .ok f ↔ ofText? text = some f ∧ f.Sound := by
  rw [parse]
  cases read : (ofText? text : Option ProblemFile) with
  | none => simp
  | some g =>
    simp only [Option.some.injEq]
    cases fault : g.fault? with
    | none =>
      have sound := (fault?_eq_none_iff g).mp fault
      simp only [Except.ok.injEq]
      constructor
      · rintro rfl
        exact ⟨rfl, sound⟩
      · rintro ⟨same, -⟩
        exact same
    | some e =>
      constructor
      · intro accepted
        contradiction
      · rintro ⟨rfl, sound⟩
        rw [(fault?_eq_none_iff g).mpr sound] at fault
        contradiction

theorem parse_eq_error_iff {text : String} {f : ProblemFile} (read : ofText? text = some f)
    (e : ProblemFileError) : parse text = .error e ↔ f.Breaks e := by
  rw [parse, read, ← fault?_eq_some_iff]
  cases fault : f.fault? <;> simp [fault]

/-- No two cases of an accepted file have the same id. -/
theorem parse_nodup {text : String} {file : ProblemFile} (parsed : parse text = .ok file) :
    (file.cases.map (·.id)).Nodup :=
  ((parse_eq_ok_iff text file).mp parsed).2.cases.distinct

end Grader.ProblemFile

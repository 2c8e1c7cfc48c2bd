import Grader.Proofs.Import

/-! The memory limit of a problem file. No limit is refused, but work in kilobytes goes on only where
the limit has a number of them in 64 bits: with any other an import breaks off after it has stored
the file, and the work on a submission after it has noted that it runs. -/
namespace Grader

theorem Signatures.reclassify_default_ne (output : String) :
    Signatures.default.reclassify output ≠ some .memoryLimitExceeded := by
  intro found
  obtain ⟨rule, find, same⟩ := Option.map_eq_some_iff.mp found
  have member := List.mem_of_find?_eq_some find
  simp only [Signatures.default, List.mem_map] at member
  obtain ⟨pattern, -, rfl⟩ := member
  contradiction

/-- A run that succeeds is beyond the limit if it has used more memory, or if a table makes it so for
an output that is not the expected one. -/
theorem classify_eq_memoryLimitExceeded_iff {p : Problem} (fits : p.Fits) {output : ExecutionOutput}
    (success : output.status = .success) (expected : String) (t : Signatures) :
    classify output expected p.memoryLimit t = .memoryLimitExceeded ↔
      ¬p.Allows output.memoryUsedKb ∨
        Text.normalized output.output ≠ Text.normalized expected ∧
          t.reclassify output.output = some .memoryLimitExceeded := by
  have allows := Problem.exceededBy_memoryLimit fits output.memoryUsedKb
  simp only [classify, success]
  by_cases within : p.Allows output.memoryUsedKb
  · rw [allows.mpr within, if_neg Bool.false_ne_true]
    by_cases same : Text.normalized output.output = Text.normalized expected
    · simp [same, within]
    · rw [if_neg same]
      cases marked : t.reclassify output.output <;> simp [same, within]
  · have exceeded : p.memoryLimit.exceededBy output.memoryUsedKb = true :=
      Bool.not_eq_false _ ▸ mt allows.mp within
    simp [exceeded, within]

namespace Site

variable {setup : Setup} {id : Uuid} {site : Site} {s : Submission} {p : Problem}
  {cases : List TestCase}

theorem Runs.of_not_fits {actions : List Job.Action} {outcome : Outcome}
    (runs : site.Runs setup s p cases actions outcome) (beyond : ¬p.Fits)
    (marked : site.accepts (s.markRunning site.now) = true) :
    actions = [.save (s.markRunning site.now)] ∧ outcome = .crashed := by
  have none : setup.evaluate (s.markRunning site.now) p cases site.calls = (none, site.calls) :=
    Evaluator.evaluate_of_not_fits _ _ beyond ..
  cases runs with
  | unmarked e fault => cases (fault?_of_marked marked).symm.trans fault
  | crashed _ made ran =>
    have calls : site.calls = site.calls ++ made := congrArg Prod.snd (none.symm.trans ran)
    obtain rfl := List.self_eq_append_right.mp calls
    exact ⟨rfl, rfl⟩
  | evaluated _ _ _ ran => cases congrArg Prod.fst (none.symm.trans ran)

/-- It leaves the note that the submission runs. -/
theorem process_of_not_fits (due : site.Due id s) (context : site.Context s p cases)
    (beyond : ¬p.Fits) (marked : site.accepts (s.markRunning site.now) = true) :
    (site.process setup id).2 = .crashed ∧
      (site.process setup id).1.stored? s.id = some (s.markRunning site.now) ∧
      (site.process setup id).1.calls = site.calls := by
  obtain ⟨done, ended⟩ := ((process_works setup id site).runs due context).of_not_fits beyond marked
  have acted : site.acts (Job.load.actions setup id site) = site.keep (s.markRunning site.now) := by
    rw [done, acts_cons, acts_nil, act_save_of_accepts marked]
  obtain ⟨stored, calls⟩ := process_shows setup id site acted
  exact ⟨ended, (stored s.id).trans (stored?_keep_same ..), calls⟩

end Site

namespace ProblemFile

def withMemoryLimit (f : ProblemFile) (megabytes : UInt64) : ProblemFile :=
  { f with problem := { f.problem with memoryLimitMb := megabytes } }

theorem Sound.withMemoryLimit {f : ProblemFile} (sound : f.Sound) (megabytes : UInt64) :
    (f.withMemoryLimit megabytes).Sound :=
  ⟨sound.named, sound.timed, sound.nonempty, ⟨sound.cases.own, sound.cases.distinct⟩⟩

/-- The check of a file lets every memory limit through. Where 64 bits do not count its kilobytes, the
command that imports the file breaks off after both documents are stored, and the work on a
submission leaves it running, without a call. Where they do, neither breaks off for it, and a run
that succeeds is beyond the limit exactly if there is one and more kilobytes were used. -/
theorem memory_limit_unchecked {text : String} {f : ProblemFile} (parsed : parse text = .ok f) :
    let kilobytes := f.problem.memoryLimitMb.toNat * 1024
    (∀ megabytes, parse (Document.text (f.withMemoryLimit megabytes)) =
      .ok (f.withMemoryLimit megabytes)) ∧
    (f.problem.memoryLimit = .overflow ↔ UInt64.size ≤ kilobytes) ∧
    (kilobytes < UInt64.size → ∀ n, f.problem.memoryLimit = .kilobytes n ↔
      0 < f.problem.memoryLimitMb.toNat ∧ n.toNat = kilobytes) ∧
    (∀ (path : String) (around : Console.Surroundings) (st : Console.State)
      (server server₁ server₂ : ServerStore), around.fileText path = some text →
      st.server = some server → DocumentStore.saveProblem f.problem server = .ok server₁ →
      DocumentStore.saveCases f.problem.id f.cases server₁ = .ok server₂ →
      ∃ lines, (Console.Task.importProblem path).run around st =
        (if kilobytes < UInt64.size then none else some .overflow,
          { st with lines, server := some server₂ })) ∧
    (∀ (setup : Setup) (site : Site) (id : Uuid) (s : Submission), f.StoredIn site.store →
      site.Due id s → s.problemId = f.problem.id →
      (UInt64.size ≤ kilobytes → site.accepts (s.markRunning site.now) = true →
        (site.process setup id).2 = .crashed ∧
        (site.process setup id).1.stored? s.id = some (s.markRunning site.now) ∧
        (site.process setup id).1.calls = site.calls) ∧
      (kilobytes < UInt64.size → setup.engine.NeverCrashes →
        (site.process setup id).2 ≠ .crashed)) ∧
    (kilobytes < UInt64.size → ∀ output : ExecutionOutput, output.status = .success →
      ∀ expected,
        (classify output expected f.problem.memoryLimit .default = .memoryLimitExceeded ↔
          0 < f.problem.memoryLimitMb.toNat ∧ kilobytes < output.memoryUsedKb.toNat) ∧
        ∀ t : Signatures,
          (classify output expected f.problem.memoryLimit t = .memoryLimitExceeded ↔
            (0 < f.problem.memoryLimitMb.toNat ∧ kilobytes < output.memoryUsedKb.toNat) ∨
              Text.normalized output.output ≠ Text.normalized expected ∧
                t.reclassify output.output = some .memoryLimitExceeded)) := by
  intro kilobytes
  have sound : f.Sound := ((parse_eq_ok_iff text f).mp parsed).2
  have fits : f.problem.Fits ↔ kilobytes < UInt64.size := f.problem.fits_iff
  have overflow : f.problem.memoryLimit = .overflow ↔ UInt64.size ≤ kilobytes := by
    rw [f.problem.memoryLimit_eq_overflow_iff, fits, Nat.not_lt]
  refine ⟨?_, overflow, ?_, ?_, ?_, ?_⟩
  · intro megabytes
    exact parse_text ((fault?_eq_none_iff _).mpr (sound.withMemoryLimit megabytes))
  · intro small
    exact Problem.memoryLimit_eq_kilobytes_iff (fits.mpr small)
  · intro path around st server server₁ server₂ file up first second
    obtain ⟨lines, ended⟩ := Console.Task.run_importProblem file parsed up first second
    refine ⟨lines, ended.trans ?_⟩
    simp only [overflow, ← Nat.not_lt, ite_not]
  · intro setup site id s stored due own
    have context := stored.context sound own
    constructor
    · intro beyond marked
      exact Site.process_of_not_fits due context (mt fits.mp (Nat.not_lt.mpr beyond)) marked
    · intro small calm
      exact Site.process_not_crashed due context (fits.mpr small) calm
  · intro small output success expected
    have told (t : Signatures) :=
      classify_eq_memoryLimitExceeded_iff (fits.mpr small) success expected t
    simp only [Problem.not_allows_iff] at told
    refine ⟨(told .default).trans ?_, told⟩
    simp [Signatures.reclassify_default_ne, kilobytes]

end ProblemFile

namespace Boundless

def file : ProblemFile := Echo.file.withMemoryLimit 18014398509481984

def around : Console.Surroundings :=
  { Echo.around with fileText := fun _ => some (Document.text file) }

def site : Site := .start Echo.setup.config
  (.ofDocuments [Echo.submission] [file.problem] [("echo", Echo.cases)] []) default

theorem memory_limit_unchecked_boundless :
    ProblemFile.parse (Document.text file) = .ok file ∧
    (∃ lines server,
      (Console.Task.importProblem "echo.json").run around Echo.session =
        (some .overflow, { Echo.session with lines, server := some server }) ∧
      file.StoredIn server) ∧
    (site.process Echo.setup (.ofNat 7)).2 = .crashed ∧
    (∃ d, (site.process Echo.setup (.ofNat 7)).1.stored? (.ofNat 7) = some d ∧
      d.status = .running) ∧
    classify ⟨"1", 1, 1025, .success⟩ "1" Echo.problem.memoryLimit .default =
      .memoryLimitExceeded := by
  obtain ⟨accepts, -, -, -, -, told⟩ := ProblemFile.memory_limit_unchecked Echo.parse_file
  have parsed : ProblemFile.parse (Document.text file) = .ok file := accepts _
  obtain ⟨-, -, -, imports, works, -⟩ := ProblemFile.memory_limit_unchecked parsed
  obtain ⟨server₁, server₂, first, second⟩ : ∃ server₁ server₂,
      DocumentStore.saveProblem file.problem ServerStore.empty = .ok server₁ ∧
        DocumentStore.saveCases file.problem.id file.cases server₁ = .ok server₂ :=
    ⟨_, _, rfl, rfl⟩
  have stored := ServerStore.storedIn_of_saves first second fun _ => rfl
  obtain ⟨lines, ended⟩ :=
    imports "echo.json" around Echo.session .empty _ _ rfl rfl first second
  have beyond : ¬file.problem.memoryLimitMb.toNat * 1024 < UInt64.size := by decide
  rw [if_neg beyond] at ended
  obtain ⟨crashed, running, -⟩ :=
    (works Echo.setup site (.ofNat 7) Echo.submission ⟨rfl, rfl⟩ ⟨rfl, rfl⟩ rfl).1
      (Nat.not_lt.mp beyond) rfl
  refine ⟨parsed, ⟨lines, server₂, ended, stored⟩, crashed, ⟨_, running, rfl⟩, ?_⟩
  exact ((told (by decide) ⟨"1", 1, 1025, .success⟩ rfl "1").1).mpr (by decide)

end Boundless

end Grader

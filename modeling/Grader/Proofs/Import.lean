import Grader.Console.Task
import Grader.Proofs.Backends
import Grader.Proofs.CaseOrder
import Grader.Proofs.Persistence
import Grader.Proofs.ProblemFile
import Mathlib.Data.List.Count

/-! Importing a problem. A file that passes its check is all that the work on a submission to its
problem needs: once both of its documents are stored the work is never given up, and its verdict has
one result for each case of the file. -/
namespace Grader

structure ProblemFile.StoredIn [DocumentStore σ] (f : ProblemFile) (store : σ) : Prop where
  problem : DocumentStore.problem? f.problem.id store = .ok (some f.problem)
  cases : DocumentStore.cases f.problem.id store = .ok f.cases

namespace ServerStore

open Document

theorem read_of_text [Document α] {s : ServerStore} {key : String} {a : α}
    (admitted : s.refuses (.get key) = false) (written : s.texts.get? key = some (text a))
    (holds : Holds (toJson a) a) : read key s = .ok (some a) := by
  have decoded : ofText? (text a) = some a := holds.ofText?_render
  rw [read, admitted, if_neg Bool.false_ne_true]
  simp only [written, decoded]

variable {f : ProblemFile} {server server₁ server₂ : ServerStore}

/-- The documents of a file are read as they were saved. -/
theorem storedIn_of_saves (first : DocumentStore.saveProblem f.problem server = .ok server₁)
    (second : DocumentStore.saveCases f.problem.id f.cases server₁ = .ok server₂)
    (admits : ∀ key, server.refuses (.get key) = false) : f.StoredIn server₂ := by
  have opened : server₁ = { server with
      texts := server.texts.put (Key.problem f.problem.id) (text f.problem) } := write_eq_ok first
  have written : server₂ = { server₁ with
      texts := server₁.texts.put (Key.cases f.problem.id) (text f.cases) } := write_eq_ok second
  have admitted (key : String) : server₂.refuses (.get key) = false := by
    rw [written, opened]
    exact admits key
  have problemHolds : Holds (toJson f.problem) f.problem := f.problem.holds
  have casesHold : Holds (toJson f.cases) f.cases := holds_list fun c _ => c.holds
  constructor
  · refine read_of_text (admitted _) ?_ problemHolds
    have other := get?_put_key server₁.texts (.cases f.problem.id) (.problem f.problem.id)
      (text f.cases)
    rw [if_neg nofun] at other
    rw [written]
    refine other.trans ?_
    rw [opened]
    exact Table.get?_put_same ..
  · have here : server₂.texts.get? (Key.cases f.problem.id) = some (text f.cases) := by
      rw [written]
      exact Table.get?_put_same ..
    exact congrArg (Except.map (·.getD [])) (read_of_text (admitted _) here casesHold)

end ServerStore

theorem Mirrors.storedIn {server : ServerStore} {memory : MemoryStore}
    (mirrors : Mirrors server memory) {f : ProblemFile} (stored : f.StoredIn server) :
    f.StoredIn memory where
  problem := by
    have same := mirrors.read (mirrors.shown (.problem f.problem.id))
    exact (mirrors.answer ..).trans (same.symm.trans stored.problem)
  cases := by
    have same := mirrors.read (mirrors.shown (.cases f.problem.id))
    have listed : DocumentStore.cases f.problem.id server =
        .ok ((memory.cases.get? f.problem.id).getD []) := congrArg (Except.map (·.getD [])) same
    exact (mirrors.answer ..).trans (listed.symm.trans stored.cases)

namespace Console

namespace Session

def outcome (x : Session α) (around : Surroundings) (st : State) : Except Failure α × State :=
  StateT.run (ExceptT.run (ReaderT.run x around)) st

variable {around : Surroundings} {st st' : State}

theorem outcome_bind {x : Session α} {a : α} (done : x.outcome around st = (.ok a, st'))
    (g : α → Session β) : (x >>= g).outcome around st = (g a).outcome around st' := by
  simp only [outcome, StateT.run, ExceptT.run, ReaderT.run] at done ⊢
  simp only [bind, ReaderT.bind, ExceptT.bind, ExceptT.mk, StateT.bind]
  rw [done]
  rfl

theorem outcome_printLine (line : String) :
    (printLine line).outcome around st = (.ok (), { st with lines := st.lines ++ [line] }) := rfl

theorem outcome_read : (read : Session Surroundings).outcome around st = (.ok around, st) := rfl

theorem outcome_connect {server : ServerStore} (up : st.server = some server) :
    connect.outcome around st = (.ok server, st) := by
  have got : (get : Session State).outcome around st = (.ok st, st) := rfl
  rw [connect, outcome_bind got, up]
  rfl

theorem outcome_write (server : ServerStore) : (write (.ok server)).outcome around st =
    (.ok server, { st with server := some server }) := rfl

end Session

end Console

namespace Console.Task

open Session

variable {around : Surroundings} {st : State} {f : ProblemFile} {path text : String}
  {server server₁ server₂ : ServerStore}

theorem run_eq (t : Task) (around : Surroundings) (st : State) : t.run around st =
    match t.session.outcome around st with
    | (.ok (), s) => (none, s)
    | (.error e, s) => (some e, s) := rfl

/-- Where the memory limit has no number of kilobytes, nothing more is told of an import. -/
theorem outcome_printImported (f : ProblemFile) (around : Surroundings) (st : State) :
    ∃ lines, (printImported f).outcome around st =
      (if f.problem.memoryLimit = .overflow then .error .overflow else .ok (),
        { st with lines }) := by
  rw [printImported, outcome_bind (outcome_printLine _), outcome_bind (outcome_printLine _)]
  unfold printMemory
  cases f.problem.memoryLimit with
  | none => exact ⟨_, rfl⟩
  | kilobytes n => exact ⟨_, rfl⟩
  | overflow => exact ⟨_, rfl⟩

/-- An import whose two saves succeed leaves the server with both documents. It breaks off after them
where the memory limit has no number of kilobytes. -/
theorem run_importProblem (file : around.fileText path = some text)
    (parsed : ProblemFile.parse text = .ok f) (up : st.server = some server)
    (first : DocumentStore.saveProblem f.problem server = .ok server₁)
    (second : DocumentStore.saveCases f.problem.id f.cases server₁ = .ok server₂) :
    ∃ lines, (importProblem path).run around st =
      (if f.problem.memoryLimit = .overflow then some .overflow else none,
        { st with lines, server := some server₂ }) := by
  have announced : ({ st with lines := st.lines ++ ["📦 Importing problem from " ++ path] } :
      State).server = some server := up
  obtain ⟨lines, printed⟩ := outcome_printImported f around
    { st with lines := st.lines ++ ["📦 Importing problem from " ++ path], server := some server₂ }
  have ended : (runImport path).outcome around st =
      (if f.problem.memoryLimit = .overflow then .error .overflow else .ok (),
        { st with lines, server := some server₂ }) := by
    rw [runImport, outcome_bind (outcome_printLine _), outcome_bind outcome_read]
    simp only [file, parsed]
    rw [outcome_bind (outcome_connect announced), first, outcome_bind (outcome_write _), second]
    exact printed
  refine ⟨lines, ?_⟩
  rw [run_eq, session, ended]
  by_cases overflow : f.problem.memoryLimit = .overflow
  · rw [if_pos overflow, if_pos overflow]
  · rw [if_neg overflow, if_neg overflow]

end Console.Task

/-- Each of some cases has exactly one result, and there are no others. -/
structure Evaluation.OneEach (results : List CaseResult) (cases : List TestCase) : Prop where
  length : results.length = cases.length
  once : ∀ c ∈ cases, results.countP (·.caseId = c.id) = 1

theorem Evaluation.oneEach_of_perm {results : List CaseResult} {cases : List TestCase}
    (perm : (results.map (·.caseId)).Perm (cases.map (·.id)))
    (distinct : (cases.map (·.id)).Nodup) : OneEach results cases where
  length := by simpa using perm.length_eq
  once := by
    intro c member
    have once := List.count_eq_one_of_mem distinct (List.mem_map_of_mem member)
    rw [← perm.count_eq, List.count_eq_countP, List.countP_map] at once
    rw [← once]
    exact List.countP_congr fun r _ => by simp

theorem ProblemFile.StoredIn.context {site : Site} {f : ProblemFile} (stored : f.StoredIn site.store)
    (sound : f.Sound) {s : Submission} (own : s.problemId = f.problem.id) :
    site.Context s f.problem f.cases where
  found := own ▸ stored.problem
  listed := own ▸ stored.cases
  nonempty := sound.nonempty

namespace Site

variable {setup : Setup} {id : Uuid} {site : Site} {actions : List Job.Action} {outcome : Outcome}
  {s : Submission} {p : Problem} {cases : List TestCase}

theorem Runs.not_givenUp (runs : site.Runs setup s p cases actions outcome) (detail : String) :
    actions ≠ [.save (s.fail detail site.now)] := by
  have apart : s.markRunning site.now ≠ s.fail detail site.now := by
    intro same
    have statuses : Status.running = .internalError := congrArg Submission.status same
    contradiction
  intro given
  cases runs with
  | unmarked | crashed | evaluated => exact apart (Job.Action.save.inj (List.cons.inj given).1)

/-- Unless it fails at the store or crashes, it has an evaluation whose verdict is stored. -/
theorem Runs.completes (runs : site.Runs setup s p cases actions outcome) (calm : outcome ≠ .crashed)
    (kept : ∀ e, outcome ≠ .storeFailed e) :
    ∃ (made : List ExecutionUnit) (e : Evaluation),
      (setup.evaluate (s.markRunning site.now) p cases site.calls).1 = some e ∧
      site.accepts (s.markRunning site.now) = true ∧
      site.accepts ((s.markRunning site.now).decide e site.now) = true ∧
      actions = .save (s.markRunning site.now) :: made.map .call ++
        [.save ((s.markRunning site.now).decide e site.now)] ∧
      outcome = .completed e.status := by
  cases runs with
  | unmarked e => exact absurd rfl (kept e)
  | crashed => exact absurd rfl calm
  | evaluated marked made e ran =>
    rcases site.accepts_or_fault ((s.markRunning site.now).decide e site.now) with taken | ⟨e', fault⟩
    · exact ⟨made, e, congrArg Prod.fst ran, marked, taken, rfl, conclusion_of_accepts taken⟩
    · exact absurd (conclusion_of_fault fault) (kept e')

theorem Works.not_storeFailed (works : site.Works setup id actions outcome) (saves : site.Saves)
    (due : site.Due id s) (e : StoreError) : outcome ≠ .storeFailed e := by
  have ended (status : Status) : site.conclusion status ≠ .storeFailed e := by
    rw [conclusion, saves status]
    nofun
  cases works with
  | unloaded e' failed => cases failed.symm.trans due.loaded
  | missing | skipped | crashed => nofun
  | unmarked _ _ _ _ _ e' fault =>
    rw [saves] at fault
    contradiction
  | givenUp | evaluated => exact ended _

/-- With a problem whose limit is a number of kilobytes, only the engine could break off the work. -/
theorem process_not_crashed (due : site.Due id s) (context : site.Context s p cases) (fits : p.Fits)
    (calm : setup.engine.NeverCrashes) : (site.process setup id).2 ≠ .crashed := by
  refine (process_works setup id site).not_crashed calm fun d q due' found => ?_
  obtain rfl := due.unique due'.loaded
  obtain rfl := Option.some.inj (Except.ok.inj (context.found.symm.trans found))
  exact fits

/-- The verdict on a submission to the problem of a stored file has one result for each case. -/
theorem process_of_stored {f : ProblemFile} (stored : f.StoredIn site.store) (sound : f.Sound)
    (due : site.Due id s) (own : s.problemId = f.problem.id)
    (calm : (site.process setup id).2 ≠ .crashed)
    (kept : ∀ e, (site.process setup id).2 ≠ .storeFailed e) :
    ∃ d, (site.process setup id).2 = .completed d.status ∧
      (site.process setup id).1.stored? s.id = some d ∧
      d.results.map (·.caseId) = (TestCase.ordered f.cases).map (·.id) ∧
      Evaluation.OneEach d.results f.cases := by
  have runs := (process_works setup id site).runs due (stored.context sound own)
  obtain ⟨made, e, ran, marked, taken, done, ended⟩ := runs.completes calm kept
  have acted := acts_evaluated marked taken made
  rw [← done] at acted
  obtain ⟨stored, -⟩ := process_shows setup id site acted
  have results : e.results.map (·.caseId) = (TestCase.ordered f.cases).map (·.id) :=
    Evaluator.caseIds_of_evaluate ran
  have perm := (TestCase.ordered_perm f.cases).map (·.id)
  rw [← results] at perm
  exact ⟨(s.markRunning site.now).decide e site.now, ended,
    (stored s.id).trans (stored?_keep_same ..), results,
    Evaluation.oneEach_of_perm perm sound.cases.distinct⟩

end Site

open Document in
/-- A text is accepted exactly if it holds a sound file, and a file that is not sound is refused for
the first rule that it breaks. A sound file is all that the work needs: once an import has made its
two saves, the work on a submission to the problem is not given up, and unless a save fails or the
engine breaks down its verdict has one result for each case of the file. -/
theorem ProblemFile.import_suffices (text : String) :
    (∀ f : ProblemFile, parse text = .ok f ↔ ofText? text = some f ∧ f.Sound) ∧
    (∀ f : ProblemFile, ofText? text = some f → ∀ e, parse text = .error e ↔ f.Breaks e) ∧
    ∀ f : ProblemFile, parse text = .ok f →
      (∀ (path : String) (around : Console.Surroundings) (st : Console.State)
        (server server₁ server₂ : ServerStore), around.fileText path = some text →
        st.server = some server → DocumentStore.saveProblem f.problem server = .ok server₁ →
        DocumentStore.saveCases f.problem.id f.cases server₁ = .ok server₂ →
        ((Console.Task.importProblem path).run around st).2.server = some server₂ ∧
        ((∀ key, server.refuses (.get key) = false) → f.StoredIn server₂)) ∧
      (∀ (server : ServerStore) (memory : MemoryStore), Mirrors server memory →
        f.StoredIn server → f.StoredIn memory) ∧
      ∀ (setup : Setup) (site : Site) (id : Uuid) (s : Submission), f.StoredIn site.store →
        site.Due id s → s.problemId = f.problem.id →
        (∀ detail, Job.load.actions setup id site ≠ [.save (s.fail detail site.now)]) ∧
        ((site.process setup id).2 ≠ .crashed →
          (∀ e, (site.process setup id).2 ≠ .storeFailed e) →
          ∃ d, (site.process setup id).2 = .completed d.status ∧
            (site.process setup id).1.stored? s.id = some d ∧
            d.results.map (·.caseId) = (TestCase.ordered f.cases).map (·.id) ∧
            Evaluation.OneEach d.results f.cases) := by
  refine ⟨fun f => parse_eq_ok_iff text f, fun f read e => parse_eq_error_iff read e, ?_⟩
  intro f parsed
  have sound : f.Sound := ((parse_eq_ok_iff text f).mp parsed).2
  refine ⟨?_, fun server memory mirrors stored => mirrors.storedIn stored, ?_⟩
  · intro path around st server server₁ server₂ file up first second
    obtain ⟨lines, ended⟩ := Console.Task.run_importProblem file parsed up first second
    refine ⟨?_, ServerStore.storedIn_of_saves first second⟩
    rw [ended]
  · intro setup site id s stored due own
    have runs := (site.process_works setup id).runs due (stored.context sound own)
    exact ⟨runs.not_givenUp, Site.process_of_stored stored sound due own⟩

namespace Echo

def file : ProblemFile := ⟨problem, cases⟩

def around : Console.Surroundings :=
  ⟨fun _ => none, default, fun _ => some (Document.text file), fun _ => .silent⟩

def session : Console.State := ⟨[], some .empty, []⟩

theorem parse_file : ProblemFile.parse (Document.text file) = .ok file :=
  ProblemFile.parse_text (by decide)

theorem file_stored : file.StoredIn site.store := ⟨rfl, rfl⟩

theorem import_suffices_echo :
    (∃ server, ((Console.Task.importProblem "echo.json").run around session).2.server = some server ∧
      file.StoredIn server) ∧
    ∃ d, (site.process setup (.ofNat 7)).1.stored? (.ofNat 7) = some d ∧
      d.results.map (·.caseId) = ["a", "b"] := by
  obtain ⟨-, -, imports⟩ := ProblemFile.import_suffices (Document.text file)
  obtain ⟨saved, -, worked⟩ := imports file parse_file
  constructor
  · obtain ⟨there, stored⟩ := saved "echo.json" around session .empty _ _ rfl rfl rfl rfl
    exact ⟨_, there, stored fun _ => rfl⟩
  · have due : site.Due (.ofNat 7) submission := ⟨rfl, rfl⟩
    have saves : site.Saves := fun _ => rfl
    have calm : setup.engine.NeverCrashes := fun _ _ => nofun
    have works := site.process_works setup (.ofNat 7)
    have ended : (site.process setup (.ofNat 7)).2 ≠ .crashed :=
      Site.process_not_crashed due context (by decide) calm
    obtain ⟨d, -, stored, results, -⟩ := (worked setup site (.ofNat 7) submission file_stored due
      rfl).2 ended (works.not_storeFailed saves due)
    have order : TestCase.ordered file.cases = cases := ordered_cases
    rw [order] at results
    exact ⟨d, stored, results⟩

end Echo

end Grader

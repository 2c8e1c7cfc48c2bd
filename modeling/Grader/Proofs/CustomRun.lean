import Grader.Proofs.CallLog
import Grader.Proofs.Refusal

/-! Custom runs next to the grading of submissions. What a run gives the engine for the inputs of
the cases of a problem is what the grading of a submission with the same program gives it, so that a
program cannot pass in the one and fail in the other for want of a field. A request for a run that
is refused gives the engine nothing. -/
namespace Grader

namespace Api

open Handler

/-- The problem that a run names is there; a run that names none has none. -/
def NewRun.Finds (new : NewRun) (site : Site) : Option Problem → Prop
  | none => new.problemId = none
  | some p => ∃ id, new.problemId = some id ∧ DocumentStore.problem? id site.store = .ok (some p)

/-- What the body of a request for a run asks for, all of it in order. -/
structure Request.Asks (r : Request) (site : Site) (new : NewRun) (language : Language)
    (problem : Option Problem) : Prop where
  typed : r.hasJsonType = true
  sized : r.body.utf8ByteSize ≤ bodyLimit
  decoded : NewRun.fields.decode.ofHead r.body = .ok new
  known : Language.ofText? new.language = some language
  inked : Text.isAllBlank new.code = false
  short : new.code.utf8ByteSize ≤ codeLimit
  few : new.allInputs.length ≤ inputLimit
  found : new.Finds site problem

/-- A request for a run that is let in, and whose body is in order. -/
structure Request.Runs (r : Request) (site : Site) (usage : Usage) (new : NewRun)
    (language : Language) (problem : Option Problem) : Prop where
  method : r.method = "POST"
  admitted : ∃ caller after, Caller.ofRequest r = .ok caller ∧
    (gate caller .codeExecution).run site = (.ok usage, after)
  asks : r.Asks site new language problem

/-- The units of a run. -/
def NewRun.units (config : Config) (new : NewRun) (language : Language)
    (problem : Option Problem) : List ExecutionUnit :=
  new.allInputs.map fun input =>
    ⟨language, new.code, input, problem.bind (·.functionName),
      problem.bind (·.parsers.get language),
      config.effectiveTimeLimit ((problem.map (·.timeLimitMs)).getD 0)⟩

namespace Handler

theorem run_bind_eq_ok_iff {h : Handler α} {f : α → Handler β} {site after : Site} {b : β} :
    (h >>= f).run site = (.ok b, after) ↔
      ∃ a mid, h.run site = (.ok a, mid) ∧ (f a).run mid = (.ok b, after) := by
  constructor
  · intro ran
    rcases run_bind h f site with ⟨e, mid, _, bound⟩ | ⟨a, mid, first, bound⟩
    · cases (Prod.mk.inj (bound.symm.trans ran)).1
    · exact ⟨a, mid, first, bound.symm.trans ran⟩
  · rintro ⟨a, mid, first, next⟩
    exact (run_bind_ok first f).trans next

@[simp] theorem run_pure_eq_ok_iff {a b : α} {site after : Site} :
    (pure a : Handler α).run site = (.ok b, after) ↔ a = b ∧ site = after := by
  have ran : (pure a : Handler α).run site = (.ok a, site) := rfl
  simp [ran]

@[simp] theorem run_throw_ne_ok {f : Failure} {a : α} {site after : Site} :
    (throw f : Handler α).run site ≠ (.ok a, after) := nofun

theorem run_body_eq_ok_iff {r : Request} {d : Json.Decoder α} {a : α} {site after : Site} :
    (body r d).run site = (.ok a, after) ↔
      (r.hasJsonType = true ∧ r.body.utf8ByteSize ≤ bodyLimit ∧ d.ofHead r.body = .ok a) ∧
        site = after := by
  unfold body
  split
  · simp_all
  · split
    · simp_all
    · cases d.ofHead r.body with
      | ok b => simp_all
      | error e => cases e <;> simp

theorem run_fromStore_eq_ok_iff {read : Except StoreError α} {a : α} {site after : Site} :
    (fromStore read).run site = (.ok a, after) ↔ read = .ok a ∧ site = after := by
  cases read <;> simp [fromStore]

end Handler

theorem run_readLanguage_eq_ok_iff {text : String} {l : Language} {site after : Site} :
    (readLanguage text).run site = (.ok l, after) ↔
      Language.ofText? text = some l ∧ site = after := by
  unfold readLanguage
  split <;> simp_all

theorem run_checkCode_eq_ok_iff {code : String} {u : Unit} {site after : Site} :
    (checkCode code).run site = (.ok u, after) ↔
      (Text.isAllBlank code = false ∧ code.utf8ByteSize ≤ codeLimit) ∧ site = after := by
  unfold checkCode
  split
  · simp_all
  · split <;> simp_all

theorem run_findProblem_eq_ok_iff {new : NewRun} {problem : Option Problem} {site after : Site} :
    (findProblem new.problemId).run site = (.ok problem, after) ↔
      new.Finds site problem ∧ site = after := by
  unfold findProblem
  cases named : new.problemId with
  | none => cases problem <;> simp [NewRun.Finds, named]
  | some id =>
    simp only [run_get_bind, run_bind_eq_ok_iff, run_fromStore_eq_ok_iff]
    constructor
    · rintro ⟨p?, _, ⟨read, rfl⟩, ran⟩
      cases p? with
      | none => exact absurd ran run_throw_ne_ok
      | some p =>
        obtain ⟨rfl, rfl⟩ := run_pure_eq_ok_iff.mp ran
        exact ⟨⟨id, named, read⟩, rfl⟩
    · rintro ⟨found, rfl⟩
      cases problem with
      | none => cases named.symm.trans found
      | some p =>
        obtain ⟨other, same, read⟩ := found
        obtain rfl := Option.some.inj (named.symm.trans same)
        exact ⟨some p, site, ⟨read, rfl⟩, rfl⟩

/-- A run is read exactly where the body is in order, and its units are those that it asks for. -/
theorem run_readRun_eq_ok_iff {config : Config} {r : Request} {units : List ExecutionUnit}
    {site after : Site} :
    (readRun config r).run site = (.ok units, after) ↔
      (∃ new language problem, r.Asks site new language problem ∧
        units = new.units config language problem) ∧ site = after := by
  unfold readRun
  simp only [run_bind_eq_ok_iff, run_body_eq_ok_iff, run_readLanguage_eq_ok_iff,
    run_checkCode_eq_ok_iff]
  constructor
  · rintro ⟨new, _, ⟨⟨typed, sized, decoded⟩, rfl⟩, language, _, ⟨known, rfl⟩, _, _,
      ⟨⟨inked, short⟩, rfl⟩, ran⟩
    split at ran
    · exact absurd ran run_throw_ne_ok
    · rename_i few
      obtain ⟨problem, _, searched, ran⟩ := run_bind_eq_ok_iff.mp ran
      obtain ⟨found, rfl⟩ := run_findProblem_eq_ok_iff.mp searched
      obtain ⟨rfl, rfl⟩ := run_pure_eq_ok_iff.mp ran
      exact ⟨⟨new, language, problem,
        ⟨typed, sized, decoded, known, inked, short, Nat.not_lt.mp few, found⟩, rfl⟩, rfl⟩
  · rintro ⟨⟨new, language, problem, asks, rfl⟩, rfl⟩
    refine ⟨new, site, ⟨⟨asks.typed, asks.sized, asks.decoded⟩, rfl⟩, language, site,
      ⟨asks.known, rfl⟩, (), site, ⟨⟨asks.inked, asks.short⟩, rfl⟩, ?_⟩
    rw [if_neg (Nat.not_lt.mpr asks.few), run_bind_eq_ok_iff]
    exact ⟨problem, site, run_findProblem_eq_ok_iff.mpr ⟨asks.found, rfl⟩,
      run_pure_eq_ok_iff.mpr ⟨rfl, rfl⟩⟩

theorem NewRun.finds_recounted {site after : Site} (recounted : site.Recounted after)
    (new : NewRun) (problem : Option Problem) : new.Finds after problem ↔ new.Finds site problem := by
  obtain ⟨_, _, _, rfl⟩ := recounted
  cases problem <;> exact Iff.rfl

/-- The counts of requests have no part in what is asked for. -/
theorem Request.asks_recounted {site after : Site} (recounted : site.Recounted after) {r : Request}
    {new : NewRun} {language : Language} {problem : Option Problem} :
    r.Asks after new language problem ↔ r.Asks site new language problem := by
  have found := new.finds_recounted recounted problem
  exact ⟨fun asks => { asks with found := found.mp asks.found },
    fun asks => { asks with found := found.mpr asks.found }⟩

section

variable (config : Config) (fresh : Uuid) {r : Request} {site : Site} {usage : Usage}
  {new : NewRun} {language : Language} {problem : Option Problem}

theorem begin_of_asks (asks : r.Asks site new language problem) (usage : Usage) :
    (begin config r usage).run site =
      (.ok (.run (new.units config language problem) usage), site) := by
  have read : (readRun config r).run site = (.ok (new.units config language problem), site) :=
    run_readRun_eq_ok_iff.mpr ⟨⟨new, language, problem, asks, rfl⟩, rfl⟩
  unfold begin
  rw [run_tryCatch, run_bind_ok read]
  rfl

theorem begin_of_not_asks (none : ∀ new language problem, ¬r.Asks site new language problem)
    (usage : Usage) :
    ∃ f : Failure, f.OfContent ∧
      (begin config r usage).run site = (.ok (.reply (f.response.withUsage usage)), site) := by
  rcases readRun_ends config r site with ⟨units, after, ran, -⟩ | ⟨f, after, ran, content⟩
  · obtain ⟨⟨new, language, problem, asks, -⟩, rfl⟩ := run_readRun_eq_ok_iff.mp ran
    exact absurd asks (none new language problem)
  · have same : ((readRun config r).run site).2 = site := readRun_within still_chained config r site
    rw [ran] at same
    obtain rfl : after = site := same
    unfold begin
    rw [run_tryCatch, run_bind_error ran]
    exact ⟨f, content, rfl⟩

theorem answer_recounted (routes : Route.ofSegments? r.segments = some .execute) (site : Site) :
    site.Recounted (StateT.run (answer config fresh r) site).2 := by
  have within : site.Recounted ((answerRoute config fresh r .execute).run site).2 :=
    answerRoute_within recounted_counts config fresh r (by decide) (fun _ => by simp) site
  rw [answer_run routes]
  generalize (answerRoute config fresh r .execute).run site = ran at within
  obtain ⟨result, after⟩ := ran
  cases result <;> exact within

/-- A request for a run that is in order is answered by running its units. -/
theorem answer_of_runs (routes : Route.ofSegments? r.segments = some .execute)
    (runs : r.Runs site usage new language problem) :
    (StateT.run (answer config fresh r) site).1 = .run (new.units config language problem) usage := by
  obtain ⟨caller, after, identified, passed⟩ := runs.admitted
  have paid : site.Recounted ((gate caller .codeExecution).run site).2 :=
    gate_within recounted_counts caller .codeExecution site
  rw [passed] at paid
  have taken : Route.execute.takes r.method = true := by rw [runs.method]; decide
  have began := begin_of_asks config ((r.asks_recounted paid).mpr runs.asks) usage
  have ran : (answerRoute config fresh r .execute).run site =
      (.ok (.run (new.units config language problem) usage), after) := by
    unfold answerRoute
    simp only [Route.gate?]
    rw [run_bind_ok (run_caller identified site), run_bind_ok passed, if_pos ⟨trivial, taken⟩, began]
  rw [answer_run routes, ran]
  rfl

/-- Any other is replied to, with a failure. -/
theorem answer_of_not_runs (routes : Route.ofSegments? r.segments = some .execute)
    (none : ∀ usage new language problem, ¬r.Runs site usage new language problem) :
    ∃ response, (StateT.run (answer config fresh r) site).1 = .reply response ∧
      400 ≤ response.status := by
  have failing {f : Failure} (early : f.IsEarly) : 400 ≤ f.status := by
    have listed : ∀ n ∈ [400, 401, 403, 404, 413, 415, 422, 429, 500], 400 ≤ n := by decide
    exact listed f.status early
  have stopped {f : Failure} (early : f.IsEarly) {after : Site}
      (failed : (answerRoute config fresh r .execute).run site = (.error f, after)) :
      ∃ response, (StateT.run (answer config fresh r) site).1 = .reply response ∧
        400 ≤ response.status := by
    rw [answer_run routes, failed]
    exact ⟨_, rfl, by rw [status_headOnly, Failure.response_status]; exact failing early⟩
  have replied {response : Response} (status : 400 ≤ response.status) (after : Site)
      (ran : (answerRoute config fresh r .execute).run site = (.ok (.reply response), after)) :
      ∃ response, (StateT.run (answer config fresh r) site).1 = .reply response ∧
        400 ≤ response.status := by
    rw [answer_run routes, ran]
    exact ⟨response, rfl, status⟩
  unfold answerRoute at stopped replied
  simp only [Route.gate?] at stopped replied
  rcases Still.run_bind (caller_within still_chained r) (caller_ends r) _ site with
    ⟨f, early, failed⟩ | ⟨caller, identified, next⟩
  · exact stopped early failed
  rcases gate_ends caller .codeExecution site with ⟨usage, paid, passed, -⟩ | ⟨f, after, passed, early⟩
  · have recounted : site.Recounted ((gate caller .codeExecution).run site).2 :=
      gate_within recounted_counts caller .codeExecution site
    rw [passed] at recounted
    by_cases taken : Route.execute.takes r.method = true
    · have method : r.method = "POST" := by
        rw [Route.takes, show Route.execute.takesHead r.method = false from rfl, Bool.or_false,
          decide_eq_true_eq] at taken
        exact taken.symm
      have unasked (new : NewRun) (language : Language) (problem : Option Problem) :
          ¬r.Asks paid new language problem := fun asks =>
        none usage new language problem ⟨method, ⟨caller, paid, run_caller_ok identified, passed⟩,
          (r.asks_recounted recounted).mp asks⟩
      obtain ⟨f, content, barred⟩ := begin_of_not_asks config unasked usage
      have status : 400 ≤ (f.response.withUsage usage).status :=
        f.response_status.symm ▸ failing content.early
      refine replied status paid (next.trans ?_)
      rw [run_bind_ok passed, if_pos ⟨trivial, taken⟩, barred]
    · have status : 400 ≤ (methodNotAllowed.withUsage usage).status := (by decide : 400 ≤ 405)
      refine replied status paid (next.trans ?_)
      rw [run_bind_ok passed, if_neg fun both => taken both.2, run_told_bind,
        show routed fresh r .execute = pure methodNotAllowed from if_neg taken]
      rfl
  · exact stopped early (next.trans (run_bind_error passed _))

end

/-- A server gives the engine the units of a run on its way from one state to another: in their
order, among the calls of its workers, and all of them unless the engine crashes. A server at rest
calls nothing else. -/
structure Dispatches (setup : Setup) (units : List ExecutionUnit) (r after : Running) : Prop where
  grows : ∃ own, own <+: units ∧ (setup.engine.NeverCrashes → own = units) ∧
    GrowsBy own r.site.calls after.site.calls
  alone : r.Rests → after.site.calls = r.site.calls ++ setup.engine.takes r.site.calls units

theorem runUnits_dispatches (setup : Setup) (units : List ExecutionUnit) (r : Running) :
    Dispatches setup units r (runUnits setup units r).2 where
  grows := by
    obtain ⟨own, part, whole, grows⟩ := runUnits_grows setup units r
    exact ⟨own, part, fun calm => whole (runUnits_isSome calm units r), grows⟩
  alone rests := calls_runUnits_of_rests setup rests units

section

variable (setup : Setup) (fresh : Uuid) {request : Request} {r : Running} {usage : Usage}
  {new : NewRun} {language : Language} {problem : Option Problem}

theorem respond_of_runs (routes : Route.ofSegments? request.segments = some .execute)
    (runs : request.Runs r.site usage new language problem) :
    Dispatches setup (new.units setup.config language problem) r (respond setup fresh request r).2 ∧
      (setup.engine.NeverCrashes → (respond setup fresh request r).1.status = 200) := by
  have answers := answer_of_runs setup.config fresh routes runs
  have recounted := answer_recounted setup.config fresh routes r.site
  unfold respond
  generalize StateT.run (answer setup.config fresh request) r.site = ran at answers recounted
  obtain ⟨a, after⟩ := ran
  obtain rfl : a = _ := answers
  obtain ⟨records, limited, guests, rfl⟩ := recounted
  -- The counts of requests hide neither the log nor the workers.
  let counted := r.withSite { r.site with
    store := { r.site.store with records }, metrics := { r.site.metrics with limited }, guests }
  have sent := runUnits_dispatches setup (new.units setup.config language problem) counted
  have told (calm : setup.engine.NeverCrashes) :=
    runUnits_isSome calm (new.units setup.config language problem) counted
  simp only
  generalize runUnits setup (new.units setup.config language problem) _ = ran at sent told
  obtain ⟨results, after⟩ := ran
  have dispatched : Dispatches setup (new.units setup.config language problem) r after :=
    ⟨sent.grows, fun rests => sent.alone ⟨rests.channel, rests.ready, rests.timers⟩⟩
  cases results with
  | some results => exact ⟨dispatched, fun _ => rfl⟩
  | none => exact ⟨dispatched, fun calm => absurd (told calm) nofun⟩

theorem respond_of_not_runs (routes : Route.ofSegments? request.segments = some .execute)
    (none : ∀ usage new language problem, ¬request.Runs r.site usage new language problem) :
    400 ≤ (respond setup fresh request r).1.status ∧
      (respond setup fresh request r).2.site.calls = r.site.calls := by
  obtain ⟨response, answers, failed⟩ :=
    answer_of_not_runs setup.config fresh routes none
  have recounted := answer_recounted setup.config fresh routes r.site
  unfold respond
  generalize StateT.run (answer setup.config fresh request) r.site = ran at answers recounted
  obtain ⟨a, after⟩ := ran
  obtain rfl : a = .reply response := answers
  obtain ⟨_, _, _, rfl⟩ := recounted
  exact ⟨failed, rfl⟩

end

/-- A submission has the program that a run is asked for, and cases have the inputs. -/
structure NewRun.Mirrors (new : NewRun) (language : Language) (s : Submission)
    (cases : List TestCase) : Prop where
  language : s.language = language
  code : s.code = new.code
  inputs : new.inputs = (TestCase.ordered cases).map (·.input)

/-- The unit of a run and that of the grading of a submission agree in every field. -/
theorem NewRun.Mirrors.units {new : NewRun} {language : Language} {s : Submission}
    {cases : List TestCase} (mirrors : new.Mirrors language s cases) (some : cases ≠ [])
    (setup : Setup) (p : Problem) :
    (setup.planFor s p cases).units (TestCase.ordered cases) =
      new.units setup.config language (.some p) := by
  have listed : new.allInputs = (TestCase.ordered cases).map (·.input) := by
    have nonempty := (TestCase.ordered_ne_nil_iff cases).mpr some
    rw [allInputs, mirrors.inputs, if_neg (by simpa using nonempty)]
  rw [NewRun.units, listed, List.map_map, ← mirrors.language, ← mirrors.code]
  rfl

/-- A run of the inputs of cases gives the engine the units that the grading of a submission of the
same program on those cases gives it, unless the budget of the submission is used up before. This
goes for all problems whose memory limit is a number of kilobytes in 64 bits; for any other a
submission breaks down before its first call, and a run does not. A request for a run that is
refused gives the engine nothing. -/
theorem run_dispatches_like_grading (setup : Setup) (fresh : Uuid) {request : Request}
    (routes : Route.ofSegments? request.segments = some .execute) (r : Running) :
    (∀ usage new language problem, request.Runs r.site usage new language problem →
      let units := new.units setup.config language problem
      Dispatches setup units r (respond setup fresh request r).2 ∧
      (setup.engine.NeverCrashes → (respond setup fresh request r).1.status = 200) ∧
      ∀ p (site : Site) id s cases, problem = some p → site.Starts id s p cases →
        new.Mirrors language s cases →
        (p.Fits → (setup.planFor s p cases).Reaches setup.engine site.calls
            (TestCase.ordered cases) (TestCase.ordered cases).length →
          (site.process setup id).1.calls =
            site.calls ++ setup.engine.takes site.calls units) ∧
        (¬p.Fits → (site.process setup id).1.calls = site.calls)) ∧
    ((∀ usage new language problem, ¬request.Runs r.site usage new language problem) →
      400 ≤ (respond setup fresh request r).1.status ∧
        (respond setup fresh request r).2.site.calls = r.site.calls) := by
  refine ⟨fun usage new language problem runs => ?_, respond_of_not_runs setup fresh routes⟩
  obtain ⟨dispatched, status⟩ := respond_of_runs setup fresh routes runs
  refine ⟨dispatched, status, ?_⟩
  rintro p site id s cases rfl starts mirrors
  constructor
  · intro fits lasts
    rw [Site.calls_process_of_reaches starts fits lasts, List.take_length,
      mirrors.units starts.context.nonempty]
  · exact Site.calls_process_of_not_fits starts

end Api

namespace Tried

open Api

/-- The problem that asks for an echo, with a memory limit. -/
def problem (limitMb : UInt64) : Problem := { Echo.problem with memoryLimitMb := limitMb }

def site (limitMb : UInt64) : Site :=
  .start Echo.setup.config
    (.ofDocuments [Echo.submission] [problem limitMb] [("echo", Echo.cases)] []) default

def request : Request :=
  ⟨"POST", "/execute", [("x-user-id", "ada"), ("content-type", "application/json")],
    "\x7b\"language\": \"py\", \"code\": \"print(input())\", \"problem_id\": \"echo\", " ++
      "\"test_cases\": [\"1\", \"2\\r\\n\"]\x7d", none⟩

/-- The same without a word on what the body is. -/
def untyped : Request := { request with headers := [("x-user-id", "ada")] }

def new : NewRun := ⟨"py", "print(input())", some "echo", ["1", "2\r\n"], ""⟩

theorem decoded : NewRun.fields.decode.ofHead request.body = .ok new := by
  have read : (NewRun.fields.decode.ofHead request.body).toOption = some new := by decide +kernel
  cases decoded : NewRun.fields.decode.ofHead request.body with
  | ok r =>
    rw [decoded] at read
    exact congrArg Except.ok (Option.some.inj read)
  | error e =>
    rw [decoded] at read
    contradiction

theorem runs (limitMb : UInt64) :
    ∃ usage, request.Runs (site limitMb) usage new .python (some (problem limitMb)) := by
  have identified : Caller.ofRequest request = .ok ⟨"ada", "ada", false⟩ :=
    Caller.ofRequest_eq_ok (by decide +kernel)
  have passed : ∃ usage after, (Handler.gate ⟨"ada", "ada", false⟩ .codeExecution).run
      (site limitMb) = (.ok usage, after) := ⟨_, _, rfl⟩
  obtain ⟨usage, after, passed⟩ := passed
  exact ⟨usage, rfl, ⟨_, after, identified, passed⟩, by decide +kernel, by decide +kernel, decoded,
    by decide +kernel, by decide +kernel, by decide +kernel, by decide, ⟨"echo", rfl, rfl⟩⟩

theorem starts (limitMb : UInt64) :
    (site limitMb).Starts (.ofNat 7) Echo.submission (problem limitMb) Echo.cases :=
  ⟨⟨rfl, rfl⟩, ⟨rfl, rfl, by decide⟩, rfl⟩

theorem mirrors : new.Mirrors .python Echo.submission Echo.cases :=
  ⟨rfl, rfl, by rw [Echo.ordered_cases]; rfl⟩

theorem rests (limitMb : UInt64) : (Running.start (site limitMb) 1).Rests := ⟨rfl, rfl, rfl⟩

theorem lasts :
    (Echo.setup.planFor Echo.submission (problem 1) Echo.cases).Reaches Echo.setup.engine
      (site 1).calls (TestCase.ordered Echo.cases) (TestCase.ordered Echo.cases).length := by
  rw [Echo.ordered_cases]
  exact ⟨by decide, by decide, by decide⟩

theorem calm : Echo.setup.engine.NeverCrashes := fun _ _ => nofun

/-- What the engine is given for the two inputs. -/
def units : List ExecutionUnit :=
  [⟨.python, "print(input())", "1", none, none, 1000⟩,
    ⟨.python, "print(input())", "2\r\n", none, none, 1000⟩]

theorem run_routes : Route.ofSegments? request.segments = some .execute := by
  rw [Request.segments, Target.segments_eq]
  decide

theorem untyped_routes : Route.ofSegments? untyped.segments = some .execute := run_routes

/-- The memory limit of the second problem is beyond 64 bits, and the last request is refused. -/
theorem run_dispatches_like_grading_echo :
    (respond Echo.setup (.ofNat 8) request (.start (site 1) 1)).1.status = 200 ∧
      (respond Echo.setup (.ofNat 8) request (.start (site 1) 1)).2.site.calls = units ∧
      ((site 1).process Echo.setup (.ofNat 7)).1.calls = units ∧
      (respond Echo.setup (.ofNat 8) request (.start (site 18014398509481984) 1)).2.site.calls =
        units ∧
      ((site 18014398509481984).process Echo.setup (.ofNat 7)).1.calls = [] ∧
      400 ≤ (respond Echo.setup (.ofNat 8) untyped (.start (site 1) 1)).1.status ∧
      (respond Echo.setup (.ofNat 8) untyped (.start (site 1) 1)).2.site.calls = [] := by
  have statement (limitMb : UInt64) := run_dispatches_like_grading Echo.setup (.ofNat 8) run_routes
    (.start (site limitMb) 1)
  have taken : Echo.setup.engine.takes [] units = units := Engine.takes_of_calm calm [] units
  have logged {limitMb : UInt64} {after : Running}
      (dispatched : Dispatches Echo.setup units (.start (site limitMb) 1) after) :
      after.site.calls = units := (dispatched.alone (rests limitMb)).trans taken
  obtain ⟨_, first⟩ := runs 1
  obtain ⟨sent, status, graded⟩ := (statement 1).1 _ _ _ _ first
  obtain ⟨_, second⟩ := runs 18014398509481984
  obtain ⟨sent', _, graded'⟩ := (statement 18014398509481984).1 _ _ _ _ second
  have fits : (problem 1).Fits := by unfold Problem.Fits; decide
  have beyond : ¬(problem 18014398509481984).Fits := by unfold Problem.Fits; decide
  have same := (graded _ _ _ _ _ rfl (starts 1) mirrors).1 fits lasts
  have nothing := (graded' _ _ _ _ _ rfl (starts 18014398509481984) mirrors).2 beyond
  have barred (usage new language problem) :
      ¬untyped.Runs (site 1) usage new language problem := by
    intro order
    exact absurd order.asks.typed (by decide +kernel)
  obtain ⟨failed, none⟩ := (run_dispatches_like_grading Echo.setup (.ofNat 8) untyped_routes
    (.start (site 1) 1)).2 barred
  exact ⟨status calm, logged sent, same.trans taken, logged sent', nothing, failed, none⟩

end Tried

end Grader

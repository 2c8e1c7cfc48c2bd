import Grader.Proofs.Answer
import Grader.Proofs.PoolDetail
import Grader.Proofs.Segments

/-! What callers are told of failures on our side: that there was one, and no detail. -/
namespace Grader

/-- Two runs look the same at their ends: the results with what is told of errors, and the states as
far as they are in view. -/
structure EndsAlike (view : σ → ρ) (told : ε → τ) (p q : Except ε α × σ) : Prop where
  result : p.1.mapError told = q.1.mapError told
  state : view p.2 = view q.2

theorem EndsAlike.cases {view : σ → ρ} {told : ε → τ} {p q : Except ε α × σ}
    (ends : EndsAlike view told p q) :
    (∃ d e, p.1 = .error d ∧ q.1 = .error e ∧ told d = told e) ∨ ∃ a, p.1 = .ok a ∧ q.1 = .ok a :=
  Except.mapError_eq_mapError_cases ends.result

/-- From states that look the same two computations come to ends that do. -/
def Alike (view : σ → ρ) (told : ε → τ) (h k : ExceptT ε (StateM σ) α) : Prop :=
  ∀ s t, view s = view t →
    EndsAlike view told (StateT.run (ExceptT.run h) s) (StateT.run (ExceptT.run k) t)

namespace Alike

variable {view : σ → ρ} {told : ε → τ}

theorem pure (a : α) : Alike view told (Pure.pure a) (Pure.pure a) := fun _ _ same => ⟨rfl, same⟩

theorem throw {e f : ε} (same : told e = told f) :
    Alike view told (MonadExcept.throw e : ExceptT ε (StateM σ) α) (MonadExcept.throw f) :=
  fun _ _ states => ⟨congrArg Except.error same, states⟩

theorem bind_of_ok {h k : ExceptT ε (StateM σ) α} {f g : α → ExceptT ε (StateM σ) β}
    (first : Alike view told h k)
    (next : ∀ a s, (StateT.run (ExceptT.run h) s).1 = .ok a → Alike view told (f a) (g a)) :
    Alike view told (h >>= f) (k >>= g) := by
  intro s t states
  have step := first s t states
  show EndsAlike view told
    (StateT.run (ExceptT.bindCont f (StateT.run (ExceptT.run h) s).1)
      (StateT.run (ExceptT.run h) s).2)
    (StateT.run (ExceptT.bindCont g (StateT.run (ExceptT.run k) t).1)
      (StateT.run (ExceptT.run k) t).2)
  rcases step.cases with ⟨d, e, first, second, same⟩ | ⟨a, first, second⟩
  · rw [first, second]
    exact ⟨congrArg Except.error same, step.state⟩
  · rw [first, second]
    exact next a s first _ _ step.state

theorem bind {h k : ExceptT ε (StateM σ) α} {f g : α → ExceptT ε (StateM σ) β}
    (first : Alike view told h k) (next : ∀ a, Alike view told (f a) (g a)) :
    Alike view told (h >>= f) (k >>= g) := bind_of_ok first fun a _ _ => next a

theorem tryCatch {h k : ExceptT ε (StateM σ) α} {f g : ε → ExceptT ε (StateM σ) α}
    (first : Alike view told h k)
    (caught : ∀ e e', told e = told e' → Alike view told (f e) (g e')) :
    Alike view told (MonadExcept.tryCatch h f) (MonadExcept.tryCatch k g) := by
  intro s t states
  have step := first s t states
  show EndsAlike view told
    (StateT.run (match (StateT.run (ExceptT.run h) s).1 with
      | .ok a => Pure.pure (.ok a)
      | .error e => ExceptT.run (f e)) (StateT.run (ExceptT.run h) s).2)
    (StateT.run (match (StateT.run (ExceptT.run k) t).1 with
      | .ok a => Pure.pure (.ok a)
      | .error e => ExceptT.run (g e)) (StateT.run (ExceptT.run k) t).2)
  rcases step.cases with ⟨d, e, first, second, same⟩ | ⟨a, first, second⟩
  · rw [first, second]
    exact caught d e same _ _ step.state
  · rw [first, second]
    exact ⟨rfl, step.state⟩

/-- What is read from states that look the same may differ. -/
theorem get_bind {f g : σ → ExceptT ε (StateM σ) α}
    (next : ∀ s t, view s = view t →
      EndsAlike view told (StateT.run (ExceptT.run (f s)) s) (StateT.run (ExceptT.run (g t)) t)) :
    Alike view told (MonadState.get >>= f) (MonadState.get >>= g) := next

end Alike

namespace Limiter

/-- A call does not depend on the detail of failures. -/
abbrev Blind (call : Call MemoryStore α) : Prop := Alike MemoryStore.withoutDetail id call call

theorem find_blind (userId : String) : Blind (find userId) := by
  refine Alike.get_bind fun s t same => ?_
  have apart (s : MemoryStore) :
      RecordStore.record? userId s.withoutDetail = RecordStore.record? userId s := rfl
  rw [← apart s, same, apart]
  cases RecordStore.record? userId t with
  | ok r => exact Alike.pure r s t same
  | error e => exact Alike.throw rfl s t same

theorem save_blind (r : QuotaRecord) : Blind (save r) := by
  refine Alike.get_bind fun s t same => ?_
  have apart (s : MemoryStore) : RecordStore.saveRecord r s.withoutDetail =
      (RecordStore.saveRecord r s).map MemoryStore.withoutDetail := by
    show MemoryStore.answer s .saveRecord _ = _
    simp only [RecordStore.saveRecord, MemoryStore.answer]
    cases s.fault? .saveRecord <;> rfl
  have saved := apart s
  rw [same, apart, eq_comm] at saved
  rcases Except.map_eq_map_cases saved with ⟨e, first, second⟩ | ⟨x, y, first, second, after⟩
  · rw [first, second]
    exact Alike.throw rfl s t same
  · rw [first, second]
    exact ⟨rfl, after⟩

theorem load_blind (subject : Subject) (now : Instant) : Blind (load subject now) := by
  refine Alike.bind (find_blind _) fun found => ?_
  cases found with
  | some r => exact Alike.pure r
  | none => exact Alike.bind (save_blind _) fun _ => Alike.pure _

theorem check_blind (subject : Subject) (service : Service) (now : Instant) :
    Blind (check subject service now) := by
  refine Alike.bind (load_blind _ _) fun r => ?_
  split
  · exact Alike.throw rfl
  · simp only
    split
    · exact Alike.bind (save_blind _) fun _ => Alike.pure _
    · exact Alike.pure _

end Limiter

namespace Api

/-- A handler that answers the same, and leaves the same, whatever the detail of failures is. -/
abbrev Blind (h : Handler α) : Prop := Alike Site.withoutDetail Failure.response h h

namespace Handler

theorem caller_blind (r : Request) : Blind (caller r) := by
  unfold caller
  cases Caller.ofRequest r with
  | ok c => exact Alike.pure c
  | error f => exact Alike.throw rfl

theorem segment_blind (raw : String) : Blind (segment raw) := by
  unfold segment
  split
  · exact Alike.pure _
  · exact Alike.throw rfl

theorem body_blind (r : Request) (d : Json.Decoder α) : Blind (body r d) := by
  unfold body
  repeat' split
  all_goals first
    | exact Alike.pure _
    | exact Alike.throw rfl

theorem fromLimiter_blind {call : Limiter.Call MemoryStore α} (blind : Limiter.Blind call) :
    Blind (fromLimiter call) := by
  refine Alike.get_bind fun x y same => ?_
  have step := blind x.store y.store (congrArg Site.store same)
  generalize StateT.run (ExceptT.run call) x.store = p at step
  generalize StateT.run (ExceptT.run call) y.store = q at step
  have after := Site.withStore_alike same step.state
  obtain ⟨result, store⟩ := p
  obtain ⟨result', store'⟩ := q
  rcases step.cases with ⟨d, e, rfl, rfl, told⟩ | ⟨a, rfl, rfl⟩
  · obtain rfl : d = e := told
    exact Alike.throw rfl _ _ after
  · exact Alike.pure a _ _ after

theorem gate_blind (caller : Caller) (service : Service) : Blind (gate caller service) := by
  refine Alike.get_bind fun x y same => ?_
  have now : x.now = y.now := (congrArg Site.now same :)
  rw [now]
  refine Alike.bind (fromLimiter_blind (Limiter.check_blind _ _ _)) (fun decision => ?_) x y same
  split
  · exact Alike.pure _
  · exact fun s t same => ⟨rfl, same⟩

end Handler

theorem readLanguage_blind (text : String) : Blind (readLanguage text) := by
  unfold readLanguage
  split
  · exact Alike.pure _
  · exact Alike.throw rfl

theorem checkCode_blind (code : String) : Blind (checkCode code) := by
  unfold checkCode
  repeat' split
  all_goals first
    | exact Alike.pure _
    | exact Alike.throw rfl

theorem readId_blind (text : String) : Blind (readId text) := by
  unfold readId
  split
  · exact Alike.pure _
  · exact Alike.throw rfl

/-- A submission is shown without detail to whoever is no admin. -/
theorem showSubmission_blind {r : Request}
    (regular : ∀ c, Caller.ofRequest r = .ok c → c.isAdmin = false) (raw : String) :
    Blind (showSubmission r raw) := by
  refine Alike.bind_of_ok (Handler.caller_blind r) fun caller site ran => ?_
  have ran : (Handler.caller r).run site = (.ok caller, ((Handler.caller r).run site).2) :=
    Prod.ext ran rfl
  have identified := Handler.run_caller_ok ran
  refine Alike.bind (Handler.segment_blind raw) fun text => ?_
  refine Alike.bind (readId_blind text) fun id => ?_
  refine Alike.get_bind fun x y same => ?_
  have found : (DocumentStore.submission? id x.store).map (Option.map Submission.withoutDiagnostic) =
      (DocumentStore.submission? id y.store).map (Option.map Submission.withoutDiagnostic) := by
    have stores : x.store.withoutDetail = y.store.withoutDetail := congrArg Site.store same
    rw [← x.store.submission?_withoutDetail, stores, y.store.submission?_withoutDetail]
  rcases Except.map_eq_map_cases found with ⟨e, first, second⟩ | ⟨s?, t?, first, second, found⟩
  · rw [first, second]
    exact Alike.throw rfl x y same
  · rw [first, second]
    rcases Option.map_eq_map_cases found with ⟨rfl, rfl⟩ | ⟨s, t, rfl, rfl, seen⟩
    · exact Alike.throw rfl x y same
    · have owner : s.userId = t.userId := (congrArg Submission.userId seen :)
      have hidden := regular caller identified
      let shown (d : Submission) : Handler Response :=
        if d.userId ≠ caller.userId ∧ !caller.isAdmin then throw .forbidden
        else pure (.json 200 (Document.toJson (if caller.isAdmin then d else d.withoutDiagnostic)))
      show EndsAlike Site.withoutDetail Failure.response ((shown s).run x) ((shown t).run y)
      simp only [shown, owner, hidden, seen]
      split
      · exact Alike.throw rfl x y same
      · exact Alike.pure _ x y same

theorem findProblem_blind (id : Option String) : Blind (findProblem id) := by
  cases id with
  | none => exact Alike.pure _
  | some id =>
    refine Alike.get_bind fun x y same => ?_
    have found : (DocumentStore.problem? id x.store).mapError (fun _ => StoreError.server "") =
        (DocumentStore.problem? id y.store).mapError fun _ => .server "" := by
      have stores : x.store.withoutDetail = y.store.withoutDetail := congrArg Site.store same
      rw [← x.store.problem?_withoutDetail, stores, y.store.problem?_withoutDetail]
    rcases Except.mapError_eq_mapError_cases found with ⟨d, e, first, second, _⟩ | ⟨p?, first, second⟩
    · rw [first, second]
      exact Alike.throw (e := Failure.ofStore d) (f := Failure.ofStore e) rfl x y same
    · rw [first, second]
      cases p? with
      | none => exact Alike.throw rfl x y same
      | some p => exact Alike.pure _ x y same

theorem readRun_blind (config : Config) (r : Request) : Blind (readRun config r) := by
  refine Alike.bind (Handler.body_blind r _) fun new => ?_
  refine Alike.bind (readLanguage_blind _) fun language => ?_
  refine Alike.bind (checkCode_blind _) fun _ => ?_
  simp only
  split
  · exact Alike.throw rfl
  · exact Alike.bind (findProblem_blind _) fun problem => Alike.pure _

theorem begin_blind (config : Config) (r : Request) (usage : Usage) :
    Blind (begin config r usage) := by
  refine Alike.tryCatch ?_ fun e f same => ?_
  · exact Alike.bind (readRun_blind config r) fun units => Alike.pure _
  · rw [same]
    exact Alike.pure _

theorem answerRoute_submission_blind (config : Config) (fresh : Uuid) {r : Request}
    (regular : ∀ c, Caller.ofRequest r = .ok c → c.isAdmin = false) (raw : String) :
    Blind (answerRoute config fresh r (.submission raw)) := by
  have routed : Blind (routed fresh r (.submission raw)) := by
    unfold routed
    split
    · exact showSubmission_blind regular raw
    · exact Alike.pure _
  exact Alike.bind routed fun response => Alike.pure _

theorem answerRoute_execute_blind (config : Config) (fresh : Uuid) (r : Request) :
    Blind (answerRoute config fresh r .execute) := by
  refine Alike.bind (Handler.caller_blind r) fun caller => ?_
  refine Alike.bind (Handler.gate_blind caller .codeExecution) fun usage => ?_
  have routed : Blind (routed fresh r .execute) := by
    unfold routed
    split <;> exact Alike.pure _
  split
  · exact begin_blind config r usage
  · refine Alike.bind (Alike.tryCatch routed fun e f same => ?_) fun response => Alike.pure _
    rw [same]
    exact Alike.pure _

theorem answer_alike {config : Config} {fresh : Uuid} {r : Request} {route : Route}
    (routes : Route.ofSegments? r.segments = some route)
    (blind : Blind (answerRoute config fresh r route)) {x y : Site}
    (sites : x.withoutDetail = y.withoutDetail) :
    (StateT.run (answer config fresh r) x).1 = (StateT.run (answer config fresh r) y).1 ∧
      (StateT.run (answer config fresh r) x).2.withoutDetail =
        (StateT.run (answer config fresh r) y).2.withoutDetail := by
  rw [answer_run routes, answer_run routes]
  have ends := blind x y sites
  change EndsAlike _ _ ((answerRoute config fresh r route).run x)
    ((answerRoute config fresh r route).run y) at ends
  generalize (answerRoute config fresh r route).run x = p at ends
  generalize (answerRoute config fresh r route).run y = q at ends
  have states := ends.state
  obtain ⟨result, after⟩ := p
  obtain ⟨result', after'⟩ := q
  rcases ends.cases with ⟨d, e, rfl, rfl, same⟩ | ⟨a, rfl, rfl⟩
  · simp only [answered, same]
    exact ⟨trivial, states⟩
  · exact ⟨rfl, states⟩

/-- The server when the engine has answered a unit, with what the workers have done meanwhile. -/
def called (setup : Setup) (u : ExecutionUnit) (r : Running) : Running :=
  let (reply, site) := r.site.call setup.engine u
  if reply.delayMs = 0 then r.withSite site else (r.withSite site).pass setup reply.delayMs

/-- A failed call of the engine, counted. -/
def countFailure (u : ExecutionUnit) (e : EngineError) (s : Site) : Site :=
  { s with metrics := s.metrics.recordDispatchFailure u.language.name e.kind }

section Units

variable {setup : Setup} {u : ExecutionUnit} {r : Running} (us : List ExecutionUnit)

theorem runUnits_of_crashed (ended : (setup.engine r.site.calls u).result = .crashed) :
    runUnits setup (u :: us) r = (none, called setup u r) := by
  simp only [runUnits, Site.call, ended]
  rfl

theorem runUnits_of_answered {output : ExecutionOutput}
    (ended : (setup.engine r.site.calls u).result = .answered output) :
    runUnits setup (u :: us) r =
      let ran := runUnits setup us (called setup u r)
      (ran.1.map (.ofOutput output :: ·), ran.2) := by
  simp only [runUnits, Site.call, ended]
  rfl

theorem runUnits_of_failed {e : EngineError}
    (ended : (setup.engine r.site.calls u).result = .failed e) :
    runUnits setup (u :: us) r =
      let after := called setup u r
      let ran := runUnits setup us (after.withSite (countFailure u e after.site))
      (ran.1.map (.failed :: ·), ran.2) := by
  simp only [runUnits, Site.call, ended]
  rfl

end Units

section Pairs

variable {a b : Setup} (setups : a.withoutDetail = b.withoutDetail) {r q : Running}
include setups

theorem reply_alike (same : r.withoutDetail = q.withoutDetail) (u : ExecutionUnit) :
    (a.engine r.site.calls u).withoutDetail = (b.engine q.site.calls u).withoutDetail := by
  have calls : r.site.calls = q.site.calls := (congrArg Site.calls (Running.site_alike same) :)
  rw [calls]
  exact congrArg (·.engine q.site.calls u) setups

theorem called_alike (same : r.withoutDetail = q.withoutDetail) (u : ExecutionUnit) :
    (called a u r).withoutDetail = (called b u q).withoutDetail := by
  have delay : (a.engine r.site.calls u).delayMs = (b.engine q.site.calls u).delayMs :=
    (congrArg Reply.delayMs (reply_alike setups same u) :)
  have sites := congrArg (fun s : Site => { s with calls := s.calls ++ [u] })
    (Running.site_alike same)
  have given := Running.withSite_alike same (x := (r.site.call a.engine u).2)
    (y := (q.site.call b.engine u).2) sites
  by_cases prompt : (b.engine q.site.calls u).delayMs = 0
  · have first : called a u r = r.withSite (r.site.call a.engine u).2 := if_pos (delay.trans prompt)
    have second : called b u q = q.withSite (q.site.call b.engine u).2 := if_pos prompt
    rw [first, second]
    exact given
  · have first : called a u r = (r.withSite (r.site.call a.engine u).2).pass a
        (a.engine r.site.calls u).delayMs := if_neg fun none => prompt (delay.symm.trans none)
    have second : called b u q = (q.withSite (q.site.call b.engine u).2).pass b
        (b.engine q.site.calls u).delayMs := if_neg prompt
    rw [first, second, delay]
    exact Running.pass_alike setups given _

/-- The results of units are the same, those included that nobody could run. -/
theorem runUnits_alike (us : List ExecutionUnit) (same : r.withoutDetail = q.withoutDetail) :
    (runUnits a us r).1 = (runUnits b us q).1 ∧
      (runUnits a us r).2.withoutDetail = (runUnits b us q).2.withoutDetail := by
  induction us generalizing r q with
  | nil => exact ⟨rfl, same⟩
  | cons u us ih =>
    have after := called_alike setups same u
    have result : (a.engine r.site.calls u).result.withoutDetail =
        (b.engine q.site.calls u).result.withoutDetail :=
      congrArg Reply.result (reply_alike setups same u)
    have failed (e f : EngineError) := ih (Running.withSite_alike after
      (x := countFailure u e (called a u r).site) (y := countFailure u f (called b u q).site)
      (Running.site_alike after))
    rcases CallEnd.withoutDetail_cases result with same | ⟨e, f, first, second⟩
    · cases ended : (b.engine q.site.calls u).result with
      | crashed =>
        rw [runUnits_of_crashed us (same.trans ended), runUnits_of_crashed us ended]
        exact ⟨rfl, after⟩
      | answered output =>
        obtain ⟨results, states⟩ := ih after
        rw [runUnits_of_answered us (same.trans ended), runUnits_of_answered us ended]
        exact ⟨congrArg (Option.map (.ofOutput output :: ·)) results, states⟩
      | failed e =>
        obtain ⟨results, states⟩ := failed e e
        rw [runUnits_of_failed us (same.trans ended), runUnits_of_failed us ended]
        exact ⟨congrArg (Option.map (.failed :: ·)) results, states⟩
    · obtain ⟨results, states⟩ := failed e f
      rw [runUnits_of_failed us first, runUnits_of_failed us second]
      exact ⟨congrArg (Option.map (.failed :: ·)) results, states⟩

theorem respond_alike {request : Request} {route : Route} {fresh : Uuid}
    (routes : Route.ofSegments? request.segments = some route)
    (blind : ∀ config, Blind (answerRoute config fresh request route))
    (same : r.withoutDetail = q.withoutDetail) :
    (respond a fresh request r).1 = (respond b fresh request q).1 ∧
      (respond a fresh request r).2.withoutDetail = (respond b fresh request q).2.withoutDetail := by
  have config : a.config = b.config := (congrArg Setup.config setups :)
  obtain ⟨answers, sites⟩ := answer_alike routes (blind b.config) (Running.site_alike same)
  unfold respond
  rw [config]
  generalize StateT.run (answer b.config fresh request) r.site = p at answers sites
  generalize StateT.run (answer b.config fresh request) q.site = p' at answers sites
  obtain ⟨answer, x⟩ := p
  obtain ⟨answer', y⟩ := p'
  obtain rfl : answer = answer' := answers
  have after := Running.withSite_alike same sites
  cases answer with
  | reply response => exact ⟨rfl, after⟩
  | run units usage =>
    have ran := runUnits_alike setups units after
    simp only
    generalize runUnits a units (r.withSite x) = p at ran
    generalize runUnits b units (q.withSite y) = p' at ran
    obtain ⟨results, after⟩ := p
    obtain ⟨results', after'⟩ := p'
    obtain ⟨same, states⟩ := ran
    obtain rfl : results = results' := same
    cases results <;> exact ⟨rfl, states⟩

end Pairs

/-- Setups whose engines differ in the detail of failures alone, on sites that do so too: the work on
a submission ends the same, and whoever is no admin is shown the same of it. A custom run is answered
the same while the workers go on. -/
theorem detail_not_told {a b : Setup} (setups : a.withoutDetail = b.withoutDetail) :
    (∀ x y : Site, x.withoutDetail = y.withoutDetail → ∀ id,
      (x.process a id).2 = (y.process b id).2 ∧
        (x.process a id).1.withoutDetail = (y.process b id).1.withoutDetail ∧
        ∀ fresh request raw, Route.ofSegments? request.segments = some (.submission raw) →
          (∀ c, Caller.ofRequest request = .ok c → c.isAdmin = false) →
            (StateT.run (answer a.config fresh request) (x.process a id).1).1 =
              (StateT.run (answer b.config fresh request) (y.process b id).1).1) ∧
      ∀ r q : Running, r.withoutDetail = q.withoutDetail → ∀ fresh request,
        Route.ofSegments? request.segments = some .execute →
          (respond a fresh request r).1 = (respond b fresh request q).1 ∧
            (respond a fresh request r).2.withoutDetail =
              (respond b fresh request q).2.withoutDetail := by
  have config : a.config = b.config := (congrArg Setup.config setups :)
  refine ⟨fun x y sites id => ?_, fun r q same fresh request routes => ?_⟩
  · obtain ⟨after, outcome⟩ := Site.process_alike setups sites id
    refine ⟨outcome, after, fun fresh request raw routes regular => ?_⟩
    rw [config]
    exact (answer_alike routes (answerRoute_submission_blind b.config fresh regular raw) after).1
  · exact respond_alike setups routes
      (fun config => answerRoute_execute_blind config fresh request) same

end Api

namespace Unreachable

open Api

def refusing : Setup :=
  { Echo.setup with
    engine := fun _ u => ⟨5, .failed (.unavailable u.language "connection refused")⟩ }

def garbling : Setup :=
  { Echo.setup with
    engine := fun _ u => ⟨5, .failed (.malformedResponse u.language "no status")⟩ }

/-- The submitter asks for the submission. -/
def poll : Request :=
  ⟨"GET", "/submissions/00000000-0000-0000-0000-000000000007", [("x-user-id", "ada")], "", none⟩

def run : Request :=
  ⟨"POST", "/execute", [("x-user-id", "ada"), ("content-type", "application/json")],
    "\x7b\"language\": \"python\", \"code\": \"print(1)\"\x7d", none⟩

theorem poll_regular : ∀ c, Caller.ofRequest poll = .ok c → c.isAdmin = false := by
  intro c identified
  have name : "x-user-id".toLower = "x-user-id" :=
    String.toList_inj.mp (String.toList_map.trans (by decide))
  have role : poll.filledHeader? "x-user-role" = none := by
    simp [Request.filledHeader?, Request.header?, poll, name]
  unfold Caller.ofRequest at identified
  rw [role] at identified
  split at identified
  · contradiction
  · obtain rfl := Except.ok.inj identified
    rfl

theorem detail_not_told_of_refusal :
    refusing.withoutDetail = garbling.withoutDetail ∧
      (StateT.run (answer refusing.config (.ofNat 8) poll)
          (Echo.site.process refusing (.ofNat 7)).1).1 =
        (StateT.run (answer garbling.config (.ofNat 8) poll)
          (Echo.site.process garbling (.ofNat 7)).1).1 ∧
      (respond refusing (.ofNat 8) run (.start Echo.site 1)).1 =
        (respond garbling (.ofNat 8) run (.start Echo.site 1)).1 := by
  have setups : refusing.withoutDetail = garbling.withoutDetail := rfl
  have polls : Route.ofSegments? poll.segments =
      some (.submission "00000000-0000-0000-0000-000000000007") := by
    rw [Request.segments, Target.segments_eq]
    decide
  have runs : Route.ofSegments? run.segments = some .execute := by
    rw [Request.segments, Target.segments_eq]
    decide
  obtain ⟨processed, executed⟩ := detail_not_told setups
  obtain ⟨_, _, shown⟩ := processed Echo.site Echo.site rfl (.ofNat 7)
  exact ⟨setups, shown (.ofNat 8) poll _ polls poll_regular,
    (executed (.start Echo.site 1) (.start Echo.site 1) rfl (.ofNat 8) run runs).1⟩

end Unreachable

end Grader

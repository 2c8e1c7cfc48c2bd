import Grader.Proofs.Endings

/-! What the answer to a request tells of its effect. An intake and a requeue change a site by their
own steps and are answered by how these end; any other request changes nothing but counts. -/
namespace Grader.Api

namespace Handler

theorem run_caller_ok {r : Request} {site after : Site} {c : Caller}
    (ran : (caller r).run site = (.ok c, after)) : Caller.ofRequest r = .ok c := by
  unfold caller at ran
  cases identified : Caller.ofRequest r with
  | ok d =>
    rw [identified] at ran
    exact (Prod.mk.inj ran).1
  | error f =>
    rw [identified] at ran
    cases (Prod.mk.inj ran).1

theorem run_admin_ok {c : Caller} {site after : Site} {u : Unit}
    (ran : (admin c).run site = (.ok u, after)) : c.isAdmin = true := by
  unfold admin Caller.requireAdmin at ran
  cases allowed : c.isAdmin with
  | true => rfl
  | false =>
    rw [allowed] at ran
    cases (Prod.mk.inj ran).1

theorem run_segment_ok {raw text : String} {site after : Site}
    (ran : (segment raw).run site = (.ok text, after)) : Text.percentDecode? raw = some text := by
  unfold segment at ran
  split at ran
  · rename_i decoded
    rw [decoded]
    exact congrArg some (Except.ok.inj (Prod.mk.inj ran).1)
  · cases (Prod.mk.inj ran).1

end Handler

theorem run_readId_ok {text : String} {site after : Site} {id : Uuid}
    (ran : (readId text).run site = (.ok id, after)) : Uuid.ofText? text = some id := by
  unfold readId at ran
  split at ran
  · rename_i read
    rw [read]
    exact congrArg some (Except.ok.inj (Prod.mk.inj ran).1)
  · cases (Prod.mk.inj ran).1

def Response.ofRun : Except Failure Response → Response
  | .ok response => response
  | .error f => f.response

theorem run_concluded (after : Site) (result : Except Failure Submission) (site : Site) :
    (concluded (after, result)).run site = (result.map accepted, after) := by
  cases result <;> rfl

/-- A request with a new submission fails at once, or goes the way of an intake. -/
theorem run_createSubmission (fresh : Uuid) (r : Request) (site : Site) :
    (∃ f : Failure, f.IsEarly ∧ (createSubmission fresh r).run site = (.error f, site)) ∨
      ∃ caller problemId language code, Caller.ofRequest r = .ok caller ∧
        let intake := Intake.finish site
          (.findProblem (.new fresh caller.userId problemId language code site.now))
        (createSubmission fresh r).run site = (intake.2.result.map accepted, intake.1) := by
  rcases Handler.Still.run_bind (Handler.caller_within Handler.still_chained r) (caller_ends r) _
    site with failed | ⟨caller, identified, next⟩
  · exact .inl failed
  rcases Handler.Still.run_bind (Handler.body_within Handler.still_chained r _) (body_ends r _) _
    site with ⟨f, no, failed⟩ | ⟨new, _, next'⟩
  · exact .inl ⟨f, no.early, next.trans failed⟩
  replace next := next.trans next'
  rcases Handler.Still.run_bind (readLanguage_within Handler.still_chained _) (readLanguage_ends _) _
    site with ⟨f, no, failed⟩ | ⟨language, _, next'⟩
  · exact .inl ⟨f, no.early, next.trans failed⟩
  replace next := next.trans next'
  rcases Handler.Still.run_bind (checkCode_within Handler.still_chained _) (checkCode_ends _) _ site
    with ⟨f, no, failed⟩ | ⟨_, _, next'⟩
  · exact .inl ⟨f, no.early, next.trans failed⟩
  refine .inr ⟨caller, new.problemId, language, new.code, Handler.run_caller_ok identified, ?_⟩
  exact (next.trans next').trans (run_concluded _ _ site)

/-- A request to run a submission again fails at once, or goes the way of a requeue. -/
theorem run_requeueSubmission (r : Request) (raw : String) (site : Site) :
    (∃ f : Failure, f.IsEarly ∧ (requeueSubmission r raw).run site = (.error f, site)) ∨
      ∃ caller text id, Caller.ofRequest r = .ok caller ∧ caller.isAdmin = true ∧
        Text.percentDecode? raw = some text ∧ Uuid.ofText? text = some id ∧
        let requeue := Requeue.finish site (.load id)
        (requeueSubmission r raw).run site = (requeue.2.result.map accepted, requeue.1) := by
  rcases Handler.Still.run_bind (Handler.caller_within Handler.still_chained r) (caller_ends r) _
    site with failed | ⟨caller, identified, next⟩
  · exact .inl failed
  rcases Handler.Still.run_bind (Handler.segment_within Handler.still_chained raw) (segment_ends raw)
    _ site with ⟨f, no, failed⟩ | ⟨text, decoded, next'⟩
  · exact .inl ⟨f, no.early, next.trans failed⟩
  replace next := next.trans next'
  rcases Handler.Still.run_bind (Handler.admin_within Handler.still_chained caller)
    (admin_ends caller) _ site with ⟨f, no, failed⟩ | ⟨_, allowed, next'⟩
  · exact .inl ⟨f, no, next.trans failed⟩
  replace next := next.trans next'
  rcases Handler.Still.run_bind (readId_within Handler.still_chained text) (readId_ends text) _ site
    with ⟨f, no, failed⟩ | ⟨id, read, next'⟩
  · exact .inl ⟨f, no.early, next.trans failed⟩
  refine .inr ⟨caller, text, id, Handler.run_caller_ok identified, Handler.run_admin_ok allowed,
    Handler.run_segment_ok decoded, run_readId_ok read, ?_⟩
  exact (next.trans next').trans (run_concluded _ _ site)

theorem run_requeueSubmission_ok {r : Request} {raw text : String} {caller : Caller} {id : Uuid}
    (identified : Caller.ofRequest r = .ok caller) (allowed : caller.isAdmin = true)
    (decoded : Text.percentDecode? raw = some text) (read : Uuid.ofText? text = some id)
    (site : Site) :
    let requeue := Requeue.finish site (.load id)
    (requeueSubmission r raw).run site = (requeue.2.result.map accepted, requeue.1) := by
  have segment : (Handler.segment raw).run site = (.ok text, site) := by
    unfold Handler.segment
    rw [decoded]
    rfl
  have admin : (Handler.admin caller).run site = (.ok (), site) := by
    unfold Handler.admin Caller.requireAdmin
    rw [allowed]
    rfl
  have known : (readId text).run site = (.ok id, site) := by
    unfold readId
    rw [read]
    rfl
  unfold requeueSubmission
  rw [Handler.run_bind_ok (Handler.run_caller identified site), Handler.run_bind_ok segment,
    Handler.run_bind_ok admin, Handler.run_bind_ok known]
  exact run_concluded _ _ site

theorem run_told (h : Handler Response) (site : Site) :
    h.told.run site = (.ok (.ofRun (h.run site).1), (h.run site).2) := by
  unfold Handler.told
  rw [Handler.run_tryCatch]
  cases h.run site with
  | mk result after => cases result <;> rfl

/-- Telling of a failure never ends in one. -/
theorem run_told_bind (h : Handler Response) (f : Response → Handler α) (site : Site) :
    (h.told >>= f).run site = (f (.ofRun (h.run site).1)).run (h.run site).2 := by
  have told := run_told h site
  rcases Handler.run_bind h.told f site with ⟨e, after, ran, _⟩ | ⟨response, after, ran, bound⟩
  · rw [told] at ran
    cases (Prod.mk.inj ran).1
  · rw [bound]
    rw [told] at ran
    obtain ⟨same, left⟩ := Prod.mk.inj ran
    rw [← left, Except.ok.inj same]

def Request.Requeues (r : Request) (id : Uuid) : Prop :=
  ∃ raw text, Route.ofSegments? r.segments = some (.requeue raw) ∧
    (Route.requeue raw).takes r.method = true ∧ Text.percentDecode? raw = some text ∧
    Uuid.ofText? text = some id

def Request.queues (r : Request) : Bool :=
  match Route.ofSegments? r.segments with
  | some .submissions | some (.requeue _) => true
  | _ => false

/-- The answer tells that the queue has not taken the submission of the request. -/
def Request.isTurnedAway (r : Request) (a : Answer) : Bool :=
  r.queues && match a with
    | .reply response => response.status = 409 || response.status = 503
    | .run .. => false

/-- What a request may do, and how it is answered then. -/
inductive Effect (fresh : Uuid) (r : Request) (site : Site) : Answer × Site → Prop where
  | counted (a : Answer) (after : Site) (recounted : site.Recounted after)
      (heard : r.isTurnedAway a = false) : Effect fresh r site (a, after)
  | intake (counted : Site) (recounted : site.Recounted counted) (caller : Caller)
      (routed : Route.ofSegments? r.segments = some .submissions)
      (taken : Route.submissions.takes r.method = true)
      (identified : Caller.ofRequest r = .ok caller) (problemId : String) (language : Language)
      (code : String) (usage : Usage) (p : Site × Intake)
      (went : p = Intake.finish counted
        (.findProblem (.new fresh caller.userId problemId language code counted.now))) :
      Effect fresh r site (.reply ((Response.ofRun (p.2.result.map accepted)).withUsage usage), p.1)
  | requeue (id : Uuid) (asks : r.Requeues id) (caller : Caller)
      (identified : Caller.ofRequest r = .ok caller) (allowed : caller.isAdmin = true)
      (p : Site × Requeue) (went : p = Requeue.finish site (.load id)) :
      Effect fresh r site (.reply (.ofRun (p.2.result.map accepted)), p.1)

theorem routed_within {R : Site → Site → Prop} (counts : Counts R) (fresh : Uuid) (r : Request)
    {route : Route} (noIntake : route ≠ .submissions) (noRequeue : ∀ raw, route ≠ .requeue raw) :
    Within R (routed fresh r route) := by
  unfold routed
  split
  · cases route with
    | submissions => contradiction
    | requeue id => exact absurd rfl (noRequeue id)
    | submission id => exact showSubmission_within counts.toChained r id
    | guest => exact Within.pure counts.toChained _
    | usages => exact showUsages_within counts r
    | consume service => exact consume_within counts r service
    | ceilings => exact setCeiling_within counts r
    | record userId => exact showRecord_within counts r userId
    | health => exact showHealth_within counts.toChained
    | metrics => exact showMetrics_within counts.toChained
    | execute => exact Within.pure counts.toChained _
  · exact Within.pure counts.toChained _

theorem answerRoute_within {R : Site → Site → Prop} (counts : Counts R) (config : Config)
    (fresh : Uuid) (r : Request) {route : Route} (noIntake : route ≠ .submissions)
    (noRequeue : ∀ raw, route ≠ .requeue raw) : Within R (answerRoute config fresh r route) := by
  have routed := routed_within counts fresh r noIntake noRequeue
  unfold answerRoute
  split
  · rename_i service _
    refine Within.bind counts.toChained (Handler.caller_within counts.toChained r) fun caller => ?_
    refine Within.bind counts.toChained (Handler.gate_within counts caller service) fun usage => ?_
    split
    · exact begin_within counts.toChained config r usage
    · refine Within.bind counts.toChained ?_ fun response => Within.pure counts.toChained _
      exact Within.tryCatch counts.toChained routed fun f => Within.pure counts.toChained _
  · split
    · refine Within.bind counts.toChained (Handler.gateGuest_within counts r.address) fun usage => ?_
      exact Within.bind counts.toChained routed fun response => Within.pure counts.toChained _
    · exact Within.bind counts.toChained routed fun response => Within.pure counts.toChained _

theorem answerRoute_submissions (config : Config) (fresh : Uuid) (r : Request) :
    answerRoute config fresh r .submissions = (do
      let caller ← Handler.caller r
      let usage ← Handler.gate caller .codeSubmission
      let response ← (routed fresh r .submissions).told
      pure (.reply (response.withUsage usage))) := rfl

theorem answerRoute_requeue (config : Config) (fresh : Uuid) (r : Request) (raw : String) :
    answerRoute config fresh r (.requeue raw) = (do
      let response ← routed fresh r (.requeue raw)
      pure (.reply response)) := rfl

def answered (route : Route) (r : Request) (ran : Except Failure Answer × Site) : Answer × Site :=
  match ran with
  | (.ok a, after) => (a, after)
  | (.error f, after) =>
    (.reply (if route.takesHead r.method then headOnly f.response else f.response), after)

theorem answer_run {config : Config} {fresh : Uuid} {r : Request} {route : Route}
    (routes : Route.ofSegments? r.segments = some route) (site : Site) :
    StateT.run (answer config fresh r) site =
      answered route r ((answerRoute config fresh r route).run site) := by
  unfold answer Handler.run
  rw [routes]
  simp only [StateT.run, bind, StateT.bind]
  generalize ExceptT.run (answerRoute config fresh r route) site = ran
  obtain ⟨result, after⟩ := ran
  cases result <;> rfl

theorem status_headOnly (head : Bool) (response : Response) :
    (if head then headOnly response else response).status = response.status := by
  cases head <;> rfl

theorem Request.heard_of_failure (r : Request) {f : Failure} (heard : f.turnsAway = false)
    {response : Response} (status : response.status = f.status) :
    r.isTurnedAway (.reply response) = false := by
  unfold isTurnedAway
  simp only [status]
  exact Bool.and_eq_false_iff.mpr (.inr heard)

theorem Request.heard_of_route {r : Request} (other : r.queues = false) (a : Answer) :
    r.isTurnedAway a = false := by
  unfold isTurnedAway
  rw [other, Bool.false_and]

/-- A request to the route of submissions fails early, or is answered as its handler ends. -/
theorem answered_submissions (config : Config) (fresh : Uuid) (r : Request) (site : Site) :
    let ran := answered .submissions r ((answerRoute config fresh r .submissions).run site)
    (∃ f response after, Failure.IsEarly f ∧ response.status = f.status ∧ site.Recounted after ∧
      ran = (.reply response, after)) ∨
    ∃ caller usage counted, Caller.ofRequest r = .ok caller ∧ site.Recounted counted ∧
      let ended := (routed fresh r .submissions).run counted
      ran = (.reply ((Response.ofRun ended.1).withUsage usage), ended.2) := by
  intro ran
  have stopped {f : Failure} (early : f.IsEarly) {after : Site} (recounted : site.Recounted after)
      (failed : (answerRoute config fresh r .submissions).run site = (.error f, after)) :
      ∃ f response after, Failure.IsEarly f ∧ response.status = f.status ∧ site.Recounted after ∧
        ran = (.reply response, after) :=
    ⟨f, _, after, early, (status_headOnly _ _).trans f.response_status, recounted,
      congrArg (answered .submissions r) failed⟩
  rw [answerRoute_submissions] at stopped
  rcases Handler.Still.run_bind (Handler.caller_within Handler.still_chained r) (caller_ends r) _
    site with ⟨f, early, failed⟩ | ⟨caller, identified, next⟩
  · exact .inl (stopped early (.refl site) failed)
  have recounted : site.Recounted ((Handler.gate caller .codeSubmission).run site).2 :=
    Handler.gate_within recounted_counts caller .codeSubmission site
  rcases gate_ends caller .codeSubmission site with ⟨usage, counted, passed, -⟩ | ⟨f, after, passed, early⟩
  · rw [passed] at recounted
    refine .inr ⟨caller, usage, counted, Handler.run_caller_ok identified, recounted, ?_⟩
    have told := (next.trans (Handler.run_bind_ok passed _)).trans (run_told_bind _ _ counted)
    exact congrArg (answered .submissions r) told
  · rw [passed] at recounted
    exact .inl (stopped early recounted (next.trans (Handler.run_bind_error passed _)))

theorem submissions_effect (config : Config) (fresh : Uuid) {r : Request}
    (routes : Route.ofSegments? r.segments = some .submissions) (site : Site) :
    Effect fresh r site
      (answered .submissions r ((answerRoute config fresh r .submissions).run site)) := by
  rcases answered_submissions config fresh r site with
    ⟨f, response, after, early, status, recounted, ran⟩ | ⟨_, usage, counted, _, recounted, ran⟩
  · rw [ran]
    exact .counted _ _ recounted (r.heard_of_failure early.heard status)
  rw [ran]
  by_cases taken : Route.submissions.takes r.method
  · rw [show routed fresh r .submissions = createSubmission fresh r from if_pos taken]
    rcases run_createSubmission fresh r counted with
      ⟨f, early, failed⟩ | ⟨submitter, problemId, language, code, identified, went⟩
    · rw [failed]
      exact .counted _ _ recounted (r.heard_of_failure early.heard f.response_status)
    · rw [went]
      generalize went : Intake.finish counted _ = p
      exact .intake counted recounted submitter routes taken identified problemId language code
        usage p went.symm
  · rw [show routed fresh r .submissions = pure methodNotAllowed from if_neg taken]
    exact .counted _ _ recounted (Bool.and_false _)

theorem answered_reply {route : Route} {r : Request} (whole : route.takesHead r.method = false)
    (h : Handler Response) (site : Site) :
    answered route r ((do let response ← h; pure (Answer.reply response) : Handler Answer).run site) =
      (.reply (.ofRun (h.run site).1), (h.run site).2) := by
  rcases Handler.run_bind h (fun response => pure (Answer.reply response)) site with
    ⟨f, after, ran, bound⟩ | ⟨response, after, ran, bound⟩
  · rw [bound, ran, answered, whole]
    rfl
  · rw [bound, ran]
    rfl

theorem requeue_effect (config : Config) (fresh : Uuid) {r : Request} {raw : String}
    (routes : Route.ofSegments? r.segments = some (.requeue raw)) (site : Site) :
    Effect fresh r site
      (answered (.requeue raw) r ((answerRoute config fresh r (.requeue raw)).run site)) := by
  rw [answerRoute_requeue, answered_reply rfl]
  by_cases taken : (Route.requeue raw).takes r.method
  · rw [show routed fresh r (.requeue raw) = requeueSubmission r raw from if_pos taken]
    rcases run_requeueSubmission r raw site with
      ⟨f, early, failed⟩ | ⟨caller, text, id, identified, allowed, decoded, read, went⟩
    · rw [failed]
      exact .counted _ _ (.refl site) (r.heard_of_failure early.heard f.response_status)
    · rw [went]
      exact .requeue id ⟨raw, text, routes, taken, decoded, read⟩ caller identified allowed _ rfl
  · rw [show routed fresh r (.requeue raw) = pure methodNotAllowed from if_neg taken]
    exact .counted _ _ (.refl site) (Bool.and_false _)

theorem answer_effect (config : Config) (fresh : Uuid) (r : Request) (site : Site) :
    Effect fresh r site (StateT.run (answer config fresh r) site) := by
  cases routes : Route.ofSegments? r.segments with
  | none =>
    have missed : StateT.run (answer config fresh r) site = (.reply pathNotFound, site) := by
      unfold answer
      rw [routes]
      rfl
    rw [missed]
    exact .counted _ _ (.refl site) (Bool.and_false _)
  | some route =>
    rw [answer_run routes]
    by_cases intake : route = .submissions
    · obtain rfl := intake
      exact submissions_effect config fresh routes site
    · by_cases requeue : ∃ raw, route = .requeue raw
      · obtain ⟨raw, rfl⟩ := requeue
        exact requeue_effect config fresh routes site
      · have step := answerRoute_within recounted_counts config fresh r intake
          (fun raw same => requeue ⟨raw, same⟩) site
        change site.Recounted ((answerRoute config fresh r route).run site).2 at step
        generalize (answerRoute config fresh r route).run site = ran at step
        obtain ⟨result, after⟩ := ran
        have other : r.queues = false := by
          unfold Request.queues
          rw [routes]
          cases route with
          | submissions => contradiction
          | requeue raw => exact absurd ⟨raw, rfl⟩ requeue
          | _ => rfl
        cases result <;> exact .counted _ _ step (Request.heard_of_route other _)

/-- What holds along every change that a request makes, if `fresh` is the id kept ready for it. -/
structure Along (fresh : Uuid) (R : Site → Site → Prop) : Prop extends Counts R where
  intake : ∀ site userId problemId language code,
    R site (Intake.finish site (.findProblem
      (.new fresh userId problemId language code site.now))).1
  requeue : ∀ site id, R site (Requeue.finish site (.load id)).1

/-- A request changes a site by nothing but its intake, its requeue and the counts it makes. -/
theorem answer_along {fresh : Uuid} {R : Site → Site → Prop} (along : Along fresh R)
    (config : Config) (r : Request) (site : Site) :
    R site (StateT.run (answer config fresh r) site).2 := by
  have effect := answer_effect config fresh r site
  generalize StateT.run (answer config fresh r) site = ran at effect
  cases effect with
  | counted a after recounted => exact along.recounted recounted
  | intake counted recounted caller _ _ _ problemId language code _ p went =>
    obtain rfl := went
    exact along.trans (along.recounted recounted) (along.intake counted _ _ _ _)
  | requeue id _ _ _ _ p went =>
    obtain rfl := went
    exact along.requeue site id

end Grader.Api

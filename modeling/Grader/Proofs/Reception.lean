import Grader.Proofs.Balance
import Grader.Proofs.Refusal

/-! What the answer to a submission or a requeue tells of the store and of the queue. Both write a
document before the queue is asked, and put it right if the queue does not take it. -/
namespace Grader

namespace Site

/-- One submission is new at the second site, and the others are as they were. -/
structure Gains (a b : Site) (d : Submission) : Prop where
  new : a.stored? d.id = none
  stored : b.stored? d.id = some d
  others : ∀ other, other ≠ d.id → b.stored? other = a.stored? other

theorem Gains.unique {a b : Site} {d e : Submission} (gains : a.Gains b d) (also : a.Gains b e) :
    d = e := by
  have same : d.id = e.id := by
    by_contra differ
    have left := also.others d.id differ
    rw [gains.stored, gains.new] at left
    contradiction
  have stored := gains.stored
  rw [same, also.stored] at stored
  exact (Option.some.inj stored).symm

theorem Undisturbed.stored? {a b : Site} (undisturbed : a.Undisturbed b) (id : Uuid) :
    b.stored? id = a.stored? id := by
  unfold Site.stored?
  rw [undisturbed.submissions]

theorem Undisturbed.not_gains {a b : Site} (undisturbed : a.Undisturbed b) (d : Submission) :
    ¬a.Gains b d := by
  intro gains
  have stored := gains.stored
  rw [undisturbed.stored?, gains.new] at stored
  contradiction

theorem Recounted.undisturbed {a b : Site} (recounted : a.Recounted b) : a.Undisturbed b := by
  obtain ⟨_, _, _, rfl⟩ := recounted
  exact ⟨rfl, rfl, rfl, rfl, rfl⟩

theorem Recounted.faultless {a b : Site} (recounted : a.Recounted b) (faultless : a.Faultless) :
    b.Faultless := by
  obtain ⟨_, _, _, rfl⟩ := recounted
  exact faultless

theorem Undisturbed.gains_keep {a b : Site} (undisturbed : a.Undisturbed b) {d : Submission}
    (new : a.stored? d.id = none) : a.Gains (b.keep d) d where
  new := new
  stored := stored?_keep_same b d
  others other elsewhere := (stored?_keep_other b elsewhere).trans (undisturbed.stored? other)

theorem Gains.keep {a b : Site} {d e : Submission} (gains : a.Gains b d) (same : e.id = d.id) :
    a.Gains (b.keep e) e where
  new := same ▸ gains.new
  stored := stored?_keep_same b e
  others other elsewhere :=
    (stored?_keep_other b elsewhere).trans (gains.others other (same ▸ elsewhere))

/-- What is told of the queue and of counts does not matter. -/
theorem Gains.of_store {a b c : Site} {d : Submission} (gains : a.Gains b d)
    (same : c.store = b.store) : a.Gains c d := by
  have stored (id : Uuid) : c.stored? id = b.stored? id := by
    unfold stored?
    rw [same]
  exact ⟨gains.new, (stored d.id).trans gains.stored,
    fun other elsewhere => (stored other).trans (gains.others other elsewhere)⟩

end Site

namespace Api

theorem Route.takes_post {route : Route} {method : String} (post : method = "POST")
    (own : route.method = "POST") : route.takes method = true := by
  simp [takes, own, post]

theorem respond_of_reply {setup : Setup} {fresh : Uuid} {r : Request} {running : Running}
    {response : Response} {after : Site}
    (ran : StateT.run (answer setup.config fresh r) running.site = (.reply response, after)) :
    respond setup fresh r running = (response, running.withSite after) := by
  unfold respond
  rw [ran]

/-- How a new submission may be received, with the status of the answer. -/
inductive Reception (r : Request) (site : Site) : Nat → Site → Prop where
  | refused (status : Nat) (after : Site) (other : status ∉ [202, 503])
      (undisturbed : site.Undisturbed after) : Reception r site status after
  | queued (after : Site) (d : Submission) (gains : site.Gains after d) (waits : d.status = .pending)
      (caller : Caller) (identified : Caller.ofRequest r = .ok caller)
      (owned : d.userId = caller.userId) (grounded : d.id ∉ site.queue.inFlight)
      (flies : d.id ∈ after.queue.inFlight) : Reception r site 202 after
  | withdrawn (after : Site) (d : Submission) (gains : site.Gains after d)
      (failed : d.status = .internalError) (told : d.diagnostic.isSome = true)
      (grounded : d.id ∉ after.queue.inFlight) : Reception r site 503 after

theorem intake_reception {fresh : Uuid} {r : Request} {site counted : Site}
    (faultless : site.Faultless) (new : site.stored? fresh = none)
    (grounded : fresh ∉ site.queue.inFlight) (recounted : site.Recounted counted) {caller : Caller}
    (identified : Caller.ofRequest r = .ok caller) {d : Submission} (own : d.id = fresh)
    (owner : d.userId = caller.userId) (waits : d.status = .pending) :
    let p := Intake.finish counted (.findProblem d)
    Reception r site (Response.ofRun (p.2.result.map accepted)).status p.1 := by
  obtain rfl := own
  have undisturbed := recounted.undisturbed
  have kept := undisturbed.gains_keep new
  have ends := Intake.finish_ends (recounted.faultless faultless) d
  generalize Intake.finish counted (.findProblem d) = p at ends
  cases ends with
  | barred missing => exact .refused 404 _ (by decide) undisturbed
  | queued metrics offered =>
    exact .queued _ d (kept.of_store rfl) waits caller identified owner grounded
      (List.mem_append_right _ List.mem_cons_self)
  | flying metrics offered =>
    rcases counted.queue.enqueue_cases d.id with ⟨_, taken⟩ | ⟨flying, _⟩ | ⟨e, refused⟩
    · cases (Prod.mk.inj (offered.symm.trans taken)).1
    · -- An id that is kept ready is not in flight.
      rw [undisturbed.queue] at flying
      exact absurd flying grounded
    · cases (Prod.mk.inj (offered.symm.trans refused)).1
  | withdrawn metrics e offered =>
    have failed : site.Gains _ (d.fail ("not queued: " ++ e.message) counted.now) := kept.keep rfl
    refine .withdrawn _ _ (failed.of_store rfl) rfl rfl ?_
    rw [← undisturbed.queue] at grounded
    exact grounded

theorem answer_reception (config : Config) {fresh : Uuid} {r : Request} {site : Site}
    (faultless : site.Faultless) (new : site.stored? fresh = none)
    (grounded : fresh ∉ site.queue.inFlight) (post : r.method = "POST")
    (routes : Route.ofSegments? r.segments = some .submissions) :
    ∃ response after, StateT.run (answer config fresh r) site = (.reply response, after) ∧
      Reception r site response.status after := by
  -- Whatever fails before the intake has changed counts of requests only.
  have early {f : Failure} {status : Nat} {after : Site} (early : f.IsEarly)
      (same : status = f.status) (recounted : site.Recounted after) :
      Reception r site status after := by
    have unlisted := early.unlisted
    refine .refused status after ?_ recounted.undisturbed
    simp only [List.mem_cons, List.not_mem_nil, or_false, not_or] at unlisted ⊢
    exact ⟨same ▸ unlisted.1, same ▸ unlisted.2.2⟩
  rw [answer_run routes]
  rcases answered_submissions config fresh r site with
    ⟨f, response, after, no, status, recounted, ran⟩ | ⟨_, usage, counted, _, recounted, ran⟩
  · exact ⟨response, after, ran, early no status recounted⟩
  · rw [show routed fresh r .submissions = createSubmission fresh r from
      if_pos (Route.takes_post post rfl)] at ran
    refine ⟨_, _, ran, ?_⟩
    rcases run_createSubmission fresh r counted with
      ⟨f, no, failed⟩ | ⟨caller, problemId, language, code, identified, went⟩
    · rw [failed]
      exact early no f.response_status recounted
    · rw [went]
      exact intake_reception faultless new grounded recounted identified rfl rfl rfl

theorem Reception.agrees {r : Request} {site after : Site} {status : Nat}
    (reception : Reception r site status after) :
    (status = 202 ↔ ∃ d caller, site.Gains after d ∧ d.status = .pending ∧
      Caller.ofRequest r = .ok caller ∧ d.userId = caller.userId ∧ d.id ∉ site.queue.inFlight ∧
      d.id ∈ after.queue.inFlight) ∧
    (status = 503 ↔ ∃ d, site.Gains after d ∧ d.status = .internalError ∧
      d.diagnostic.isSome = true ∧ d.id ∉ after.queue.inFlight) ∧
    (status ≠ 202 → status ≠ 503 → site.Undisturbed after) := by
  cases reception with
  | refused _ _ other undisturbed =>
    simp only [List.mem_cons, List.not_mem_nil, or_false, not_or] at other
    refine ⟨⟨fun same => absurd same other.1, ?_⟩, ⟨fun same => absurd same other.2, ?_⟩,
      fun _ _ => undisturbed⟩
    · rintro ⟨d, _, gains, -⟩
      exact absurd gains (undisturbed.not_gains d)
    · rintro ⟨d, gains, -⟩
      exact absurd gains (undisturbed.not_gains d)
  | queued _ d gains waits caller identified owned grounded flies =>
    refine ⟨⟨fun _ => ⟨d, caller, gains, waits, identified, owned, grounded, flies⟩, fun _ => rfl⟩,
      ⟨fun same => absurd same (by decide), ?_⟩, fun no => absurd rfl no⟩
    rintro ⟨e, also, failed, -⟩
    obtain rfl := gains.unique also
    rw [waits] at failed
    contradiction
  | withdrawn _ d gains failed told grounded =>
    refine ⟨⟨fun same => absurd same (by decide), ?_⟩,
      ⟨fun _ => ⟨d, gains, failed, told, grounded⟩, fun _ => rfl⟩, fun _ no => absurd rfl no⟩
    rintro ⟨e, _, also, waits, -⟩
    obtain rfl := gains.unique also
    rw [waits] at failed
    contradiction

/-- The segment of a path is read as this id. -/
def Names (raw : String) (id : Uuid) : Prop :=
  ∃ text, Text.percentDecode? raw = some text ∧ Uuid.ofText? text = some id

theorem Names.unique {raw : String} {a b : Uuid} (first : Names raw a) (second : Names raw b) :
    a = b := by
  obtain ⟨text, decoded, read⟩ := first
  obtain ⟨_, same, read'⟩ := second
  obtain rfl := Option.some.inj (decoded.symm.trans same)
  exact Option.some.inj (read.symm.trans read')

/-- An admin asks for a failed submission to be run again, and the queue has a place for it. -/
structure Requeueable (r : Request) (raw : String) (site : Site) (id : Uuid) (failed : Submission) :
    Prop where
  admin : ∃ caller, Caller.ofRequest r = .ok caller ∧ caller.isAdmin = true
  named : Names raw id
  stored : site.stored? id = some failed
  broken : failed.status = .internalError
  grounded : id ∉ site.queue.inFlight
  accepting : site.queue.isClosed = false
  attended : site.queue.isAttached = true
  room : site.queue.channel.length < site.queue.capacity

/-- A submission waits for its run as if it had had none, and no other has changed. -/
structure Requeued (site after : Site) (id : Uuid) (d : Submission) : Prop where
  stored : after.stored? id = some d
  waits : d.status = .pending
  cleared : d.results = [] ∧ d.tally = .zero ∧ d.diagnostic = none
  others : ∀ other, other ≠ id → after.stored? other = site.stored? other
  queue : after.queue = site.queue.push id

/-- How a requeue may be received, with the status of the answer. -/
inductive Retrial (r : Request) (raw : String) (site : Site) : Nat → Site → Prop where
  | refused (status : Nat) (after : Site) (other : status ≠ 202)
      (undue : ∀ id failed, ¬Requeueable r raw site id failed)
      (undisturbed : site.Undisturbed after) : Retrial r raw site status after
  | queued (after : Site) (id : Uuid) (failed : Submission) (due : Requeueable r raw site id failed)
      (requeued : Requeued site after id (failed.reset site.now)) : Retrial r raw site 202 after

theorem requeue_retrial {r : Request} {raw : String} {site : Site} (faultless : site.Faultless)
    (keyed : site.Keyed) {caller : Caller} (identified : Caller.ofRequest r = .ok caller)
    (allowed : caller.isAdmin = true) {id : Uuid} (named : Names raw id) :
    let p := Requeue.finish site (.load id)
    Retrial r raw site (Response.ofRun (p.2.result.map accepted)).status p.1 := by
  have ends := Requeue.finish_ends faultless id
  generalize Requeue.finish site (.load id) = p at ends
  have same (failed : Submission) : (failed.reset site.now).id = failed.id := rfl
  -- What may be requeued is what the path names, and the queue takes it.
  have offer {other : Uuid} {failed : Submission} (due : Requeueable r raw site other failed) :
      other = id ∧ (site.queue.enqueue failed.id).1 = .queued := by
    have own : failed.id = other := keyed other failed due.stored
    refine ⟨due.named.unique named, (site.queue.enqueue_queued_iff failed.id).mpr ?_⟩
    rw [own]
    exact ⟨due.accepting, due.grounded, due.attended, due.room⟩
  cases ends with
  | missing found =>
    refine .refused 404 _ (by decide) (fun other failed due => ?_) (Site.Unspent.refl site).undisturbed
    obtain ⟨rfl, -⟩ := offer due
    cases found.symm.trans due.stored
  | barred d found whole =>
    refine .refused 400 _ (by decide) (fun other failed due => ?_) (Site.Unspent.refl site).undisturbed
    obtain ⟨rfl, -⟩ := offer due
    obtain rfl := Option.some.inj (found.symm.trans due.stored)
    exact whole due.broken
  | queued failed found broken metrics offered =>
    have own : failed.id = id := keyed id failed found
    obtain ⟨accepting, grounded, attended, room⟩ :=
      (site.queue.enqueue_queued_iff failed.id).mp (congrArg Prod.fst offered)
    refine .queued _ id failed ⟨⟨caller, identified, allowed⟩, named, found, broken, own ▸ grounded,
      accepting, attended, room⟩ ⟨?_, rfl, ⟨rfl, rfl, rfl⟩, ?_, ?_⟩
    · rw [← own]
      exact site.stored?_keep_same (failed.reset site.now)
    · intro other elsewhere
      have apart : other ≠ (failed.reset site.now).id := fun same => elsewhere (same.trans own)
      exact site.stored?_keep_other apart
    · rw [← own]
  | flying failed found broken metrics offered =>
    refine .refused 409 _ (by decide) (fun other failed' due => ?_)
      (Site.undisturbed_restored keyed found (same failed) metrics)
    obtain ⟨rfl, queued⟩ := offer due
    obtain rfl := Option.some.inj (found.symm.trans due.stored)
    rw [offered] at queued
    contradiction
  | refused failed found broken metrics e offered =>
    refine .refused 503 _ (by decide) (fun other failed' due => ?_)
      (Site.undisturbed_restored keyed found (same failed) metrics)
    obtain ⟨rfl, queued⟩ := offer due
    obtain rfl := Option.some.inj (found.symm.trans due.stored)
    rw [offered] at queued
    contradiction

theorem answer_retrial (config : Config) (fresh : Uuid) {r : Request} {raw : String} {site : Site}
    (faultless : site.Faultless) (keyed : site.Keyed) (post : r.method = "POST")
    (routes : Route.ofSegments? r.segments = some (.requeue raw)) :
    ∃ response after, StateT.run (answer config fresh r) site = (.reply response, after) ∧
      Retrial r raw site response.status after := by
  have ran : StateT.run (answer config fresh r) site =
      (.reply (.ofRun ((requeueSubmission r raw).run site).1),
        ((requeueSubmission r raw).run site).2) := by
    rw [answer_run routes, answerRoute_requeue, answered_reply rfl,
      show routed fresh r (.requeue raw) = requeueSubmission r raw from
        if_pos (Route.takes_post post rfl)]
  refine ⟨_, _, ran, ?_⟩
  by_cases due : ∃ id failed, Requeueable r raw site id failed
  · obtain ⟨id, failed, ⟨caller, identified, allowed⟩, ⟨text, decoded, read⟩, -⟩ := due
    rw [run_requeueSubmission_ok identified allowed decoded read]
    exact requeue_retrial faultless keyed identified allowed ⟨text, decoded, read⟩
  · rcases run_requeueSubmission r raw site with
      ⟨f, early, failed⟩ | ⟨caller, text, id, identified, allowed, decoded, read, went⟩
    · rw [failed]
      have unlisted := early.unlisted
      simp only [List.mem_cons, not_or] at unlisted
      refine .refused _ _ ?_ (fun id failed asks => due ⟨id, failed, asks⟩)
        (Site.Unspent.refl site).undisturbed
      exact f.response_status ▸ unlisted.1
    · rw [went]
      exact requeue_retrial faultless keyed identified allowed ⟨text, decoded, read⟩

theorem Retrial.agrees {r : Request} {raw : String} {site after : Site} {status : Nat}
    (retrial : Retrial r raw site status after) :
    (status = 202 ↔ ∃ id failed, Requeueable r raw site id failed) ∧
    (status = 202 → ∃ id failed, Requeueable r raw site id failed ∧
      Requeued site after id (failed.reset site.now)) ∧
    (status ≠ 202 → site.Undisturbed after) := by
  cases retrial with
  | refused _ _ other undue undisturbed =>
    refine ⟨⟨fun same => absurd same other, ?_⟩, fun same => absurd same other, fun _ => undisturbed⟩
    rintro ⟨id, failed, due⟩
    exact absurd due (undue id failed)
  | queued _ id failed due requeued =>
    exact ⟨⟨fun _ => ⟨id, failed, due⟩, fun _ => rfl⟩, fun _ => ⟨id, failed, due, requeued⟩,
      fun no => absurd rfl no⟩

/-- While the store does not fail, the answer to a submission or a requeue tells what has become of
the stored documents and of the queue. -/
theorem respond_agrees (setup : Setup) {fresh : Uuid} (running : Running)
    (faultless : running.site.Faultless) (keyed : running.site.Keyed)
    (new : running.site.stored? fresh = none) (grounded : fresh ∉ running.site.queue.inFlight)
    {r : Request} (post : r.method = "POST") :
    let site := running.site
    let status := (respond setup fresh r running).1.status
    let after := (respond setup fresh r running).2.site
    (Route.ofSegments? r.segments = some .submissions →
      (status = 202 ↔ ∃ d caller, site.Gains after d ∧ d.status = .pending ∧
        Caller.ofRequest r = .ok caller ∧ d.userId = caller.userId ∧ d.id ∉ site.queue.inFlight ∧
        d.id ∈ after.queue.inFlight) ∧
      (status = 503 ↔ ∃ d, site.Gains after d ∧ d.status = .internalError ∧
        d.diagnostic.isSome = true ∧ d.id ∉ after.queue.inFlight) ∧
      (status ≠ 202 → status ≠ 503 → site.Undisturbed after)) ∧
    ∀ raw, Route.ofSegments? r.segments = some (.requeue raw) →
      (status = 202 ↔ ∃ id failed, Requeueable r raw site id failed) ∧
      (status = 202 → ∃ id failed,
        Requeueable r raw site id failed ∧ Requeued site after id (failed.reset site.now)) ∧
      (status ≠ 202 → site.Undisturbed after) := by
  intro site status after
  constructor
  · intro routes
    obtain ⟨response, left, ran, reception⟩ :=
      answer_reception setup.config faultless new grounded post routes
    have responded := respond_of_reply ran
    have agrees := reception.agrees
    simp only [status, after, responded]
    exact agrees
  · intro raw routes
    obtain ⟨response, left, ran, retrial⟩ :=
      answer_retrial setup.config fresh faultless keyed post routes
    have responded := respond_of_reply ran
    have agrees := retrial.agrees
    simp only [status, after, responded]
    exact agrees

end Api

namespace Rollback

open Api

theorem again_names : Names "00000000-0000-0000-0000-000000000007" (.ofNat 7) :=
  ⟨"00000000-0000-0000-0000-000000000007", by decide +kernel, by decide +kernel⟩

theorem again_requeueable :
    Requeueable again "00000000-0000-0000-0000-000000000007" bare (.ofNat 7) failed where
  admin := ⟨_, again_identified, rfl⟩
  named := again_names
  stored := rfl
  broken := rfl
  grounded := List.not_mem_nil
  accepting := rfl
  attended := rfl
  room := by decide

/-- The server does not accept work any more. -/
def draining : Site := { bare with queue := bare.queue.close }

theorem respond_agrees_again :
    let accepted := respond Echo.setup (.ofNat 8) again (.start bare 1)
    let turnedAway := respond Echo.setup (.ofNat 8) again (.start draining 1)
    let untyped := respond Echo.setup (.ofNat 8) Untyped.request (.start Echo.site 1)
    accepted.1.status = 202 ∧
      accepted.2.site.stored? (.ofNat 7) = some (failed.reset default) ∧
      turnedAway.1.status ≠ 202 ∧ draining.Undisturbed turnedAway.2.site ∧
      Echo.site.Undisturbed untyped.2.site := by
  intro accepted turnedAway untyped
  have keyed : bare.Keyed := MemoryStore.keyed_ofDocuments _ _ _ _
  have agrees (site : Site) (faultless : site.Faultless) (keyed : site.Keyed)
      (new : site.stored? (.ofNat 8) = none) (empty : site.queue.inFlight = []) {r : Request}
      (post : r.method = "POST") :=
    respond_agrees Echo.setup (.start site 1) faultless keyed new (empty ▸ List.not_mem_nil) post
  obtain ⟨accepts, done, -⟩ := (agrees bare (fun _ => rfl) keyed rfl rfl rfl).2 _ again_routes
  have status : accepted.1.status = 202 := accepts.mpr ⟨_, failed, again_requeueable⟩
  obtain ⟨id, found, due, requeued⟩ := done status
  obtain rfl := due.named.unique again_names
  obtain rfl : failed = found := Option.some.inj (again_requeueable.stored.symm.trans due.stored)
  obtain ⟨open', -, kept⟩ := (agrees draining (fun _ => rfl) keyed rfl rfl rfl).2 _ again_routes
  have barred : turnedAway.1.status ≠ 202 := by
    intro taken
    obtain ⟨_, _, due'⟩ := open'.mp taken
    cases due'.accepting
  obtain ⟨response, left, ran, unread⟩ := Untyped.answer_status
  have responded : untyped = (response, (Running.start Echo.site 1).withSite left) :=
    respond_of_reply ran
  obtain ⟨-, -, quiet⟩ :=
    (agrees Echo.site (fun _ => rfl) Echo.site_keyed rfl rfl rfl).1 Untyped.request_routes
  have status' : untyped.1.status = 415 := by
    rw [responded]
    exact unread
  have other : untyped.1.status ≠ 202 ∧ untyped.1.status ≠ 503 := by
    rw [status']
    decide
  exact ⟨status, requeued.stored, barred, kept barred, quiet other.1 other.2⟩

end Rollback

end Grader

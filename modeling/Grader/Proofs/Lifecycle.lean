import Grader.Proofs.Requeue

/-! The life of a submission that is stored. While the store does not fail, what is in flight is
stored as its worker knows it, so that a step of a job or a request moves a status only forward, or
from a failure of ours back to the start. -/
namespace Grader

namespace Submission

structure SameWork (d e : Submission) : Prop where
  id : e.id = d.id
  userId : e.userId = d.userId
  problemId : e.problemId = d.problemId
  language : e.language = d.language
  code : e.code = d.code
  submittedAt : e.submittedAt = d.submittedAt
  timeComplexity : e.timeComplexity = d.timeComplexity
  memoryComplexity : e.memoryComplexity = d.memoryComplexity

theorem SameWork.refl (d : Submission) : d.SameWork d := ⟨rfl, rfl, rfl, rfl, rfl, rfl, rfl, rfl⟩

theorem SameWork.trans {d e f : Submission} (first : d.SameWork e) (next : e.SameWork f) :
    d.SameWork f where
  id := next.id.trans first.id
  userId := next.userId.trans first.userId
  problemId := next.problemId.trans first.problemId
  language := next.language.trans first.language
  code := next.code.trans first.code
  submittedAt := next.submittedAt.trans first.submittedAt
  timeComplexity := next.timeComplexity.trans first.timeComplexity
  memoryComplexity := next.memoryComplexity.trans first.memoryComplexity

theorem markRunning_sameWork (d : Submission) (now : Instant) : d.SameWork (d.markRunning now) :=
  ⟨rfl, rfl, rfl, rfl, rfl, rfl, rfl, rfl⟩

theorem complete_sameWork (d : Submission) (status : Status) (results : List CaseResult)
    (tally : Tally) (diagnostic : Option String) (now : Instant) :
    d.SameWork (d.complete status results tally diagnostic now) :=
  ⟨rfl, rfl, rfl, rfl, rfl, rfl, rfl, rfl⟩

theorem reset_sameWork (d : Submission) (now : Instant) : d.SameWork (d.reset now) :=
  ⟨rfl, rfl, rfl, rfl, rfl, rfl, rfl, rfl⟩

def IsSettled (d : Submission) : Prop := d.status.isTerminal = true ∧ d.status ≠ .internalError

end Submission

namespace Site

theorem stored?_keep_keep (s : Site) {d e : Submission} (same : d.id = e.id) (id : Uuid) :
    ((s.keep d).keep e).stored? id = (s.keep e).stored? id := by
  simp only [stored?_keep, same]
  split <;> rfl

/-- What is stored already can be saved once more. -/
theorem stored?_keep_stored {s : Site} {d : Submission} (found : s.stored? d.id = some d)
    (id : Uuid) : (s.keep d).stored? id = s.stored? id := by
  rw [stored?_keep]
  split
  · rename_i same
    rw [same, found]
  · rfl

theorem Keyed.of_stored {a b : Site} (keyed : a.Keyed)
    (same : ∀ id, b.stored? id = a.stored? id) : b.Keyed :=
  fun id d found => keyed id d ((same id).symm.trans found)

end Site

namespace Server

/-- How the status of a submission may change with the next event. -/
inductive Passes (setup : Setup) (s : Server) (next : Event) (id : Uuid) : Status → Status → Prop where
  | started : Passes setup s next id .pending .running
  | givenUp : Passes setup s next id .pending .internalError
  | judged (verdict : Status) (ended : verdict.isTerminal = true) :
      Passes setup s next id .running verdict
  | again (fresh : Uuid) (r : Api.Request) (asked : next = .request fresh r) (asks : r.Requeues id)
      (response : Api.Response)
      (answered : (StateT.run (Api.answer setup.config fresh r) s.site).1 = .reply response)
      (accepted : response.status = 202) :
      Passes setup s next id .internalError .pending

structure Evolves (setup : Setup) (s : Server) (next : Event) (d e : Submission) : Prop where
  same : d.SameWork e
  passes : e = d ∨ s.Passes setup next d.id d.status e.status

theorem Evolves.refl (setup : Setup) (s : Server) (next : Event) (d : Submission) :
    s.Evolves setup next d d := ⟨.refl d, .inl rfl⟩

/-- No status is passed on from a verdict about the program. -/
theorem Evolves.eq_of_settled {setup : Setup} {s : Server} {next : Event} {d e : Submission}
    (evolves : s.Evolves setup next d e) (settled : d.IsSettled) : e = d := by
  obtain ⟨ended, whole⟩ := settled
  rcases evolves.passes with same | passes
  · exact same
  · generalize d.status = status at ended whole passes
    generalize e.status = status' at passes
    cases passes with
    | started | givenUp | judged => contradiction
    | again => exact absurd rfl whole

end Server

namespace Job

theorem conclude_done (s : Submission) (elapsedMs : Nat) (site : Site) :
    ∃ outcome, (conclude s elapsedMs site).2 = .done outcome := by
  unfold conclude
  split <;> exact ⟨_, rfl⟩

def UpToDate (id : Uuid) (site : Site) : Job → Prop
  | .load => ∃ d, site.stored? id = some d ∧ d.status = .pending
  | .findProblem s | .findCases s _ | .giveUp s _ | .mark s _ _ =>
    site.stored? id = some s ∧ s.status = .pending
  | .run s _ _ | .await s _ _ _ _ | .save s _ _ => site.stored? id = some s ∧ s.status = .running
  | .done _ => ∃ d, site.stored? id = some d

namespace UpToDate

variable {id : Uuid} {site : Site} {j : Job} (upToDate : j.UpToDate id site)
include upToDate

theorem known : ∃ d, site.stored? id = some d := by
  cases j with
  | load =>
    obtain ⟨d, found, _⟩ := upToDate
    exact ⟨d, found⟩
  | findProblem s | findCases s | giveUp s | mark s | run s | await s | save s =>
    exact ⟨s, upToDate.1⟩
  | done outcome => exact upToDate

theorem of_same {after : Site} (same : after.stored? id = site.stored? id) :
    j.UpToDate id after := by
  cases j with
  | load | findProblem | findCases | giveUp | mark | run | await | save | done =>
    unfold UpToDate
    rw [same]
    exact upToDate

/-- What a job saves moves the submission that is stored one step on. -/
theorem saves (keyed : site.Keyed) (setup : Setup) (s : Server) (next : Server.Event)
    {e : Submission} (saved : e ∈ j.saves? site) :
    ∃ d, site.stored? id = some d ∧ e.id = id ∧ s.Evolves setup next d e := by
  cases j with
  | giveUp d detail =>
    obtain ⟨found, due⟩ := upToDate
    obtain rfl := Option.some.inj saved
    refine ⟨d, found, keyed id d found, d.complete_sameWork .., .inr ?_⟩
    rw [due]
    exact .givenUp
  | mark d p cases =>
    obtain ⟨found, due⟩ := upToDate
    obtain rfl := Option.some.inj saved
    refine ⟨d, found, keyed id d found, d.markRunning_sameWork _, .inr ?_⟩
    rw [due]
    exact .started
  | save d evaluation elapsedMs =>
    obtain ⟨found, running⟩ := upToDate
    obtain rfl := Option.some.inj saved
    refine ⟨d, found, keyed id d found, d.complete_sameWork .., .inr ?_⟩
    rw [running]
    exact .judged _ (Verdict.aggregate_terminal evaluation.results)
  | _ => contradiction

theorem step (setup : Setup) (faultless : site.Faultless) (keyed : site.Keyed) :
    (j.step setup id site).2.UpToDate id (j.step setup id site).1 := by
  have saves := faultless.saves
  have attempted := j.step_attempted setup id site
  cases j with
  | load =>
    obtain ⟨d, found, due⟩ := upToDate
    simp only [Job.step, faultless.submission?, found, loaded, due]
    exact ⟨found, due⟩
  | findProblem s =>
    simp only [Job.step, problemFound]
    split <;> exact upToDate
  | findCases s p =>
    simp only [Job.step, casesFound]
    split <;> exact upToDate
  | giveUp s detail =>
    obtain ⟨outcome, next⟩ := conclude_done (s.fail detail site.now) 0 site
    rw [show ((giveUp s detail).step setup id site).2 = .done outcome from next]
    exact attempted.stays ⟨s, upToDate.1⟩
  | mark s p cases =>
    obtain ⟨found, due⟩ := upToDate
    obtain rfl : s.id = id := keyed id s found
    have kept := site.stored?_keep_same (s.markRunning site.now)
    simp only [Job.step, saves.save]
    rcases begin_cases setup (s.markRunning site.now) p cases with ⟨plan, progress, run⟩ | crashed
    · rw [run]
      exact ⟨kept, rfl⟩
    · rw [crashed]
      exact ⟨_, kept⟩
  | run s plan progress =>
    simp only [Job.step]
    split <;> exact upToDate
  | await s plan progress c reply =>
    simp only [Job.step]
    split
    · exact ⟨s, upToDate.1⟩
    · exact upToDate
    · exact upToDate
  | save s e elapsedMs =>
    obtain ⟨outcome, next⟩ := conclude_done
      (s.complete e.status e.results e.tally e.diagnostic site.now) elapsedMs site
    rw [show ((save s e elapsedMs).step setup id site).2 = .done outcome from next]
    exact attempted.stays ⟨s, upToDate.1⟩
  | done outcome => exact upToDate

/-- A step of a job leaves every submission stored, and all but its own as they are. -/
theorem step_stored (faultless : site.Faultless) (keyed : site.Keyed) (setup : Setup) (s : Server)
    (next : Server.Event) {x : Uuid} {d : Submission} (found : site.stored? x = some d) :
    ∃ e, (j.step setup id site).1.stored? x = some e ∧ s.Evolves setup next d e ∧
      (x ≠ id → e = d) := by
  rw [(j.step_attempted setup id site).stored? faultless.saves]
  cases saved : j.saves? site with
  | none => exact ⟨d, found, .refl .., fun _ => rfl⟩
  | some e =>
    obtain ⟨c, read, own, evolves⟩ := upToDate.saves keyed setup s next saved
    show ∃ f, (site.keep e).stored? x = some f ∧ _
    rw [Site.stored?_keep, own]
    split
    · rename_i same
      rw [same] at found
      obtain rfl := Option.some.inj (found.symm.trans read)
      exact ⟨e, rfl, evolves, fun other => absurd same other⟩
    · exact ⟨d, found, .refl .., fun _ => rfl⟩

end UpToDate

end Job

namespace Server

/-- What waits for a worker is PENDING, and what a worker has at hand is stored. -/
structure UpToDate (s : Server) : Prop where
  faultless : s.site.Faultless
  keyed : s.site.Keyed
  accounted : s.Accounted
  waiting : ∀ id ∈ s.site.queue.channel, ∃ d, s.site.stored? id = some d ∧ d.status = .pending
  jobs : ∀ i id job, s.worker? i = some (.busy id job) → job.UpToDate id s.site

theorem withWorkers_upToDate {site : Site} (faultless : site.Faultless) (keyed : site.Keyed)
    (channel : site.queue.channel = []) (inFlight : site.queue.inFlight = []) (count : Nat) :
    (withWorkers site count).UpToDate where
  faultless := faultless
  keyed := keyed
  accounted := withWorkers_accounted channel inFlight count
  waiting id waits := by
    rw [show (withWorkers site count).site.queue.channel = [] from channel] at waits
    contradiction
  jobs i id job busy := by
    obtain ⟨_, same⟩ := List.getElem?_eq_some_iff.mp busy
    simp [withWorkers] at same

namespace UpToDate

variable {s : Server} (upToDate : s.UpToDate)
include upToDate

theorem known {id : Uuid} (flying : id ∈ s.site.queue.inFlight) :
    ∃ d, s.site.stored? id = some d := by
  rcases (upToDate.accounted.mem_iff id).mp flying with waits | busy
  · obtain ⟨d, found, _⟩ := upToDate.waiting id waits
    exact ⟨d, found⟩
  · obtain ⟨w, there, same⟩ := List.mem_filterMap.mp busy
    obtain ⟨i, inside⟩ := List.mem_iff_getElem?.mp there
    cases w with
    | busy x job =>
      obtain rfl := Option.some.inj same
      exact (upToDate.jobs i x job inside).known
    | idle | stopped => contradiction

theorem act {setup : Setup} {t : Server} (acts : s.Acts setup t) : t.UpToDate := by
  have accounted := acts.accounted upToDate.accounted
  cases acts with
  | take i id rest idle waits =>
    have first : ∃ d, s.site.stored? id = some d ∧ d.status = .pending :=
      upToDate.waiting id (by rw [waits]; exact List.mem_cons_self)
    refine ⟨upToDate.faultless, upToDate.keyed, accounted, fun x later => ?_, fun k x job busy => ?_⟩
    · refine upToDate.waiting x ?_
      rw [waits]
      exact List.mem_cons_of_mem id later
    · rcases worker?_of_set rfl busy with ⟨_, same⟩ | ⟨_, before⟩
      · cases same
        exact first
      · exact upToDate.jobs k x job before
  | work i id job busy going =>
    have own := upToDate.jobs i id job busy
    have attempted := job.step_attempted setup id s.site
    have untouched {x : Uuid} (other : x ≠ id) {d : Submission} (found : s.site.stored? x = some d) :
        (job.step setup id s.site).1.stored? x = some d := by
      obtain ⟨e, found', _, same⟩ := own.step_stored upToDate.faultless upToDate.keyed setup s .close
        found
      rw [found', same other]
    refine ⟨fun o => (congrFun attempted.fault? o).trans (upToDate.faultless o),
      attempted.keyed upToDate.keyed, accounted, fun x waits => ?_, fun k x job' busy' => ?_⟩
    · change x ∈ (job.step setup id s.site).1.queue.channel at waits
      rw [job.queue_step] at waits
      obtain ⟨d, found, due⟩ := upToDate.waiting x waits
      refine ⟨d, untouched ?_ found, due⟩
      rintro rfl
      exact upToDate.accounted.not_waiting_of_busy busy waits
    · rcases worker?_of_set rfl busy' with ⟨_, same⟩ | ⟨other, before⟩
      · cases same
        exact own.step setup upToDate.faultless upToDate.keyed
      · have theirs := upToDate.jobs k x job' before
        obtain ⟨d, found⟩ := theirs.known
        refine theirs.of_same ((untouched ?_ found).trans found.symm)
        rintro rfl
        exact other (upToDate.accounted.busy_unique busy before)
  | release i id outcome busy =>
    refine ⟨upToDate.faultless, upToDate.keyed, accounted, upToDate.waiting, fun k x job busy' => ?_⟩
    rcases worker?_of_set rfl busy' with ⟨_, same⟩ | ⟨_, before⟩
    · cases same
    · exact upToDate.jobs k x job before
  | stop i idle =>
    refine ⟨upToDate.faultless, upToDate.keyed, accounted, upToDate.waiting, fun k x job busy' => ?_⟩
    rcases worker?_of_set rfl busy' with ⟨_, same⟩ | ⟨_, before⟩
    · cases same
    · exact upToDate.jobs k x job before

theorem act_evolves {setup : Setup} {t : Server} (acts : s.Acts setup t) (next : Event) {id : Uuid}
    {d : Submission} (found : s.site.stored? id = some d) :
    ∃ e, t.site.stored? id = some e ∧ s.Evolves setup next d e := by
  cases acts with
  | work i x job busy going =>
    obtain ⟨e, found', evolves, _⟩ := (upToDate.jobs i x job busy).step_stored upToDate.faultless
      upToDate.keyed setup s next found
    exact ⟨e, found', evolves⟩
  | take | release | stop => exact ⟨d, found, .refl ..⟩

end UpToDate

/-- An id that is drawn is new, and the store is not set to fail. -/
def Event.IsRegular (s : Server) : Event → Prop
  | .request fresh _ => s.site.stored? fresh = none
  | .surroundings x => ∀ o, x.fault? o = none
  | _ => True

/-- What a regular event does. -/
inductive Moves (setup : Setup) (s : Server) (next : Event) : Server → Prop where
  | act (t : Server) (acts : s.Acts setup t) : Moves setup s next t
  | aside (site : Site) (stopping : Bool) (stored : ∀ id, site.stored? id = s.site.stored? id)
      (channel : site.queue.channel = s.site.queue.channel)
      (inFlight : site.queue.inFlight = s.site.queue.inFlight) (fault : site.Faultless) :
      Moves setup s next { s with site, stopping }
  /-- A request saves a submission that is not in flight, and may put it there. -/
  | save (site : Site) (d : Submission) (stored : ∀ id, site.stored? id = (s.site.keep d).stored? id)
      (grounded : d.id ∉ s.site.queue.inFlight)
      (queue : site.queue = s.site.queue ∨
        d.status = .pending ∧ site.queue = s.site.queue.push d.id)
      (evolves : ∀ c, s.site.stored? d.id = some c → s.Evolves setup next c d)
      (fault : site.Faultless) :
      Moves setup s next { s with site }

namespace Moves

variable {setup : Setup} {s t : Server} {next : Event} (moves : s.Moves setup next t)
include moves

theorem upToDate (upToDate : s.UpToDate) : t.UpToDate := by
  cases moves with
  | act t acts => exact upToDate.act acts
  | aside site stopping stored channel inFlight fault =>
    refine ⟨fault, upToDate.keyed.of_stored stored,
      upToDate.accounted.of_same channel inFlight rfl, fun id waits => ?_, fun i id job busy => ?_⟩
    · change id ∈ site.queue.channel at waits
      rw [channel] at waits
      obtain ⟨d, found, due⟩ := upToDate.waiting id waits
      exact ⟨d, (stored id).trans found, due⟩
    · exact (upToDate.jobs i id job busy).of_same (stored id)
  | save site d stored grounded queue evolves fault =>
    have untouched {id : Uuid} (flying : id ∈ s.site.queue.inFlight) :
        site.stored? id = s.site.stored? id := by
      refine (stored id).trans (Site.stored?_keep_other s.site ?_)
      rintro rfl
      exact grounded flying
    have waited {id : Uuid} (waits : id ∈ s.site.queue.channel) :
        ∃ e, site.stored? id = some e ∧ e.status = .pending := by
      obtain ⟨e, found, due⟩ := upToDate.waiting id waits
      exact ⟨e, (untouched (upToDate.accounted.of_waiting waits)).trans found, due⟩
    refine ⟨fault, (upToDate.keyed.keep d).of_stored stored, ?_, fun id waits => ?_,
      fun i id job busy => ?_⟩
    · rcases queue with queue | ⟨_, queue⟩
      · exact upToDate.accounted.of_same (congrArg _ queue) (congrArg _ queue) rfl
      · exact upToDate.accounted.push grounded queue rfl
    · change id ∈ site.queue.channel at waits
      rcases queue with queue | ⟨due, queue⟩
      · rw [queue] at waits
        exact waited waits
      · rw [queue] at waits
        rcases Queue.mem_channel_of_push waits with before | rfl
        · exact waited before
        · exact ⟨d, (stored d.id).trans (s.site.stored?_keep_same d), due⟩
    · exact (upToDate.jobs i id job busy).of_same (untouched (upToDate.accounted.of_busy busy))

theorem evolves (upToDate : s.UpToDate) {id : Uuid} {d : Submission}
    (found : s.site.stored? id = some d) :
    ∃ e, t.site.stored? id = some e ∧ s.Evolves setup next d e := by
  cases moves with
  | act t acts => exact upToDate.act_evolves acts next found
  | aside site stopping stored => exact ⟨d, (stored id).trans found, .refl ..⟩
  | save site e stored grounded queue evolves fault =>
    show ∃ f, site.stored? id = some f ∧ _
    rw [stored, Site.stored?_keep]
    split
    · rename_i same
      exact ⟨e, rfl, evolves d (same ▸ found)⟩
    · exact ⟨d, found, .refl ..⟩

end Moves

theorem intake_moves (setup : Setup) (next : Event) {s : Server} (upToDate : s.UpToDate)
    {counted : Site} (recounted : s.site.Recounted counted) {d : Submission}
    (unused : s.site.stored? d.id = none) (due : d.status = .pending) {p : Site × Api.Intake}
    (ends : Api.Intake.Ends counted d p) : s.Moves setup next { s with site := p.1 } := by
  obtain ⟨records, metrics, guests, rfl⟩ := recounted
  have grounded : d.id ∉ s.site.queue.inFlight := by
    intro flying
    obtain ⟨c, found⟩ := upToDate.known flying
    rw [unused] at found
    contradiction
  have unknown (e : Submission) (own : e.id = d.id) (c : Submission)
      (found : s.site.stored? e.id = some c) : s.Evolves setup next c e := by
    rw [own, unused] at found
    contradiction
  cases ends with
  | barred => exact .aside _ s.stopping (fun _ => rfl) rfl rfl upToDate.faultless
  | queued =>
    exact .save _ d (fun _ => rfl) grounded (.inr ⟨due, rfl⟩) (unknown d rfl) upToDate.faultless
  | flying metrics offered =>
    rcases s.site.queue.enqueue_cases d.id with ⟨_, other⟩ | ⟨flying, _⟩ | ⟨e, other⟩
    · cases other.symm.trans offered
    · exact absurd flying grounded
    · cases other.symm.trans offered
  | withdrawn metrics e =>
    exact .save _ (d.fail ("not queued: " ++ e.message) s.site.now)
      (Site.stored?_keep_keep s.site (show d.id = (d.fail _ _).id from rfl)) grounded (.inl rfl)
      (unknown _ rfl) upToDate.faultless

theorem requeue_moves (setup : Setup) (next : Event) {s : Server} (upToDate : s.UpToDate)
    {id : Uuid} {p : Site × Api.Requeue} (ends : Api.Requeue.Ends s.site id p)
    (passes : ∀ d, p.2.result = .ok d → s.Passes setup next id .internalError .pending) :
    s.Moves setup next { s with site := p.1 } := by
  have still : s.Moves setup next s :=
    .aside s.site s.stopping (fun _ => rfl) rfl rfl upToDate.faultless
  have restored (failed : Submission) (found : s.site.stored? id = some failed)
      (metrics : Metrics) : s.Moves setup next
        { s with site := { (s.site.keep (failed.reset s.site.now)).keep failed with metrics } } := by
    refine .aside _ s.stopping (fun x => ?_) rfl rfl upToDate.faultless
    have own := upToDate.keyed id failed found
    have same := (failed.reset_sameWork s.site.now).id
    refine (Site.stored?_keep_keep s.site same x).trans (Site.stored?_keep_stored ?_ x)
    exact own.symm ▸ found
  cases ends with
  | missing | barred => exact still
  | queued failed found broken metrics offered =>
    have own := upToDate.keyed id failed found
    have grounded : failed.id ∉ s.site.queue.inFlight :=
      ((s.site.queue.enqueue_queued_iff failed.id).mp (congrArg Prod.fst offered)).2.1
    refine .save _ (failed.reset s.site.now) (fun _ => rfl) grounded (.inr ⟨rfl, rfl⟩)
      (fun c stored => ?_) upToDate.faultless
    obtain rfl : failed = c :=
      Option.some.inj ((own.symm ▸ found : s.site.stored? failed.id = some failed).symm.trans stored)
    refine ⟨failed.reset_sameWork _, .inr ?_⟩
    rw [broken, own]
    exact passes _ rfl
  | flying failed found broken metrics => exact restored failed found metrics
  | refused failed found broken metrics => exact restored failed found metrics

theorem request_moves (setup : Setup) {s : Server} (upToDate : s.UpToDate) {fresh : Uuid}
    (unused : s.site.stored? fresh = none) (r : Api.Request) :
    s.Moves setup (.request fresh r) (s.advance setup (.request fresh r)) := by
  have effect := Api.answer_effect setup.config fresh r s.site
  simp only [advance]
  generalize answered : StateT.run (Api.answer setup.config fresh r) s.site = ran at effect
  cases effect with
  | counted a after recounted =>
    obtain ⟨records, metrics, guests, rfl⟩ := recounted
    exact .aside _ s.stopping (fun _ => rfl) rfl rfl upToDate.faultless
  | intake counted recounted caller _ _ _ problemId language code usage p finished =>
    have faultless : counted.Faultless := by
      obtain ⟨records, metrics, guests, rfl⟩ := recounted
      exact upToDate.faultless
    have ends := Api.Intake.finish_ends faultless
      (.new fresh caller.userId problemId language code counted.now)
    rw [← finished] at ends
    exact intake_moves setup _ upToDate recounted unused rfl ends
  | requeue id asks caller _ _ p finished =>
    have ends := Api.Requeue.finish_ends upToDate.faultless id
    rw [← finished] at ends
    refine requeue_moves setup _ upToDate ends fun d accepted => ?_
    refine .again fresh r rfl asks _ (congrArg Prod.fst answered) ?_
    rw [accepted]
    rfl

theorem advance_moves (setup : Setup) {s : Server} (upToDate : s.UpToDate) {next : Event}
    (regular : next.IsRegular s) : s.Moves setup next (s.advance setup next) := by
  have still : s.Moves setup next s :=
    .aside s.site s.stopping (fun _ => rfl) rfl rfl upToDate.faultless
  cases next with
  | act a =>
    simp only [advance]
    cases acted : s.act? setup a with
    | none => exact still
    | some t => exact .act t (act?_acts acted)
  | request fresh r => exact request_moves setup upToDate regular r
  | unit u =>
    have queue := s.site.queue_runUnit setup.engine u
    have store := (s.site.aside_runUnit setup.engine u).store
    refine .aside _ s.stopping (fun id => ?_) ?_ ?_ ?_
    · unfold Site.stored?
      rw [store]
    · rw [queue]
    · rw [queue]
    · intro o
      rw [store]
      exact upToDate.faultless o
  | surroundings x => exact .aside _ s.stopping (fun _ => rfl) rfl rfl regular
  | close => exact .aside _ true (fun _ => rfl) rfl rfl upToDate.faultless

def Regular (setup : Setup) : List Event → Server → Prop
  | [], _ => True
  | e :: es, s => e.IsRegular s ∧ Regular setup es (s.advance setup e)

theorem regular_append {setup : Setup} {first next : List Event} {s : Server} :
    Regular setup (first ++ next) s ↔
      Regular setup first s ∧ Regular setup next (execute setup first s) := by
  induction first generalizing s with
  | nil => exact ⟨fun regular => ⟨trivial, regular⟩, fun both => both.2⟩
  | cons e es ih =>
    constructor
    · rintro ⟨now, later⟩
      exact ⟨⟨now, (ih.mp later).1⟩, (ih.mp later).2⟩
    · rintro ⟨⟨now, soon⟩, later⟩
      exact ⟨now, ih.mpr ⟨soon, later⟩⟩

theorem execute_upToDate (setup : Setup) {schedule : List Event} {s : Server}
    (regular : Regular setup schedule s) (upToDate : s.UpToDate) :
    (execute setup schedule s).UpToDate := by
  induction schedule generalizing s with
  | nil => exact upToDate
  | cons e es ih => exact ih regular.2 ((advance_moves setup upToDate regular.1).upToDate upToDate)

/-- What was handed in stays through a run, and so does a verdict about the program. -/
theorem execute_stays (setup : Setup) {schedule : List Event} {s : Server}
    (regular : Regular setup schedule s) (upToDate : s.UpToDate) {id : Uuid} {d : Submission}
    (found : s.site.stored? id = some d) :
    ∃ f, (execute setup schedule s).site.stored? id = some f ∧ d.SameWork f ∧
      (d.IsSettled → f = d) := by
  induction schedule generalizing s d with
  | nil => exact ⟨d, found, .refl d, fun _ => rfl⟩
  | cons next es ih =>
    have moves := advance_moves setup upToDate regular.1
    obtain ⟨e, found', evolves⟩ := moves.evolves upToDate found
    obtain ⟨f, last, same, settled⟩ := ih regular.2 (moves.upToDate upToDate) found'
    refine ⟨f, last, evolves.same.trans same, fun settles => ?_⟩
    obtain rfl := evolves.eq_of_settled settles
    exact settled settles

/-- While the store does not fail, an event leaves a stored submission alone or moves its status on
by the rules, whatever comes later leaves what was handed in, and a verdict about the program is
final. -/
theorem life_of_submission (setup : Setup) {site : Site} (faultless : site.Faultless)
    (keyed : site.Keyed) (channel : site.queue.channel = []) (inFlight : site.queue.inFlight = [])
    (workers : Nat) {before after : List Event} {next : Event}
    (regular : Regular setup (before ++ next :: after) (withWorkers site workers)) {id : Uuid}
    {d : Submission}
    (found : (execute setup before (withWorkers site workers)).site.stored? id = some d) :
    let s := execute setup before (withWorkers site workers)
    let t := s.advance setup next
    let u := execute setup after t
    (∃ e, t.site.stored? id = some e ∧ (e = d ∨ s.Passes setup next id d.status e.status)) ∧
      ∃ f, u.site.stored? id = some f ∧ d.SameWork f ∧ (d.IsSettled → f = d) := by
  intro s t u
  obtain ⟨regular_before, regular_rest⟩ := regular_append.mp regular
  have upToDate : s.UpToDate := execute_upToDate setup regular_before
    (withWorkers_upToDate faultless keyed channel inFlight workers)
  have stays := execute_stays setup regular_rest upToDate found
  refine ⟨?_, stays⟩
  have moves := advance_moves setup upToDate regular_rest.1
  obtain ⟨e, found', evolves⟩ := moves.evolves upToDate found
  have own := upToDate.keyed id d found
  exact ⟨e, found', own ▸ evolves.passes⟩

end Server

namespace Rollback

def again : Api.Request :=
  ⟨"POST", "/admin/submissions/00000000-0000-0000-0000-000000000007/requeue",
    [("x-user-id", "root"), ("x-user-role", "admin")], "", none⟩

theorem life_of_failed :
    let s : Server := .withWorkers site 2
    let t := s.advance Echo.setup (.request (.ofNat 8) again)
    let u := Server.execute Echo.setup [.act (.take 0), .act (.work 0), .act (.work 0), .close] t
    (∃ e, t.site.stored? (.ofNat 7) = some e ∧
        (e = failed ∨
          s.Passes Echo.setup (.request (.ofNat 8) again) (.ofNat 7) failed.status e.status)) ∧
      ∃ f, u.site.stored? (.ofNat 7) = some f ∧ failed.SameWork f ∧
        (failed.IsSettled → f = failed) := by
  have faultless : site.Faultless := fun _ => rfl
  have keyed : site.Keyed := MemoryStore.keyed_ofDocuments _ _ _ _
  have regular : Server.Regular Echo.setup ([] ++ .request (.ofNat 8) again ::
      [.act (.take 0), .act (.work 0), .act (.work 0), .close]) (.withWorkers site 2) :=
    ⟨rfl, trivial, trivial, trivial, trivial, trivial⟩
  exact Server.life_of_submission Echo.setup faultless keyed rfl rfl 2 regular rfl

end Rollback

end Grader

import Grader.Proofs.Idle

/-! Who sees to a submission without a verdict. One that waits is in the queue, with a worker that
has not begun its run, or with a request that has not been answered; one that runs is with a worker
or with a requeue that is going to offer it or to write its failed state back, or it was lost in a
crash. -/
namespace Grader

open Api (Intake Requeue)

namespace Api

def Intake.Covers (id : Uuid) : Intake → Prop
  | .offer s | .withdraw s _ => s.id = id
  | _ => False

/-- The requeue has made the submission wait and has not been answered. -/
def Requeue.Covers (id : Uuid) : Requeue → Prop
  | .offer failed _ | .restore failed _ => failed.id = id
  | _ => False

theorem Intake.step_channel (site : Site) (k : Intake) {id : Uuid}
    (waits : id ∈ site.queue.channel) : id ∈ (k.step site).1.queue.channel := by
  rcases k.queue_cases site with queue | ⟨s, _, _, queue⟩
  · rw [queue]
    exact waits
  · rw [queue]
    exact List.mem_append_left _ waits

theorem Requeue.step_channel (site : Site) (q : Requeue) {id : Uuid}
    (waits : id ∈ site.queue.channel) : id ∈ (q.step site).1.queue.channel := by
  rcases q.queue_cases site with queue | ⟨failed, current, _, _, queue, _⟩
  · rw [queue]
    exact waits
  · rw [queue]
    exact List.mem_append_left _ waits

/-- A submission that an intake answers for is still its own, in the queue, or has a verdict. -/
theorem Intake.Fits.covers {site : Site} {k : Intake} (fits : k.Fits site) {id : Uuid}
    (covers : k.Covers id) :
    (k.step site).2.Covers id ∨ id ∈ (k.step site).1.queue.channel ∨
      ∃ d ∈ k.saves? site, d.id = id ∧ d.status.isTerminal = true := by
  cases k with
  | offer s =>
    obtain rfl : s.id = id := covers
    rcases step_offer site s with ⟨_, queue, _⟩ | ⟨flying, _, _⟩ | ⟨e, _, next⟩
    · rw [queue]
      exact .inr (.inl (Queue.mem_channel_push _ _))
    · exact absurd flying (fits.grounded s rfl)
    · rw [next]
      exact .inl rfl
  | withdraw s e => exact .inr (.inr ⟨_, rfl, covers, rfl⟩)
  | findProblem | store | done => exact covers.elim

theorem Intake.Fits.saves {site : Site} (saves : site.Saves) {k : Intake} (fits : k.Fits site)
    {d : Submission} (saved : d ∈ k.saves? site) :
    d.status = .pending ∧ (k.step site).2.Covers d.id ∨ d.status.isTerminal = true := by
  cases k with
  | store s =>
    obtain rfl := Option.some.inj saved
    rw [step_store saves s]
    exact .inl ⟨fits.due s rfl, rfl⟩
  | withdraw s e =>
    obtain rfl := Option.some.inj saved
    exact .inr rfl
  | findProblem | offer | done => exact (Option.not_mem_none d saved).elim

theorem Requeue.step_covers {site : Site} {q : Requeue}
    (broken : ∀ f ∈ q.failed?, f.status = .internalError) {id : Uuid} (covers : q.Covers id) :
    (q.step site).2.Covers id ∨ id ∈ (q.step site).1.queue.channel ∨
      ∃ d ∈ q.saves? site, d.id = id ∧ d.status.isTerminal = true := by
  cases q with
  | offer failed current =>
    obtain rfl : failed.id = id := covers
    rcases step_offer site failed current with ⟨_, queue, _⟩ | ⟨rejection, _, next⟩
    · rw [queue]
      exact .inr (.inl (Queue.mem_channel_push _ _))
    · rw [next]
      exact .inl rfl
  | restore failed rejection =>
    exact .inr (.inr ⟨failed, rfl, covers, by rw [broken failed rfl]; rfl⟩)
  | load | reset | done => exact covers.elim

/-- A failed state stays at hand until it is offered or written back. -/
theorem Requeue.step_holds (site : Site) {q : Requeue} {failed : Submission}
    (read : failed ∈ q.failed?) :
    failed ∈ (q.step site).2.failed? ∨ failed.id ∈ (q.step site).1.queue.channel ∨
      ∃ d ∈ q.saves? site, d.id = failed.id := by
  cases q with
  | reset f | restore f rejection =>
    obtain rfl := Option.some.inj read
    exact .inr (.inr ⟨_, rfl, rfl⟩)
  | offer f current =>
    obtain rfl := Option.some.inj read
    rcases step_offer site f current with ⟨_, queue, _⟩ | ⟨rejection, _, next⟩
    · rw [queue]
      exact .inr (.inl (Queue.mem_channel_push _ _))
    · rw [next]
      exact .inl rfl
  | load | done => exact (Option.not_mem_none failed read).elim

theorem Requeue.step_saves {site : Site} (saves : site.Saves) {q : Requeue}
    (broken : ∀ f ∈ q.failed?, f.status = .internalError) {d : Submission}
    (saved : d ∈ q.saves? site) :
    d.status = .pending ∧ (q.step site).2.Covers d.id ∨ d.status.isTerminal = true := by
  cases q with
  | reset failed =>
    obtain rfl := Option.some.inj saved
    rw [step_reset saves failed]
    exact .inl ⟨rfl, rfl⟩
  | restore failed rejection =>
    obtain rfl := Option.some.inj saved
    exact .inr (by rw [broken failed rfl]; rfl)
  | load | offer | done => exact (Option.not_mem_none d saved).elim

theorem Intake.submission?_of_covers {k : Intake} {id : Uuid} (covers : k.Covers id) :
    ∃ s ∈ k.submission?, s.id = id := by
  cases k with
  | offer s | withdraw s e => exact ⟨s, rfl, covers⟩
  | findProblem | store | done => exact covers.elim

theorem Requeue.failed?_of_covers {q : Requeue} {id : Uuid} (covers : q.Covers id) :
    ∃ f ∈ q.failed?, f.id = id := by
  cases q with
  | offer f current | restore f rejection => exact ⟨f, rfl, covers⟩
  | load | reset | done => exact covers.elim

end Api

namespace Traffic

inductive Awaits (t : Traffic) (id : Uuid) : Prop where
  | queued (waits : id ∈ t.site.queue.channel)
  | taken (i : Nat) (job : Job) (busy : t.server.worker? i = some (.busy id job))
      (early : job.IsEarly)
  | taking (i : Nat) (k : Intake) (there : t.intakes[i]? = some k) (covers : k.Covers id)
  | repeating (j : Nat) (q : Requeue) (there : t.requeues[j]? = some q) (covers : q.Covers id)

def Holds (t : Traffic) (id : Uuid) : Prop := ∃ j, t.HoldsAt j id

/-- Somebody sees to a submission that is said to run, or what has happened is `lost`. -/
inductive Tends (lost : Uuid → Prop) (t : Traffic) (id : Uuid) : Prop where
  | awaits (awaits : t.Awaits id)
  | runs (i : Nat) (job : Job) (busy : t.server.worker? i = some (.busy id job)) (late : job.IsLate)
  | held (holds : t.Holds id)
  | gone (gone : lost id)

/-- A worker has had a crash in a run, and nobody else knows of the submission. -/
structure Loses (t : Traffic) (id : Uuid) : Prop where
  crashed : ∃ i, t.server.worker? i = some (.busy id (.done .crashed))
  running : ∃ d, t.site.stored? id = some d ∧ d.status = .running
  unheld : ¬t.Holds id

/-- Whatever has no verdict is seen to or lost. -/
def Attended (lost : Uuid → Prop) (t : Traffic) : Prop :=
  ∀ id d, t.site.stored? id = some d →
    (d.status = .pending → t.Awaits id) ∧ (d.status = .running → t.Tends lost id)

theorem vacuous {status : Status} (ended : status.isTerminal = true) {P Q : Prop} :
    (status = .pending → P) ∧ (status = .running → Q) := by
  constructor
  · rintro rfl
    contradiction
  · rintro rfl
    contradiction

namespace Attended

variable {lost : Uuid → Prop} {t : Traffic} (attended : t.Attended lost)
include attended

theorem later : t.Attended fun id => lost id ∨ t.Loses id := by
  intro id d found
  refine ⟨(attended id d found).1, fun status => ?_⟩
  cases (attended id d found).2 status with
  | awaits awaits => exact .awaits awaits
  | runs i job busy late => exact .runs i job busy late
  | held holds => exact .held holds
  | gone gone => exact .gone (.inl gone)

theorem grown {u : Traffic} (stored : ∀ id, u.site.stored? id = t.site.stored? id)
    (channel : u.site.queue.channel = t.site.queue.channel)
    (workers : u.server.workers = t.server.workers)
    (intakes : ∀ (i : Nat) k, t.intakes[i]? = some k → u.intakes[i]? = some k)
    (requeues : ∀ (j : Nat) q, t.requeues[j]? = some q → u.requeues[j]? = some q) :
    u.Attended lost := by
  have worker (i : Nat) : u.server.worker? i = t.server.worker? i := by
    unfold Server.worker?
    rw [workers]
  have awaits {id : Uuid} (before : t.Awaits id) : u.Awaits id := by
    cases before with
    | queued waits => exact .queued (channel ▸ waits)
    | taken i job busy early => exact .taken i job ((worker i).trans busy) early
    | taking i k there covers => exact .taking i k (intakes i k there) covers
    | repeating j q there covers => exact .repeating j q (requeues j q there) covers
  intro id d found
  obtain ⟨pending, running⟩ := attended id d ((stored id).symm.trans found)
  refine ⟨fun status => awaits (pending status), fun status => ?_⟩
  cases running status with
  | awaits before => exact .awaits (awaits before)
  | runs i job busy late => exact .runs i job ((worker i).trans busy) late
  | held holds =>
    obtain ⟨j, q, f, there, read, own⟩ := holds
    exact .held ⟨j, q, f, requeues j q there, read, own⟩
  | gone gone => exact .gone gone

/-- A worker that was not at work on anything may turn to something else, if it takes over what
leaves the channel. -/
theorem turn {server : Server} {i : Nat} {v w : Worker} (there : t.server.worker? i = some v)
    (free : ∀ id job, v = .busy id job → ∃ outcome, job = .done outcome)
    (set : server.workers = t.server.workers.set i w)
    (stored : ∀ id, server.site.stored? id = t.site.stored? id)
    (channel : ∀ id ∈ t.site.queue.channel,
      id ∈ server.site.queue.channel ∨ w = .busy id .load) :
    ({ t with server } : Traffic).Attended lost := by
  have other {k : Nat} {id : Uuid} {job : Job} (busy : t.server.worker? k = some (.busy id job))
      (going : ∀ outcome, job ≠ .done outcome) : server.worker? k = some (.busy id job) := by
    refine (Server.worker?_set_other set ?_).trans busy
    rintro rfl
    obtain ⟨outcome, ended⟩ := free id job (Option.some.inj (there.symm.trans busy))
    exact going outcome ended
  have awaits {id : Uuid} (before : t.Awaits id) : ({ t with server } : Traffic).Awaits id := by
    cases before with
    | queued waits =>
      rcases channel id waits with stays | rfl
      · exact .queued stays
      · exact .taken i .load (Server.worker?_set_same there set) trivial
    | taken k job busy early =>
      refine .taken k job (other busy fun outcome ended => ?_) early
      rw [ended] at early
      exact early
    | taking a k there' covers => exact .taking a k there' covers
    | repeating j q there' covers => exact .repeating j q there' covers
  intro id d found
  obtain ⟨pending, running⟩ := attended id d ((stored id).symm.trans found)
  refine ⟨fun status => awaits (pending status), fun status => ?_⟩
  cases running status with
  | awaits before => exact .awaits (awaits before)
  | runs k job busy late =>
    refine .runs k job (other busy fun outcome ended => ?_) late
    rw [ended] at late
    exact late
  | held holds => exact .held holds
  | gone gone => exact .gone gone

theorem work {setup : Setup} (orderly : t.Orderly) {i : Nat} {x : Uuid} {job : Job}
    (busy : t.server.worker? i = some (.busy x job)) (going : job.outcome? = none) {server : Server}
    (site : server.site = (job.step setup x t.site).1)
    (set : server.workers = t.server.workers.set i (.busy x (job.step setup x t.site).2)) :
    let u : Traffic := { t with server }
    u.Attended fun id => lost id ∨ u.Loses id := by
  intro u
  have attempted := job.step_attempted setup x t.site
  rw [← site] at attempted
  have own := Job.saves?_id (orderly.jobs i x job busy) t.site
  have mine : u.server.worker? i = some (.busy x (job.step setup x t.site).2) :=
    Server.worker?_set_same busy set
  have channel : u.site.queue.channel = t.site.queue.channel :=
    congrArg Queue.channel ((congrArg Site.queue site).trans (job.queue_step setup x t.site))
  have after {d : Submission} (found : u.site.stored? x = some d) (status : d.status = .running)
      (next : (job.step setup x t.site).2.IsLate ∨
        (job.step setup x t.site).2 = .done .crashed) :
      u.Tends (fun id => lost id ∨ u.Loses id) x := by
    rcases next with late | broken
    · exact .runs i _ mine late
    · by_cases holds : u.Holds x
      · exact .held holds
      · rw [broken] at mine
        exact .gone (.inr ⟨⟨i, mine⟩, ⟨d, found, status⟩, holds⟩)
  intro id d found
  rcases attempted.found_cases orderly.faultless.saves found with ⟨saved, rfl⟩ | ⟨unsaved, before⟩
  · -- The job has saved the submission itself, and not so that it waits.
    obtain rfl := own d saved
    rcases Job.early_or_late going with early | late
    · rcases Job.step_early setup orderly.faultless early with ⟨nothing, _⟩ | ⟨e, kept, left⟩
      · rw [nothing] at saved
        exact (Option.not_mem_none d saved).elim
      · obtain rfl := Option.some.inj (kept.symm.trans saved)
        rcases left with ended | ⟨runs, next⟩
        · exact vacuous ended
        · exact ⟨fun status => by rw [runs] at status; contradiction,
            fun status => after found status next⟩
    · rcases Job.step_late setup d.id t.site late with ⟨nothing, _⟩ | ⟨e, kept, ended⟩
      · rw [nothing] at saved
        exact (Option.not_mem_none d saved).elim
      · obtain rfl := Option.some.inj (kept.symm.trans saved)
        exact vacuous ended
  · have awaits (due : d.status.isTerminal = false) (awaits : t.Awaits id) : u.Awaits id := by
      cases awaits with
      | queued waits => exact .queued (channel ▸ waits)
      | taken k job' busy' early =>
        by_cases same : k = i
        · obtain rfl := same
          cases Option.some.inj (busy.symm.trans busy')
          rcases Job.step_early setup orderly.faultless early with ⟨_, next⟩ | ⟨e, kept, _⟩
          · rcases next with early' | ended
            · exact .taken k _ mine early'
            · rw [ended d before] at due
              contradiction
          · exact absurd (own e kept) (unsaved e kept)
        · exact .taken k job' ((Server.worker?_set_other set same).trans busy') early
      | taking a k there covers => exact .taking a k there covers
      | repeating j q there covers => exact .repeating j q there covers
    obtain ⟨pending, running⟩ := attended id d before
    refine ⟨fun status => awaits (by rw [status]; rfl) (pending status), fun status => ?_⟩
    cases running status with
    | awaits before => exact .awaits (awaits (by rw [status]; rfl) before)
    | runs k job' busy' late =>
      by_cases same : k = i
      · obtain rfl := same
        cases Option.some.inj (busy.symm.trans busy')
        rcases Job.step_late setup x t.site late with ⟨_, next⟩ | ⟨e, kept, _⟩
        · exact after found status next
        · exact absurd (own e kept) (unsaved e kept)
      · exact .runs k job' ((Server.worker?_set_other set same).trans busy') late
    | held holds => exact .held holds
    | gone gone => exact .gone (.inl gone)

theorem intake (orderly : t.Orderly) {i : Nat} {k : Intake} (there : t.intakes[i]? = some k) :
    ({ t.withSite (k.step t.site).1 with
      intakes := t.intakes.set i (k.step t.site).2 } : Traffic).Attended lost := by
  have fits := orderly.intakes i k there
  obtain ⟨inside, _⟩ := List.getElem?_eq_some_iff.mp there
  have mine : (t.intakes.set i (k.step t.site).2)[i]? = some (k.step t.site).2 :=
    List.getElem?_set_self inside
  intro id d found
  rcases (k.step_attempted t.site).found_cases orderly.faultless.saves found with
    ⟨saved, rfl⟩ | ⟨unsaved, before⟩
  · rcases fits.saves orderly.faultless.saves saved with ⟨waits, covers⟩ | ended
    · exact ⟨fun _ => .taking i _ mine covers, fun status => by rw [waits] at status; contradiction⟩
    · exact vacuous ended
  · have awaits (awaits : t.Awaits id) :
        ({ t.withSite (k.step t.site).1 with
          intakes := t.intakes.set i (k.step t.site).2 } : Traffic).Awaits id := by
      cases awaits with
      | queued waits => exact .queued (k.step_channel t.site waits)
      | taken w job busy early => exact .taken w job busy early
      | taking a l there' covers =>
        by_cases same : a = i
        · obtain rfl := same
          obtain rfl := Option.some.inj (there.symm.trans there')
          rcases fits.covers covers with still | waits | ⟨e, saved, owner, _⟩
          · exact .taking a _ mine still
          · exact .queued waits
          · exact absurd owner (unsaved e saved)
        · exact .taking a l ((List.getElem?_set_ne (Ne.symm same)).trans there') covers
      | repeating j q there' covers => exact .repeating j q there' covers
    obtain ⟨pending, running⟩ := attended id d before
    refine ⟨fun status => awaits (pending status), fun status => ?_⟩
    cases running status with
    | awaits before => exact .awaits (awaits before)
    | runs w job busy late => exact .runs w job busy late
    | held holds => exact .held holds
    | gone gone => exact .gone gone

theorem requeue (orderly : t.Orderly) {j : Nat} {q : Requeue} (there : t.requeues[j]? = some q) :
    ({ t.withSite (q.step t.site).1 with
      requeues := t.requeues.set j (q.step t.site).2 } : Traffic).Attended lost := by
  have broken (f : Submission) (read : f ∈ q.failed?) : f.status = .internalError :=
    (orderly.failed j q there f read).1
  obtain ⟨inside, _⟩ := List.getElem?_eq_some_iff.mp there
  have mine : (t.requeues.set j (q.step t.site).2)[j]? = some (q.step t.site).2 :=
    List.getElem?_set_self inside
  have other {a : Nat} {p : Requeue} (there' : t.requeues[a]? = some p) (different : a ≠ j) :
      (t.requeues.set j (q.step t.site).2)[a]? = some p :=
    (List.getElem?_set_ne (Ne.symm different)).trans there'
  intro id d found
  rcases (q.step_attempted t.site).found_cases orderly.faultless.saves found with
    ⟨saved, rfl⟩ | ⟨unsaved, before⟩
  · rcases Requeue.step_saves orderly.faultless.saves broken saved with ⟨waits, covers⟩ | ended
    · exact ⟨fun _ => .repeating j _ mine covers,
        fun status => by rw [waits] at status; contradiction⟩
    · exact vacuous ended
  · have awaits (awaits : t.Awaits id) :
        ({ t.withSite (q.step t.site).1 with
          requeues := t.requeues.set j (q.step t.site).2 } : Traffic).Awaits id := by
      cases awaits with
      | queued waits => exact .queued (q.step_channel t.site waits)
      | taken w job busy early => exact .taken w job busy early
      | taking a k there' covers => exact .taking a k there' covers
      | repeating a p there' covers =>
        by_cases same : a = j
        · obtain rfl := same
          obtain rfl := Option.some.inj (there.symm.trans there')
          rcases Requeue.step_covers broken covers with still | waits | ⟨e, saved, owner, _⟩
          · exact .repeating a _ mine still
          · exact .queued waits
          · exact absurd owner (unsaved e saved)
        · exact .repeating a p (other there' same) covers
    obtain ⟨pending, running⟩ := attended id d before
    refine ⟨fun status => awaits (pending status), fun status => ?_⟩
    cases running status with
    | awaits before => exact .awaits (awaits before)
    | runs w job busy late => exact .runs w job busy late
    | held holds =>
      obtain ⟨a, p, f, there', read, rfl⟩ := holds
      by_cases same : a = j
      · obtain rfl := same
        obtain rfl := Option.some.inj (there.symm.trans there')
        rcases Requeue.step_holds t.site read with still | waits | ⟨e, saved, owner⟩
        · exact .held ⟨a, _, f, mine, still, rfl⟩
        · exact .awaits (.queued waits)
        · exact absurd owner (unsaved e saved)
      · exact .held ⟨a, p, f, other there' same, read, rfl⟩
    | gone gone => exact .gone gone

/-- After each move everything is seen to, but for what was lost so far. -/
theorem moves {setup : Setup} (orderly : t.Orderly) {e : Event} {u : Traffic}
    (moves : t.Moves setup e u) : u.Attended fun id => lost id ∨ u.Loses id := by
  cases moves with
  | act a server acts =>
    cases acts with
    | take i id rest idle waits =>
      refine later (turn attended idle (fun _ _ same => by cases same) rfl (fun _ => rfl) ?_)
      intro x member
      rw [show t.site.queue.channel = id :: rest from waits] at member
      rcases List.mem_cons.mp member with rfl | behind
      · exact .inr rfl
      · exact .inl behind
    | work i id job busy going => exact attended.work orderly busy going rfl rfl
    | release i id outcome busy =>
      refine later (turn attended busy (fun _ job same => ?_) rfl (fun _ => rfl) fun _ => .inl)
      cases same
      exact ⟨outcome, rfl⟩
    | stop i idle =>
      exact later (turn attended idle (fun _ _ same => by cases same) rfl (fun _ => rfl) fun _ => .inl)
  | submit fresh userId problemId language code unused =>
    refine later (attended.grown (fun _ => rfl) rfl rfl (fun i k there => ?_) fun _ _ there => there)
    obtain ⟨inside, _⟩ := List.getElem?_eq_some_iff.mp there
    exact (List.getElem?_append_left inside).trans there
  | intake i k there => exact later (attended.intake orderly there)
  | again x =>
    refine later (attended.grown (fun _ => rfl) rfl rfl (fun _ _ there => there) fun j q there => ?_)
    obtain ⟨inside, _⟩ := List.getElem?_eq_some_iff.mp there
    exact (List.getElem?_append_left inside).trans there
  | requeue j q there => exact later (attended.requeue orderly there)
  | aside e site stopping submissions channel inFlight fault =>
    refine later (attended.grown (fun id => ?_) channel rfl (fun _ _ there => there)
      fun _ _ there => there)
    show site.stored? id = t.site.stored? id
    unfold Site.stored?
    rw [submissions]

end Attended

end Traffic

end Grader

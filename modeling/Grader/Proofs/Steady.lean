import Grader.Proofs.Books
import Grader.Proofs.Lifecycle

/-! Runs that complete whatever they take up. While no worker has a crash and a failed submission is
with one requeue at a time, what waits in the queue is PENDING when a worker comes to it, so that
the worker stores a verdict before it lets go. -/
namespace Grader

open Api (Intake Requeue)

/-- A job that has at hand what is stored ends with a completion, unless it crashes. -/
theorem Job.UpToDate.step_ends {id : Uuid} {site : Site} {j : Job} (upToDate : j.UpToDate id site)
    (setup : Setup) (faultless : site.Faultless) (going : j.outcome? = none) {outcome : Outcome}
    (ended : (j.step setup id site).2 = .done outcome) :
    outcome = .crashed ∨ outcome.isCompleted = true := by
  have concluded {s : Submission} {elapsedMs : Nat}
      (done : (conclude s elapsedMs site).2 = .done outcome) : outcome.isCompleted = true := by
    simp only [conclude, faultless.saves.save] at done
    cases done
    rfl
  cases j with
  | load =>
    obtain ⟨d, found, due⟩ := upToDate
    simp only [Job.step, faultless.submission?, found, loaded, due] at ended
    cases ended
  | findProblem s =>
    simp only [Job.step, problemFound] at ended
    split at ended <;> cases ended
  | findCases s p =>
    simp only [Job.step, casesFound] at ended
    split at ended <;> cases ended
  | giveUp s detail => exact .inr (concluded ended)
  | mark s p cases =>
    simp only [Job.step, faultless.saves.save] at ended
    rcases begin_cases setup (s.markRunning site.now) p cases with ⟨plan, progress, run⟩ | crashed
    · rw [run] at ended
      cases ended
    · rw [crashed] at ended
      cases ended
      exact .inl rfl
  | run s plan progress =>
    simp only [Job.step] at ended
    split at ended <;> cases ended
  | await s plan progress c reply =>
    simp only [Job.step] at ended
    split at ended
    · cases ended
      exact .inl rfl
    · cases ended
    · cases ended
  | save s e elapsedMs => exact .inr (concluded ended)
  | done outcome => contradiction

/-- Nobody works on what is stored as failed. -/
theorem Job.UpToDate.done_of_failed {id : Uuid} {site : Site} {j : Job} (upToDate : j.UpToDate id site)
    {d : Submission} (found : site.stored? id = some d) (broken : d.status = .internalError) :
    ∃ outcome, j = .done outcome := by
  have other {s : Submission} (read : site.stored? id = some s) : s.status = .internalError :=
    Option.some.inj (found.symm.trans read) ▸ broken
  cases j with
  | load =>
    obtain ⟨s, read, due⟩ := upToDate
    rw [other read] at due
    contradiction
  | findProblem s | findCases s | giveUp s | mark s | run s | await s | save s =>
    obtain ⟨read, due⟩ := upToDate
    rw [other read] at due
    contradiction
  | done outcome => exact ⟨outcome, rfl⟩

def Worker.hasCrashed : Worker → Bool
  | .busy _ (.done .crashed) => true
  | _ => false

namespace Server

def Crashless (s : Server) : Prop := ∀ w ∈ s.workers, w.hasCrashed = false

instance (s : Server) : Decidable s.Crashless := by
  unfold Crashless
  infer_instance

def Finishes (s : Server) : Prop := ∀ i id outcome,
  s.worker? i = some (.busy id (.done outcome)) → outcome = .crashed ∨ outcome.isCompleted = true

theorem withWorkers_finishes (site : Site) (count : Nat) : (withWorkers site count).Finishes := by
  intro i id outcome busy
  obtain ⟨_, same⟩ := List.getElem?_eq_some_iff.mp busy
  simp [withWorkers] at same

theorem Acts.finishes {setup : Setup} {s t : Server} (acts : s.Acts setup t) (upToDate : s.UpToDate)
    (finishes : s.Finishes) : t.Finishes := by
  have others {i : Nat} {w : Worker} (set : t.workers = s.workers.set i w)
      (own : ∀ id outcome, w = .busy id (.done outcome) →
        outcome = .crashed ∨ outcome.isCompleted = true) : t.Finishes := by
    intro k id outcome busy
    rcases worker?_of_set set busy with ⟨_, same⟩ | ⟨_, before⟩
    · exact own id outcome same.symm
    · exact finishes k id outcome before
  cases acts with
  | take | release | stop => exact others rfl fun _ _ same => by cases same
  | work i id job busy going =>
    refine others rfl fun x outcome same => ?_
    obtain ⟨_, ended⟩ := Worker.busy.inj same
    exact (upToDate.jobs i id job busy).step_ends setup upToDate.faultless going ended

end Server

namespace Traffic

theorem lapse_eq_nil {t : Traffic} (finishes : t.server.Finishes) (crashless : t.server.Crashless)
    (e : Event) : t.lapse e = [] := by
  unfold lapse
  split
  · split
    · rename_i id outcome busy
      rcases finishes _ id outcome busy with rfl | ended
      · have broken : true = false := crashless _ (List.mem_of_getElem? busy)
        contradiction
      · exact if_pos ended
    · rfl
  · rfl

/-- No worker has a crash, and no two requeues have a failed state of one submission at hand. -/
structure Smooth (t : Traffic) : Prop where
  crashless : t.server.Crashless
  exclusive : t.requeues.Pairwise fun p q => ∀ f ∈ p.failed?, ∀ g ∈ q.failed?, f.id ≠ g.id

instance (t : Traffic) : Decidable t.Smooth :=
  decidable_of_iff
    (t.server.Crashless ∧
      t.requeues.Pairwise fun p q => ∀ f ∈ p.failed?, ∀ g ∈ q.failed?, f.id ≠ g.id)
    ⟨fun ⟨crashless, exclusive⟩ => ⟨crashless, exclusive⟩, fun s => ⟨s.crashless, s.exclusive⟩⟩

theorem Smooth.apart {t : Traffic} (smooth : t.Smooth) {j k : Nat} {p q : Requeue}
    (there : t.requeues[j]? = some p) (there' : t.requeues[k]? = some q) (other : j ≠ k)
    {f g : Submission} (read : f ∈ p.failed?) (read' : g ∈ q.failed?) : f.id ≠ g.id := by
  obtain ⟨inside, rfl⟩ := List.getElem?_eq_some_iff.mp there
  obtain ⟨inside', rfl⟩ := List.getElem?_eq_some_iff.mp there'
  have pairs := List.pairwise_iff_getElem.mp smooth.exclusive
  rcases Nat.lt_or_gt_of_ne other with before | behind
  · exact pairs j k inside inside' before f read g read'
  · exact (pairs k j inside' inside behind g read' f read).symm

/-- What waits is PENDING, jobs have at hand what is stored, and a requeue has a submission for itself
but for workers that are done with it. -/
structure Steady (t : Traffic) : Prop where
  waiting : ∀ id ∈ t.site.queue.channel, ∃ d, t.site.stored? id = some d ∧ d.status = .pending
  jobs : ∀ i id job, t.server.worker? i = some (.busy id job) → job.UpToDate id t.site
  finishes : t.server.Finishes
  unqueued : ∀ (j : Nat) q, t.requeues[j]? = some q → ∀ f ∈ q.failed?,
    f.id ∉ t.site.queue.channel
  untaken : ∀ (j : Nat) q, t.requeues[j]? = some q → ∀ f ∈ q.failed?, ∀ i job,
    t.server.worker? i = some (.busy f.id job) → ∃ outcome, job = .done outcome
  offering : ∀ (j : Nat) f c, t.requeues[j]? = some (.offer f c) →
    t.site.stored? f.id = some c ∧ c.status = .pending

theorem start_steady {site : Site} (channel : site.queue.channel = []) (workers : Nat) :
    (start site workers).Steady where
  waiting id waits := by
    rw [show (start site workers).site.queue.channel = [] from channel] at waits
    contradiction
  jobs i id job busy := by
    obtain ⟨_, same⟩ := List.getElem?_eq_some_iff.mp busy
    simp [start, Server.withWorkers] at same
  finishes := Server.withWorkers_finishes site workers
  unqueued j q there := by simp [start] at there
  untaken j q there := by simp [start] at there
  offering j f c there := by simp [start] at there

namespace Steady

variable {t : Traffic} (steady : t.Steady) (orderly : t.Orderly)
include steady

theorem saved {after : Site} {d? : Option Submission} (attempted : t.site.Attempted d? after)
    (unqueued : ∀ d ∈ d?, d.id ∉ t.site.queue.channel)
    (untaken : ∀ d ∈ d?, ∀ i job, t.server.worker? i = some (.busy d.id job) →
      ∃ outcome, job = .done outcome) :
    (∀ id ∈ t.site.queue.channel, ∃ d, after.stored? id = some d ∧ d.status = .pending) ∧
      ∀ i id job, t.server.worker? i = some (.busy id job) → job.UpToDate id after := by
  refine ⟨fun id waits => ?_, fun i id job busy => ?_⟩
  · rw [attempted.stored?_other fun d saved same => unqueued d saved (same ▸ waits)]
    exact steady.waiting id waits
  · have upToDate := steady.jobs i id job busy
    by_cases own : ∃ d ∈ d?, id = d.id
    · obtain ⟨d, saved, rfl⟩ := own
      obtain ⟨outcome, rfl⟩ := untaken d saved i job busy
      exact attempted.stays upToDate.known
    · exact upToDate.of_same (attempted.stored?_other fun d saved same => own ⟨d, saved, same⟩)

/-- A worker may turn to what no requeue has at hand. -/
theorem untaken_set {server : Server} {i : Nat} {w : Worker}
    (set : server.workers = t.server.workers.set i w)
    (free : ∀ id job, w = .busy id job → ∀ (j : Nat) q, t.requeues[j]? = some q →
      ∀ f ∈ q.failed?, f.id ≠ id) {j : Nat} {q : Requeue} (there : t.requeues[j]? = some q)
    {f : Submission} (read : f ∈ q.failed?) {k : Nat} {job : Job}
    (busy : server.worker? k = some (.busy f.id job)) : ∃ outcome, job = .done outcome := by
  rcases Server.worker?_of_set set busy with ⟨_, same⟩ | ⟨_, before⟩
  · exact absurd rfl (free f.id job same.symm j q there f read)
  · exact steady.untaken j q there f read k job before

include orderly

theorem upToDate : t.server.UpToDate :=
  ⟨orderly.faultless, orderly.keyed, orderly.accounted, steady.waiting, steady.jobs⟩

theorem act {setup : Setup} {server : Server} (acts : t.server.Acts setup server) :
    ({ t with server } : Traffic).Steady := by
  have upToDate := steady.upToDate orderly
  have after := upToDate.act acts
  have finishes := acts.finishes upToDate steady.finishes
  cases acts with
  | take i id rest idle waits =>
    have queue : t.site.queue.channel = id :: rest := waits
    have others (j : Nat) (q : Requeue) (there : t.requeues[j]? = some q) (f : Submission)
        (read : f ∈ q.failed?) : f.id ∉ id :: rest := queue ▸ steady.unqueued j q there f read
    refine ⟨after.waiting, after.jobs, finishes, fun j q there f read later =>
      others j q there f read (List.mem_cons_of_mem id later), fun j q there f read k job busy =>
      steady.untaken_set rfl (fun x job same j q there f read own => ?_) there read busy,
      steady.offering⟩
    obtain ⟨rfl, _⟩ := Worker.busy.inj same
    exact others j q there f read (own ▸ List.mem_cons_self)
  | work i id job busy going =>
    have others (j : Nat) (q : Requeue) (there : t.requeues[j]? = some q) (f : Submission)
        (read : f ∈ q.failed?) : f.id ≠ id := by
      rintro rfl
      obtain ⟨outcome, rfl⟩ := steady.untaken j q there f read i job busy
      contradiction
    refine ⟨after.waiting, after.jobs, finishes, fun j q there f read waits => ?_,
      fun j q there f read k job' busy' => steady.untaken_set rfl (fun x job'' same => ?_) there read
        busy', fun j f c there => ?_⟩
    · change f.id ∈ (job.step setup id t.site).1.queue.channel at waits
      rw [job.queue_step] at waits
      exact steady.unqueued j q there f read waits
    · obtain ⟨rfl, _⟩ := Worker.busy.inj same
      exact others
    · obtain ⟨found, due⟩ := steady.offering j f c there
      refine ⟨?_, due⟩
      rw [← found]
      refine (job.step_attempted setup id t.site).stored?_other fun d saved same => ?_
      rw [Job.saves?_id (orderly.jobs i id job busy) t.site d saved] at same
      exact others j _ there f rfl same
  | release | stop =>
    exact ⟨after.waiting, after.jobs, finishes, steady.unqueued,
      fun j q there f read k job busy => steady.untaken_set rfl (fun _ _ same => by cases same) there
        read busy, steady.offering⟩

theorem intake {i : Nat} {k : Intake} (there : t.intakes[i]? = some k) :
    ({ t.withSite (k.step t.site).1 with
      intakes := t.intakes.set i (k.step t.site).2 } : Traffic).Steady := by
  have attempted := k.step_attempted t.site
  have fits := orderly.intakes i k there
  have own (d : Submission) (saved : d ∈ k.saves? t.site) : d.id ∉ t.site.queue.inFlight := by
    obtain ⟨s, read, same⟩ := Intake.saves?_id saved
    exact same ▸ fits.grounded s read
  obtain ⟨waiting, jobs⟩ := steady.saved attempted
    (fun d saved waits => own d saved (orderly.accounted.of_waiting waits))
    (fun d saved i job busy => absurd (orderly.accounted.of_busy busy) (own d saved))
  have pushes : (k.step t.site).1.queue = t.site.queue ∨ ∃ s, k = .offer s ∧
      (k.step t.site).1.queue = t.site.queue.push s.id := by
    rcases k.queue_cases t.site with queue | ⟨s, offers, _, queue⟩
    · exact .inl queue
    · exact .inr ⟨s, offers, queue⟩
  refine ⟨fun id waits => ?_, jobs, steady.finishes, fun j q there' f read waits => ?_, steady.untaken,
    fun j f c there' => ?_⟩
  · change id ∈ (k.step t.site).1.queue.channel at waits
    rcases pushes with queue | ⟨s, rfl, queue⟩
    · exact waiting id (queue ▸ waits)
    · rw [queue] at waits
      rcases Queue.mem_channel_of_push waits with before | rfl
      · exact waiting id before
      · refine ⟨s, ?_, fits.due s rfl⟩
        exact (attempted.stored?_other fun d saved => (Option.not_mem_none d saved).elim).trans
          fits.shows
  · change f.id ∈ (k.step t.site).1.queue.channel at waits
    rcases pushes with queue | ⟨s, rfl, queue⟩
    · exact steady.unqueued j q there' f read (queue ▸ waits)
    · rw [queue] at waits
      rcases Queue.mem_channel_of_push waits with before | same
      · exact steady.unqueued j q there' f read before
      · exact orderly.apart j q there' f read i _ there s rfl same.symm
  · obtain ⟨found, due⟩ := steady.offering j f c there'
    refine ⟨?_, due⟩
    rw [← found]
    refine attempted.stored?_other fun d saved same => ?_
    obtain ⟨s, read, owner⟩ := Intake.saves?_id saved
    exact orderly.apart j _ there' f rfl i k there s read (same.trans owner).symm

/-- After a step of a requeue, what any requeue has at hand is neither queued nor worked on, and what
the others have at hand is something else. -/
theorem held (smooth : t.Smooth) {j : Nat} {q : Requeue} (there : t.requeues[j]? = some q) {a : Nat}
    {p : Requeue} (there' : (t.requeues.set j (q.step t.site).2)[a]? = some p) {g : Submission}
    (read : g ∈ p.failed?) :
    g.id ∉ t.site.queue.channel ∧
      (∀ i job, t.server.worker? i = some (.busy g.id job) → ∃ outcome, job = .done outcome) ∧
        (p = (q.step t.site).2 ∨ t.requeues[a]? = some p ∧ ∀ f ∈ q.failed?, g.id ≠ f.id) := by
  rcases getElem?_set_cases there' with ⟨rfl, rfl⟩ | ⟨other, before⟩
  · rcases Requeue.step_failed? read with had | ⟨id, _, found, broken⟩
    · exact ⟨steady.unqueued a q there g had, steady.untaken a q there g had, .inl rfl⟩
    · rw [← orderly.keyed id g found] at found
      refine ⟨fun waits => ?_, fun i job busy =>
        (steady.jobs i g.id job busy).done_of_failed found broken, .inl rfl⟩
      obtain ⟨d, stored, due⟩ := steady.waiting g.id waits
      rw [← Option.some.inj (found.symm.trans stored), broken] at due
      contradiction
  · exact ⟨steady.unqueued a p before g read, steady.untaken a p before g read,
      .inr ⟨before, fun f read' => smooth.apart before there other read read'⟩⟩

theorem requeue (smooth : t.Smooth) {j : Nat} {q : Requeue} (there : t.requeues[j]? = some q) :
    ({ t.withSite (q.step t.site).1 with
      requeues := t.requeues.set j (q.step t.site).2 } : Traffic).Steady := by
  have attempted := q.step_attempted t.site
  obtain ⟨waiting, jobs⟩ := steady.saved attempted
    (fun d saved waits => by
      obtain ⟨f, read, own⟩ := Requeue.saves?_id saved
      exact steady.unqueued j q there f read (own ▸ waits))
    (fun d saved i job busy => by
      obtain ⟨f, read, own⟩ := Requeue.saves?_id saved
      exact steady.untaken j q there f read i job (own ▸ busy))
  refine ⟨fun id waits => ?_, jobs, steady.finishes, fun a p there' g read waits => ?_,
    fun a p there' g read => (steady.held orderly smooth there there' read).2.1,
    fun a g c there' => ?_⟩
  · change id ∈ (q.step t.site).1.queue.channel at waits
    rcases q.queue_cases t.site with queue | ⟨f, c, rfl, _, queue, _⟩
    · exact waiting id (queue ▸ waits)
    · rw [queue] at waits
      rcases Queue.mem_channel_of_push waits with before | rfl
      · exact waiting id before
      · obtain ⟨found, due⟩ := steady.offering j f c there
        refine ⟨c, ?_, due⟩
        exact (attempted.stored?_other fun d saved => (Option.not_mem_none d saved).elim).trans found
  · obtain ⟨unqueued, _, whose⟩ := steady.held orderly smooth there there' read
    change g.id ∈ (q.step t.site).1.queue.channel at waits
    rcases q.queue_cases t.site with queue | ⟨f, c, rfl, _, queue, next⟩
    · exact unqueued (queue ▸ waits)
    · rw [queue] at waits
      rcases Queue.mem_channel_of_push waits with before | same
      · exact unqueued before
      · rcases whose with rfl | ⟨_, others⟩
        · rw [next] at read
          cases read
        · exact others f rfl same
  · obtain ⟨_, _, whose⟩ := steady.held orderly smooth there there' (g := g) rfl
    rcases whose with offers | ⟨before, others⟩
    · obtain ⟨rfl, rfl⟩ := Requeue.step_offers offers.symm
      refine ⟨?_, rfl⟩
      show ((Requeue.reset g).step t.site).1.stored? g.id = some (g.reset t.site.now)
      rw [attempted.stored? orderly.faultless.saves]
      exact t.site.stored?_keep_same (g.reset t.site.now)
    · obtain ⟨found, due⟩ := steady.offering a g c before
      refine ⟨?_, due⟩
      rw [← found]
      refine attempted.stored?_other fun d saved same => ?_
      obtain ⟨f, read, own⟩ := Requeue.saves?_id saved
      exact others f read (same.trans own)

theorem moves {setup : Setup} (smooth : t.Smooth) {e : Event} {u : Traffic}
    (moves : t.Moves setup e u) : u.Steady := by
  cases moves with
  | act a server acts => exact steady.act orderly acts
  | submit fresh userId problemId language code unused => exact { steady with }
  | intake i k there => exact steady.intake orderly there
  | again id =>
    have before {j : Nat} {q : Requeue} (there : (t.requeues ++ [.load id])[j]? = some q)
        {f : Submission} (read : f ∈ q.failed?) : t.requeues[j]? = some q := by
      rcases getElem?_concat_cases there with before | ⟨_, rfl⟩
      · exact before
      · exact (Option.not_mem_none f read).elim
    exact { steady with
      unqueued := fun j q there f read => steady.unqueued j q (before there read) f read
      untaken := fun j q there f read => steady.untaken j q (before there read) f read
      offering := fun j f c there => steady.offering j f c (before there rfl) }
  | requeue j q there => exact steady.requeue orderly smooth there
  | aside e site stopping submissions channel inFlight fault =>
    have stored (id : Uuid) : site.stored? id = t.site.stored? id := by
      unfold Site.stored?
      rw [submissions]
    refine ⟨fun id waits => ?_, fun i id job busy => (steady.jobs i id job busy).of_same (stored id),
      steady.finishes, fun j q there f read waits => ?_, steady.untaken, fun j f c there => ?_⟩
    · change id ∈ site.queue.channel at waits
      obtain ⟨d, found, due⟩ := steady.waiting id (channel ▸ waits)
      exact ⟨d, (stored id).trans found, due⟩
    · change f.id ∈ site.queue.channel at waits
      exact steady.unqueued j q there f read (channel ▸ waits)
    · obtain ⟨found, due⟩ := steady.offering j f c there
      exact ⟨(stored f.id).trans found, due⟩

end Steady

/-- A run that is smooth at each point lets go of nothing without a completion. -/
theorem lapses_eq_nil (setup : Setup) {schedule : List Event} (calm : ∀ e ∈ schedule, e.Faultless)
    {t : Traffic} (orderly : t.Orderly) (steady : t.Steady)
    (smooth : ∀ first rest, schedule = first ++ rest → (execute setup first t).Smooth) :
    lapses setup schedule t = [] := by
  induction schedule generalizing t with
  | nil => rfl
  | cons e es ih =>
    have now : t.Smooth := smooth [] (e :: es) rfl
    have moves := advance_moves setup orderly.faultless (calm e List.mem_cons_self)
    have later := ih (fun e' member => calm e' (List.mem_cons_of_mem _ member))
      (moves.orderly orderly) (steady.moves orderly now moves)
      fun first rest same => smooth (e :: first) rest (congrArg (e :: ·) same)
    rw [lapses, lapse_eq_nil steady.finishes now.crashless e, later]
    rfl

end Traffic

end Grader

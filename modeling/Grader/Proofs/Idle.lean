import Grader.Proofs.Orderly

/-! A submission that nobody works on. It is not in the queue, each worker that still holds on to it
is done with its job, and no intake has it. Nothing but a requeue changes it then. -/
namespace Grader

open Api (Intake Requeue)

namespace Traffic

/-- The requeue has a failed state of the submission at hand. -/
def HoldsAt (t : Traffic) (j : Nat) (id : Uuid) : Prop :=
  ∃ (q : Requeue) (f : Submission), t.requeues[j]? = some q ∧ f ∈ q.failed? ∧ f.id = id

/-- A requeue touches what it has read. -/
theorem stored?_requeue {t : Traffic} {q : Requeue} {id : Uuid}
    (other : ∀ f ∈ q.failed?, f.id ≠ id) : (q.step t.site).1.stored? id = t.site.stored? id := by
  refine (q.step_attempted t.site).stored?_other fun e saved same => ?_
  obtain ⟨f, read, owner⟩ := Requeue.saves?_id saved
  exact other f read (owner.symm.trans same.symm)

structure Idle (id : Uuid) (t : Traffic) : Prop where
  unqueued : id ∉ t.site.queue.channel
  ended : ∀ i job, t.server.worker? i = some (.busy id job) → ∃ outcome, job = .done outcome
  untaken : ∀ (i : Nat) k, t.intakes[i]? = some k → ∀ s ∈ k.submission?, s.id ≠ id

namespace Idle

/-- It is so from the end of a job until the worker lets go. -/
theorem of_done {t : Traffic} (orderly : t.Orderly) {i : Nat} {id : Uuid} {outcome : Outcome}
    (busy : t.server.worker? i = some (.busy id (.done outcome))) : t.Idle id := by
  refine ⟨orderly.accounted.not_waiting_of_busy busy, fun k job busy' => ?_, ?_⟩
  · obtain rfl := orderly.accounted.busy_unique busy busy'
    cases Option.some.inj (busy.symm.trans busy')
    exact ⟨outcome, rfl⟩
  · rintro i k there s read rfl
    exact (orderly.intakes i k there).grounded s read (orderly.accounted.of_busy busy)

variable {id : Uuid} {t : Traffic} (idle : t.Idle id)
include idle

theorem act {setup : Setup} (orderly : t.Orderly) {server : Server}
    (acts : t.server.Acts setup server) :
    ({ t with server } : Traffic).Idle id ∧ server.site.stored? id = t.site.stored? id := by
  have others {i : Nat} {w : Worker} (set : server.workers = t.server.workers.set i w)
      (own : ∀ job, w = .busy id job → ∃ outcome, job = .done outcome) :
      ∀ k job, server.worker? k = some (.busy id job) → ∃ outcome, job = .done outcome := by
    intro k job busy
    rcases Server.worker?_of_set set busy with ⟨_, same⟩ | ⟨_, before⟩
    · exact own job same.symm
    · exact idle.ended k job before
  cases acts with
  | take i x rest free waits =>
    have unqueued := idle.unqueued
    rw [show t.site.queue.channel = x :: rest from waits] at unqueued
    refine ⟨⟨fun behind => unqueued (List.mem_cons_of_mem _ behind), others rfl fun job same => ?_,
      idle.untaken⟩, rfl⟩
    cases same
    exact absurd List.mem_cons_self unqueued
  | work i x job busy going =>
    have different : x ≠ id := by
      rintro rfl
      obtain ⟨outcome, rfl⟩ := idle.ended i job busy
      contradiction
    have queue := job.queue_step setup x t.site
    refine ⟨⟨?_, others rfl fun next same => ?_, idle.untaken⟩, ?_⟩
    · show id ∉ (job.step setup x t.site).1.queue.channel
      rw [queue]
      exact idle.unqueued
    · cases same
      exact absurd rfl different
    · refine (job.step_attempted setup x t.site).stored?_other fun e saved same => ?_
      have owner := Job.saves?_id (orderly.jobs i x job busy) t.site e saved
      exact different (owner.symm.trans same.symm)
  | release i x outcome busy =>
    exact ⟨⟨idle.unqueued, others rfl (fun _ same => nomatch same), idle.untaken⟩, rfl⟩
  | stop i free =>
    exact ⟨⟨idle.unqueued, others rfl (fun _ same => nomatch same), idle.untaken⟩, rfl⟩

theorem intake {i : Nat} {k : Intake} (there : t.intakes[i]? = some k) :
    ({ t.withSite (k.step t.site).1 with
        intakes := t.intakes.set i (k.step t.site).2 } : Traffic).Idle id ∧
      (k.step t.site).1.stored? id = t.site.stored? id := by
  have untaken := idle.untaken i k there
  refine ⟨⟨?_, idle.ended, ?_⟩, ?_⟩
  · intro waits
    change id ∈ (k.step t.site).1.queue.channel at waits
    rcases k.queue_cases t.site with queue | ⟨s, rfl, _, queue⟩
    · rw [queue] at waits
      exact idle.unqueued waits
    · rw [queue] at waits
      rcases Queue.mem_channel_of_push waits with before | same
      · exact idle.unqueued before
      · exact untaken s rfl same.symm
  · intro a l there' s read
    rcases getElem?_set_cases there' with ⟨_, rfl⟩ | ⟨_, before⟩
    · exact untaken s (Intake.step_submission? read)
    · exact idle.untaken a l before s read
  · refine (k.step_attempted t.site).stored?_other fun e saved same => ?_
    obtain ⟨s, read, owner⟩ := Intake.saves?_id saved
    exact untaken s read (owner.symm.trans same.symm)

theorem unqueued_of_other {q : Requeue} (other : ∀ f ∈ q.failed?, f.id ≠ id) :
    id ∉ (q.step t.site).1.queue.channel := by
  intro waits
  rcases q.queue_cases t.site with queue | ⟨f, current, rfl, _, queue, _⟩
  · rw [queue] at waits
    exact idle.unqueued waits
  · rw [queue] at waits
    rcases Queue.mem_channel_of_push waits with before | own
    · exact idle.unqueued before
    · exact other f rfl own.symm

theorem unqueued_of_same {q : Requeue} (queue : (q.step t.site).1.queue = t.site.queue) :
    id ∉ (q.step t.site).1.queue.channel := by
  rw [queue]
  exact idle.unqueued

theorem requeue {j : Nat} {q : Requeue} (unqueued : id ∉ (q.step t.site).1.queue.channel) :
    ({ t.withSite (q.step t.site).1 with
      requeues := t.requeues.set j (q.step t.site).2 } : Traffic).Idle id :=
  ⟨unqueued, idle.ended, idle.untaken⟩

theorem submit {s d : Submission} (fresh : t.IsFresh s.id) (found : t.site.stored? id = some d) :
    ({ t with intakes := t.intakes ++ [.findProblem s] } : Traffic).Idle id := by
  refine ⟨idle.unqueued, idle.ended, fun i k there r read => ?_⟩
  rcases getElem?_concat_cases there with before | ⟨_, rfl⟩
  · exact idle.untaken i k before r read
  · obtain rfl := Option.some.inj read
    rintro rfl
    rw [fresh.1] at found
    contradiction

theorem aside {site : Site} (stopping : Bool)
    (submissions : site.store.submissions = t.site.store.submissions)
    (channel : site.queue.channel = t.site.queue.channel) :
    ({ t with server := { t.server with site, stopping } } : Traffic).Idle id ∧
      site.stored? id = t.site.stored? id := by
  refine ⟨⟨?_, idle.ended, idle.untaken⟩, ?_⟩
  · show id ∉ site.queue.channel
    rw [channel]
    exact idle.unqueued
  · unfold Site.stored?
    rw [submissions]

end Idle

end Traffic

end Grader

import Grader.Api.Submissions
import Grader.Proofs.Attempt

/-! The steps of intakes and requeues. Each saves and offers no other submission than its own: an
intake the one that came in, a requeue the one that it has read. -/
namespace Grader

namespace Api

namespace Intake

def saves? (site : Site) : Intake → Option Submission
  | .store s => some s
  | .withdraw s error => some (s.fail ("not queued: " ++ error.message) site.now)
  | _ => none

theorem step_attempted (site : Site) (i : Intake) :
    site.Attempted (i.saves? site) (i.step site).1 := by
  cases i with
  | findProblem s =>
    refine .of_none ?_
    simp only [step]
    split <;> exact .refl site
  | store s =>
    simp only [step]
    split
    · rename_i failed
      exact .of_failed failed
    · rename_i saved
      exact .of_saved saved
  | offer s =>
    refine .of_none ?_
    simp only [step]
    split
    · rename_i e after offered
      rw [show after = (site.enqueue s.id).2 by rw [offered]]
      exact site.aside_enqueue s.id
    · rename_i after _ offered
      rw [show after = (site.enqueue s.id).2 by rw [offered]]
      exact ⟨_, _, site.calls, rfl⟩
  | withdraw s error =>
    simp only [step]
    split
    · rename_i failed
      exact .of_failed failed
    · rename_i saved
      exact .of_saved saved
  | done result => exact .of_none (.refl site)

def submission? : Intake → Option Submission
  | .findProblem s | .store s | .offer s | .withdraw s _ => some s
  | .done _ => none

theorem saves?_id {i : Intake} {site : Site} {d : Submission} (saved : d ∈ i.saves? site) :
    ∃ s ∈ i.submission?, d.id = s.id := by
  cases i with
  | store s | withdraw s e =>
    obtain rfl := Option.some.inj saved
    exact ⟨s, rfl, rfl⟩
  | _ => contradiction

theorem step_submission? {site : Site} {i : Intake} {s : Submission}
    (read : s ∈ (i.step site).2.submission?) : s ∈ i.submission? := by
  cases i with
  | findProblem r | store r | offer r | withdraw r e =>
    simp only [step] at read
    split at read
    all_goals first
      | exact read
      | cases read
  | done result => exact read

theorem step_findProblem (site : Site) (s : Submission) :
    (step site (.findProblem s)).2 = .store s ∨
      ∃ f, (step site (.findProblem s)).2 = .done (.error f) := by
  simp only [step]
  split
  · exact .inr ⟨_, rfl⟩
  · exact .inr ⟨_, rfl⟩
  · exact .inl rfl

theorem step_store {site : Site} (saves : site.Saves) (s : Submission) :
    (step site (.store s)).2 = .offer s := by
  simp only [step, saves.save]

theorem step_offer (site : Site) (s : Submission) :
    let after := step site (.offer s)
    s.id ∉ site.queue.inFlight ∧ after.1.queue = site.queue.push s.id ∧ after.2 = .done (.ok s) ∨
      s.id ∈ site.queue.inFlight ∧ after.1.queue = site.queue ∧ after.2 = .done (.ok s) ∨
        ∃ e, after.1.queue = site.queue ∧ after.2 = .withdraw s e := by
  rcases site.queue.enqueue_cases s.id with ⟨new, offered⟩ | ⟨flying, offered⟩ | ⟨e, offered⟩
  · exact .inl ⟨new, by simp [step, Site.enqueue, offered, countEnqueued]⟩
  · exact .inr (.inl ⟨flying, by simp [step, Site.enqueue, offered, countEnqueued]⟩)
  · exact .inr (.inr ⟨e, by simp [step, Site.enqueue, offered]⟩)

theorem step_withdraw {site : Site} (saves : site.Saves) (s : Submission) (e : QueueError) :
    (step site (.withdraw s e)).2 = .done (.error (.unavailable e)) := by
  simp only [step, saves.save]

def isOffer : Intake → Bool
  | .offer _ => true
  | _ => false

theorem queue_step (site : Site) {i : Intake} (other : i.isOffer = false) :
    (i.step site).1.queue = site.queue := by
  have kept {d : Submission} {after : Site} (saved : site.saveSubmission d = .ok after) :
      after.queue = site.queue := by
    rw [Site.kept_of_saved saved, Site.queue_keep]
  cases i with
  | findProblem s =>
    simp only [step]
    split <;> rfl
  | store s | withdraw s e =>
    simp only [step]
    split
    · rfl
    · rename_i saved
      exact kept saved
  | offer s => contradiction
  | done result => rfl

/-- What an intake puts in flight is its own submission. -/
theorem queue_cases (site : Site) (i : Intake) :
    (i.step site).1.queue = site.queue ∨
      ∃ s, i = .offer s ∧ s.id ∉ site.queue.inFlight ∧
        (i.step site).1.queue = site.queue.push s.id := by
  cases i with
  | offer s =>
    rcases step_offer site s with ⟨new, queue, _⟩ | ⟨_, queue, _⟩ | ⟨_, queue, _⟩
    · exact .inr ⟨s, rfl, new, queue⟩
    · exact .inl queue
    · exact .inl queue
  | findProblem | store | withdraw | done => exact .inl (queue_step site rfl)

end Intake

namespace Requeue

def saves? (site : Site) : Requeue → Option Submission
  | .reset failed => some (failed.reset site.now)
  | .restore failed _ => some failed
  | _ => none

theorem step_attempted (site : Site) (q : Requeue) :
    site.Attempted (q.saves? site) (q.step site).1 := by
  cases q with
  | load id =>
    refine .of_none ?_
    simp only [step]
    split
    · exact .refl site
    · exact .refl site
    · split <;> exact .refl site
  | reset failed =>
    simp only [step]
    split
    · rename_i failed
      exact .of_failed failed
    · rename_i saved
      exact .of_saved saved
  | offer failed current =>
    refine .of_none ?_
    simp only [step]
    split
    · rename_i after offered
      rw [show after = (site.enqueue failed.id).2 by rw [offered]]
      exact ⟨_, _, site.calls, rfl⟩
    · rename_i after offered
      rw [show after = (site.enqueue failed.id).2 by rw [offered]]
      exact site.aside_enqueue failed.id
    · rename_i e after offered
      rw [show after = (site.enqueue failed.id).2 by rw [offered]]
      exact site.aside_enqueue failed.id
  | restore failed rejection =>
    simp only [step]
    split
    · rename_i failed
      exact .of_failed failed
    · rename_i saved
      exact .of_saved saved
  | done result => exact .of_none (.refl site)

/-- The failed state that a requeue has read and not been answered about. -/
def failed? : Requeue → Option Submission
  | .reset failed | .offer failed _ | .restore failed _ => some failed
  | .load _ | .done _ => none

theorem saves?_id {q : Requeue} {site : Site} {d : Submission} (saved : d ∈ q.saves? site) :
    ∃ failed ∈ q.failed?, d.id = failed.id := by
  cases q with
  | reset failed | restore failed rejection =>
    obtain rfl := Option.some.inj saved
    exact ⟨failed, rfl, rfl⟩
  | _ => contradiction

/-- A failed state at hand is the one stored when it was read. -/
theorem step_failed? {site : Site} {q : Requeue} {failed : Submission}
    (read : failed ∈ (q.step site).2.failed?) :
    failed ∈ q.failed? ∨ ∃ id, q = .load id ∧ site.stored? id = some failed ∧
      failed.status = .internalError := by
  cases q with
  | load id =>
    simp only [step] at read
    split at read
    · cases read
    · cases read
    · rename_i s found
      split at read
      · rename_i broken
        obtain rfl := Option.some.inj read
        exact .inr ⟨id, rfl, Site.stored?_of_loaded found, broken⟩
      · cases read
  | reset f | offer f current | restore f rejection =>
    simp only [step] at read
    split at read
    all_goals first
      | exact .inl read
      | cases read
  | done result => exact .inl read

theorem step_current {site : Site} {q : Requeue} {failed current : Submission}
    (offered : (q.step site).2 = .offer failed current) : current.id = failed.id := by
  cases q with
  | load id =>
    simp only [step] at offered
    split at offered
    · cases offered
    · cases offered
    · split at offered <;> cases offered
  | reset f =>
    simp only [step] at offered
    split at offered
    · cases offered
    · cases offered
      rfl
  | offer f c =>
    simp only [step] at offered
    split at offered <;> cases offered
  | restore f rejection =>
    simp only [step] at offered
    split at offered <;> cases offered
  | done result => cases offered

theorem step_reset {site : Site} (saves : site.Saves) (failed : Submission) :
    (step site (.reset failed)).2 = .offer failed (failed.reset site.now) := by
  simp only [step, saves.save]

theorem step_offer (site : Site) (failed current : Submission) :
    let after := step site (.offer failed current)
    failed.id ∉ site.queue.inFlight ∧ after.1.queue = site.queue.push failed.id ∧
        after.2 = .done (.ok current) ∨
      ∃ rejection, after.1.queue = site.queue ∧ after.2 = .restore failed rejection := by
  rcases site.queue.enqueue_cases failed.id with ⟨new, offered⟩ | ⟨flying, offered⟩ | ⟨e, offered⟩
  · exact .inl ⟨new, by simp [step, Site.enqueue, offered, countEnqueued]⟩
  · exact .inr ⟨stillProcessed failed.id, by simp [step, Site.enqueue, offered]⟩
  · exact .inr ⟨.unavailable e, by simp [step, Site.enqueue, offered]⟩

def isOffer : Requeue → Bool
  | .offer .. => true
  | _ => false

theorem queue_step (site : Site) {q : Requeue} (other : q.isOffer = false) :
    (q.step site).1.queue = site.queue := by
  have kept {d : Submission} {after : Site} (saved : site.saveSubmission d = .ok after) :
      after.queue = site.queue := by
    rw [Site.kept_of_saved saved, Site.queue_keep]
  cases q with
  | load id =>
    simp only [step]
    split
    · rfl
    · rfl
    · split <;> rfl
  | reset failed | restore failed rejection =>
    simp only [step]
    split
    · rfl
    · rename_i saved
      exact kept saved
  | offer failed current => contradiction
  | done result => rfl

/-- What a requeue puts in flight is the submission that it has read. -/
theorem queue_cases (site : Site) (q : Requeue) :
    (q.step site).1.queue = site.queue ∨
      ∃ failed current, q = .offer failed current ∧ failed.id ∉ site.queue.inFlight ∧
        (q.step site).1.queue = site.queue.push failed.id ∧
        (q.step site).2 = .done (.ok current) := by
  cases q with
  | offer failed current =>
    rcases step_offer site failed current with ⟨new, queue, next⟩ | ⟨_, queue, _⟩
    · exact .inr ⟨failed, current, rfl, new, queue, next⟩
    · exact .inl queue
  | load | reset | restore | done => exact .inl (queue_step site rfl)

end Requeue

end Api

theorem Site.enqueue_eq (site : Site) {id : Uuid} {offer : Offer} {queue : Queue}
    (offered : site.queue.enqueue id = (offer, queue)) :
    ∃ metrics, site.enqueue id = (offer, { site with queue, metrics }) := by
  simp only [Site.enqueue, offered]
  exact ⟨_, rfl⟩

namespace Api

namespace Intake

/-- What an intake comes to while the store does not fail. -/
inductive Ends (site : Site) (s : Submission) : Site × Intake → Prop where
  | barred (missing : site.store.problems.get? s.problemId = none) :
      Ends site s (site, .done (.error (noProblem s.problemId)))
  | queued (metrics : Metrics)
      (offered : site.queue.enqueue s.id = (.queued, site.queue.push s.id)) :
      Ends site s ({ site.keep s with queue := site.queue.push s.id, metrics }, .done (.ok s))
  | flying (metrics : Metrics)
      (offered : site.queue.enqueue s.id = (.alreadyQueued, site.queue)) :
      Ends site s ({ site.keep s with metrics }, .done (.ok s))
  | withdrawn (metrics : Metrics) (e : QueueError)
      (offered : site.queue.enqueue s.id = (.refused e, site.queue)) :
      Ends site s
        ({ (site.keep s).keep (s.fail ("not queued: " ++ e.message) site.now) with metrics },
          .done (.error (.unavailable e)))

theorem finish_ends {site : Site} (faultless : site.Faultless) (s : Submission) :
    Ends site s (finish site (.findProblem s)) := by
  have saved := faultless.saves.save s
  unfold finish
  simp only [Nat.repeat]
  cases found : site.store.problems.get? s.problemId with
  | none =>
    simp only [step, faultless.problem?, found]
    exact .barred found
  | some p =>
    simp only [step, faultless.problem?, found, saved]
    rcases site.queue.enqueue_cases s.id with ⟨_, offered⟩ | ⟨_, offered⟩ | ⟨e, offered⟩
    · obtain ⟨_, counted⟩ := (site.keep s).enqueue_eq offered
      simp only [counted]
      exact .queued _ offered
    · obtain ⟨_, counted⟩ := (site.keep s).enqueue_eq offered
      simp only [counted]
      exact .flying _ offered
    · obtain ⟨metrics, counted⟩ := (site.keep s).enqueue_eq offered
      have saves : { site.keep s with queue := site.queue, metrics }.Saves := faultless.saves
      simp only [counted, saves.save]
      exact .withdrawn _ e offered

end Intake

namespace Requeue

/-- What a requeue comes to while the store does not fail. -/
inductive Ends (site : Site) (id : Uuid) : Site × Requeue → Prop where
  | missing (found : site.stored? id = none) :
      Ends site id (site, .done (.error (noSubmission id)))
  | barred (d : Submission) (found : site.stored? id = some d) (whole : d.status ≠ .internalError) :
      Ends site id (site, .done (.error (onlyFailed d.status)))
  | queued (failed : Submission) (found : site.stored? id = some failed)
      (broken : failed.status = .internalError) (metrics : Metrics)
      (offered : site.queue.enqueue failed.id = (.queued, site.queue.push failed.id)) :
      Ends site id
        ({ site.keep (failed.reset site.now) with queue := site.queue.push failed.id, metrics },
          .done (.ok (failed.reset site.now)))
  | flying (failed : Submission) (found : site.stored? id = some failed)
      (broken : failed.status = .internalError) (metrics : Metrics)
      (offered : site.queue.enqueue failed.id = (.alreadyQueued, site.queue)) :
      Ends site id
        ({ (site.keep (failed.reset site.now)).keep failed with metrics },
          .done (.error (stillProcessed failed.id)))
  | refused (failed : Submission) (found : site.stored? id = some failed)
      (broken : failed.status = .internalError) (metrics : Metrics) (e : QueueError)
      (offered : site.queue.enqueue failed.id = (.refused e, site.queue)) :
      Ends site id
        ({ (site.keep (failed.reset site.now)).keep failed with metrics },
          .done (.error (.unavailable e)))

theorem finish_ends {site : Site} (faultless : site.Faultless) (id : Uuid) :
    Ends site id (finish site (.load id)) := by
  unfold finish
  simp only [Nat.repeat]
  cases found : site.stored? id with
  | none =>
    simp only [step, faultless.submission?, found]
    exact .missing found
  | some failed =>
    by_cases broken : failed.status = .internalError
    · simp only [step, faultless.submission?, found, if_pos broken, faultless.saves.save]
      have saves (metrics : Metrics) :
          { site.keep (failed.reset site.now) with queue := site.queue, metrics }.Saves :=
        faultless.saves
      rcases site.queue.enqueue_cases failed.id with ⟨_, offered⟩ | ⟨_, offered⟩ | ⟨e, offered⟩
      · obtain ⟨_, counted⟩ := (site.keep (failed.reset site.now)).enqueue_eq offered
        simp only [counted]
        exact .queued failed found broken _ offered
      · obtain ⟨metrics, counted⟩ := (site.keep (failed.reset site.now)).enqueue_eq offered
        simp only [counted, (saves metrics).save]
        exact .flying failed found broken _ offered
      · obtain ⟨metrics, counted⟩ := (site.keep (failed.reset site.now)).enqueue_eq offered
        simp only [counted, (saves metrics).save]
        exact .refused failed found broken _ e offered
    · simp only [step, faultless.submission?, found, if_neg broken]
      exact .barred failed found broken

end Requeue

end Api

end Grader

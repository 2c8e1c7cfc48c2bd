import Grader.Proofs.Traffic

/-! What holds at every point of the traffic while the store does not fail. Each job works on the
submission it was taken for; an intake has its submission for itself until it is answered; and a
requeue has read the failed state of a submission that no intake has. -/
namespace Grader

open Api (Intake Requeue)

namespace Api.Intake

/-- The submission is stored once the intake has got to its offer, and not before. -/
def Shows (site : Site) : Intake → Prop
  | .findProblem s | .store s => site.stored? s.id = none
  | .offer s | .withdraw s _ => site.stored? s.id = some s
  | .done _ => True

structure Fits (site : Site) (k : Intake) : Prop where
  due : ∀ s ∈ k.submission?, s.status = .pending
  grounded : ∀ s ∈ k.submission?, s.id ∉ site.queue.inFlight
  shows : k.Shows site

theorem fits_done (site : Site) (result : Except Failure Submission) :
    (done result).Fits site :=
  ⟨fun _ read => (Option.not_mem_none _ read).elim, fun _ read => (Option.not_mem_none _ read).elim,
    trivial⟩

/-- An intake does not notice what happens to other submissions. -/
theorem Fits.of_same {a b : Site} {k : Intake} (fits : k.Fits a)
    (same : ∀ s ∈ k.submission?, b.stored? s.id = a.stored? s.id)
    (flights : ∀ s ∈ k.submission?, s.id ∈ b.queue.inFlight → s.id ∈ a.queue.inFlight) :
    k.Fits b := by
  refine ⟨fits.due, fun s read flying => fits.grounded s read (flights s read flying), ?_⟩
  have shows := fits.shows
  cases k with
  | findProblem s | store s | offer s | withdraw s e => exact (same s rfl).trans shows
  | done result => trivial

/-- Until an intake is answered its submission waits, if it is stored. -/
theorem Fits.waits {site : Site} {k : Intake} (fits : k.Fits site) {s d : Submission}
    (read : s ∈ k.submission?) (found : site.stored? s.id = some d) : d.status = .pending := by
  have shows := fits.shows
  have due := fits.due s read
  cases k with
  | findProblem r | store r =>
    obtain rfl := Option.some.inj read
    rw [show site.stored? r.id = none from shows] at found
    contradiction
  | offer r | withdraw r e =>
    obtain rfl := Option.some.inj read
    rw [show site.stored? r.id = some r from shows] at found
    obtain rfl := Option.some.inj found
    exact due
  | done result => exact (Option.not_mem_none s read).elim

theorem Fits.step {site : Site} (saves : site.Saves) {k : Intake} (fits : k.Fits site) :
    (k.step site).2.Fits (k.step site).1 := by
  have stored := (k.step_attempted site).stored? saves
  cases k with
  | findProblem s =>
    have queue := queue_step site (show (findProblem s).isOffer = false from rfl)
    rcases step_findProblem site s with next | ⟨f, next⟩
    · rw [next]
      refine ⟨fits.due, fun r read => ?_, (stored s.id).trans fits.shows⟩
      rw [queue]
      exact fits.grounded r read
    · rw [next]
      exact fits_done ..
  | store s =>
    have queue := queue_step site (show (store s).isOffer = false from rfl)
    rw [step_store saves s]
    refine ⟨fits.due, fun r read => ?_, (stored s.id).trans (Site.stored?_keep_same site s)⟩
    rw [queue]
    exact fits.grounded r read
  | offer s =>
    rcases step_offer site s with ⟨_, _, next⟩ | ⟨_, _, next⟩ | ⟨e, queue, next⟩
    · rw [next]
      exact fits_done ..
    · rw [next]
      exact fits_done ..
    · rw [next]
      refine ⟨fits.due, fun r read => ?_, (stored s.id).trans fits.shows⟩
      rw [queue]
      exact fits.grounded r read
  | withdraw s e =>
    rw [step_withdraw saves s e]
    exact fits_done ..
  | done result => exact fits_done ..

end Api.Intake

namespace Server.Acts

variable {setup : Setup} {s t : Server} (acts : s.Acts setup t)
include acts

/-- A worker saves nothing but the submission that it is busy with, and puts nothing in flight. -/
theorem attempted (jobs : ∀ i id job, s.worker? i = some (.busy id job) → job.Owns id) :
    ∃ d?, s.site.Attempted d? t.site ∧
      (∀ d ∈ d?, ∃ (i : Nat) (job : Job), s.worker? i = some (.busy d.id job)) ∧
      ∀ x ∈ t.site.queue.inFlight, x ∈ s.site.queue.inFlight := by
  cases acts with
  | take i id rest idle waits =>
    exact ⟨none, .of_none ⟨_, s.site.metrics, s.site.calls, rfl⟩,
      fun d read => (Option.not_mem_none d read).elim, fun _ flying => flying⟩
  | work i id job busy going =>
    refine ⟨job.saves? s.site, job.step_attempted setup id s.site, fun d saved => ?_,
      fun x flying => ?_⟩
    · rw [Job.saves?_id (jobs i id job busy) s.site d saved]
      exact ⟨i, job, busy⟩
    · have queue := job.queue_step setup id s.site
      change x ∈ (job.step setup id s.site).1.queue.inFlight at flying
      rw [queue] at flying
      exact flying
  | release i id outcome busy =>
    exact ⟨none, .of_none ⟨_, _, s.site.calls, rfl⟩,
      fun d read => (Option.not_mem_none d read).elim, fun _ flying => List.mem_of_mem_erase flying⟩
  | stop i idle =>
    exact ⟨none, .of_none (.refl s.site), fun d read => (Option.not_mem_none d read).elim,
      fun _ flying => flying⟩

theorem owns (keyed : s.site.Keyed)
    (jobs : ∀ i id job, s.worker? i = some (.busy id job) → job.Owns id) :
    ∀ i id job, t.worker? i = some (.busy id job) → job.Owns id := by
  have others {i : Nat} {w : Worker} (set : t.workers = s.workers.set i w)
      (own : ∀ id job, w = .busy id job → job.Owns id) :
      ∀ i id job, t.worker? i = some (.busy id job) → job.Owns id := by
    intro k id job busy
    rcases worker?_of_set set busy with ⟨_, same⟩ | ⟨_, before⟩
    · exact own id job same.symm
    · exact jobs k id job before
  cases acts with
  | take i id rest idle waits =>
    refine others rfl fun id job same => ?_
    cases same
    intro s read
    cases read
  | work i id job busy going =>
    refine others rfl fun id next same => ?_
    cases same
    exact Job.step_owns setup keyed (jobs i id job busy)
  | release i id outcome busy => exact others rfl fun _ _ same => by cases same
  | stop i idle => exact others rfl fun _ _ same => by cases same

end Server.Acts

namespace Traffic

structure Orderly (t : Traffic) : Prop where
  faultless : t.site.Faultless
  keyed : t.site.Keyed
  accounted : t.server.Accounted
  jobs : ∀ i id job, t.server.worker? i = some (.busy id job) → job.Owns id
  known : ∀ id ∈ t.site.queue.inFlight, ∃ d, t.site.stored? id = some d
  intakes : ∀ (i : Nat) k, t.intakes[i]? = some k → k.Fits t.site
  distinct : ∀ (i j : Nat) k l, t.intakes[i]? = some k → t.intakes[j]? = some l →
    ∀ s ∈ k.submission?, ∀ r ∈ l.submission?, s.id = r.id → i = j
  failed : ∀ (j : Nat) q, t.requeues[j]? = some q → ∀ f ∈ q.failed?,
    f.status = .internalError ∧ ∃ d, t.site.stored? f.id = some d
  apart : ∀ (j : Nat) q, t.requeues[j]? = some q → ∀ f ∈ q.failed?,
    ∀ (i : Nat) k, t.intakes[i]? = some k → ∀ s ∈ k.submission?, s.id ≠ f.id
  current : ∀ (j : Nat) f c, t.requeues[j]? = some (.offer f c) → c.id = f.id

theorem start_orderly {site : Site} (faultless : site.Faultless) (keyed : site.Keyed)
    (channel : site.queue.channel = []) (inFlight : site.queue.inFlight = []) (workers : Nat) :
    (start site workers).Orderly where
  faultless := faultless
  keyed := keyed
  accounted := Server.withWorkers_accounted channel inFlight workers
  jobs i id job busy := by
    obtain ⟨_, same⟩ := List.getElem?_eq_some_iff.mp busy
    simp [start, Server.withWorkers] at same
  known id flying := by
    rw [show (start site workers).site.queue.inFlight = [] from inFlight] at flying
    contradiction
  intakes i k there := by simp [start] at there
  distinct i j k l there := by simp [start] at there
  failed j q there := by simp [start] at there
  apart j q there := by simp [start] at there
  current j f c there := by simp [start] at there

namespace Orderly

variable {t : Traffic} (orderly : t.Orderly)
include orderly

theorem act {setup : Setup} {server : Server} (acts : t.server.Acts setup server) :
    ({ t with server } : Traffic).Orderly := by
  obtain ⟨d?, attempted, own, flights⟩ := acts.attempted orderly.jobs
  have untouched {i : Nat} {k : Intake} (there : t.intakes[i]? = some k) :
      ∀ s ∈ k.submission?, server.site.stored? s.id = t.site.stored? s.id := by
    intro s read
    refine attempted.stored?_other fun d saved same => ?_
    obtain ⟨w, job, busy⟩ := own d saved
    rw [← same] at busy
    exact (orderly.intakes i k there).grounded s read (orderly.accounted.of_busy busy)
  exact {
    faultless := fun o => (congrFun attempted.fault? o).trans (orderly.faultless o)
    keyed := attempted.keyed orderly.keyed
    accounted := acts.accounted orderly.accounted
    jobs := acts.owns orderly.keyed orderly.jobs
    known := fun id flying => attempted.stays (orderly.known id (flights id flying))
    intakes := fun i k there => (orderly.intakes i k there).of_same (untouched there)
      fun s _ flying => flights s.id flying
    distinct := orderly.distinct
    failed := fun j q there f read =>
      ⟨(orderly.failed j q there f read).1, attempted.stays (orderly.failed j q there f read).2⟩
    apart := orderly.apart
    current := orderly.current }

theorem submit {s : Submission} (fresh : t.IsFresh s.id) (due : s.status = .pending) :
    ({ t with intakes := t.intakes ++ [.findProblem s] } : Traffic).Orderly := by
  obtain ⟨unused, others⟩ := fresh
  have grounded : s.id ∉ t.site.queue.inFlight := by
    intro flying
    obtain ⟨d, found⟩ := orderly.known s.id flying
    rw [unused] at found
    contradiction
  have apart_new {i : Nat} {k : Intake} (there : t.intakes[i]? = some k) :
      ∀ r ∈ k.submission?, r.id ≠ s.id := others k (List.mem_of_getElem? there)
  refine { orderly with intakes := ?_, distinct := ?_, apart := ?_ }
  · intro i k there
    rcases getElem?_concat_cases there with before | ⟨_, rfl⟩
    · exact orderly.intakes i k before
    · refine ⟨fun r read => ?_, fun r read => ?_, unused⟩
      · obtain rfl := Option.some.inj read
        exact due
      · obtain rfl := Option.some.inj read
        exact grounded
  · intro i j k l there there' r read r' read' same
    rcases getElem?_concat_cases there with before | ⟨last, rfl⟩
    · rcases getElem?_concat_cases there' with before' | ⟨_, rfl⟩
      · exact orderly.distinct i j k l before before' r read r' read' same
      · obtain rfl := Option.some.inj read'
        exact absurd same (apart_new before r read)
    · obtain rfl := Option.some.inj read
      rcases getElem?_concat_cases there' with before' | ⟨last', rfl⟩
      · exact absurd same.symm (apart_new before' r' read')
      · exact last.trans last'.symm
  · intro j q there f read i k there' r read'
    rcases getElem?_concat_cases there' with before | ⟨_, rfl⟩
    · exact orderly.apart j q there f read i k before r read'
    · obtain rfl := Option.some.inj read'
      intro same
      obtain ⟨d, found⟩ := (orderly.failed j q there f read).2
      rw [← same, unused] at found
      contradiction

theorem intake {i : Nat} {k : Intake} (there : t.intakes[i]? = some k) :
    ({ t.withSite (k.step t.site).1 with
      intakes := t.intakes.set i (k.step t.site).2 } : Traffic).Orderly := by
  have attempted := k.step_attempted t.site
  have fits := orderly.intakes i k there
  have flights : (k.step t.site).1.queue = t.site.queue ∨
      ∃ s ∈ k.submission?, s.id ∉ t.site.queue.inFlight ∧ t.site.stored? s.id = some s ∧
        (k.step t.site).1.queue = t.site.queue.push s.id := by
    rcases k.queue_cases t.site with queue | ⟨s, rfl, new, queue⟩
    · exact .inl queue
    · exact .inr ⟨s, rfl, new, fits.shows, queue⟩
  have own {a : Nat} {l : Intake} (there' : (t.intakes.set i (k.step t.site).2)[a]? = some l) :
      ∃ l', t.intakes[a]? = some l' ∧ ∀ s ∈ l.submission?, s ∈ l'.submission? := by
    rcases getElem?_set_cases there' with ⟨rfl, rfl⟩ | ⟨_, before⟩
    · exact ⟨k, there, fun s read => Intake.step_submission? read⟩
    · exact ⟨l, before, fun s read => read⟩
  exact {
    faultless := fun o => (congrFun attempted.fault? o).trans (orderly.faultless o)
    keyed := attempted.keyed orderly.keyed
    accounted := by
      rcases flights with queue | ⟨s, _, new, _, queue⟩
      · exact orderly.accounted.of_same (congrArg _ queue) (congrArg _ queue) rfl
      · exact orderly.accounted.push new queue rfl
    jobs := orderly.jobs
    known := by
      intro id flying
      change id ∈ (k.step t.site).1.queue.inFlight at flying
      refine attempted.stays ?_
      rcases flights with queue | ⟨s, _, _, found, queue⟩
      · rw [queue] at flying
        exact orderly.known id flying
      · rw [queue] at flying
        rcases Queue.mem_inFlight_of_push flying with before | rfl
        · exact orderly.known id before
        · exact ⟨s, found⟩
    intakes := by
      intro a l there'
      rcases getElem?_set_cases there' with ⟨rfl, rfl⟩ | ⟨other, before⟩
      · exact fits.step orderly.faultless.saves
      · have differs {r s : Submission} (read : r ∈ l.submission?) (read' : s ∈ k.submission?) :
            r.id ≠ s.id :=
          fun same => other (orderly.distinct a i l k before there r read s read' same)
        refine (orderly.intakes a l before).of_same (fun r read => ?_) fun r read flying => ?_
        · refine attempted.stored?_other fun d saved same => ?_
          obtain ⟨s, read', owner⟩ := Intake.saves?_id saved
          exact differs read read' (same.trans owner)
        · change r.id ∈ (k.step t.site).1.queue.inFlight at flying
          rcases flights with queue | ⟨s, read', _, _, queue⟩
          · rw [queue] at flying
            exact flying
          · rw [queue] at flying
            rcases Queue.mem_inFlight_of_push flying with before' | new
            · exact before'
            · exact absurd new (differs read read')
    distinct := by
      intro a b l m there' there'' r read s read' same
      obtain ⟨l', before, kept⟩ := own there'
      obtain ⟨m', before', kept'⟩ := own there''
      exact orderly.distinct a b l' m' before before' r (kept r read) s (kept' s read') same
    failed := fun j q there' f read =>
      ⟨(orderly.failed j q there' f read).1, attempted.stays (orderly.failed j q there' f read).2⟩
    apart := by
      intro j q there' f read a l there'' s read'
      obtain ⟨l', before, kept⟩ := own there''
      exact orderly.apart j q there' f read a l' before s (kept s read')
    current := orderly.current }

theorem again (id : Uuid) : ({ t with requeues := t.requeues ++ [.load id] } : Traffic).Orderly := by
  have before {j : Nat} {q : Requeue} (there : (t.requeues ++ [.load id])[j]? = some q)
      {f : Submission} (read : f ∈ q.failed?) : t.requeues[j]? = some q := by
    rcases getElem?_concat_cases there with before | ⟨_, rfl⟩
    · exact before
    · exact (Option.not_mem_none f read).elim
  exact { orderly with
    failed := fun j q there f read => orderly.failed j q (before there read) f read
    apart := fun j q there f read => orderly.apart j q (before there read) f read
    current := fun j f c there => orderly.current j f c (before there rfl) }

theorem requeue {j : Nat} {q : Requeue} (there : t.requeues[j]? = some q) :
    ({ t.withSite (q.step t.site).1 with
      requeues := t.requeues.set j (q.step t.site).2 } : Traffic).Orderly := by
  have attempted := q.step_attempted t.site
  have flights : (q.step t.site).1.queue = t.site.queue ∨
      ∃ f ∈ q.failed?, f.id ∉ t.site.queue.inFlight ∧
        (q.step t.site).1.queue = t.site.queue.push f.id := by
    rcases q.queue_cases t.site with queue | ⟨f, current, rfl, new, queue, _⟩
    · exact .inl queue
    · exact .inr ⟨f, rfl, new, queue⟩
  have own {a : Nat} {p : Requeue} (there' : (t.requeues.set j (q.step t.site).2)[a]? = some p)
      {f : Submission} (read : f ∈ p.failed?) :
      (∃ p', t.requeues[a]? = some p' ∧ f ∈ p'.failed?) ∨
        t.site.stored? f.id = some f ∧ f.status = .internalError := by
    rcases getElem?_set_cases there' with ⟨rfl, rfl⟩ | ⟨_, before⟩
    · rcases Requeue.step_failed? read with kept | ⟨id, _, found, broken⟩
      · exact .inl ⟨q, there, kept⟩
      · rw [← orderly.keyed id f found] at found
        exact .inr ⟨found, broken⟩
    · exact .inl ⟨p, before, read⟩
  exact {
    faultless := fun o => (congrFun attempted.fault? o).trans (orderly.faultless o)
    keyed := attempted.keyed orderly.keyed
    accounted := by
      rcases flights with queue | ⟨f, _, new, queue⟩
      · exact orderly.accounted.of_same (congrArg _ queue) (congrArg _ queue) rfl
      · exact orderly.accounted.push new queue rfl
    jobs := orderly.jobs
    known := by
      intro id flying
      change id ∈ (q.step t.site).1.queue.inFlight at flying
      refine attempted.stays ?_
      rcases flights with queue | ⟨f, read, _, queue⟩
      · rw [queue] at flying
        exact orderly.known id flying
      · rw [queue] at flying
        rcases Queue.mem_inFlight_of_push flying with before | rfl
        · exact orderly.known id before
        · exact (orderly.failed j q there f read).2
    intakes := by
      intro i k there'
      refine (orderly.intakes i k there').of_same (fun s read => ?_) fun s read flying => ?_
      · refine attempted.stored?_other fun d saved same => ?_
        obtain ⟨f, read', owner⟩ := Requeue.saves?_id saved
        exact orderly.apart j q there f read' i k there' s read (same.trans owner)
      · change s.id ∈ (q.step t.site).1.queue.inFlight at flying
        rcases flights with queue | ⟨f, read', _, queue⟩
        · rw [queue] at flying
          exact flying
        · rw [queue] at flying
          rcases Queue.mem_inFlight_of_push flying with before | new
          · exact before
          · exact absurd new (orderly.apart j q there f read' i k there' s read)
    distinct := orderly.distinct
    failed := by
      intro a p there' f read
      rcases own there' read with ⟨p', before, read'⟩ | ⟨found, broken⟩
      · have known := orderly.failed a p' before f read'
        exact ⟨known.1, attempted.stays known.2⟩
      · exact ⟨broken, attempted.stays ⟨f, found⟩⟩
    apart := by
      intro a p there' f read i k there'' s read'
      rcases own there' read with ⟨p', before, read''⟩ | ⟨found, broken⟩
      · exact orderly.apart a p' before f read'' i k there'' s read'
      · intro same
        rw [← same] at found
        have waits := (orderly.intakes i k there'').waits read' found
        rw [broken] at waits
        contradiction
    current := by
      intro a f c there'
      rcases getElem?_set_cases there' with ⟨_, next⟩ | ⟨_, before⟩
      · exact Requeue.step_current next.symm
      · exact orderly.current a f c before }

theorem aside {site : Site} (stopping : Bool)
    (submissions : site.store.submissions = t.site.store.submissions)
    (channel : site.queue.channel = t.site.queue.channel)
    (inFlight : site.queue.inFlight = t.site.queue.inFlight) (fault : site.Faultless) :
    ({ t with server := { t.server with site, stopping } } : Traffic).Orderly := by
  have stored (id : Uuid) : site.stored? id = t.site.stored? id := by
    unfold Site.stored?
    rw [submissions]
  exact {
    faultless := fault
    keyed := by
      intro id d found
      exact orderly.keyed id d ((stored id).symm.trans found)
    accounted := orderly.accounted.of_same channel inFlight rfl
    jobs := orderly.jobs
    known := by
      intro id flying
      change id ∈ site.queue.inFlight at flying
      rw [inFlight] at flying
      obtain ⟨d, found⟩ := orderly.known id flying
      exact ⟨d, (stored id).trans found⟩
    intakes := by
      intro i k there
      refine (orderly.intakes i k there).of_same (fun s _ => stored s.id) fun s _ flying => ?_
      change s.id ∈ site.queue.inFlight at flying
      rw [inFlight] at flying
      exact flying
    distinct := orderly.distinct
    failed := by
      intro j q there f read
      obtain ⟨broken, d, found⟩ := orderly.failed j q there f read
      exact ⟨broken, d, (stored f.id).trans found⟩
    apart := orderly.apart
    current := orderly.current }

end Orderly

theorem Moves.orderly {setup : Setup} {t u : Traffic} {e : Event} (moves : t.Moves setup e u)
    (orderly : t.Orderly) : u.Orderly := by
  cases moves with
  | act a server acts => exact orderly.act acts
  | submit fresh userId problemId language code unused => exact orderly.submit unused rfl
  | intake i k there => exact orderly.intake there
  | again id => exact orderly.again id
  | requeue j q there => exact orderly.requeue there
  | aside e site stopping submissions channel inFlight fault =>
    exact orderly.aside stopping submissions channel inFlight fault

/-- What every move keeps is kept by a run. -/
theorem execute_preserves (setup : Setup) {P : Traffic → Prop} {schedule : List Event}
    (calm : ∀ e ∈ schedule, e.Faultless)
    (step : ∀ t u : Traffic, ∀ e ∈ schedule, t.Orderly → t.Moves setup e u → P t → P u)
    {t : Traffic} (orderly : t.Orderly) (holds : P t) :
    (execute setup schedule t).Orderly ∧ P (execute setup schedule t) := by
  induction schedule generalizing t with
  | nil => exact ⟨orderly, holds⟩
  | cons e es ih =>
    have moves := advance_moves setup orderly.faultless (calm e List.mem_cons_self)
    exact ih (fun e' later => calm e' (List.mem_cons_of_mem _ later))
      (fun t u e' later => step t u e' (List.mem_cons_of_mem _ later)) (moves.orderly orderly)
      (step t _ e List.mem_cons_self orderly moves holds)

theorem execute_orderly (setup : Setup) {schedule : List Event}
    (calm : ∀ e ∈ schedule, e.Faultless) {t : Traffic} (orderly : t.Orderly) :
    (execute setup schedule t).Orderly :=
  (execute_preserves setup (P := fun _ => True) calm (fun _ _ _ _ _ _ holds => holds) orderly trivial).1

end Traffic

end Grader

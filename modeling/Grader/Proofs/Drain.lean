import Grader.Proofs.Shift

/-! The books of a queue. What was accepted has been handed out in its order or waits in the channel,
what was handed out has been processed or is with a worker, and what is in flight waits or is with a
worker. When all workers have stopped nothing is left. -/
namespace Grader

namespace History

theorem accepted_queued (h : History) (id : Uuid) :
    { h with offers := h.offers ++ [(id, Offer.queued)] }.accepted = h.accepted ++ [id] := by
  simp [accepted]

theorem accepted_declined (h : History) (id : Uuid) {answer : Offer} (other : answer ≠ .queued) :
    { h with offers := h.offers ++ [(id, answer)] }.accepted = h.accepted := by
  simp [accepted, other]

theorem count_accepted (h : History) (id : Uuid) :
    h.accepted.count id = h.offers.count (id, .queued) := by
  unfold accepted
  generalize h.offers = offers
  induction offers with
  | nil => rfl
  | cons offer offers ih =>
    obtain ⟨x, answer⟩ := offer
    by_cases queued : answer = .queued
    · simp [queued, List.count_cons, ih]
    · simp [queued, ih]

end History

namespace Shift

/-- A worker stops for good, and not before the queue is closed and empty. -/
structure Settling (s : Shift) : Prop where
  staffed : s.server.workers ≠ []
  closed : s.server.stopping = true → s.queue.isClosed = true
  stopped : .stopped ∈ s.server.workers → s.queue.isClosed = true ∧ s.queue.channel = []

theorem Settling.empty {s : Shift} (settling : s.Settling) (done : s.HasStopped) :
    s.queue.channel = [] := by
  obtain ⟨w, member⟩ := List.exists_mem_of_ne_nil _ settling.staffed
  obtain rfl := done w member
  exact (settling.stopped member).2

namespace Moves

variable {setup : Setup} {s t : Shift} {e : Event} (moves : s.Moves setup e t)
include moves

theorem capacity : t.queue.capacity = s.queue.capacity := by
  cases moves with
  | worked i id job => exact congrArg Queue.capacity (job.queue_step setup id s.server.site)
  | aside e site stopping channel inFlight capacity => exact capacity
  | queued | declined | took | released | stopped | left => rfl

theorem staff : t.server.workers.length = s.server.workers.length := by
  cases moves with
  | took | worked | released | stopped => exact List.length_set
  | queued | declined | left | aside => rfl

theorem room (room : s.queue.channel.length ≤ s.queue.capacity) :
    t.queue.channel.length ≤ t.queue.capacity := by
  rw [moves.capacity]
  cases moves with
  | queued id metrics opened new space =>
    show (s.queue.channel ++ [id]).length ≤ s.queue.capacity
    rw [List.length_append]
    exact space
  | took i id rest idle waits =>
    rw [waits] at room
    exact Nat.le_of_succ_le room
  | worked i id job =>
    show (job.step setup id s.server.site).1.queue.channel.length ≤ s.queue.capacity
    rw [job.queue_step]
    exact room
  | left => exact Nat.zero_le _
  | aside e site stopping channel =>
    show site.queue.channel.length ≤ s.queue.capacity
    rw [channel]
    exact room
  | declined | released | stopped => exact room

theorem settling (settling : s.Settling) : t.Settling := by
  have staffed : t.server.workers ≠ [] := by
    rw [← List.length_pos_iff, moves.staff]
    exact List.length_pos_iff.mpr settling.staffed
  have before {i : Nat} {w : Worker} (member : .stopped ∈ s.server.workers.set i w)
      (other : w ≠ .stopped) : .stopped ∈ s.server.workers :=
    (List.mem_or_eq_of_mem_set member).resolve_right (Ne.symm other)
  cases moves with
  | queued id metrics opened new room =>
    refine ⟨staffed, settling.closed, fun member => ?_⟩
    rw [(settling.stopped member).1] at opened
    contradiction
  | took i id rest idle waits =>
    refine ⟨staffed, settling.closed, fun member => ?_⟩
    have empty := (settling.stopped (before member nofun)).2
    rw [waits] at empty
    contradiction
  | worked i id job busy going =>
    have queue := job.queue_step setup id s.server.site
    refine ⟨staffed, fun stopping => ?_, fun member => ?_⟩
    · exact (congrArg Queue.isClosed queue).trans (settling.closed stopping)
    · obtain ⟨closed, empty⟩ := settling.stopped (before member nofun)
      exact ⟨(congrArg Queue.isClosed queue).trans closed, (congrArg Queue.channel queue).trans empty⟩
  | released i id outcome busy =>
    exact ⟨staffed, settling.closed, fun member => settling.stopped (before member nofun)⟩
  | stopped i idle empty stopping =>
    exact ⟨staffed, settling.closed, fun _ => ⟨settling.closed stopping, empty⟩⟩
  | left done =>
    exact ⟨staffed, settling.closed, fun member => ⟨(settling.stopped member).1, rfl⟩⟩
  | aside e site stopping channel inFlight capacity closes stops =>
    refine ⟨staffed, fun now => ?_, fun member => ?_⟩
    · exact (stops now).elim (fun before => closes (settling.closed before)) id
    · obtain ⟨closed, empty⟩ := settling.stopped member
      exact ⟨closes closed, channel.trans empty⟩
  | declined => exact ⟨staffed, settling.closed, settling.stopped⟩

theorem accounted (settling : s.Settling) (accounted : s.server.Accounted) : t.server.Accounted := by
  cases moves with
  | queued id metrics opened new room => exact accounted.push new rfl rfl
  | declined id answer metrics other => exact accounted.of_same rfl rfl rfl
  | took i id rest idle waits =>
    have acts : s.server.Acts setup _ := .take i id rest idle waits
    exact acts.accounted accounted
  | worked i id job busy going => exact (Server.Acts.work i id job busy going).accounted accounted
  | released i id outcome busy =>
    have acts : s.server.Acts setup _ := .release i id outcome busy
    exact acts.accounted accounted
  | stopped i idle empty stopping =>
    have acts : s.server.Acts setup _ := .stop i idle empty stopping
    exact acts.accounted accounted
  | left done => exact accounted.of_same (settling.empty done).symm rfl rfl
  | aside e site stopping channel inFlight => exact accounted.of_same channel inFlight rfl

/-- What was accepted was handed out in its order or waits. -/
theorem order (settling : s.Settling)
    (order : s.history.accepted = s.history.handed ++ s.queue.channel) :
    t.history.accepted = t.history.handed ++ t.queue.channel := by
  cases moves with
  | queued id metrics opened new room =>
    calc ({ s.history with offers := s.history.offers ++ [(id, Offer.queued)] } : History).accepted
      _ = s.history.accepted ++ [id] := s.history.accepted_queued id
      _ = s.history.handed ++ (s.queue.channel ++ [id]) := by rw [order, List.append_assoc]
  | declined id answer metrics other => exact (s.history.accepted_declined id other).trans order
  | took i id rest idle waits =>
    calc s.history.accepted
      _ = s.history.handed ++ (id :: rest) := by rw [order, waits]
      _ = s.history.handed ++ [id] ++ rest := by rw [List.append_assoc]; rfl
  | worked i id job busy going =>
    have queue := job.queue_step setup id s.server.site
    exact order.trans (congrArg (s.history.handed ++ ·.channel) queue.symm)
  | left done => exact order.trans (congrArg _ (settling.empty done))
  | aside e site stopping channel => exact order.trans (congrArg _ channel.symm)
  | released | stopped => exact order

/-- What was handed out has been processed or is with a worker. -/
theorem custody
    (custody : s.history.handed.Perm (s.history.processed.map (·.1) ++ s.server.busyIds)) :
    t.history.handed.Perm (t.history.processed.map (·.1) ++ t.server.busyIds) := by
  cases moves with
  | took i id rest idle waits =>
    have moved := perm_filterMap_set (f := Worker.id?) idle (.busy id .load)
    calc s.history.handed ++ [id]
      _ |>.Perm (id :: s.history.handed) := List.perm_append_singleton ..
      _ |>.Perm (id :: (s.history.processed.map (·.1) ++ s.server.busyIds)) := custody.cons id
      _ |>.Perm (s.history.processed.map (·.1) ++ (id :: s.server.busyIds)) := List.perm_middle.symm
      _ |>.Perm (s.history.processed.map (·.1) ++
            (s.server.workers.set i (.busy id .load)).filterMap Worker.id?) :=
          moved.symm.append_left _
  | worked i id job busy going =>
    have moved := perm_filterMap_set (f := Worker.id?) busy
      (.busy id (job.step setup id s.server.site).2)
    exact custody.trans ((List.Perm.cons_inv moved).symm.append_left _)
  | released i id outcome busy =>
    have moved := perm_filterMap_set (f := Worker.id?) busy .idle
    show s.history.handed.Perm ((s.history.processed ++ [(id, outcome)]).map (·.1) ++
      (s.server.workers.set i .idle).filterMap Worker.id?)
    rw [List.map_append, List.append_assoc]
    exact custody.trans (moved.symm.append_left _)
  | stopped i idle empty stopping =>
    have moved := perm_filterMap_set (f := Worker.id?) idle .stopped
    exact custody.trans (moved.symm.append_left _)
  | queued | declined | left | aside => exact custody

end Moves

structure Balanced (capacity workers : Nat) (s : Shift) : Prop where
  settling : s.Settling
  accounted : s.server.Accounted
  order : s.history.accepted = s.history.handed ++ s.queue.channel
  custody : s.history.handed.Perm (s.history.processed.map (·.1) ++ s.server.busyIds)
  capacity : s.queue.capacity = max capacity 1
  room : s.queue.channel.length ≤ s.queue.capacity
  staff : s.server.workers.length = max workers 1

theorem start_balanced (site : Site) (capacity workers : Nat) :
    (start site capacity workers).Balanced capacity workers where
  settling := by
    refine ⟨List.length_pos_iff.mp ?_, nofun, fun member => nomatch List.eq_of_mem_replicate member⟩
    show 0 < (List.replicate (max workers 1) Worker.idle).length
    rw [List.length_replicate]
    omega
  accounted := Server.withWorkers_accounted rfl rfl _
  order := rfl
  custody := by simp [start, History.empty, Server.withWorkers, Server.busyIds, Worker.id?]
  capacity := rfl
  room := Nat.zero_le _
  staff := List.length_replicate

theorem Balanced.moves {setup : Setup} {capacity workers : Nat} {s t : Shift} {e : Event}
    (balanced : s.Balanced capacity workers) (moves : s.Moves setup e t) :
    t.Balanced capacity workers where
  settling := moves.settling balanced.settling
  accounted := moves.accounted balanced.settling balanced.accounted
  order := moves.order balanced.settling balanced.order
  custody := moves.custody balanced.custody
  capacity := moves.capacity.trans balanced.capacity
  room := moves.room balanced.room
  staff := moves.staff.trans balanced.staff

theorem execute_balanced (setup : Setup) {capacity workers : Nat} (schedule : List Event) {s : Shift}
    (balanced : s.Balanced capacity workers) :
    (execute setup schedule s).Balanced capacity workers := by
  induction schedule generalizing s with
  | nil => exact balanced
  | cons e es ih => exact ih (balanced.moves (s.advance_moves setup e))

def perform (setup : Setup) (actions : List Action) (s : Shift) : Shift :=
  execute setup (actions.map .act) s

theorem perform_append (setup : Setup) (first next : List Action) (s : Shift) :
    perform setup (first ++ next) s = perform setup next (perform setup first s) := by
  induction first generalizing s with
  | nil => rfl
  | cons a first ih => exact ih _

/-- Work on a submission that somebody is busy with comes to an end, and changes nothing else that
a worker looks at. -/
theorem work_off (setup : Setup) {s : Shift} {i : Nat} {id : Uuid} {job : Job}
    (busy : s.server.worker? i = some (.busy id job)) :
    ∃ actions, (perform setup actions s).server.workers = s.server.workers.set i .idle ∧
      (perform setup actions s).queue.channel = s.queue.channel ∧
      (perform setup actions s).server.stopping = s.server.stopping := by
  cases ended : job.outcome? with
  | some outcome =>
    obtain rfl := Server.outcome?_eq_some ended
    refine ⟨[.release i], ?_⟩
    simp [perform, execute, advance, Server.act?, Server.release?, busy, ended, Server.setWorker,
      queue, Site.release, Queue.release]
  | none =>
    have smaller := Job.step_rank setup id s.server.site job ended
    have stepped : (s.advance setup (.act (.work i))).server =
        { s.server with site := (job.step setup id s.server.site).1 }.setWorker i
          (.busy id (job.step setup id s.server.site).2) := by
      simp [advance, Server.act?, Server.work?, busy, ended]
    have busy' : (s.advance setup (.act (.work i))).server.worker? i =
        some (.busy id (job.step setup id s.server.site).2) :=
      Server.worker?_set_same busy (by rw [stepped]; rfl)
    obtain ⟨actions, workers, channel, stopping⟩ := work_off setup busy'
    refine ⟨.work i :: actions, ?_, ?_, ?_⟩
    · refine workers.trans ?_
      rw [stepped]
      exact List.set_set ..
    · refine channel.trans ?_
      unfold queue
      rw [stepped]
      exact congrArg Queue.channel (job.queue_step setup id s.server.site)
    · refine stopping.trans ?_
      rw [stepped]
      rfl
termination_by job.rank
decreasing_by exact smaller

/-- A worker that is told to stop empties the channel first. -/
theorem clear (setup : Setup) {s : Shift} (stopping : s.server.stopping = true) {i : Nat}
    (idle : s.server.worker? i = some .idle) :
    ∃ actions, (perform setup actions s).server.workers = s.server.workers.set i .stopped ∧
      (perform setup actions s).server.stopping = true := by
  generalize waits : s.queue.channel = channel
  induction channel generalizing s with
  | nil =>
    refine ⟨[.stop i], ?_⟩
    unfold queue at waits
    simp [perform, execute, advance, Server.act?, Server.stop?, idle, waits, stopping,
      Server.setWorker]
  | cons id rest ih =>
    have taken : (s.advance setup (.act (.take i))).server =
        { s.server with site := { s.server.site with
          queue := { s.queue with channel := rest } } }.setWorker i (.busy id .load) := by
      unfold queue at waits ⊢
      simp [advance, Server.act?, Server.take?, Queue.take?, idle, waits]
    have busy : (s.advance setup (.act (.take i))).server.worker? i = some (.busy id .load) :=
      Server.worker?_set_same idle (by rw [taken]; rfl)
    obtain ⟨work, workers, channel, still⟩ := work_off setup busy
    rw [taken] at workers still
    unfold queue at channel
    rw [taken] at channel
    replace workers : (perform setup work (s.advance setup (.act (.take i)))).server.workers =
        s.server.workers.set i .idle := workers.trans (List.set_set ..)
    obtain ⟨others, last, done⟩ := ih (still.trans stopping)
      (Server.worker?_set_same idle workers) channel
    refine ⟨.take i :: (work ++ others), ?_⟩
    show (perform setup (work ++ others) (s.advance setup (.act (.take i)))).server.workers = _ ∧
      (perform setup (work ++ others) (s.advance setup (.act (.take i)))).server.stopping = true
    rw [perform_append]
    exact ⟨by rw [last, workers, List.set_set], done⟩

theorem dismiss (setup : Setup) {s : Shift} (stopping : s.server.stopping = true) {i : Nat}
    {w : Worker} (there : s.server.worker? i = some w) :
    ∃ actions, (perform setup actions s).server.workers = s.server.workers.set i .stopped ∧
      (perform setup actions s).server.stopping = true := by
  cases w with
  | idle => exact clear setup stopping there
  | busy id job =>
    obtain ⟨work, workers, _, still⟩ := work_off setup there
    obtain ⟨others, last, done⟩ := clear setup (still.trans stopping)
      (Server.worker?_set_same there workers)
    refine ⟨work ++ others, ?_⟩
    rw [perform_append]
    exact ⟨by rw [last, workers, List.set_set], done⟩
  | stopped =>
    refine ⟨[], ?_, stopping⟩
    obtain ⟨inside, same⟩ := List.getElem?_eq_some_iff.mp there
    show s.server.workers = s.server.workers.set i .stopped
    rw [← same, List.set_getElem_self]

/-- Once a shutdown has begun the workers can go on until all have stopped. -/
theorem can_stop (setup : Setup) {s : Shift} (stopping : s.server.stopping = true) :
    ∃ actions, (perform setup actions s).HasStopped := by
  have first (count : Nat) (few : count ≤ s.server.workers.length) :
      ∃ actions, (perform setup actions s).server.stopping = true ∧
        (perform setup actions s).server.workers =
          List.replicate count .stopped ++ s.server.workers.drop count := by
    induction count with
    | zero => exact ⟨[], stopping, rfl⟩
    | succ count ih =>
      obtain ⟨actions, still, workers⟩ := ih (Nat.le_of_succ_le few)
      rw [List.drop_eq_getElem_cons few] at workers
      have next : (perform setup actions s).server.worker? count = some s.server.workers[count] := by
        unfold Server.worker?
        rw [workers, List.getElem?_append_right (by simp)]
        simp
      obtain ⟨others, last, done⟩ := dismiss setup still next
      refine ⟨actions ++ others, ?_⟩
      rw [perform_append]
      refine ⟨done, ?_⟩
      rw [last, workers, List.set_append_right _ _ (by simp), List.length_replicate, Nat.sub_self,
        List.set_cons_zero, List.replicate_succ', List.append_assoc]
      rfl
  obtain ⟨actions, _, workers⟩ := first s.server.workers.length (Nat.le_refl _)
  refine ⟨actions, fun w member => ?_⟩
  rw [workers, List.drop_length, List.append_nil] at member
  exact List.eq_of_mem_replicate member

/-- An offer that is not taken is counted as a rejection and changes nothing else. -/
theorem offer_declined (setup : Setup) (s : Shift) {id : Uuid}
    (declined : (s.queue.enqueue id).1 ≠ .queued) :
    ∃ metrics, (s.advance setup (.offer id)).server =
      { s.server with site := { s.server.site with metrics } } := by
  have same := Queue.enqueue_eq_self declined
  unfold queue at same
  exact ⟨_, by simp only [advance, Site.enqueue, same]; rfl⟩

theorem Balanced.drained {capacity workers : Nat} {s : Shift} (balanced : s.Balanced capacity workers)
    (done : s.HasStopped) :
    s.queue.depth = 0 ∧ (s.history.processed.map (·.1)).Perm s.history.accepted := by
  have empty := balanced.settling.empty done
  have free : s.server.busyIds = [] := by
    refine List.filterMap_eq_nil_iff.mpr fun w member => ?_
    rw [done w member]
    rfl
  have places : s.queue.inFlight.Perm (s.queue.channel ++ s.server.busyIds) :=
    balanced.accounted.places
  rw [empty, free] at places
  refine ⟨List.length_eq_zero_iff.mpr places.eq_nil, ?_⟩
  have custody := balanced.custody
  rw [free, List.append_nil] at custody
  rw [balanced.order, empty, List.append_nil]
  exact custody.symm

/-- However offers and the work on what was accepted follow one another, and however that ends, the
books of the queue balance; an offer that is not taken leaves no trace in them. When a shutdown is
over, all that was accepted has been processed, and a shutdown can always come to that. -/
theorem books_balance (setup : Setup) (site : Site) (capacity workers : Nat)
    (schedule : List Event) :
    let s := execute setup schedule (start site capacity workers)
    (∀ id, id ∈ s.queue.inFlight ↔ id ∈ s.queue.channel ∨ id ∈ s.server.busyIds) ∧
      s.queue.inFlight.Nodup ∧ (∀ id ∈ s.queue.channel, id ∉ s.server.busyIds) ∧
      s.queue.channel.Nodup ∧ s.queue.channel.length ≤ max capacity 1 ∧
      s.history.accepted = s.history.handed ++ s.queue.channel ∧
      (∀ id, s.history.offers.count (id, .queued) =
        s.history.handed.count id + if id ∈ s.queue.channel then 1 else 0) ∧
      (∀ id, (s.queue.enqueue id).1 ≠ .queued →
        ∃ metrics, (s.advance setup (.offer id)).server =
          { s.server with site := { s.server.site with metrics } }) ∧
      (s.HasStopped →
        s.queue.depth = 0 ∧ (s.history.processed.map (·.1)).Perm s.history.accepted) ∧
      (s.server.stopping = true → ∃ actions, (perform setup actions s).HasStopped) := by
  intro s
  have balanced : s.Balanced capacity workers :=
    execute_balanced setup schedule (start_balanced site capacity workers)
  obtain ⟨(waiting : s.queue.channel.Nodup), _, apart⟩ :=
    List.nodup_append.mp balanced.accounted.nodup_places
  refine ⟨balanced.accounted.mem_iff, balanced.accounted.nodup,
    fun id waits busy => apart id waits id busy rfl, waiting, ?_, balanced.order, fun id => ?_,
    fun id declined => s.offer_declined setup declined, balanced.drained, can_stop setup⟩
  · rw [← balanced.capacity]
    exact balanced.room
  · rw [← History.count_accepted, balanced.order, List.count_append, waiting.count]

end Shift

end Grader

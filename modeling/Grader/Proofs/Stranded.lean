import Grader.Proofs.Attended
import Grader.Proofs.Process

/-! Submissions that are left without a verdict. Nobody ever sees to one that a crash has cost its
run, and while the store does not fail no other is left behind. -/
namespace Grader

open Api (Intake Requeue)

namespace Traffic

/-- A submission that nobody will see to any more, whatever comes. -/
structure Forsaken (id : Uuid) (t : Traffic) : Prop where
  idle : t.Idle id
  running : ∃ d, t.site.stored? id = some d ∧ d.status = .running
  unheld : ¬t.Holds id

theorem Loses.forsaken {t : Traffic} (orderly : t.Orderly) {id : Uuid} (loses : t.Loses id) :
    t.Forsaken id := by
  obtain ⟨i, busy⟩ := loses.crashed
  exact ⟨.of_done orderly busy, loses.running, loses.unheld⟩

theorem Forsaken.moves {setup : Setup} {id : Uuid} {t : Traffic} (forsaken : t.Forsaken id)
    (orderly : t.Orderly) {e : Event} {u : Traffic} (moves : t.Moves setup e u) :
    u.Forsaken id := by
  obtain ⟨d, found, status⟩ := forsaken.running
  cases moves with
  | act a server acts =>
    obtain ⟨idle, stored⟩ := forsaken.idle.act orderly acts
    exact ⟨idle, ⟨d, stored.trans found, status⟩, forsaken.unheld⟩
  | submit fresh userId problemId language code unused =>
    exact ⟨forsaken.idle.submit unused found, forsaken.running, forsaken.unheld⟩
  | intake i k there =>
    obtain ⟨idle, stored⟩ := forsaken.idle.intake there
    exact ⟨idle, ⟨d, stored.trans found, status⟩, forsaken.unheld⟩
  | again x =>
    refine ⟨{ forsaken.idle with }, forsaken.running, ?_⟩
    rintro ⟨j, q, f, there, read, own⟩
    rcases getElem?_concat_cases there with before | ⟨_, rfl⟩
    · exact forsaken.unheld ⟨j, q, f, before, read, own⟩
    · exact (Option.not_mem_none f read).elim
  | requeue j q there =>
    have unheld (f : Submission) (read : f ∈ q.failed?) : f.id ≠ id :=
      fun own => forsaken.unheld ⟨j, q, f, there, read, own⟩
    refine ⟨forsaken.idle.requeue (forsaken.idle.unqueued_of_other unheld),
      ⟨d, (stored?_requeue unheld).trans found, status⟩, ?_⟩
    rintro ⟨a, p, f, there', read, own⟩
    rcases getElem?_set_cases there' with ⟨rfl, rfl⟩ | ⟨_, before⟩
    · rcases Requeue.step_failed? read with kept | ⟨x, _, loaded, broken⟩
      · exact unheld f kept own
      · -- What a requeue reads has failed, and this submission is said to run.
        rw [← orderly.keyed x f loaded, own, found] at loaded
        obtain rfl := Option.some.inj loaded
        rw [status] at broken
        contradiction
    · exact forsaken.unheld ⟨a, p, f, before, read, own⟩
  | aside e site stopping submissions channel inFlight fault =>
    obtain ⟨idle, stored⟩ := forsaken.idle.aside stopping submissions channel
    exact ⟨idle, ⟨d, stored.trans found, status⟩, forsaken.unheld⟩

/-- At some point of the run a worker's crash has cost the submission its verdict. -/
def Lost (setup : Setup) (t : Traffic) (schedule : List Event) (id : Uuid) : Prop :=
  ∃ first rest, schedule = first ++ rest ∧ (execute setup first t).Loses id

theorem execute_attended (setup : Setup) {schedule : List Event}
    (calm : ∀ e ∈ schedule, e.Faultless) {t : Traffic} (orderly : t.Orderly) {lost : Uuid → Prop}
    (attended : t.Attended lost) :
    (execute setup schedule t).Attended fun id => lost id ∨ t.Lost setup schedule id := by
  induction schedule generalizing t lost with
  | nil =>
    intro id d found
    refine ⟨(attended id d found).1, fun status => ?_⟩
    cases (attended id d found).2 status with
    | awaits awaits => exact .awaits awaits
    | runs i job busy late => exact .runs i job busy late
    | held holds => exact .held holds
    | gone gone => exact .gone (.inl gone)
  | cons e es ih =>
    have moves := advance_moves setup orderly.faultless (calm e List.mem_cons_self)
    have next := ih (fun e' later => calm e' (List.mem_cons_of_mem _ later)) (moves.orderly orderly)
      (attended.moves orderly moves)
    intro id d found
    refine ⟨(next id d found).1, fun status => ?_⟩
    cases (next id d found).2 status with
    | awaits awaits => exact .awaits awaits
    | runs i job busy late => exact .runs i job busy late
    | held holds => exact .held holds
    | gone gone =>
      rcases gone with (before | now) | ⟨first, rest, rfl, loses⟩
      · exact .gone (.inl before)
      · exact .gone (.inr ⟨[e], es, rfl, now⟩)
      · exact .gone (.inr ⟨e :: first, rest, rfl, loses⟩)

/-- No worker is busy with the submission, and no request is half-way with it. A requeue that has yet
to read it has not begun. -/
structure Quiet (t : Traffic) (id : Uuid) : Prop where
  workers : ∀ i job, t.server.worker? i ≠ some (.busy id job)
  intakes : ∀ k ∈ t.intakes, ∀ s ∈ k.submission?, s.id ≠ id
  requeues : ∀ q ∈ t.requeues, ∀ f ∈ q.failed?, f.id ≠ id

/-- The submission has no verdict, and is not on its way to one. -/
def Stranded (t : Traffic) (id : Uuid) : Prop :=
  (∃ d, t.site.stored? id = some d ∧ d.status.isTerminal = false) ∧
    id ∉ t.site.queue.inFlight

/-- What is attended to while all is quiet is in the queue. -/
theorem Quiet.inFlight_of_awaits {t : Traffic} {id : Uuid} (quiet : t.Quiet id) (orderly : t.Orderly)
    (awaits : t.Awaits id) : id ∈ t.site.queue.inFlight := by
  cases awaits with
  | queued waits => exact orderly.accounted.of_waiting waits
  | taken i job busy early => exact absurd busy (quiet.workers i job)
  | taking i k there covers =>
    obtain ⟨s, read, own⟩ := Intake.submission?_of_covers covers
    exact absurd own (quiet.intakes k (List.mem_of_getElem? there) s read)
  | repeating j q there covers =>
    obtain ⟨f, read, own⟩ := Requeue.failed?_of_covers covers
    exact absurd own (quiet.requeues q (List.mem_of_getElem? there) f read)

/-- While the store does not fail, a submission is left without a verdict and out of the queue
exactly if a worker has had a crash in its run and no requeue had its failed state at hand then. -/
theorem stranded_iff_lost (setup : Setup) {site : Site} (faultless : site.Faultless)
    (keyed : site.Keyed) (channel : site.queue.channel = []) (inFlight : site.queue.inFlight = [])
    (settled : ∀ id d, site.stored? id = some d → d.status.isTerminal = true) (workers : Nat)
    {schedule : List Event} (calm : ∀ e ∈ schedule, e.Faultless) {id : Uuid}
    (quiet : (execute setup schedule (start site workers)).Quiet id) :
    (execute setup schedule (start site workers)).Stranded id ↔
      (start site workers).Lost setup schedule id := by
  have orderly := start_orderly faultless keyed channel inFlight workers
  have attended : (start site workers).Attended fun _ => False :=
    fun id d found => vacuous (settled id d found)
  have after := execute_orderly setup calm orderly
  constructor
  · rintro ⟨⟨d, found, due⟩, grounded⟩
    obtain ⟨pending, running⟩ := execute_attended setup calm orderly attended id d found
    cases status : d.status with
    | pending => exact absurd (quiet.inFlight_of_awaits after (pending status)) grounded
    | running =>
      cases running status with
      | awaits awaits => exact absurd (quiet.inFlight_of_awaits after awaits) grounded
      | runs i job busy late => exact absurd busy (quiet.workers i job)
      | held holds =>
        obtain ⟨j, q, f, there, read, own⟩ := holds
        exact absurd own (quiet.requeues q (List.mem_of_getElem? there) f read)
      | gone gone => exact gone.resolve_left fun impossible => impossible
    | _ =>
      rw [status] at due
      contradiction
  · rintro ⟨first, rest, rfl, loses⟩
    have calm_first (e : Event) (member : e ∈ first) := calm e (List.mem_append_left _ member)
    have calm_rest (e : Event) (member : e ∈ rest) := calm e (List.mem_append_right _ member)
    have halfway := execute_orderly setup calm_first orderly
    have forsaken := (execute_preserves setup calm_rest
      (fun t u e _ orderly moves forsaken => Forsaken.moves forsaken orderly moves) halfway
      (loses.forsaken halfway)).2
    rw [← execute_append] at forsaken
    obtain ⟨d, found, status⟩ := forsaken.running
    refine ⟨⟨d, found, by rw [status]; rfl⟩, fun flying => ?_⟩
    rcases (after.accounted.mem_iff id).mp flying with waits | busy
    · exact forsaken.idle.unqueued waits
    · obtain ⟨w, member, works⟩ := List.mem_filterMap.mp busy
      obtain ⟨i, there⟩ := List.getElem?_of_mem member
      cases w with
      | busy x job =>
        obtain rfl := Option.some.inj works
        exact quiet.workers i job there
      | idle | stopped => contradiction

end Traffic

namespace Crash

open Traffic

def setup : Setup := { Echo.setup with engine := fun _ _ => ⟨0, .crashed⟩ }

def site : Site :=
  .start setup.config (.ofDocuments [] [Echo.problem] [("echo", Echo.cases)] []) default

/-- A submission is taken in, and a worker gets it ready to run. -/
def opening : List Event :=
  [.submit (.ofNat 7) "ada" "echo" .python "print(input())", .intake 0, .intake 0, .intake 0,
    .act (.take 0), .act (.work 0), .act (.work 0), .act (.work 0)]

def opened : Traffic := execute setup opening (start site 1)

def crash : List Event := [.act (.work 0), .act (.work 0), .act (.work 0)]

def running : Submission := Echo.submission.markRunning default

theorem opened_work : opened.advance setup (.act (.work 0)) =
    { opened with server := ⟨opened.site.keep running, [.busy (.ofNat 7)
      (.run running (setup.planFor running Echo.problem Echo.cases) ⟨Echo.cases, 0, [], []⟩)],
      false⟩ } := by
  have sorted : Progress.start Echo.cases = ⟨Echo.cases, 0, [], []⟩ := by
    unfold Progress.start
    rw [Echo.ordered_cases]
  rw [← sorted]
  rfl

theorem execute_crash : ∃ after : Site,
    execute setup (opening ++ crash) (start site 1) =
        ⟨⟨after, [.busy (.ofNat 7) (.done .crashed)], false⟩, [.done (.ok Echo.submission)], []⟩ ∧
      after.stored? (.ofNat 7) = some running := by
  rw [execute_append]
  show ∃ after : Site, (((opened.advance setup (.act (.work 0))).advance setup
    (.act (.work 0))).advance setup (.act (.work 0))) = _ ∧ _
  rw [opened_work]
  exact ⟨_, rfl, rfl⟩

theorem loses : (execute setup (opening ++ crash) (start site 1)).Loses (.ofNat 7) := by
  obtain ⟨after, same, stored⟩ := execute_crash
  rw [same]
  refine ⟨⟨0, rfl⟩, ⟨running, stored, rfl⟩, ?_⟩
  rintro ⟨j, q, f, there, _⟩
  simp at there

theorem quiet : (execute setup (opening ++ crash ++ [.act (.release 0)]) (start site 1)).Quiet
    (.ofNat 7) := by
  obtain ⟨after, same, _⟩ := execute_crash
  rw [execute_append, same]
  refine ⟨fun i job busy => ?_, fun k member s read => ?_, fun q member => ?_⟩
  · have idle := List.mem_singleton.mp (List.mem_of_getElem? busy)
    contradiction
  · obtain rfl := List.mem_singleton.mp member
    cases read
  · cases member

theorem stranded_by_crash : (execute setup (opening ++ crash ++ [.act (.release 0)])
    (start site 1)).Stranded (.ofNat 7) := by
  have calm (e : Event) (member : e ∈ opening ++ crash ++ [.act (.release 0)]) : e.Faultless := by
    simp only [opening, crash, List.cons_append, List.nil_append, List.mem_cons] at member
    rcases member with rfl | rfl | rfl | rfl | rfl | rfl | rfl | rfl | rfl | rfl | rfl | rfl | none
    all_goals trivial
  have faultless : site.Faultless := fun _ => rfl
  have keyed : site.Keyed := MemoryStore.keyed_ofDocuments _ _ _ _
  have settled (id : Uuid) (d : Submission) (found : site.stored? id = some d) :
      d.status.isTerminal = true := by cases found
  exact (stranded_iff_lost setup faultless keyed rfl rfl settled 1 calm quiet).mpr
    ⟨_, _, rfl, loses⟩

end Crash

end Grader

import Grader.Proofs.Segments
import Grader.Proofs.Steady
import Mathlib.Data.List.Infix

/-! The balance of the counts. What was put into the queue has been completed or is in flight, and what
the queue has not taken was answered so. Requests that come in between one another keep this too, but
for what a worker lets go of without a completion, which takes a crash or two requeues of one
submission. -/
namespace Grader

open Api (Failure Intake Requeue)

/-- The counts of a site at which a number of requests were turned away. -/
structure Site.Balanced (s : Site) (away : Nat) : Prop where
  enqueued (l : Language) : s.metrics.enqueuedOf l =
    s.metrics.completedOf l + s.spoken l s.queue.inFlight
  evaluated (l : Language) : s.metrics.completedOf l = s.metrics.evaluatedOf l
  rejected : s.metrics.rejectedTotal = away
  depth : s.metrics.queueDepth = s.queue.inFlight.length

theorem Site.Books.balanced {s : Site} {away : Nat} (books : s.Books s.queue.inFlight [] away) :
    s.Balanced away :=
  ⟨books.enqueued, fun l => (books.evaluated l).symm, books.rejected, books.depth⟩

/-- Each submission that has lapsed is one too many in the count of its language. -/
theorem Site.Books.balanced_iff {s : Site} {lapsed : List Uuid} {away : Nat}
    (books : s.Books s.queue.inFlight lapsed away) : s.Balanced away ↔ lapsed = [] := by
  constructor
  · intro balanced
    cases lapsed with
    | nil => rfl
    | cons id rest =>
      obtain ⟨l, known⟩ := books.known id (List.mem_append_right _ List.mem_cons_self)
      have counted := books.enqueued l
      have even := balanced.enqueued l
      rw [Site.spoken_cons known, if_pos rfl] at counted
      omega
  · rintro rfl
    exact books.balanced

def Worker.hasCompleted : Worker → Bool
  | .busy _ job => job.isCompleted
  | .idle | .stopped => false

/-- Workers have let go of what they have completed. -/
def Server.Released (s : Server) : Prop := ∀ w ∈ s.workers, w.hasCompleted = false

instance (s : Server) : Decidable s.Released := by
  unfold Server.Released
  infer_instance

namespace Traffic

/-- What is due is what is in flight, where workers have let go of what they have completed. -/
theorem due_perm {t : Traffic} (orderly : t.Orderly) (released : t.server.Released) :
    t.due.Perm t.site.queue.inFlight := by
  have unfinished : t.server.workers.filterMap Worker.unfinished? = t.server.busyIds := by
    refine List.filterMap_congr fun w member => ?_
    have going := released w member
    cases w with
    | busy id job =>
      unfold Worker.hasCompleted at going
      simp [Worker.unfinished?, Worker.id?, going]
    | idle | stopped => rfl
  unfold due
  rw [unfinished]
  exact orderly.accounted.places.symm

theorem execute_released (setup : Setup) {site : Site} (faultless : site.Faultless)
    (keyed : site.Keyed) (metrics : site.metrics = .zero) (channel : site.queue.channel = [])
    (inFlight : site.queue.inFlight = []) (workers : Nat) {schedule : List Event}
    (regular : Regular setup schedule (start site workers))
    (released : (execute setup schedule (start site workers)).server.Released) :
    let t := execute setup schedule (start site workers)
    t.site.Books t.site.queue.inFlight (lapses setup schedule (start site workers)) t.turnedAway := by
  intro t
  have orderly := start_orderly faultless keyed channel inFlight workers
  have books := execute_books setup regular orderly (start_agrees site workers)
    (start_books metrics channel inFlight workers)
  have now : t.Orderly := execute_orderly setup regular.faultless orderly
  have regrouped := books.regroup (due_perm now released)
  rwa [Nat.zero_add] at regrouped

end Traffic

theorem Job.UpToDate.stored {id : Uuid} {site : Site} {j : Job} (upToDate : j.UpToDate id site)
    {s : Submission} (read : s ∈ j.submission?) : site.stored? id = some s := by
  cases j with
  | findProblem r | findCases r | giveUp r | mark r | run r | await r | save r =>
    obtain rfl := Option.some.inj read
    exact upToDate.1
  | load | done => contradiction

namespace Api

/-- A request that is to queue a submission is turned away as the end of its way tells. -/
theorem Request.isTurnedAway_eq {r : Request} (queues : r.queues = true) {response : Response}
    (result : Except Failure Submission)
    (status : response.status = (Response.ofRun (result.map accepted)).status) :
    r.isTurnedAway (.reply response) = (Intake.done result).isTurnedAway ∧
      r.isTurnedAway (.reply response) = (Requeue.done result).isTurnedAway := by
  unfold isTurnedAway
  simp only [queues, status, Bool.true_and]
  cases result with
  | ok s => exact ⟨rfl, rfl⟩
  | error f =>
    simp only [Response.ofRun, Except.map, Failure.response_status]
    exact ⟨rfl, rfl⟩

theorem Intake.Ends.done {site : Site} {s : Submission} {p : Site × Intake} (ends : Ends site s p) :
    p.2 = .done p.2.result := by
  cases ends <;> rfl

theorem Requeue.Ends.done {site : Site} {id : Uuid} {p : Site × Requeue} (ends : Ends site id p) :
    p.2 = .done p.2.result := by
  cases ends <;> rfl

end Api

namespace Server

def alone (s : Server) : Traffic := ⟨s, [], []⟩

theorem UpToDate.orderly {s : Server} (upToDate : s.UpToDate) : s.alone.Orderly where
  faultless := upToDate.faultless
  keyed := upToDate.keyed
  accounted := upToDate.accounted
  jobs i id job busy d read :=
    upToDate.keyed id d ((upToDate.jobs i id job busy).stored read)
  known id flying := upToDate.known flying
  intakes i k there := by simp [alone] at there
  distinct i j k l there := by simp [alone] at there
  failed j q there := by simp [alone] at there
  apart j q there := by simp [alone] at there
  current j f c there := by simp [alone] at there

theorem UpToDate.agrees {s : Server} (upToDate : s.UpToDate) : s.alone.Agrees where
  jobs i id job busy d read :=
    Site.languageOf?_of_stored ((upToDate.jobs i id job busy).stored read)
  failed j q there := by simp [alone] at there
  current j f c there := by simp [alone] at there

/-- The event is a request that is answered that the queue has not taken its submission. -/
def turnsAway (setup : Setup) (s : Server) : Event → Bool
  | .request fresh r => r.isTurnedAway (StateT.run (Api.answer setup.config fresh r) s.site).1
  | _ => false

def turnedAway (setup : Setup) : List Event → Server → Nat
  | [], _ => 0
  | e :: es, s => (s.turnsAway setup e).toNat + turnedAway setup es (s.advance setup e)

structure Kept (s : Server) (away : Nat) : Prop where
  upToDate : s.UpToDate
  finishes : s.Finishes
  books : s.alone.Books [] away

namespace Kept

variable {s : Server} {away : Nat} (kept : s.Kept away)
include kept

/-- What requests on their way count is counted on top of what was before them. -/
theorem of_run (setup : Setup) (schedule : List Traffic.Event)
    (regular : Traffic.Regular setup schedule s.alone)
    (nothing : Traffic.lapses setup schedule s.alone = []) :
    (Traffic.execute setup schedule s.alone).Books [] away := by
  have books := Traffic.execute_books setup regular kept.upToDate.orderly kept.upToDate.agrees
    kept.books
  rwa [nothing] at books

theorem recounted (setup : Setup) {after : Site} (recounted : s.site.Recounted after) :
    ({ s with site := after } : Server).Kept away := by
  obtain ⟨records, limited, guests, rfl⟩ := recounted
  refine ⟨?_, kept.finishes,
    kept.of_run setup [.count records { s.site.metrics with limited } guests] ⟨rfl, trivial⟩ rfl⟩
  have moves : s.Moves setup .close { s with site := { s.site with
      store := { s.site.store with records }, metrics := { s.site.metrics with limited }, guests } } :=
    .aside _ s.stopping (fun _ => rfl) rfl rfl kept.upToDate.faultless
  exact moves.upToDate kept.upToDate

theorem intake_books (setup : Setup) {fresh : Uuid} (unused : s.site.stored? fresh = none)
    (userId problemId : String) (language : Language) (code : String) :
    let p := Intake.finish s.site
      (.findProblem (.new fresh userId problemId language code s.site.now))
    ({ s with site := p.1 } : Server).alone.Books [] (away + p.2.isTurnedAway.toNat) := by
  intro p
  have ran := kept.of_run setup
    (.submit fresh userId problemId language code :: List.replicate 4 (.intake 0))
    ⟨trivial, trivial, trivial, trivial, trivial, trivial⟩ rfl
  have isFresh : s.alone.IsFresh fresh := ⟨unused, by simp [alone]⟩
  have run := Traffic.execute_intake setup isFresh userId problemId language code
  rw [show Traffic.execute setup
    (.submit fresh userId problemId language code :: List.replicate 4 (.intake 0)) s.alone =
      s.alone.withIntake p from run] at ran
  have turned : (s.alone.withIntake p).turnedAway = p.2.isTurnedAway.toNat := by
    show [p.2].countP Intake.isTurnedAway + 0 = _
    rw [List.countP_singleton]
    cases p.2.isTurnedAway <;> rfl
  unfold Traffic.Books at ran
  rw [turned] at ran
  exact ran

theorem requeue_books (setup : Setup) (id : Uuid) :
    let p := Requeue.finish s.site (.load id)
    ({ s with site := p.1 } : Server).alone.Books [] (away + p.2.isTurnedAway.toNat) := by
  intro p
  have ran := kept.of_run setup (.again id :: List.replicate 4 (.requeue 0))
    ⟨trivial, trivial, trivial, trivial, trivial, trivial⟩ rfl
  rw [show Traffic.execute setup (.again id :: List.replicate 4 (.requeue 0)) s.alone =
    s.alone.withRequeue p from Traffic.execute_requeue setup s.alone id] at ran
  have turned : (s.alone.withRequeue p).turnedAway = p.2.isTurnedAway.toNat := by
    show 0 + [p.2].countP Requeue.isTurnedAway = _
    rw [List.countP_singleton, Nat.zero_add]
    cases p.2.isTurnedAway <;> rfl
  unfold Traffic.Books at ran
  rw [turned] at ran
  exact ran

theorem request_books (setup : Setup) {fresh : Uuid} (unused : s.site.stored? fresh = none)
    (r : Api.Request) :
    (s.advance setup (.request fresh r)).alone.Books []
      (away + (s.turnsAway setup (.request fresh r)).toNat) := by
  have effect := Api.answer_effect setup.config fresh r s.site
  simp only [advance, turnsAway]
  generalize StateT.run (Api.answer setup.config fresh r) s.site = ran at effect
  cases effect with
  | counted a after recounted heard =>
    rw [heard]
    exact (kept.recounted setup recounted).books
  | intake counted recounted caller routed _ _ problemId language code usage p went =>
    have kept := kept.recounted setup recounted
    have queues : r.queues = true := by
      unfold Api.Request.queues
      rw [routed]
    have ended : p.2 = .done p.2.result := by
      rw [went]
      exact (Api.Intake.finish_ends kept.upToDate.faultless _).done
    have turned : r.isTurnedAway (.reply
        ((Api.Response.ofRun (p.2.result.map Api.accepted)).withUsage usage)) = p.2.isTurnedAway :=
      (Api.Request.isTurnedAway_eq queues p.2.result rfl).1.trans
        (congrArg Intake.isTurnedAway ended.symm)
    have unused : counted.stored? fresh = none := by
      obtain ⟨records, limited, guests, rfl⟩ := recounted
      exact unused
    have books := kept.intake_books setup unused caller.userId problemId language code
    rw [turned, went]
    exact books
  | requeue id asks _ _ _ p went =>
    obtain ⟨raw, text, routed, _⟩ := asks
    have queues : r.queues = true := by
      unfold Api.Request.queues
      rw [routed]
    have ended : p.2 = .done p.2.result := by
      rw [went]
      exact (Api.Requeue.finish_ends kept.upToDate.faultless id).done
    have turned : r.isTurnedAway (.reply (Api.Response.ofRun (p.2.result.map Api.accepted))) =
        p.2.isTurnedAway :=
      (Api.Request.isTurnedAway_eq queues p.2.result rfl).2.trans
        (congrArg Requeue.isTurnedAway ended.symm)
    have books := kept.requeue_books setup id
    rw [turned, went]
    exact books

theorem advance (setup : Setup) (crashless : s.Crashless) {e : Event} (regular : e.IsRegular s) :
    (s.advance setup e).Kept (away + (s.turnsAway setup e).toNat) := by
  have upToDate := (advance_moves setup kept.upToDate regular).upToDate kept.upToDate
  have books {e : Traffic.Event} (regular : e.IsRegular s.alone) :
      (s.alone.advance setup e).Books [] away := by
    have ran : (s.alone.advance setup e).Books (s.alone.lapse e) away :=
      kept.books.advance kept.upToDate.orderly kept.upToDate.agrees regular
    rwa [Traffic.lapse_eq_nil kept.finishes crashless] at ran
  cases e with
  | act a =>
    refine ⟨upToDate, ?_, books (e := .act a) trivial⟩
    simp only [Server.advance]
    cases acted : s.act? setup a with
    | none => exact kept.finishes
    | some t => exact (act?_acts acted).finishes kept.upToDate kept.finishes
  | request fresh r => exact ⟨upToDate, kept.finishes, kept.request_books setup regular r⟩
  | unit u => exact ⟨upToDate, kept.finishes, books (e := .unit u) trivial⟩
  | surroundings x => exact ⟨upToDate, kept.finishes, books (e := .surroundings x) regular⟩
  | close => exact ⟨upToDate, kept.finishes, books (e := .close) trivial⟩

end Kept

theorem withWorkers_kept {site : Site} (faultless : site.Faultless) (keyed : site.Keyed)
    (metrics : site.metrics = .zero) (channel : site.queue.channel = [])
    (inFlight : site.queue.inFlight = []) (workers : Nat) : (withWorkers site workers).Kept 0 where
  upToDate := withWorkers_upToDate faultless keyed channel inFlight workers
  finishes := withWorkers_finishes site workers
  books := Traffic.start_books metrics channel inFlight workers

theorem execute_kept (setup : Setup) {schedule : List Event} {s : Server} {away : Nat}
    (kept : s.Kept away) (regular : Regular setup schedule s)
    (crashless : ∀ first rest, schedule = first ++ rest → (execute setup first s).Crashless) :
    (execute setup schedule s).Kept (away + turnedAway setup schedule s) := by
  induction schedule generalizing s away with
  | nil => exact kept
  | cons e es ih =>
    have now : s.Crashless := crashless [] (e :: es) rfl
    have later := ih (kept.advance setup now regular.1) regular.2
      fun first rest same => crashless (e :: first) rest (congrArg (e :: ·) same)
    rw [Nat.add_assoc] at later
    exact later

theorem Kept.balanced {s : Server} {away : Nat} (kept : s.Kept away) (released : s.Released) :
    s.site.Balanced away :=
  (kept.books.regroup (Traffic.due_perm kept.upToDate.orderly released)).balanced

theorem execute_balanced (setup : Setup) {site : Site} (faultless : site.Faultless)
    (keyed : site.Keyed) (metrics : site.metrics = .zero) (channel : site.queue.channel = [])
    (inFlight : site.queue.inFlight = []) (workers : Nat) {schedule : List Event}
    (regular : Regular setup schedule (withWorkers site workers))
    (crashless : ∀ first rest, schedule = first ++ rest →
      (execute setup first (withWorkers site workers)).Crashless)
    (released : (execute setup schedule (withWorkers site workers)).Released) :
    (execute setup schedule (withWorkers site workers)).site.Balanced
      (turnedAway setup schedule (withWorkers site workers)) := by
  have kept := withWorkers_kept faultless keyed metrics channel inFlight workers
  have balanced := (execute_kept setup kept regular crashless).balanced released
  rwa [Nat.zero_add] at balanced

end Server

/-- From counts of nothing and an empty queue on, while the store does not fail, what was put into the
queue has been completed, is in flight, or was let go of without a completion, whenever workers have
let go of what they have completed. So the counts are in balance exactly if nothing was let go of like
that. Nothing is if no worker has a crash and no two requeues have one failed submission at hand, and
so the counts are in balance where requests take effect at once. -/
theorem counts_balance_iff (setup : Setup) {site : Site} (faultless : site.Faultless)
    (keyed : site.Keyed) (metrics : site.metrics = .zero) (channel : site.queue.channel = [])
    (inFlight : site.queue.inFlight = []) (workers : Nat) :
    (∀ schedule : List Traffic.Event, Traffic.Regular setup schedule (.start site workers) →
      let t := Traffic.execute setup schedule (.start site workers)
      let lapsed := Traffic.lapses setup schedule (.start site workers)
      t.server.Released →
        t.site.Books t.site.queue.inFlight lapsed t.turnedAway ∧
          (t.site.Balanced t.turnedAway ↔ lapsed = []) ∧
          ((∀ first rest, schedule = first ++ rest →
            (Traffic.execute setup first (.start site workers)).Smooth) → lapsed = [])) ∧
    ∀ schedule : List Server.Event, Server.Regular setup schedule (.withWorkers site workers) →
      (∀ first rest, schedule = first ++ rest →
        (Server.execute setup first (.withWorkers site workers)).Crashless) →
      (Server.execute setup schedule (.withWorkers site workers)).Released →
        (Server.execute setup schedule (.withWorkers site workers)).site.Balanced
          (Server.turnedAway setup schedule (.withWorkers site workers)) := by
  constructor
  · intro schedule regular t lapsed released
    have books := Traffic.execute_released setup faultless keyed metrics channel inFlight workers
      regular released
    have orderly := Traffic.start_orderly faultless keyed channel inFlight workers
    have steady := Traffic.start_steady channel workers
    exact ⟨books, books.balanced_iff, Traffic.lapses_eq_nil setup regular.faultless orderly steady⟩
  · intro schedule
    exact Server.execute_balanced setup faultless keyed metrics channel inFlight workers

namespace Rollback

theorem again_routes : Api.Route.ofSegments? again.segments =
    some (.requeue "00000000-0000-0000-0000-000000000007") := by
  rw [Api.Request.segments, Api.Target.segments_eq]
  decide

theorem again_identified : Api.Caller.ofRequest again = .ok ⟨"root", "root", true⟩ :=
  Api.Caller.ofRequest_eq_ok (by decide +kernel)

theorem run_again (config : Config) (fresh : Uuid) (site : Site) :
    StateT.run (Api.answer config fresh again) site =
      (.reply (.ofRun ((Api.Requeue.finish site (.load (.ofNat 7))).2.result.map Api.accepted)),
        (Api.Requeue.finish site (.load (.ofNat 7))).1) := by
  have requeued := Api.run_requeueSubmission_ok again_identified rfl
    (show Text.percentDecode? "00000000-0000-0000-0000-000000000007" =
      some "00000000-0000-0000-0000-000000000007" by decide +kernel)
    (show Uuid.ofText? _ = some (.ofNat 7) by decide +kernel) site
  rw [Api.answer_run again_routes, Api.answerRoute_requeue, Api.answered_reply rfl,
    show Api.routed fresh again (.requeue "00000000-0000-0000-0000-000000000007") =
      Api.requeueSubmission again "00000000-0000-0000-0000-000000000007" from if_pos rfl, requeued]

def bare : Site := .start Echo.setup.config (.ofDocuments [failed] [Echo.problem] [] []) default

def givingUp : List Action := [.take 0, .work 0, .work 0, .work 0, .work 0, .release 0]

def closing : List Server.Event := givingUp.map .act ++ [.close, .request (.ofNat 9) again]

def requeued : Server :=
  ⟨(Api.Requeue.finish bare (.load (.ofNat 7))).1, [.idle], false⟩

theorem advance_again :
    (Server.withWorkers bare 1).advance Echo.setup (.request (.ofNat 8) again) = requeued := by
  rw [Server.advance, run_again]
  rfl

/-- While a requeue goes on, something else is handed in. -/
def meanwhile : List Traffic.Event :=
  [.again (.ofNat 7), .requeue 0, .submit (.ofNat 8) "ada" "echo" .python "print(input())",
    .intake 0, .requeue 0, .intake 0, .requeue 0, .intake 0] ++ givingUp.map .act

theorem turnedAway_closing : Server.turnedAway Echo.setup
    (.request (.ofNat 8) again :: closing) (.withWorkers bare 1) = 1 := by
  have queues : again.queues = true := by
    unfold Api.Request.queues
    rw [again_routes]
  rw [Server.turnedAway, advance_again]
  simp only [closing, givingUp, List.map, List.cons_append, List.nil_append, Server.turnedAway,
    Server.turnsAway, run_again, Api.Request.isTurnedAway, queues, Bool.true_and]
  decide +kernel

/-- Two requeues have the failed state at hand. The one that is refused writes it back while the
submission waits. -/
def overlap : List Traffic.Event :=
  [.again (.ofNat 7), .requeue 0, .again (.ofNat 7), .requeue 1, .requeue 0, .requeue 0, .requeue 1,
    .requeue 1, .requeue 1, .act (.take 0), .act (.work 0), .act (.release 0)]

def overlapped : Traffic := Traffic.execute Echo.setup overlap (.start bare 1)

/-- A submission that was put into the queue is neither completed nor in flight after requeues that
overlap. One that is closed upon, and one that something else comes in between, leave a balance. -/
theorem counts_balance_iff_overlap :
    (overlapped.requeues = [.done (.ok (failed.reset default)),
          .done (.error (Api.Requeue.stillProcessed (.ofNat 7)))] ∧
        overlapped.site.metrics.enqueuedOf .python = 1 ∧
        overlapped.site.metrics.completedOf .python = 0 ∧
        overlapped.site.queue.inFlight = [] ∧
        Traffic.lapses Echo.setup overlap (.start bare 1) = [.ofNat 7] ∧
        ¬overlapped.site.Balanced overlapped.turnedAway) ∧
      (Traffic.execute Echo.setup meanwhile (.start bare 1)).site.Balanced 0 ∧
      (Server.execute Echo.setup (.request (.ofNat 8) again :: closing)
        (.withWorkers bare 1)).site.Balanced 1 := by
  have faultless : bare.Faultless := fun _ => rfl
  have keyed : bare.Keyed := MemoryStore.keyed_ofDocuments _ _ _ _
  obtain ⟨interleaved, atOnce⟩ := counts_balance_iff Echo.setup faultless keyed rfl rfl rfl 1
  refine ⟨?_, ?_, ?_⟩
  · have regular : Traffic.Regular Echo.setup overlap (.start bare 1) :=
      ⟨trivial, trivial, trivial, trivial, trivial, trivial, trivial, trivial, trivial, trivial,
        trivial, trivial, trivial⟩
    obtain ⟨_, balanced, _⟩ := interleaved overlap regular (by decide +kernel)
    have lapsed : Traffic.lapses Echo.setup overlap (.start bare 1) = [.ofNat 7] := rfl
    refine ⟨rfl, by decide +kernel, by decide +kernel, rfl, lapsed, fun even => ?_⟩
    exact List.cons_ne_nil _ _ (lapsed.symm.trans (balanced.mp even))
  · have regular : Traffic.Regular Echo.setup meanwhile (.start bare 1) :=
      ⟨trivial, trivial, trivial, trivial, trivial, trivial, trivial, trivial, trivial, trivial,
        trivial, trivial, trivial, trivial, trivial⟩
    have smooth : ∀ first ∈ meanwhile.inits,
        (Traffic.execute Echo.setup first (.start bare 1)).Smooth := by decide +kernel
    obtain ⟨_, balanced, nothing⟩ := interleaved meanwhile regular (by decide +kernel)
    exact balanced.mpr (nothing fun first rest same =>
      smooth first ((List.mem_inits _ _).mpr ⟨rest, same.symm⟩))
  · have crashless : ∀ first ∈ closing.inits,
        (Server.execute Echo.setup first requeued).Crashless := by decide +kernel
    have regular : Server.Regular Echo.setup (.request (.ofNat 8) again :: closing)
        (.withWorkers bare 1) := by
      refine ⟨rfl, ?_⟩
      rw [advance_again]
      exact ⟨trivial, trivial, trivial, trivial, trivial, trivial, trivial, rfl, trivial⟩
    have balanced := atOnce _ regular (fun first rest same => ?_) ?_
    · rwa [turnedAway_closing] at balanced
    · cases first with
      | nil => exact fun w member => List.mem_singleton.mp member ▸ rfl
      | cons e es =>
        obtain ⟨rfl, later⟩ := List.cons.inj same
        rw [Server.execute, advance_again]
        exact crashless es ((List.mem_inits _ _).mpr ⟨rest, later.symm⟩)
    · rw [Server.execute, advance_again]
      decide +kernel

end Rollback

end Grader

import Grader.Proofs.Flight

/-! A server at work, with a history of what has gone through its queue. Offers come in at any time
between the actions of the workers, and whatever else a job reads may change in between, so that it
may end in any way. -/
namespace Grader

def Job.call? : Job → Option ExecutionUnit
  | .await _ plan _ c _ => some (plan.unitFor c.input)
  | _ => none

/-- What has happened so far, each list oldest first. -/
structure History where
  offers : List (Uuid × Offer)
  handed : List Uuid
  processed : List (Uuid × Outcome)
  asked : List (Uuid × ExecutionUnit)
  answered : List (Uuid × ExecutionUnit)
  deriving DecidableEq, Repr

namespace History

def empty : History := ⟨[], [], [], [], []⟩

def accepted (h : History) : List Uuid := (h.offers.filter (·.2 = .queued)).map (·.1)

/-- The history with an action that a worker can do. What a job asks is told by the calls that the
engine has got from it. -/
def act (setup : Setup) (s : Server) (h : History) : Action → History
  | .take _ => { h with handed := h.handed ++ s.site.queue.channel.take 1 }
  | .work i =>
    match s.worker? i with
    | some (.busy id job) =>
      let calls := (job.step setup id s.site).1.calls.drop s.site.calls.length
      { h with
        asked := h.asked ++ calls.map (id, ·)
        answered := h.answered ++ job.call?.toList.map (id, ·) }
    | _ => h
  | .release i =>
    match s.worker? i with
    | some (.busy id (.done outcome)) => { h with processed := h.processed ++ [(id, outcome)] }
    | _ => h
  | .stop _ => h

end History

structure Shift where
  server : Server
  history : History

namespace Shift

inductive Event where
  | offer (id : Uuid)
  | act (a : Action)
  /-- All but the queue becomes as it is there. -/
  | elsewhere (site : Site)
  | close
  | shutdown
  | leave

/-- A queue that is empty, and a pool of one worker at least. -/
def start (site : Site) (capacity workers : Nat) : Shift :=
  ⟨.withWorkers { site with queue := .bounded capacity } (max workers 1), .empty⟩

def queue (s : Shift) : Queue := s.server.site.queue

def withQueue (s : Shift) (queue : Queue) : Shift :=
  { s with server := { s.server with site := { s.server.site with queue } } }

def HasStopped (s : Shift) : Prop := ∀ w ∈ s.server.workers, w = .stopped

/-- What cannot happen leaves everything as it is. -/
def advance (setup : Setup) (s : Shift) : Event → Shift
  | .offer id =>
    let (answer, site) := s.server.site.enqueue id
    { s with
      server := { s.server with site }
      history := { s.history with offers := s.history.offers ++ [(id, answer)] } }
  | .act a =>
    match s.server.act? setup a with
    | some server => ⟨server, s.history.act setup s.server a⟩
    | none => s
  | .elsewhere site => { s with server := { s.server with site := { site with queue := s.queue } } }
  | .close => s.withQueue s.queue.close
  | .shutdown =>
    { s.withQueue s.queue.close with
      server := { (s.withQueue s.queue.close).server with stopping := true } }
  | .leave =>
    if s.server.workers.all (· matches .stopped) then s.withQueue s.queue.detach else s

def execute (setup : Setup) : List Event → Shift → Shift
  | [], s => s
  | e :: es, s => execute setup es (s.advance setup e)

inductive Moves (setup : Setup) (s : Shift) : Event → Shift → Prop where
  | queued (id : Uuid) (metrics : Metrics) (opened : s.queue.isClosed = false)
      (new : id ∉ s.queue.inFlight) (room : s.queue.channel.length < s.queue.capacity) :
      Moves setup s (.offer id)
        { s with
          server := { s.server with
            site := { s.server.site with queue := s.queue.push id, metrics } }
          history := { s.history with offers := s.history.offers ++ [(id, .queued)] } }
  | declined (id : Uuid) (answer : Offer) (metrics : Metrics) (other : answer ≠ .queued) :
      Moves setup s (.offer id)
        { s with
          server := { s.server with site := { s.server.site with metrics } }
          history := { s.history with offers := s.history.offers ++ [(id, answer)] } }
  | took (i : Nat) (id : Uuid) (rest : List Uuid) (idle : s.server.worker? i = some .idle)
      (waits : s.queue.channel = id :: rest) :
      Moves setup s (.act (.take i))
        ⟨{ s.server with
            site := { s.server.site with queue := { s.queue with channel := rest } } }.setWorker
            i (.busy id .load),
          { s.history with handed := s.history.handed ++ [id] }⟩
  | worked (i : Nat) (id : Uuid) (job : Job) (busy : s.server.worker? i = some (.busy id job))
      (going : job.outcome? = none) :
      Moves setup s (.act (.work i))
        ⟨{ s.server with site := (job.step setup id s.server.site).1 }.setWorker i
            (.busy id (job.step setup id s.server.site).2),
          { s.history with
            asked := s.history.asked ++
              (job.step setup id s.server.site).2.call?.toList.map (id, ·)
            answered := s.history.answered ++ job.call?.toList.map (id, ·) }⟩
  | released (i : Nat) (id : Uuid) (outcome : Outcome)
      (busy : s.server.worker? i = some (.busy id (.done outcome))) :
      Moves setup s (.act (.release i))
        ⟨{ s.server with site := s.server.site.release id }.setWorker i .idle,
          { s.history with processed := s.history.processed ++ [(id, outcome)] }⟩
  | stopped (i : Nat) (idle : s.server.worker? i = some .idle) (empty : s.queue.channel = [])
      (stopping : s.server.stopping = true) :
      Moves setup s (.act (.stop i)) ⟨s.server.setWorker i .stopped, s.history⟩
  | left (done : s.HasStopped) : Moves setup s .leave (s.withQueue s.queue.detach)
  | aside (e : Event) (site : Site) (stopping : Bool)
      (channel : site.queue.channel = s.queue.channel)
      (inFlight : site.queue.inFlight = s.queue.inFlight)
      (capacity : site.queue.capacity = s.queue.capacity)
      (closes : s.queue.isClosed = true → site.queue.isClosed = true)
      (stops : stopping = true → s.server.stopping = true ∨ site.queue.isClosed = true) :
      Moves setup s e { s with server := { s.server with site, stopping } }

end Shift

namespace Job

/-- A step gives the engine the unit that the job waits for then, and no other. -/
theorem calls_step (setup : Setup) (id : Uuid) (site : Site) (j : Job) :
    (j.step setup id site).1.calls = site.calls ++ (j.step setup id site).2.call?.toList := by
  have concluded (s : Submission) (elapsedMs : Nat) :
      (conclude s elapsedMs site).1.calls =
        site.calls ++ (conclude s elapsedMs site).2.call?.toList := by
    unfold conclude
    split
    · simp [call?]
    · rename_i saved
      rw [Site.kept_of_saved saved]
      simp [call?]
  cases j with
  | load =>
    simp only [step, loaded]
    repeat' split
    all_goals simp [call?]
  | findProblem | findCases =>
    simp only [step, problemFound, casesFound]
    split <;> simp [call?]
  | giveUp | save => exact concluded ..
  | mark s p cases =>
    simp only [step]
    split
    · simp [call?]
    · rename_i after saved
      rw [Site.kept_of_saved saved]
      rcases begin_cases setup (s.markRunning site.now) p cases with ⟨plan, progress, run⟩ | crashed
      · simp [run, call?]
      · simp [crashed, call?]
  | run | await =>
    simp only [step]
    split <;> simp [call?, Site.call]
  | done => simp [step, call?]

end Job

namespace Shift

theorem offer_moves (setup : Setup) (s : Shift) (id : Uuid) :
    s.Moves setup (.offer id) (s.advance setup (.offer id)) := by
  rcases s.queue.enqueue_cases id with ⟨new, offered⟩ | ⟨_, offered⟩ | ⟨e, offered⟩
  · obtain ⟨opened, _, _, room⟩ := (s.queue.enqueue_queued_iff id).mp (by rw [offered])
    unfold queue at offered
    simp only [advance, Site.enqueue, offered]
    exact .queued id _ opened new room
  · unfold queue at offered
    simp only [advance, Site.enqueue, offered]
    exact .declined id .alreadyQueued _ (by simp)
  · unfold queue at offered
    simp only [advance, Site.enqueue, offered]
    exact .declined id (.refused e) _ (by simp)

theorem act_moves (setup : Setup) (s : Shift) (a : Action) :
    s.Moves setup (.act a) (s.advance setup (.act a)) := by
  simp only [advance]
  cases acted : s.server.act? setup a with
  | none => exact .aside _ s.server.site s.server.stopping rfl rfl rfl id .inl
  | some server =>
    cases a with
    | take i =>
      obtain ⟨id, rest, idle, waits, rfl⟩ := Server.take?_eq_some acted
      simp only [History.act, waits, List.take_succ_cons, List.take_zero]
      exact .took i id rest idle waits
    | work i =>
      obtain ⟨id, job, busy, going, rfl⟩ := Server.work?_eq_some acted
      simp only [History.act, busy, Job.calls_step, List.drop_left]
      exact .worked i id job busy going
    | release i =>
      obtain ⟨id, outcome, busy, rfl⟩ := Server.release?_eq_some acted
      simp only [History.act, busy]
      exact .released i id outcome busy
    | stop i =>
      obtain ⟨idle, empty, stopping, rfl⟩ := Server.stop?_eq_some acted
      exact .stopped i idle empty stopping

theorem advance_moves (setup : Setup) (s : Shift) (e : Event) :
    s.Moves setup e (s.advance setup e) := by
  cases e with
  | offer id => exact s.offer_moves setup id
  | act a => exact s.act_moves setup a
  | elsewhere site =>
    exact .aside _ { site with queue := s.queue } s.server.stopping rfl rfl rfl id .inl
  | close =>
    exact .aside _ { s.server.site with queue := s.queue.close } s.server.stopping rfl rfl rfl
      (fun _ => rfl) .inl
  | shutdown =>
    exact .aside _ { s.server.site with queue := s.queue.close } true rfl rfl rfl (fun _ => rfl)
      fun _ => .inr rfl
  | leave =>
    simp only [advance]
    split
    · rename_i done
      refine .left fun w member => ?_
      have stopped := List.all_eq_true.mp done w member
      cases w with
      | stopped => rfl
      | idle | busy => contradiction
    · exact .aside _ s.server.site s.server.stopping rfl rfl rfl id .inl

end Shift

end Grader

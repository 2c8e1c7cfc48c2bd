import Grader.Pool.Worker

/-! One order among the actions of the workers, in which computing takes no time. Workers that wait
for work get it in the order in which they began to wait; workers that can go on do so in turn, each
until its job has ended or waits for the engine; and the clock moves when nobody can go on. -/
namespace Grader

structure Timer where
  dueMs : Nat
  worker : Nat
  deriving DecidableEq, Repr

structure Running where
  server : Server
  /-- Workers that wait for work, longest first. -/
  waiting : List Nat
  ready : List Nat
  timers : List Timer

namespace Running

def start (site : Site) (workers : Nat) : Running :=
  ⟨.withWorkers site workers, List.range workers, [], []⟩

def site (r : Running) : Site := r.server.site

def withSite (r : Running) (site : Site) : Running := { r with server := { r.server with site } }

def mapSite (r : Running) (f : Site → Site) : Running := r.withSite (f r.site)

def clockMs (r : Running) : Nat := r.site.clockMs

def setClock (r : Running) (ms : Nat) : Running := r.mapSite fun s => { s with clockMs := ms }

def goOn? (setup : Setup) (r : Running) : Option Running :=
  match r.ready with
  | [] => none
  | i :: ready =>
    match r.server.worker? i with
    | some (.busy id job) =>
      match r.server.release? i with
      | some server => some { r with server, ready, waiting := r.waiting ++ [i] }
      | none =>
        let (site, job) := job.proceed setup id r.site
        let server := { r.server with site }.setWorker i (.busy id job)
        if job.waits then
          some { r with server, ready, timers := r.timers ++ [⟨site.clockMs + job.delayMs, i⟩] }
        else some { r with server, ready := ready ++ [i] }
    | _ => some { r with ready }

/-- One turn: work is handed out first. -/
def turn? (setup : Setup) (r : Running) : Option Running :=
  match r.waiting with
  | [] => r.goOn? setup
  | i :: waiting =>
    match r.server.take? i with
    | some server => some { r with server, waiting, ready := r.ready ++ [i] }
    | none => r.goOn? setup

def dueTimers (r : Running) : List Timer :=
  (r.timers.filter (·.dueMs ≤ r.clockMs)).mergeSort (·.dueMs ≤ ·.dueMs)

def wake (r : Running) : Running :=
  { r with
    ready := r.ready ++ r.dueTimers.map (·.worker)
    timers := r.timers.filter (r.clockMs < ·.dueMs) }

/-- The turns until nobody can go on: each submission is taken, worked on and released once, and
each worker that is ready goes on and lets go once. -/
def turnsLeft (r : Running) : Nat := 3 * r.site.queue.channel.length + 2 * r.ready.length

def turns (setup : Setup) : Nat → Running → Running
  | 0, r => r
  | n + 1, r =>
    match r.turn? setup with
    | some r => turns setup n r
    | none => r

def settle (setup : Setup) (r : Running) : Running :=
  let r := r.wake
  turns setup r.turnsLeft r

def earliestDue? (r : Running) : Option Nat := (r.timers.map (·.dueMs)).min?

/-- Moves the clock from timer to timer while one is due before `target`. The clock moves by a
millisecond at least each time, so that `fuel` of them suffice. -/
def passTimers (setup : Setup) (target : Nat) : Nat → Running → Running
  | 0, r => r
  | fuel + 1, r =>
    match r.earliestDue? with
    | some due => if due < target then passTimers setup target fuel ((r.setClock due).settle setup) else r
    | none => r

/-- Lets time pass and stops before anybody goes on whose time comes at the end of it. -/
def pass (setup : Setup) (ms : Nat) (r : Running) : Running :=
  let r := r.settle setup
  let target := r.clockMs + ms
  (passTimers setup target ms r).setClock target

def advance (setup : Setup) (ms : Nat) (r : Running) : Running := (r.pass setup ms).settle setup

def longestRun (r : Running) : Nat :=
  let stored := r.site.store.cases.entries.map (·.2.length)
  let left := r.server.workers.map fun
    | .busy _ (.mark _ _ cases) => cases.length
    | .busy _ (.run _ _ progress) | .busy _ (.await _ _ progress _ _) => progress.pending.length + 1
    | _ => 0
  (stored ++ left).foldl max 0

/-- No fewer than the calls that are left to make before everybody has stopped. -/
def callsLeft (r : Running) : Nat :=
  (r.site.queue.channel.length + r.server.workers.length) * (r.longestRun + 1)

def drain (setup : Setup) : Nat → Running → Running
  | 0, r => r
  | fuel + 1, r =>
    match r.earliestDue? with
    | some due => drain setup fuel ((r.setClock due).settle setup)
    | none => r

/-- Stops the workers that wait for work, and leaves the queue when all have stopped. -/
def stopIdle (r : Running) : Running :=
  let server := r.waiting.foldl (fun s i => (s.stop? i).getD s) r.server
  { r with server, waiting := [] }.mapSite fun s => { s with queue := s.queue.detach }

def shutdown (setup : Setup) (r : Running) : Running :=
  let r := r.mapSite fun s => { s with queue := s.queue.close }
  let r := { r with server := { r.server with stopping := true } }.settle setup
  (drain setup r.callsLeft r).stopIdle

end Grader.Running

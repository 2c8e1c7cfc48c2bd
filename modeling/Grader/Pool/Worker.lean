import Grader.Grading.Process

/-! Workers take submissions from the queue, one at a time each, and release a submission when its
job has ended, however it ended. The actions of different workers may come in any order. -/
namespace Grader

inductive Worker where
  | idle
  | busy (id : Uuid) (job : Job)
  | stopped

structure Server where
  site : Site
  workers : List Worker
  /-- Workers without work are to stop. -/
  stopping : Bool

inductive Action where
  | take (worker : Nat)
  | work (worker : Nat)
  | release (worker : Nat)
  | stop (worker : Nat)
  deriving DecidableEq, Repr

namespace Server

def withWorkers (site : Site) (count : Nat) : Server := ⟨site, List.replicate count .idle, false⟩

def worker? (s : Server) (i : Nat) : Option Worker := s.workers[i]?

def setWorker (s : Server) (i : Nat) (w : Worker) : Server := { s with workers := s.workers.set i w }

def take? (s : Server) (i : Nat) : Option Server :=
  match s.worker? i, s.site.queue.take? with
  | some .idle, some (id, queue) =>
    some ({ s with site := { s.site with queue } }.setWorker i (.busy id .load))
  | _, _ => none

def work? (setup : Setup) (s : Server) (i : Nat) : Option Server :=
  match s.worker? i with
  | some (.busy id job) =>
    match job.outcome? with
    | some _ => none
    | none =>
      let (site, job) := job.step setup id s.site
      some ({ s with site }.setWorker i (.busy id job))
  | _ => none

def release? (s : Server) (i : Nat) : Option Server :=
  match s.worker? i with
  | some (.busy id job) =>
    match job.outcome? with
    | some _ => some ({ s with site := s.site.release id }.setWorker i .idle)
    | none => none
  | _ => none

/-- An idle worker stops once nothing is left in the queue. -/
def stop? (s : Server) (i : Nat) : Option Server :=
  match s.worker? i, s.site.queue.channel with
  | some .idle, [] => if s.stopping then some (s.setWorker i .stopped) else none
  | _, _ => none

/-- The server after an action, nothing where the worker cannot do it. -/
def act? (setup : Setup) (s : Server) : Action → Option Server
  | .take i => s.take? i
  | .work i => s.work? setup i
  | .release i => s.release? i
  | .stop i => s.stop? i

end Grader.Server

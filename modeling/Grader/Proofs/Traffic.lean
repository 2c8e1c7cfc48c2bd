import Grader.Proofs.Flight

/-! Requests on their way. Any number of intakes and requeues go on step by step between the actions
of the workers, and a request that has been answered keeps its place in the list. -/
namespace Grader

open Api (Intake Requeue)

structure Traffic where
  server : Server
  intakes : List Intake
  requeues : List Requeue

namespace Traffic

inductive Event where
  | act (a : Action)
  | submit (fresh : Uuid) (userId problemId : String) (language : Language) (code : String)
  | intake (i : Nat)
  | again (id : Uuid)
  | requeue (j : Nat)
  /-- Some other request is counted. -/
  | count (records : Table String QuotaRecord) (metrics : Metrics) (guests : GuestLimiter)
  | unit (u : ExecutionUnit)
  | surroundings (x : Surroundings)
  | close

def site (t : Traffic) : Site := t.server.site

def withSite (t : Traffic) (site : Site) : Traffic := { t with server := { t.server with site } }

def start (site : Site) (workers : Nat) : Traffic := ⟨.withWorkers site workers, [], []⟩

/-- Neither a document nor an intake has the id. -/
def IsFresh (t : Traffic) (id : Uuid) : Prop :=
  t.site.stored? id = none ∧ ∀ k ∈ t.intakes, ∀ s ∈ k.submission?, s.id ≠ id

instance (t : Traffic) (id : Uuid) : Decidable (t.IsFresh id) := by
  unfold IsFresh
  infer_instance

/-- What cannot happen leaves everything as it is. -/
def advance (setup : Setup) (t : Traffic) : Event → Traffic
  | .act a => { t with server := (t.server.act? setup a).getD t.server }
  | .submit fresh userId problemId language code =>
    if t.IsFresh fresh then
      { t with intakes := t.intakes ++
          [.findProblem (.new fresh userId problemId language code t.site.now)] }
    else t
  | .intake i =>
    match t.intakes[i]? with
    | some k => { t.withSite (k.step t.site).1 with intakes := t.intakes.set i (k.step t.site).2 }
    | none => t
  | .again id => { t with requeues := t.requeues ++ [.load id] }
  | .requeue j =>
    match t.requeues[j]? with
    | some q => { t.withSite (q.step t.site).1 with requeues := t.requeues.set j (q.step t.site).2 }
    | none => t
  | .count records metrics guests =>
    t.withSite { t.site with store := { t.site.store with records }, metrics, guests }
  | .unit u => t.withSite (t.site.runUnit setup.engine u)
  | .surroundings x => t.withSite (t.site.amid x)
  | .close =>
    { t with server :=
        { t.server with site := { t.site with queue := t.site.queue.close }, stopping := true } }

def execute (setup : Setup) : List Event → Traffic → Traffic
  | [], t => t
  | e :: es, t => execute setup es (t.advance setup e)

theorem execute_append (setup : Setup) (first next : List Event) (t : Traffic) :
    execute setup (first ++ next) t = execute setup next (execute setup first t) := by
  induction first generalizing t with
  | nil => rfl
  | cons e es ih => exact ih _

def withRequeue (t : Traffic) (p : Site × Requeue) : Traffic :=
  { t.withSite p.1 with requeues := t.requeues ++ [p.2] }

theorem advance_withRequeue (setup : Setup) (t : Traffic) (p : Site × Requeue) :
    (t.withRequeue p).advance setup (.requeue t.requeues.length) =
      t.withRequeue (p.2.step p.1) := by
  simp [advance, withRequeue, withSite, site, List.set_append_right]

/-- A requeue that nobody comes in between does what the handler does. -/
theorem execute_requeue (setup : Setup) (t : Traffic) (id : Uuid) :
    execute setup (.again id :: List.replicate 4 (.requeue t.requeues.length)) t =
      t.withRequeue (Requeue.finish t.site (.load id)) := by
  show execute setup (List.replicate 4 (.requeue t.requeues.length))
    (t.withRequeue (t.site, .load id)) = _
  simp only [List.replicate_succ, List.replicate_zero, execute, advance_withRequeue]
  rfl

def withIntake (t : Traffic) (p : Site × Intake) : Traffic :=
  { t.withSite p.1 with intakes := t.intakes ++ [p.2] }

theorem advance_withIntake (setup : Setup) (t : Traffic) (p : Site × Intake) :
    (t.withIntake p).advance setup (.intake t.intakes.length) = t.withIntake (p.2.step p.1) := by
  simp [advance, withIntake, withSite, site, List.set_append_right]

theorem execute_intake (setup : Setup) {t : Traffic} {fresh : Uuid} (unused : t.IsFresh fresh)
    (userId problemId : String) (language : Language) (code : String) :
    execute setup (.submit fresh userId problemId language code ::
        List.replicate 4 (.intake t.intakes.length)) t =
      t.withIntake (Intake.finish t.site
        (.findProblem (.new fresh userId problemId language code t.site.now))) := by
  have submitted : t.advance setup (.submit fresh userId problemId language code) =
      t.withIntake (t.site, .findProblem (.new fresh userId problemId language code t.site.now)) := by
    simp only [advance, if_pos unused]
    rfl
  simp only [List.replicate_succ, List.replicate_zero, execute, submitted, advance_withIntake]
  rfl

/-- No operation of the store is set to fail. -/
def Event.Faultless : Event → Prop
  | .surroundings x => ∀ o, x.fault? o = none
  | _ => True

/-- What an event does while the store does not fail. -/
inductive Moves (setup : Setup) (t : Traffic) : Event → Traffic → Prop where
  | act (a : Action) (server : Server) (acts : t.server.Acts setup server) :
      Moves setup t (.act a) { t with server }
  | submit (fresh : Uuid) (userId problemId : String) (language : Language) (code : String)
      (unused : t.IsFresh fresh) :
      Moves setup t (.submit fresh userId problemId language code)
        { t with intakes := t.intakes ++
          [.findProblem (.new fresh userId problemId language code t.site.now)] }
  | intake (i : Nat) (k : Intake) (there : t.intakes[i]? = some k) :
      Moves setup t (.intake i)
        { t.withSite (k.step t.site).1 with intakes := t.intakes.set i (k.step t.site).2 }
  | again (id : Uuid) : Moves setup t (.again id) { t with requeues := t.requeues ++ [.load id] }
  | requeue (j : Nat) (q : Requeue) (there : t.requeues[j]? = some q) :
      Moves setup t (.requeue j)
        { t.withSite (q.step t.site).1 with requeues := t.requeues.set j (q.step t.site).2 }
  | aside (e : Event) (site : Site) (stopping : Bool)
      (submissions : site.store.submissions = t.site.store.submissions)
      (channel : site.queue.channel = t.site.queue.channel)
      (inFlight : site.queue.inFlight = t.site.queue.inFlight)
      (fault : site.Faultless) :
      Moves setup t e { t with server := { t.server with site, stopping } }

theorem advance_moves (setup : Setup) {t : Traffic} (faultless : t.site.Faultless) {e : Event}
    (calm : e.Faultless) : t.Moves setup e (t.advance setup e) := by
  have still : t.Moves setup e t := .aside e t.site t.server.stopping rfl rfl rfl faultless
  cases e with
  | act a =>
    simp only [advance]
    cases acted : t.server.act? setup a with
    | none => exact still
    | some server => exact .act a server (Server.act?_acts acted)
  | submit fresh userId problemId language code =>
    simp only [advance]
    split
    · rename_i unused
      exact .submit fresh userId problemId language code unused
    · exact still
  | intake i =>
    simp only [advance]
    split
    · rename_i k there
      exact .intake i k there
    · exact still
  | again id => exact .again id
  | requeue j =>
    simp only [advance]
    split
    · rename_i q there
      exact .requeue j q there
    · exact still
  | count records metrics guests =>
    exact .aside _ _ t.server.stopping rfl rfl rfl faultless
  | unit u =>
    have queue := t.site.queue_runUnit setup.engine u
    have store := (t.site.aside_runUnit setup.engine u).store
    refine .aside _ _ t.server.stopping ?_ ?_ ?_ ?_
    · rw [store]
    · rw [queue]
    · rw [queue]
    · intro o
      rw [store]
      exact faultless o
  | surroundings x => exact .aside _ _ t.server.stopping rfl rfl rfl calm
  | close => exact .aside _ _ true rfl rfl rfl faultless

end Traffic

end Grader

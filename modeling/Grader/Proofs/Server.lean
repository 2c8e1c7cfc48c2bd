import Grader.Api.Server
import Grader.Proofs.Answer
import Grader.Proofs.JobStep
import Grader.Proofs.RequestStep

/-! Runs of a server whose requests take effect at once. The actions of its workers, the requests
and the changes of what surrounds it follow one another in any order. -/
namespace Grader

/-- What others change while a server runs. -/
structure Surroundings where
  problems : Table String Problem
  cases : Table String (List TestCase)
  records : Table String QuotaRecord
  fault? : Operation → Option StoreError
  guests : GuestLimiter
  now : Instant
  clockMs : Nat

namespace Site

def amid (s : Site) (x : Surroundings) : Site :=
  { s with
    store := { s.store with
      problems := x.problems, cases := x.cases, records := x.records, fault? := x.fault? }
    guests := x.guests, now := x.now, clockMs := x.clockMs }

/-- Runs a unit of a caller's own, of which a failure is counted. -/
def runUnit (engine : Engine) (s : Site) (u : ExecutionUnit) : Site :=
  let (reply, s) := s.call engine u
  match reply.result with
  | .failed e => { s with metrics := s.metrics.recordDispatchFailure u.language.name e.kind }
  | _ => s

theorem queue_runUnit (engine : Engine) (s : Site) (u : ExecutionUnit) :
    (s.runUnit engine u).queue = s.queue := by
  unfold runUnit
  simp only
  split <;> rfl

theorem aside_runUnit (engine : Engine) (s : Site) (u : ExecutionUnit) :
    s.Aside (s.runUnit engine u) := by
  unfold runUnit
  simp only
  split
  · exact ⟨s.queue, _, _, rfl⟩
  · exact ⟨s.queue, s.metrics, _, rfl⟩

end Site

theorem getElem?_set_cases {as : List α} {i k : Nat} {a b : α}
    (found : (as.set i a)[k]? = some b) : k = i ∧ b = a ∨ k ≠ i ∧ as[k]? = some b := by
  rw [List.getElem?_set] at found
  split at found
  · rename_i same
    split at found
    · exact .inl ⟨same.symm, (Option.some.inj found).symm⟩
    · contradiction
  · rename_i other
    exact .inr ⟨Ne.symm other, found⟩

theorem getElem?_concat_cases {as : List α} {i : Nat} {a b : α}
    (found : (as ++ [a])[i]? = some b) : as[i]? = some b ∨ i = as.length ∧ b = a := by
  rw [List.getElem?_append] at found
  split at found
  · exact .inl found
  · obtain ⟨inside, same⟩ := List.getElem?_eq_some_iff.mp found
    have last : i - as.length = 0 := by simpa using inside
    refine .inr ⟨by omega, ?_⟩
    simpa [last] using same.symm

namespace Server

theorem worker?_of_set {s t : Server} {i k : Nat} {v w : Worker}
    (set : t.workers = s.workers.set i w) (found : t.worker? k = some v) :
    k = i ∧ v = w ∨ k ≠ i ∧ s.worker? k = some v := by
  unfold worker? at found
  rw [set] at found
  exact getElem?_set_cases found

theorem worker?_set_same {s t : Server} {i : Nat} {v w : Worker} (there : s.worker? i = some v)
    (set : t.workers = s.workers.set i w) : t.worker? i = some w := by
  obtain ⟨inside, _⟩ := List.getElem?_eq_some_iff.mp there
  unfold worker?
  rw [set, List.getElem?_set_self inside]

theorem worker?_set_other {s t : Server} {i k : Nat} {w : Worker}
    (set : t.workers = s.workers.set i w) (other : k ≠ i) : t.worker? k = s.worker? k := by
  unfold worker?
  rw [set, List.getElem?_set_ne (Ne.symm other)]

/-- What an action of a worker may do to a server. -/
inductive Acts (setup : Setup) (s : Server) : Server → Prop where
  | take (i : Nat) (id : Uuid) (rest : List Uuid) (idle : s.worker? i = some .idle)
      (waits : s.site.queue.channel = id :: rest) :
      Acts setup s
        ({ s with site := { s.site with queue := { s.site.queue with channel := rest } } }.setWorker i
          (.busy id .load))
  | work (i : Nat) (id : Uuid) (job : Job) (busy : s.worker? i = some (.busy id job))
      (going : job.outcome? = none) :
      Acts setup s
        ({ s with site := (job.step setup id s.site).1 }.setWorker i
          (.busy id (job.step setup id s.site).2))
  | release (i : Nat) (id : Uuid) (outcome : Outcome)
      (busy : s.worker? i = some (.busy id (.done outcome))) :
      Acts setup s ({ s with site := s.site.release id }.setWorker i .idle)
  | stop (i : Nat) (idle : s.worker? i = some .idle) (empty : s.site.queue.channel = [])
      (stopping : s.stopping = true) : Acts setup s (s.setWorker i .stopped)

theorem outcome?_eq_some {j : Job} {outcome : Outcome} (ended : j.outcome? = some outcome) :
    j = .done outcome := by
  cases j with
  | done o => exact congrArg Job.done (Option.some.inj ended)
  | _ => contradiction

theorem take?_eq_some {s t : Server} {i : Nat} (taken : s.take? i = some t) :
    ∃ id rest, s.worker? i = some .idle ∧ s.site.queue.channel = id :: rest ∧
      t = { s with site := { s.site with queue := { s.site.queue with channel := rest } } }.setWorker i
        (.busy id .load) := by
  simp only [take?, Queue.take?] at taken
  split at taken
  · rename_i id queue idle first
    obtain rfl := Option.some.inj taken
    split at first
    · contradiction
    · rename_i waits
      cases first
      exact ⟨id, _, idle, waits, rfl⟩
  · contradiction

theorem work?_eq_some {setup : Setup} {s t : Server} {i : Nat} (worked : s.work? setup i = some t) :
    ∃ id job, s.worker? i = some (.busy id job) ∧ job.outcome? = none ∧
      t = { s with site := (job.step setup id s.site).1 }.setWorker i
        (.busy id (job.step setup id s.site).2) := by
  simp only [work?] at worked
  split at worked
  · rename_i id job busy
    split at worked
    · contradiction
    · rename_i going
      exact ⟨id, job, busy, going, (Option.some.inj worked).symm⟩
  · contradiction

theorem release?_eq_some {s t : Server} {i : Nat} (released : s.release? i = some t) :
    ∃ id outcome, s.worker? i = some (.busy id (.done outcome)) ∧
      t = { s with site := s.site.release id }.setWorker i .idle := by
  simp only [release?] at released
  split at released
  · rename_i id job busy
    split at released
    · rename_i outcome ended
      obtain rfl := outcome?_eq_some ended
      exact ⟨id, outcome, busy, (Option.some.inj released).symm⟩
    · contradiction
  · contradiction

theorem stop?_eq_some {s t : Server} {i : Nat} (stopped : s.stop? i = some t) :
    s.worker? i = some .idle ∧ s.site.queue.channel = [] ∧ s.stopping = true ∧
      t = s.setWorker i .stopped := by
  simp only [stop?] at stopped
  split at stopped
  · rename_i idle empty
    split at stopped
    · rename_i stopping
      exact ⟨idle, empty, stopping, (Option.some.inj stopped).symm⟩
    · contradiction
  · contradiction

theorem act?_acts {setup : Setup} {s t : Server} {a : Action} (acted : s.act? setup a = some t) :
    Acts setup s t := by
  cases a with
  | take i =>
    obtain ⟨id, rest, idle, waits, rfl⟩ := take?_eq_some acted
    exact .take i id rest idle waits
  | work i =>
    obtain ⟨id, job, busy, going, rfl⟩ := work?_eq_some acted
    exact .work i id job busy going
  | release i =>
    obtain ⟨id, outcome, busy, rfl⟩ := release?_eq_some acted
    exact .release i id outcome busy
  | stop i =>
    obtain ⟨idle, empty, stopping, rfl⟩ := stop?_eq_some acted
    exact .stop i idle empty stopping

inductive Event where
  | act (a : Action)
  /-- A request is answered, for which an id is kept ready. -/
  | request (fresh : Uuid) (r : Api.Request)
  /-- A custom run goes on by a unit. -/
  | unit (u : ExecutionUnit)
  | surroundings (x : Surroundings)
  | close

/-- What a worker cannot do leaves the server as it is. -/
def advance (setup : Setup) (s : Server) : Event → Server
  | .act a => (s.act? setup a).getD s
  | .request fresh r =>
    { s with site := (StateT.run (Api.answer setup.config fresh r) s.site).2 }
  | .unit u => { s with site := s.site.runUnit setup.engine u }
  | .surroundings x => { s with site := s.site.amid x }
  | .close => { s with site := { s.site with queue := s.site.queue.close }, stopping := true }

def execute (setup : Setup) : List Event → Server → Server
  | [], s => s
  | e :: es, s => execute setup es (s.advance setup e)

end Server

end Grader

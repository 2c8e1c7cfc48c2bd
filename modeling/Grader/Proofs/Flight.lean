import Grader.Proofs.Server

/-! What is in flight. A submission is in flight exactly while it waits in the channel or a worker is
busy with it, and it is never in two of these places at once. -/
namespace Grader

theorem perm_filterMap_set {f : α → Option β} {as : List α} {i : Nat} {a : α}
    (there : as[i]? = some a) (b : α) :
    ((f a).toList ++ (as.set i b).filterMap f).Perm ((f b).toList ++ as.filterMap f) := by
  have cons (c : α) (cs : List α) : (c :: cs).filterMap f = (f c).toList ++ cs.filterMap f := by
    cases found : f c <;> simp [found]
  induction as generalizing i with
  | nil => contradiction
  | cons c cs ih =>
    cases i with
    | zero =>
      obtain rfl := Option.some.inj there
      rw [List.set_cons_zero, cons, cons, ← List.append_assoc, ← List.append_assoc]
      exact List.perm_append_comm.append_right _
    | succ i =>
      have tail : ((f a).toList ++ (cs.set i b).filterMap f).Perm
          ((f b).toList ++ cs.filterMap f) := ih there
      rw [List.set_cons_succ, cons, cons]
      calc (f a).toList ++ ((f c).toList ++ (cs.set i b).filterMap f)
        _ |>.Perm ((f c).toList ++ ((f a).toList ++ (cs.set i b).filterMap f)) :=
            List.perm_append_comm_assoc ..
        _ |>.Perm ((f c).toList ++ ((f b).toList ++ cs.filterMap f)) := tail.append_left _
        _ |>.Perm ((f b).toList ++ ((f c).toList ++ cs.filterMap f)) :=
            List.perm_append_comm_assoc ..

/-- What a worker is busy with. -/
def Worker.id? : Worker → Option Uuid
  | .busy id _ => some id
  | _ => none

namespace Server

def busyIds (s : Server) : List Uuid := s.workers.filterMap Worker.id?

theorem mem_busyIds {s : Server} {i : Nat} {id : Uuid} {job : Job}
    (busy : s.worker? i = some (.busy id job)) : id ∈ s.busyIds :=
  List.mem_filterMap.mpr ⟨_, List.mem_of_getElem? busy, rfl⟩

structure Accounted (s : Server) : Prop where
  places : s.site.queue.inFlight.Perm (s.site.queue.channel ++ s.busyIds)
  nodup : s.site.queue.inFlight.Nodup

theorem withWorkers_accounted {site : Site} (channel : site.queue.channel = [])
    (inFlight : site.queue.inFlight = []) (count : Nat) : (withWorkers site count).Accounted := by
  constructor
  · simp [withWorkers, busyIds, channel, inFlight, Worker.id?]
  · simp [withWorkers, inFlight]

namespace Accounted

variable {s : Server} (accounted : s.Accounted)
include accounted

theorem mem_iff (id : Uuid) :
    id ∈ s.site.queue.inFlight ↔ id ∈ s.site.queue.channel ∨ id ∈ s.busyIds := by
  rw [accounted.places.mem_iff, List.mem_append]

theorem of_waiting {id : Uuid} (waits : id ∈ s.site.queue.channel) :
    id ∈ s.site.queue.inFlight := (accounted.mem_iff id).mpr (.inl waits)

theorem of_busy {i : Nat} {id : Uuid} {job : Job} (busy : s.worker? i = some (.busy id job)) :
    id ∈ s.site.queue.inFlight := (accounted.mem_iff id).mpr (.inr (mem_busyIds busy))

theorem nodup_places : (s.site.queue.channel ++ s.busyIds).Nodup :=
  accounted.places.nodup_iff.mp accounted.nodup

/-- What a worker is busy with does not wait for another. -/
theorem not_waiting_of_busy {i : Nat} {id : Uuid} {job : Job}
    (busy : s.worker? i = some (.busy id job)) : id ∉ s.site.queue.channel := by
  intro waits
  obtain ⟨_, _, apart⟩ := List.nodup_append.mp accounted.nodup_places
  exact apart id waits id (mem_busyIds busy) rfl

/-- No two workers are busy with the same submission. -/
theorem busy_unique {i k : Nat} {id : Uuid} {job other : Job}
    (busy : s.worker? i = some (.busy id job)) (busy' : s.worker? k = some (.busy id other)) :
    k = i := by
  by_cases same : k = i
  · exact same
  · have left : (s.setWorker i .idle).worker? k = some (.busy id other) := by
      unfold worker? setWorker
      rw [List.getElem?_set_ne (Ne.symm same)]
      exact busy'
    have perm := perm_filterMap_set (f := Worker.id?) busy .idle
    have nodup : (id :: (s.setWorker i .idle).busyIds).Nodup :=
      perm.nodup_iff.mpr (List.nodup_append.mp accounted.nodup_places).2.1
    exact absurd (mem_busyIds left) (List.nodup_cons.mp nodup).1

theorem of_same {t : Server} (channel : t.site.queue.channel = s.site.queue.channel)
    (inFlight : t.site.queue.inFlight = s.site.queue.inFlight) (workers : t.workers = s.workers) :
    t.Accounted := by
  constructor
  · unfold busyIds
    rw [channel, inFlight, workers]
    exact accounted.places
  · rw [inFlight]
    exact accounted.nodup

theorem push {t : Server} {id : Uuid} (new : id ∉ s.site.queue.inFlight)
    (queue : t.site.queue = s.site.queue.push id) (workers : t.workers = s.workers) :
    t.Accounted := by
  constructor
  · unfold busyIds
    rw [queue, workers]
    show (s.site.queue.inFlight ++ [id]).Perm ((s.site.queue.channel ++ [id]) ++ s.busyIds)
    calc s.site.queue.inFlight ++ [id]
      _ |>.Perm (id :: s.site.queue.inFlight) := List.perm_append_singleton ..
      _ |>.Perm (id :: (s.site.queue.channel ++ s.busyIds)) := accounted.places.cons id
      _ |>.Perm ((s.site.queue.channel ++ [id]) ++ s.busyIds) := by
          rw [List.append_assoc]
          exact List.perm_middle.symm
  · rw [queue]
    have single : [id].Nodup := List.nodup_cons.mpr ⟨List.not_mem_nil, List.nodup_nil⟩
    refine List.nodup_append.mpr ⟨accounted.nodup, single, ?_⟩
    intro a member b same
    obtain rfl := List.mem_singleton.mp same
    exact fun equal => new (equal ▸ member)

end Accounted

theorem Acts.accounted {setup : Setup} {s t : Server} (acts : Acts setup s t)
    (accounted : s.Accounted) : t.Accounted := by
  cases acts with
  | take i id rest idle waits =>
    refine ⟨?_, accounted.nodup⟩
    have places := accounted.places
    rw [waits] at places
    have moved := perm_filterMap_set (f := Worker.id?) idle (.busy id .load)
    show s.site.queue.inFlight.Perm (rest ++ (s.workers.set i (.busy id .load)).filterMap Worker.id?)
    calc s.site.queue.inFlight
      _ |>.Perm (id :: rest ++ s.busyIds) := places
      _ |>.Perm (rest ++ (id :: s.busyIds)) := List.perm_middle.symm
      _ |>.Perm (rest ++ (s.workers.set i (.busy id .load)).filterMap Worker.id?) :=
          moved.symm.append_left rest
  | work i id job busy going =>
    have queue := job.queue_step setup id s.site
    have moved := perm_filterMap_set (f := Worker.id?) busy (.busy id (job.step setup id s.site).2)
    constructor
    · show (job.step setup id s.site).1.queue.inFlight.Perm
        ((job.step setup id s.site).1.queue.channel ++
          (s.workers.set i (.busy id (job.step setup id s.site).2)).filterMap Worker.id?)
      rw [queue]
      exact accounted.places.trans ((List.Perm.cons_inv moved).symm.append_left _)
    · show (job.step setup id s.site).1.queue.inFlight.Nodup
      rw [queue]
      exact accounted.nodup
  | release i id outcome busy =>
    have moved := perm_filterMap_set (f := Worker.id?) busy .idle
    refine ⟨?_, accounted.nodup.erase id⟩
    have places : s.site.queue.inFlight.Perm
        (id :: (s.site.queue.channel ++ (s.workers.set i .idle).filterMap Worker.id?)) :=
      calc s.site.queue.inFlight
        _ |>.Perm (s.site.queue.channel ++ s.busyIds) := accounted.places
        _ |>.Perm (s.site.queue.channel ++ (id :: (s.workers.set i .idle).filterMap Worker.id?)) :=
            moved.symm.append_left _
        _ |>.Perm (id :: (s.site.queue.channel ++ (s.workers.set i .idle).filterMap Worker.id?)) :=
            List.perm_middle
    have left := places.erase id
    rw [List.erase_cons_head] at left
    exact left
  | stop i idle =>
    have moved := perm_filterMap_set (f := Worker.id?) idle .stopped
    exact ⟨accounted.places.trans (moved.symm.append_left _), accounted.nodup⟩

end Server

end Grader

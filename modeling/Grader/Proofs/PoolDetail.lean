import Grader.Pool.Schedule
import Grader.Proofs.Detail

/-! The workers go the same way whatever the detail of failures is: they take, wait and let go at the
same times. -/
namespace Grader

def Worker.withoutDetail : Worker → Worker
  | .idle => .idle
  | .busy id job => .busy id job.withoutDetail
  | .stopped => .stopped

@[simp] theorem Worker.withoutDetail_twice (w : Worker) :
    w.withoutDetail.withoutDetail = w.withoutDetail := by
  cases w <;> simp [withoutDetail]

namespace Server

def withoutDetail (s : Server) : Server :=
  { s with site := s.site.withoutDetail, workers := s.workers.map Worker.withoutDetail }

variable (s : Server) (i : Nat)

@[simp] theorem withoutDetail_twice : s.withoutDetail.withoutDetail = s.withoutDetail := by
  simp [withoutDetail, Function.comp_def]

theorem worker?_withoutDetail :
    s.withoutDetail.worker? i = (s.worker? i).map Worker.withoutDetail := by
  simp [worker?, withoutDetail]

/-- A worker may be changed on both sides. -/
theorem setWorker_alike {x y : Site} {w v : Worker} (sites : x.withoutDetail = y.withoutDetail)
    (workers : w.withoutDetail = v.withoutDetail) :
    (({ s with site := x } : Server).setWorker i w).withoutDetail =
      (({ s.withoutDetail with site := y } : Server).setWorker i v).withoutDetail := by
  simp [setWorker, withoutDetail, List.map_set, Function.comp_def, sites, workers]

theorem take?_withoutDetail :
    (s.take? i).map withoutDetail = (s.withoutDetail.take? i).map withoutDetail := by
  have queue : s.withoutDetail.site.queue = s.site.queue := rfl
  simp only [take?, worker?_withoutDetail, queue]
  rcases s.worker? i with _ | _ | ⟨id, job⟩ | _
  · rfl
  · cases s.site.queue.take? with
    | none => rfl
    | some taken =>
      exact congrArg some (s.setWorker_alike i (Site.withoutDetail_twice _).symm rfl)
  · rfl
  · rfl

theorem release?_withoutDetail :
    (s.release? i).map withoutDetail = (s.withoutDetail.release? i).map withoutDetail := by
  simp only [release?, worker?_withoutDetail]
  rcases s.worker? i with _ | _ | ⟨id, job⟩ | _
  · rfl
  · rfl
  · simp only [Option.map_some, Worker.withoutDetail, Job.outcome?_withoutDetail]
    cases job.outcome? with
    | none => rfl
    | some outcome =>
      exact congrArg some (s.setWorker_alike i (Site.withoutDetail_twice _).symm rfl)
  · rfl

end Server

namespace Running

def withoutDetail (r : Running) : Running := { r with server := r.server.withoutDetail }

theorem goOn?_withoutDetail (setup : Setup) (r : Running) :
    (r.goOn? setup).map withoutDetail =
      (r.withoutDetail.goOn? setup.withoutDetail).map withoutDetail := by
  have ready : r.withoutDetail.ready = r.ready := rfl
  simp only [goOn?, ready]
  cases r.ready with
  | nil => rfl
  | cons i rest =>
    have worker : r.withoutDetail.server.worker? i = (r.server.worker? i).map Worker.withoutDetail :=
      r.server.worker?_withoutDetail i
    have aside : some ({ r with ready := rest } : Running).withoutDetail =
        some ({ r.withoutDetail with ready := rest } : Running).withoutDetail := by
      simp [withoutDetail]
    simp only [worker]
    rcases r.server.worker? i with _ | _ | ⟨id, job⟩ | _
    · exact aside
    · exact aside
    · have release : (r.server.release? i).map Server.withoutDetail =
          (r.withoutDetail.server.release? i).map Server.withoutDetail :=
        r.server.release?_withoutDetail i
      have proceed := Job.proceed_alike setup.withoutDetail_twice.symm
        (x := r.site) (y := r.withoutDetail.site) r.site.withoutDetail_twice.symm
        (j := job) (k := job.withoutDetail) job.withoutDetail_twice.symm id
      simp only [Option.map_some, Worker.withoutDetail]
      rcases Option.map_eq_map_cases release with
        ⟨first, second⟩ | ⟨server, server', first, second, servers⟩
      · -- The job has not ended in either run, and goes on.
        rw [first, second]
        generalize job.proceed setup id r.site = p at proceed
        generalize job.withoutDetail.proceed setup.withoutDetail id r.withoutDetail.site = q
          at proceed
        obtain ⟨x, j⟩ := p
        obtain ⟨y, k⟩ := q
        obtain ⟨sites, jobs⟩ := Prod.mk.inj proceed
        have servers := r.server.setWorker_alike i sites (w := .busy id j) (v := .busy id k)
          (congrArg (Worker.busy id) jobs)
        have clock : x.clockMs = y.clockMs := (congrArg Site.clockMs sites :)
        simp only [Job.waits_alike jobs, Job.delayMs_alike jobs, clock]
        split
        · simp only [Option.map_some, withoutDetail, servers]
        · simp only [Option.map_some, withoutDetail, servers]
      · rw [first, second]
        simp [withoutDetail, servers]
    · exact aside

theorem turn?_withoutDetail (setup : Setup) (r : Running) :
    (r.turn? setup).map withoutDetail =
      (r.withoutDetail.turn? setup.withoutDetail).map withoutDetail := by
  have waiting : r.withoutDetail.waiting = r.waiting := rfl
  have going := r.goOn?_withoutDetail setup
  simp only [turn?, waiting]
  cases r.waiting with
  | nil => exact going
  | cons i rest =>
    have take : (r.server.take? i).map Server.withoutDetail =
        (r.withoutDetail.server.take? i).map Server.withoutDetail := r.server.take?_withoutDetail i
    rcases Option.map_eq_map_cases take with ⟨first, second⟩ | ⟨s, s', first, second, servers⟩
    · simpa only [first, second] using going
    · simp only [first, second, Option.map_some]
      simp only [withoutDetail, servers]

section Pairs

variable {a b : Setup} {r q : Running}

theorem site_alike (same : r.withoutDetail = q.withoutDetail) :
    r.site.withoutDetail = q.site.withoutDetail := congrArg site same

theorem withSite_alike {x y : Site} (same : r.withoutDetail = q.withoutDetail)
    (sites : x.withoutDetail = y.withoutDetail) :
    (r.withSite x).withoutDetail = (q.withSite y).withoutDetail := by
  have apart (r : Running) (x : Site) :
      (r.withSite x).withoutDetail = r.withoutDetail.withSite x.withoutDetail := rfl
  rw [apart, apart, same, sites]

variable (setups : a.withoutDetail = b.withoutDetail)
include setups

theorem turn?_alike (same : r.withoutDetail = q.withoutDetail) :
    (r.turn? a).map withoutDetail = (q.turn? b).map withoutDetail := by
  rw [turn?_withoutDetail, setups, same, ← turn?_withoutDetail]

theorem turns_alike (same : r.withoutDetail = q.withoutDetail) (n : Nat) :
    (turns a n r).withoutDetail = (turns b n q).withoutDetail := by
  induction n generalizing r q with
  | zero => exact same
  | succ n ih =>
    have turn := turn?_alike setups same
    unfold turns
    rcases Option.map_eq_map_cases turn with ⟨first, second⟩ | ⟨r', q', first, second, same⟩
    · rw [first, second]
      exact same
    · rw [first, second]
      exact ih same

theorem settle_alike (same : r.withoutDetail = q.withoutDetail) :
    (r.settle a).withoutDetail = (q.settle b).withoutDetail := by
  have woken : r.wake.withoutDetail = q.wake.withoutDetail := congrArg wake same
  have left : r.wake.turnsLeft = q.wake.turnsLeft := (congrArg turnsLeft woken :)
  simp only [settle, left]
  exact turns_alike setups woken _

theorem passTimers_alike (same : r.withoutDetail = q.withoutDetail) (target fuel : Nat) :
    (passTimers a target fuel r).withoutDetail = (passTimers b target fuel q).withoutDetail := by
  induction fuel generalizing r q with
  | zero => exact same
  | succ fuel ih =>
    have due : r.earliestDue? = q.earliestDue? := (congrArg earliestDue? same :)
    unfold passTimers
    rw [due]
    cases q.earliestDue? with
    | none => exact same
    | some due =>
      simp only
      split
      · exact ih (settle_alike setups (congrArg (·.setClock due) same))
      · exact same

theorem pass_alike (same : r.withoutDetail = q.withoutDetail) (ms : Nat) :
    (r.pass a ms).withoutDetail = (q.pass b ms).withoutDetail := by
  have settled := settle_alike setups same
  have target : (r.settle a).clockMs + ms = (q.settle b).clockMs + ms :=
    congrArg (·.clockMs + ms) settled
  have passed := passTimers_alike setups settled ((q.settle b).clockMs + ms) ms
  unfold pass
  simp only [target]
  exact congrArg (·.setClock ((q.settle b).clockMs + ms)) passed

end Pairs

end Running
end Grader

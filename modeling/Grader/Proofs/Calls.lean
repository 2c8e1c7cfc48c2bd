import Grader.Proofs.Drain

/-! The calls of the engine that the workers wait for. A worker waits for one call at a time, and no
two work on the same submission. -/
namespace Grader

def Worker.call? : Worker → Option (Uuid × ExecutionUnit)
  | .busy id job => job.call?.map (id, ·)
  | _ => none

def Server.outstanding (s : Server) : List (Uuid × ExecutionUnit) := s.workers.filterMap Worker.call?

theorem Server.outstanding_sublist (s : Server) :
    (s.outstanding.map (·.1)).Sublist s.busyIds := by
  unfold outstanding busyIds
  induction s.workers with
  | nil => exact .slnil
  | cons w ws ih =>
    cases w with
    | idle | stopped => exact ih
    | busy id job =>
      rw [List.filterMap_cons_some (show (Worker.busy id job).id? = some id from rfl)]
      cases waits : job.call? with
      | none =>
        rw [List.filterMap_cons_none (by simp [Worker.call?, waits])]
        exact ih.cons id
      | some u =>
        rw [List.filterMap_cons_some (show (Worker.busy id job).call? = some (id, u) by
          simp [Worker.call?, waits])]
        exact ih.cons_cons id

namespace Shift

/-- What jobs have asked of the engine is answered or outstanding. -/
def Awaited (s : Shift) : Prop :=
  s.history.asked.Perm (s.history.answered ++ s.server.outstanding)

theorem start_awaited (site : Site) (capacity workers : Nat) :
    (start site capacity workers).Awaited := by
  simp [Awaited, start, History.empty, Server.withWorkers, Server.outstanding, Worker.call?]

theorem Moves.awaited {setup : Setup} {s t : Shift} {e : Event} (moves : s.Moves setup e t)
    (awaited : s.Awaited) : t.Awaited := by
  cases moves with
  | took i id rest idle waits =>
    have moved := perm_filterMap_set (f := Worker.call?) idle (.busy id .load)
    exact awaited.trans (moved.symm.append_left _)
  | worked i id job busy going =>
    have moved : (job.call?.toList.map (id, ·) ++ (s.server.workers.set i
          (.busy id (job.step setup id s.server.site).2)).filterMap Worker.call?).Perm
        ((job.step setup id s.server.site).2.call?.toList.map (id, ·) ++ s.server.outstanding) := by
      rw [← Option.toList_map, ← Option.toList_map]
      exact perm_filterMap_set (f := Worker.call?) busy _
    unfold Awaited
    show (s.history.asked ++ (job.step setup id s.server.site).2.call?.toList.map (id, ·)).Perm
      (s.history.answered ++ job.call?.toList.map (id, ·) ++ _)
    rw [List.append_assoc]
    calc s.history.asked ++ (job.step setup id s.server.site).2.call?.toList.map (id, ·)
      _ |>.Perm (s.history.answered ++ (s.server.outstanding ++
            (job.step setup id s.server.site).2.call?.toList.map (id, ·))) := by
          rw [← List.append_assoc]
          exact awaited.append_right _
      _ |>.Perm (s.history.answered ++ ((job.step setup id s.server.site).2.call?.toList.map (id, ·) ++
            s.server.outstanding)) := List.perm_append_comm.append_left _
      _ |>.Perm _ := moved.symm.append_left _
  | released i id outcome busy =>
    have moved := perm_filterMap_set (f := Worker.call?) busy .idle
    exact awaited.trans (moved.symm.append_left _)
  | stopped i idle empty stopping =>
    have moved := perm_filterMap_set (f := Worker.call?) idle .stopped
    exact awaited.trans (moved.symm.append_left _)
  | queued | declined | left | aside => exact awaited

theorem execute_awaited (setup : Setup) (schedule : List Event) {s : Shift} (awaited : s.Awaited) :
    (execute setup schedule s).Awaited := by
  induction schedule generalizing s with
  | nil => exact awaited
  | cons e es ih => exact ih ((s.advance_moves setup e).awaited awaited)

/-- However offers and the work on what was accepted follow one another, no two workers are busy with
the same submission. The calls that are asked and not answered are no more than the workers, each for
a submission of its own. -/
theorem calls_bounded (setup : Setup) (site : Site) (capacity workers : Nat)
    (schedule : List Event) :
    let s := execute setup schedule (start site capacity workers)
    (∀ i k id job other, s.server.worker? i = some (.busy id job) →
        s.server.worker? k = some (.busy id other) → i = k) ∧
      s.history.asked.Perm (s.history.answered ++ s.server.outstanding) ∧
      s.server.outstanding.length ≤ max workers 1 ∧
      (s.server.outstanding.map (·.1)).Nodup := by
  intro s
  have balanced : s.Balanced capacity workers :=
    execute_balanced setup schedule (start_balanced site capacity workers)
  refine ⟨fun i k id job other busy busy' => balanced.accounted.busy_unique busy' busy,
    execute_awaited setup schedule (start_awaited site capacity workers), ?_, ?_⟩
  · rw [← balanced.staff]
    exact List.length_filterMap_le ..
  · exact s.server.outstanding_sublist.nodup (List.nodup_append.mp balanced.accounted.nodup_places).2.1

end Shift

end Grader

import Grader.Grading.Job

/-! A job on its own, from one point to another. -/
namespace Grader.Job

def waits (j : Job) : Bool := 0 < j.delayMs

/-- Takes all steps up to the end, without regard to the time that calls take. -/
def finish (setup : Setup) (id : Uuid) (site : Site) (j : Job) : Site × Outcome :=
  match h : j.outcome? with
  | some outcome => (site, outcome)
  | none =>
    have := step_rank setup id site j h
    (j.step setup id site).2.finish setup id (j.step setup id site).1
termination_by j.rank
decreasing_by exact this

/-- Takes steps until the job has ended or has to wait. -/
def proceed (setup : Setup) (id : Uuid) (site : Site) (j : Job) : Site × Job :=
  match h : j.outcome? with
  | some _ => (site, j)
  | none =>
    have := step_rank setup id site j h
    let next := (j.step setup id site).2
    if next.waits then ((j.step setup id site).1, next)
    else next.proceed setup id (j.step setup id site).1
termination_by j.rank
decreasing_by exact this

end Grader.Job

namespace Grader

def Site.process (setup : Setup) (id : Uuid) (site : Site) : Site × Outcome :=
  Job.load.finish setup id site

end Grader

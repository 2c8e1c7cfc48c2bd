import Grader.Evaluation.Run
import Grader.Grading.Site

/-! The work on one submission, from loading it to storing its verdict. Each step reads or writes
the store once, or makes or ends one call of the engine, so that the steps of several jobs may
follow one another in any order. A submission that cannot be run for lack of its problem ends as
an internal error; nothing is tried twice. -/
namespace Grader

inductive Outcome where
  | missing
  | skipped (status : Status)
  | completed (status : Status)
  | storeFailed (error : StoreError)
  | crashed
  deriving DecidableEq, Repr

/-- Where the work stands, named for the step that comes next. -/
inductive Job where
  | load
  | findProblem (s : Submission)
  | findCases (s : Submission) (p : Problem)
  | giveUp (s : Submission) (detail : String)
  | mark (s : Submission) (p : Problem) (cases : List TestCase)
  | run (s : Submission) (plan : Plan) (progress : Progress)
  /-- A call of the engine is outstanding. -/
  | await (s : Submission) (plan : Plan) (progress : Progress) (c : TestCase) (reply : Reply)
  | save (s : Submission) (evaluation : Evaluation) (elapsedMs : Nat)
  | done (outcome : Outcome)

namespace Job

def outcome? : Job → Option Outcome
  | .done o => some o
  | _ => none

def delayMs : Job → Nat
  | .await _ _ _ _ reply => reply.delayMs
  | _ => 0

def loaded : Except StoreError (Option Submission) → Job
  | .error e => .done (.storeFailed e)
  | .ok none => .done .missing
  | .ok (some s) => if s.status.isTerminal then .done (.skipped s.status) else .findProblem s

def problemFound (s : Submission) : Except StoreError (Option Problem) → Job
  | .error e => .giveUp s ("loading problem " ++ s.problemId ++ ": " ++ e.message)
  | .ok none => .giveUp s ("problem " ++ s.problemId ++ " not found")
  | .ok (some p) => .findCases s p

def casesFound (s : Submission) (p : Problem) : Except StoreError (List TestCase) → Job
  | .error e => .giveUp s ("loading test cases for " ++ s.problemId ++ ": " ++ e.message)
  | .ok [] => .giveUp s ("problem " ++ s.problemId ++ " has no test cases")
  | .ok cases => .mark s p cases

/-- The first step of a run, whose memory limit has to be a number. -/
def begin (setup : Setup) (s : Submission) (p : Problem) (cases : List TestCase) : Job :=
  match p.memoryLimit with
  | .overflow => .done .crashed
  | .none | .kilobytes _ =>
    let c := setup.config
    .run s (.make s p cases.length (c.effectiveTimeLimit p.timeLimitMs) c.dispatchMarginMs
      c.maxSubmissionBudgetMs setup.signatures) (.start cases)

def conclude (s : Submission) (elapsedMs : Nat) (site : Site) : Site × Job :=
  match site.saveSubmission s with
  | .error e => (site, .done (.storeFailed e))
  | .ok site =>
    ({ site with metrics :=
        site.metrics.recordCompleted s.language.name s.status.name (Float.ofNat elapsedMs) },
      .done (.completed s.status))

def step (setup : Setup) (id : Uuid) (site : Site) : Job → Site × Job
  | .load => (site, loaded (DocumentStore.submission? id site.store))
  | .findProblem s => (site, problemFound s (DocumentStore.problem? s.problemId site.store))
  | .findCases s p => (site, casesFound s p (DocumentStore.cases s.problemId site.store))
  | .giveUp s detail => conclude (s.fail detail site.now) 0 site
  | .mark s p cases =>
    let s := s.markRunning site.now
    match site.saveSubmission s with
    | .error e => (site, .done (.storeFailed e))
    | .ok site => (site, begin setup s p cases)
  | .run s plan progress =>
    match progress.next? plan with
    | none => (site, .save s progress.conclude progress.elapsedMs)
    | some (c, progress) =>
      let (reply, site) := site.call setup.engine (plan.unitFor c.input)
      (site, .await s plan progress c reply)
  | .await s plan progress c reply =>
    let progress := progress.afterDelay reply.delayMs
    match reply.result with
    | .crashed => (site, .done .crashed)
    | .answered output => (site, .run s plan (progress.answered plan c output))
    | .failed e =>
      ({ site with metrics := site.metrics.recordDispatchFailure plan.language.name e.kind },
        .run s plan (progress.failed c e))
  | .save s evaluation elapsedMs =>
    conclude (s.complete evaluation.status evaluation.results evaluation.tally evaluation.diagnostic
      site.now) elapsedMs site
  | .done outcome => (site, .done outcome)

/-- How far a job is from its end: the stage, and within a run the steps that are left of it. -/
def rank : Job → Nat × Nat
  | .load => (6, 0)
  | .findProblem _ => (5, 0)
  | .findCases .. => (4, 0)
  | .mark .. => (3, 0)
  | .run _ _ progress => (2, 2 * progress.pending.length)
  | .await _ _ progress _ _ => (2, 2 * progress.pending.length + 1)
  | .giveUp .. => (1, 0)
  | .save .. => (1, 0)
  | .done _ => (0, 0)

theorem conclude_rank (s : Submission) (elapsedMs : Nat) (site : Site) :
    (conclude s elapsedMs site).2.rank = (0, 0) := by
  unfold conclude; split <;> rfl

theorem step_rank (setup : Setup) (id : Uuid) (site : Site) (j : Job) (h : j.outcome? = none) :
    Prod.Lex (· < ·) (· < ·) (j.step setup id site).2.rank j.rank := by
  have lower {a b : Nat × Nat} (h : a.1 < b.1) : Prod.Lex (· < ·) (· < ·) a b :=
    Prod.Lex.left _ _ h
  cases j with
  | load =>
    refine lower ?_
    simp only [step, loaded]
    repeat' split
    all_goals simp [rank]
  | findProblem s =>
    refine lower ?_
    simp only [step, problemFound]
    repeat' split
    all_goals simp [rank]
  | findCases s p =>
    refine lower ?_
    simp only [step, casesFound]
    repeat' split
    all_goals simp [rank]
  | giveUp s detail => exact lower (by rw [step, conclude_rank]; exact Nat.one_pos)
  | mark s p cases =>
    refine lower ?_
    simp only [step, begin]
    repeat' split
    all_goals simp [rank]
  | run s plan progress =>
    simp only [step]
    split
    · exact lower (by simp [rank])
    · rename_i c q hq
      refine Prod.Lex.right _ ?_
      simp [Progress.next?_pending hq]
      omega
  | await s plan progress c reply =>
    simp only [step]
    split
    · exact lower (by simp [rank])
    all_goals
      refine Prod.Lex.right _ ?_
      simp [Progress.answered, Progress.failed, Progress.afterDelay]
  | save s evaluation elapsedMs => exact lower (by rw [step, conclude_rank]; exact Nat.one_pos)
  | done outcome => simp [outcome?] at h

end Grader.Job

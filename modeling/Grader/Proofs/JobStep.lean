import Grader.Grading.Job
import Grader.Proofs.Attempt
import Grader.Proofs.Verdict

/-! The steps of a job. It marks its submission as running, and later stores a verdict unless it
crashes; it works on the submission it was started for, and leaves the queue alone. -/
namespace Grader

namespace Job

/-- The submission that the next step is to save. -/
def saves? (site : Site) : Job → Option Submission
  | .giveUp s detail => some (s.fail detail site.now)
  | .mark s _ _ => some (s.markRunning site.now)
  | .save s e _ => some (s.complete e.status e.results e.tally e.diagnostic site.now)
  | _ => none

theorem conclude_attempted (s : Submission) (elapsedMs : Nat) (site : Site) :
    site.Attempted (some s) (conclude s elapsedMs site).1 := by
  unfold conclude
  split
  · rename_i failed
    exact .of_failed failed
  · rename_i after saved
    rw [Site.kept_of_saved saved]
    exact .inl ⟨site.queue, _, site.calls, rfl⟩

theorem step_attempted (setup : Setup) (id : Uuid) (site : Site) (j : Job) :
    site.Attempted (j.saves? site) (j.step setup id site).1 := by
  cases j with
  | load => exact .of_none (.refl site)
  | findProblem s => exact .of_none (.refl site)
  | findCases s p => exact .of_none (.refl site)
  | giveUp s detail => exact conclude_attempted ..
  | mark s p cases =>
    simp only [step]
    split
    · rename_i failed
      exact .of_failed failed
    · rename_i saved
      exact .of_saved saved
  | run s plan progress =>
    refine .of_none ?_
    simp only [step]
    split
    · exact .refl site
    · exact ⟨site.queue, site.metrics, _, rfl⟩
  | await s plan progress c reply =>
    refine .of_none ?_
    simp only [step]
    split
    · exact .refl site
    · exact .refl site
    · exact ⟨site.queue, _, site.calls, rfl⟩
  | save s e elapsedMs => exact conclude_attempted ..
  | done outcome => exact .of_none (.refl site)

theorem queue_step (setup : Setup) (id : Uuid) (site : Site) (j : Job) :
    (j.step setup id site).1.queue = site.queue := by
  have kept {d : Submission} {after : Site} (saved : site.saveSubmission d = .ok after) :
      after.queue = site.queue := by
    rw [Site.kept_of_saved saved, Site.queue_keep]
  cases j with
  | load | findProblem | findCases | done => rfl
  | giveUp | save =>
    simp only [step, conclude]
    split
    · rfl
    · rename_i saved
      simpa only using kept saved
  | mark =>
    simp only [step]
    split
    · rfl
    · rename_i saved
      exact kept saved
  | run | await =>
    simp only [step]
    split <;> rfl

def submission? : Job → Option Submission
  | .findProblem s | .findCases s _ | .giveUp s _ | .mark s _ _ | .run s _ _ | .await s _ _ _ _
  | .save s _ _ => some s
  | .load | .done _ => none

/-- The job is on its way to the note that it runs. -/
def IsEarly : Job → Prop
  | .load | .findProblem _ | .findCases .. | .giveUp .. | .mark .. => True
  | _ => False

/-- The job is between that note and its verdict. -/
def IsLate : Job → Prop
  | .run .. | .await .. | .save .. => True
  | _ => False

theorem early_or_late {j : Job} (going : j.outcome? = none) : j.IsEarly ∨ j.IsLate := by
  cases j with
  | load | findProblem | findCases | giveUp | mark => exact .inl trivial
  | run | await | save => exact .inr trivial
  | done => contradiction

theorem begin_cases (setup : Setup) (s : Submission) (p : Problem) (cases : List TestCase) :
    (∃ plan progress, begin setup s p cases = .run s plan progress) ∨
      begin setup s p cases = .done .crashed := by
  unfold begin
  split
  · exact .inr rfl
  all_goals exact .inl ⟨_, _, rfl⟩

def Owns (id : Uuid) (j : Job) : Prop := ∀ s ∈ j.submission?, s.id = id

theorem owns_done (id : Uuid) (outcome : Outcome) : (done outcome).Owns id := by
  intro s read
  cases read

theorem step_owns (setup : Setup) {id : Uuid} {site : Site} (keyed : site.Keyed) {j : Job}
    (own : j.Owns id) : (j.step setup id site).2.Owns id := by
  cases j with
  | load =>
    simp only [step, loaded]
    split
    · exact owns_done id _
    · exact owns_done id _
    · rename_i s found
      split
      · exact owns_done id _
      · intro d read
        obtain rfl := Option.some.inj read
        exact keyed id s (Site.stored?_of_loaded found)
  | findProblem s =>
    simp only [step, problemFound]
    split <;> exact own
  | findCases s p =>
    simp only [step, casesFound]
    split <;> exact own
  | giveUp s detail =>
    simp only [step, conclude]
    split <;> exact owns_done id _
  | mark s p cases =>
    simp only [step]
    split
    · exact owns_done id _
    · rcases begin_cases setup (s.markRunning site.now) p cases with ⟨plan, progress, run⟩ | crashed
      · rw [run]
        intro d read
        obtain rfl := Option.some.inj read
        exact own s rfl
      · rw [crashed]
        exact owns_done id _
  | run s plan progress =>
    simp only [step]
    split <;> exact own
  | await s plan progress c reply =>
    simp only [step]
    split
    · exact owns_done id _
    · exact own
    · exact own
  | save s e elapsedMs =>
    simp only [step, conclude]
    split <;> exact owns_done id _
  | done outcome => exact owns_done id _

theorem saves?_id {j : Job} {id : Uuid} (own : j.Owns id) (site : Site) :
    ∀ d ∈ j.saves? site, d.id = id := by
  intro d saved
  cases j with
  | giveUp s | mark s | save s =>
    obtain rfl := Option.some.inj saved
    exact own s rfl
  | _ => contradiction

/-- A job on its way to its run goes on, finds that there is nothing to do, or leaves a note. -/
theorem step_early (setup : Setup) {id : Uuid} {site : Site} (faultless : site.Faultless) {j : Job}
    (early : j.IsEarly) :
    let next := (j.step setup id site).2
    j.saves? site = none ∧
        (next.IsEarly ∨ ∀ d, site.stored? id = some d → d.status.isTerminal = true) ∨
      ∃ d, j.saves? site = some d ∧ (d.status.isTerminal = true ∨
        d.status = .running ∧ (next.IsLate ∨ next = .done .crashed)) := by
  cases j with
  | load =>
    refine .inl ⟨rfl, ?_⟩
    simp only [step, faultless.submission?, loaded]
    split
    · contradiction
    · rename_i missing
      refine .inr fun d found => ?_
      rw [Except.ok.inj missing] at found
      contradiction
    · rename_i s found
      split
      · rename_i ended
        refine .inr fun d found' => ?_
        obtain rfl := Option.some.inj ((Except.ok.inj found).symm.trans found')
        exact ended
      · exact .inl trivial
  | findProblem s =>
    refine .inl ⟨rfl, .inl ?_⟩
    simp only [step, problemFound]
    split <;> trivial
  | findCases s p =>
    refine .inl ⟨rfl, .inl ?_⟩
    simp only [step, casesFound]
    split <;> trivial
  | giveUp s detail => exact .inr ⟨_, rfl, .inl rfl⟩
  | mark s p cases =>
    refine .inr ⟨_, rfl, .inr ⟨rfl, ?_⟩⟩
    simp only [step, faultless.saves.save]
    rcases begin_cases setup (s.markRunning site.now) p cases with ⟨plan, progress, run⟩ | crashed
    · rw [run]
      exact .inl trivial
    · rw [crashed]
      exact .inr rfl
  | _ => contradiction

/-- A job that runs goes on, crashes, or leaves a verdict. -/
theorem step_late (setup : Setup) (id : Uuid) (site : Site) {j : Job} (late : j.IsLate) :
    let next := (j.step setup id site).2
    j.saves? site = none ∧ (next.IsLate ∨ next = .done .crashed) ∨
      ∃ d, j.saves? site = some d ∧ d.status.isTerminal = true := by
  cases j with
  | run s plan progress =>
    refine .inl ⟨rfl, .inl ?_⟩
    simp only [step]
    split <;> trivial
  | await s plan progress c reply =>
    refine .inl ⟨rfl, ?_⟩
    simp only [step]
    split
    · exact .inr rfl
    · exact .inl trivial
    · exact .inl trivial
  | save s e elapsedMs => exact .inr ⟨_, rfl, Verdict.aggregate_terminal e.results⟩
  | _ => contradiction

end Job

end Grader

import Grader.Proofs.Process
import Grader.Proofs.Server
import Grader.Proofs.Verdict

/-! The submissions that a server stores agree with themselves. What has a verdict shows the results
it was drawn from, and what waits for one shows nothing of a run. -/
namespace Grader

namespace Submission

structure Blank (s : Submission) : Prop where
  results : s.results = []
  tally : s.tally = .zero
  diagnostic : s.diagnostic = none

structure Consistent (s : Submission) : Prop where
  ended : s.status.isTerminal = true →
    s.status = Verdict.aggregate s.results ∧ s.tally = Verdict.summarize s.results
  due : s.status.isTerminal = false → s.Blank

theorem Blank.consistent {s : Submission} (blank : s.Blank) (due : s.status.isTerminal = false) :
    s.Consistent := by
  refine ⟨fun ended => ?_, fun _ => blank⟩
  rw [due] at ended
  contradiction

theorem new_consistent (id : Uuid) (userId problemId : String) (language : Language)
    (code : String) (now : Instant) : (new id userId problemId language code now).Consistent :=
  Blank.consistent ⟨rfl, rfl, rfl⟩ rfl

theorem Blank.markRunning_consistent {s : Submission} (blank : s.Blank) (now : Instant) :
    (s.markRunning now).Consistent :=
  Blank.consistent ⟨blank.results, blank.tally, blank.diagnostic⟩ rfl

/-- A verdict that is drawn from results by the rule ends a run, whatever they are. -/
theorem complete_consistent (s : Submission) {results : List CaseResult} {tally : Tally}
    (figures : tally = Verdict.summarize results) (diagnostic : Option String) (now : Instant) :
    (s.complete (Verdict.aggregate results) results tally diagnostic now).Consistent := by
  refine ⟨fun _ => ⟨rfl, figures⟩, fun due => ?_⟩
  have ended := Verdict.aggregate_terminal results
  rw [show Verdict.aggregate results = (s.complete (Verdict.aggregate results) results tally
    diagnostic now).status from rfl, due] at ended
  contradiction

/-- A failure has the verdict and the figures of a run without cases. -/
theorem fail_consistent (s : Submission) (detail : String) (now : Instant) :
    (s.fail detail now).Consistent :=
  complete_consistent s (show Tally.zero = Verdict.summarize [] from rfl) (some detail) now

theorem reset_consistent (s : Submission) (now : Instant) : (s.reset now).Consistent :=
  Blank.consistent ⟨rfl, rfl, rfl⟩ rfl

end Submission

namespace Site

def Consistent (s : Site) : Prop := ∀ id d, s.stored? id = some d → d.Consistent

theorem Consistent.of_store {a b : Site} (consistent : a.Consistent) (same : b.store = a.store) :
    b.Consistent := by
  intro id d found
  unfold stored? at found
  rw [same] at found
  exact consistent id d found

theorem Consistent.keep {s : Site} (consistent : s.Consistent) {d : Submission}
    (kept : d.Consistent) : (s.keep d).Consistent := by
  intro id e found
  rw [stored?_keep] at found
  split at found
  · obtain rfl := Option.some.inj found
    exact kept
  · exact consistent id e found

theorem Consistent.attempted {a b : Site} (consistent : a.Consistent) {d? : Option Submission}
    (saved : ∀ d ∈ d?, d.Consistent) (attempted : a.Attempted d? b) : b.Consistent := by
  rcases attempted with aside | ⟨_, aside⟩
  · refine Consistent.of_store ?_ aside.store
    cases d? with
    | none => exact consistent
    | some d => exact consistent.keep (saved d rfl)
  · exact consistent.of_store aside.store

theorem Consistent.loaded {s : Site} (consistent : s.Consistent) {id : Uuid} {d : Submission}
    (loaded : DocumentStore.submission? id s.store = .ok (some d)) : d.Consistent :=
  consistent id d (stored?_of_loaded loaded)

end Site

namespace Job

/-- What a job has at hand makes it save what is consistent. -/
def Consistent : Job → Prop
  | .findProblem s | .findCases s _ | .mark s _ _ => s.Blank
  | .save _ e _ => e.tally = Verdict.summarize e.results
  | _ => True

theorem saves?_consistent {j : Job} (consistent : j.Consistent) (site : Site) :
    ∀ d ∈ j.saves? site, d.Consistent := by
  intro d saved
  cases j with
  | giveUp s detail =>
    obtain rfl := Option.some.inj saved
    exact s.fail_consistent detail site.now
  | mark s p cases =>
    obtain rfl := Option.some.inj saved
    exact Submission.Blank.markRunning_consistent consistent site.now
  | save s e elapsedMs =>
    obtain rfl := Option.some.inj saved
    exact s.complete_consistent consistent e.diagnostic site.now
  | _ => contradiction

theorem step_consistent (setup : Setup) (id : Uuid) {site : Site} (stored : site.Consistent)
    {j : Job} (consistent : j.Consistent) : (j.step setup id site).2.Consistent := by
  cases j with
  | load =>
    simp only [step, loaded]
    split
    · trivial
    · trivial
    · rename_i s found
      split
      · trivial
      · rename_i due
        exact (stored.loaded found).due (Bool.eq_false_iff.mpr due)
  | findProblem s =>
    simp only [step, problemFound]
    split
    · trivial
    · trivial
    · exact consistent
  | findCases s p =>
    simp only [step, casesFound]
    split
    · trivial
    · trivial
    · exact consistent
  | giveUp s detail =>
    simp only [step, conclude]
    split <;> trivial
  | mark s p cases =>
    simp only [step]
    split
    · trivial
    · unfold begin
      split <;> trivial
  | run s plan progress =>
    simp only [step]
    split
    · rfl
    · trivial
  | await s plan progress c reply =>
    simp only [step]
    split <;> trivial
  | save s e elapsedMs =>
    simp only [step, conclude]
    split <;> trivial
  | done outcome => trivial

end Job

theorem repeat_preserves {P : α → Prop} {f : α → α} (step : ∀ a, P a → P (f a)) (n : Nat) {a : α}
    (start : P a) : P (Nat.repeat f n a) := by
  induction n with
  | zero => exact start
  | succ n ih => exact step _ ih

namespace Api

namespace Intake

def Consistent : Intake → Prop
  | .findProblem s | .store s => s.Consistent
  | _ => True

theorem step_consistent {site : Site} {i : Intake} (consistent : site.Consistent ∧ i.Consistent) :
    (i.step site).1.Consistent ∧ (i.step site).2.Consistent := by
  obtain ⟨stored, own⟩ := consistent
  refine ⟨stored.attempted (fun d saved => ?_) (i.step_attempted site), ?_⟩
  · cases i with
    | store s =>
      obtain rfl := Option.some.inj saved
      exact own
    | withdraw s error =>
      obtain rfl := Option.some.inj saved
      exact s.fail_consistent _ site.now
    | _ => contradiction
  · cases i with
    | findProblem s =>
      simp only [step]
      split
      · trivial
      · trivial
      · exact own
    | store s | offer s | withdraw s error =>
      simp only [step]
      split <;> trivial
    | done result => trivial

theorem finish_consistent {site : Site} {i : Intake} (stored : site.Consistent)
    (own : i.Consistent) : (finish site i).1.Consistent := by
  have both : (finish site i).1.Consistent ∧ (finish site i).2.Consistent :=
    repeat_preserves (fun (p : Site × Intake) consistent => step_consistent consistent) 4
      ⟨stored, own⟩
  exact both.1

end Intake

namespace Requeue

def Consistent : Requeue → Prop
  | .reset failed | .offer failed _ | .restore failed _ => failed.Consistent
  | _ => True

theorem step_consistent {site : Site} {q : Requeue}
    (consistent : site.Consistent ∧ q.Consistent) :
    (q.step site).1.Consistent ∧ (q.step site).2.Consistent := by
  obtain ⟨stored, own⟩ := consistent
  refine ⟨stored.attempted (fun d saved => ?_) (q.step_attempted site), ?_⟩
  · cases q with
    | reset failed =>
      obtain rfl := Option.some.inj saved
      exact failed.reset_consistent site.now
    | restore failed rejection =>
      obtain rfl := Option.some.inj saved
      exact own
    | _ => contradiction
  · cases q with
    | load id =>
      simp only [step]
      split
      · trivial
      · trivial
      · rename_i s found
        split
        · exact stored.loaded found
        · trivial
    | reset failed =>
      simp only [step]
      split
      · trivial
      · exact own
    | offer failed current =>
      simp only [step]
      split
      · trivial
      · exact own
      · exact own
    | restore failed rejection =>
      simp only [step]
      split <;> trivial
    | done result => trivial

theorem finish_consistent {site : Site} {q : Requeue} (stored : site.Consistent)
    (own : q.Consistent) : (finish site q).1.Consistent := by
  have both : (finish site q).1.Consistent ∧ (finish site q).2.Consistent :=
    repeat_preserves (fun (p : Site × Requeue) consistent => step_consistent consistent) 4
      ⟨stored, own⟩
  exact both.1

end Requeue

theorem along_consistent (fresh : Uuid) :
    Along fresh fun a b : Site => a.Consistent → b.Consistent where
  refl _ := id
  trans first next := next ∘ first
  recounted := by
    rintro a _ ⟨records, metrics, guests, rfl⟩ consistent
    exact consistent
  intake site userId problemId language code consistent :=
    Intake.finish_consistent consistent (Submission.new_consistent ..)
  requeue site id consistent := Requeue.finish_consistent consistent trivial

end Api

namespace Server

structure Consistent (s : Server) : Prop where
  site : s.site.Consistent
  jobs : ∀ i id job, s.worker? i = some (.busy id job) → job.Consistent

theorem withWorkers_consistent {site : Site} (consistent : site.Consistent) (count : Nat) :
    (withWorkers site count).Consistent := by
  refine ⟨consistent, fun i id job busy => ?_⟩
  obtain ⟨_, same⟩ := List.getElem?_eq_some_iff.mp busy
  simp [withWorkers] at same

theorem Consistent.set {s t : Server} (consistent : s.Consistent) (stored : t.site.Consistent)
    {i : Nat} {w : Worker} (set : t.workers = s.workers.set i w)
    (own : ∀ id job, w = .busy id job → job.Consistent) : t.Consistent := by
  refine ⟨stored, fun k id job busy => ?_⟩
  rcases worker?_of_set set busy with ⟨_, same⟩ | ⟨_, before⟩
  · exact own id job same.symm
  · exact consistent.jobs k id job before

theorem Acts.consistent {setup : Setup} {s t : Server} (acts : Acts setup s t)
    (consistent : s.Consistent) : t.Consistent := by
  cases acts with
  | take i id rest idle waits =>
    refine consistent.set consistent.site rfl fun _ job same => ?_
    cases same
    trivial
  | work i id job busy going =>
    have own := consistent.jobs i id job busy
    have stored : (job.step setup id s.site).1.Consistent :=
      consistent.site.attempted (Job.saves?_consistent own s.site)
        (job.step_attempted setup id s.site)
    refine consistent.set stored rfl fun _ next same => ?_
    cases same
    exact Job.step_consistent setup id consistent.site own
  | release i id outcome busy =>
    exact consistent.set consistent.site rfl fun _ _ same => nomatch same
  | stop i idle => exact consistent.set consistent.site rfl fun _ _ same => nomatch same

theorem advance_consistent (setup : Setup) {s : Server} (consistent : s.Consistent)
    (event : Event) : (s.advance setup event).Consistent := by
  cases event with
  | act a =>
    show ((s.act? setup a).getD s).Consistent
    cases acted : s.act? setup a with
    | none => exact consistent
    | some t => exact (act?_acts acted).consistent consistent
  | request fresh r =>
    exact ⟨Api.answer_along (Api.along_consistent fresh) setup.config r s.site consistent.site,
      consistent.jobs⟩
  | unit u =>
    exact ⟨consistent.site.of_store (s.site.aside_runUnit setup.engine u).store, consistent.jobs⟩
  | surroundings x => exact ⟨consistent.site, consistent.jobs⟩
  | close => exact ⟨consistent.site, consistent.jobs⟩

theorem execute_consistent (setup : Setup) (schedule : List Event) {s : Server}
    (consistent : s.Consistent) : (execute setup schedule s).Consistent := by
  induction schedule generalizing s with
  | nil => exact consistent
  | cons event schedule ih => exact ih (advance_consistent setup consistent event)

/-- Whatever fails and whoever comes in between, the submissions that are stored agree with
themselves if they did so at first. -/
theorem execute_withWorkers_consistent (setup : Setup) {site : Site}
    (consistent : site.Consistent) (workers : Nat) (schedule : List Event) :
    (execute setup schedule (.withWorkers site workers)).site.Consistent :=
  (execute_consistent setup schedule (withWorkers_consistent consistent workers)).site

end Server

namespace Echo

theorem site_consistent : site.Consistent := by
  intro id d found
  have held : ((Table.empty : Table Uuid Submission).put submission.id submission).get? id = some d :=
    found
  rw [Table.get?_put] at held
  split at held
  · obtain rfl := Option.some.inj held
    exact Submission.new_consistent ..
  · contradiction

theorem execute_requested_consistent :
    site.Consistent ∧
      (Server.execute setup
        [.request (.ofNat 8) ⟨"POST", "/admin/submissions/x/requeue", [("x-user-id", "ada")], "", none⟩,
          .act (.take 0), .act (.work 0), .close]
        (.withWorkers site 2)).site.Consistent :=
  ⟨site_consistent, Server.execute_withWorkers_consistent setup site_consistent 2 _⟩

end Echo

end Grader

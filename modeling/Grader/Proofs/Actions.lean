import Grader.Grading.Process
import Grader.Proofs.Evaluation
import Grader.Proofs.JobStep

/-! What a job does, one action after another: the saves that it tries, of which the store may refuse
some, and its calls. Apart from these a job changes nothing but counts. Its calls are those of the
evaluation. -/
namespace Grader

/-- The store has a problem for a submission, and cases of it to run. -/
structure Site.Context (site : Site) (s : Submission) (p : Problem) (cases : List TestCase) :
    Prop where
  found : DocumentStore.problem? s.problemId site.store = .ok (some p)
  listed : DocumentStore.cases s.problemId site.store = .ok cases
  nonempty : cases ≠ []

namespace Job

variable (setup : Setup) (id : Uuid)

theorem finish_done (site : Site) (outcome : Outcome) :
    (done outcome).finish setup id site = (site, outcome) := by
  rw [finish]
  split
  · rename_i o same
    obtain rfl := Option.some.inj same
    rfl
  · contradiction

theorem finish_step (site : Site) {j : Job} (going : j.outcome? = none) :
    j.finish setup id site = (j.step setup id site).2.finish setup id (j.step setup id site).1 := by
  rw [finish]
  split
  · rename_i o ended
    rw [going] at ended
    contradiction
  · rfl

/-- The job goes from one point to another by steps that save nothing. -/
inductive Leads : Site × Job → Site × Job → Prop where
  | refl (p : Site × Job) : Leads p p
  | step {site : Site} {j : Job} {q : Site × Job} (going : j.outcome? = none)
      (silent : j.saves? site = none) (rest : Leads (j.step setup id site) q) : Leads (site, j) q

theorem Leads.finish_eq {p q : Site × Job} (leads : Leads setup id p q) :
    p.2.finish setup id p.1 = q.2.finish setup id q.1 := by
  induction leads with
  | refl p => rfl
  | step going _ _ ih => exact (finish_step setup id _ going).trans ih

/-- The steps of a run make the calls of an evaluation and come to its end. -/
theorem run_leads (s : Submission) (plan : Plan) (p : Progress) (site : Site) :
    ∃ metrics elapsedMs, Leads setup id (site, run s plan p)
      ({ site with calls := (p.run plan setup.engine site.calls).2, metrics },
        match (p.run plan setup.engine site.calls).1 with
        | some e => save s e elapsedMs
        | none => done .crashed) := by
  obtain ⟨pending, elapsedMs, results, diagnostics⟩ := p
  induction pending generalizing elapsedMs results diagnostics site with
  | nil =>
    refine ⟨site.metrics, elapsedMs, .step rfl rfl ?_⟩
    rw [Progress.run_of_next?_none rfl]
    exact .refl _
  | cons c cs ih =>
    by_cases late : plan.budgetMs.toNat ≤ elapsedMs
    · have next : Progress.next? plan ⟨c :: cs, elapsedMs, results, diagnostics⟩ = none := by
        simp [Progress.next?, Progress.exhausted, late]
      refine ⟨site.metrics, elapsedMs, .step rfl rfl ?_⟩
      rw [Progress.run_of_next?_none next]
      simp only [step, next]
      exact .refl _
    · have next : Progress.next? plan ⟨c :: cs, elapsedMs, results, diagnostics⟩ =
          some (c, ⟨cs, elapsedMs, results, diagnostics⟩) := by
        simp [Progress.next?, Progress.exhausted, late]
      have ended {q : Site × Job}
          (rest : Leads setup id ((await s plan ⟨cs, elapsedMs, results, diagnostics⟩ c
            (setup.engine site.calls (plan.unitFor c.input))).step setup id
              { site with calls := site.calls ++ [plan.unitFor c.input] }) q) :
          Leads setup id (site, run s plan ⟨c :: cs, elapsedMs, results, diagnostics⟩) q := by
        refine .step rfl rfl ?_
        simp only [step, next, Site.call]
        exact .step rfl rfl rest
      rw [Progress.run_of_next?_some next]
      simp only [step] at ended
      cases result : (setup.engine site.calls (plan.unitFor c.input)).result with
      | crashed =>
        simp only [result] at ended ⊢
        exact ⟨site.metrics, elapsedMs, ended (.refl _)⟩
      | answered output =>
        simp only [result] at ended ⊢
        obtain ⟨metrics, total, rest⟩ := ih _ _ _ _
        exact ⟨metrics, total, ended rest⟩
      | failed e =>
        simp only [result] at ended ⊢
        obtain ⟨metrics, total, rest⟩ := ih _ _ _ _
        exact ⟨metrics, total, ended rest⟩

theorem load_leads {site : Site} {s : Submission} (due : s.status.isTerminal = false)
    (loaded : DocumentStore.submission? id site.store = .ok (some s)) :
    Leads setup id (site, load) (site, findProblem s) := by
  refine .step rfl rfl ?_
  simp only [step, Job.loaded, loaded]
  rw [if_neg (by rw [due]; decide)]
  exact .refl _

theorem findProblem_leads_of_context {site : Site} {s : Submission} {p : Problem}
    {cases : List TestCase} (context : site.Context s p cases) :
    Leads setup id (site, findProblem s) (site, mark s p cases) := by
  refine .step rfl rfl ?_
  simp only [step, problemFound, context.found]
  refine .step rfl rfl ?_
  simp only [step, context.listed]
  unfold casesFound
  split
  · contradiction
  · rename_i empty
    exact absurd (Except.ok.inj empty) context.nonempty
  · rename_i listed
    rw [Except.ok.inj listed]
    exact .refl _

/-- Without a problem and cases the work is given up. -/
theorem findProblem_leads_without_context {site : Site} {s : Submission}
    (missing : ∀ p cases, ¬site.Context s p cases) :
    ∃ detail, Leads setup id (site, findProblem s) (site, giveUp s detail) := by
  have found {detail : String}
      (rest : Leads setup id ((findProblem s).step setup id site) (site, giveUp s detail)) :
      Leads setup id (site, findProblem s) (site, giveUp s detail) := .step rfl rfl rest
  simp only [step] at found
  cases problem : DocumentStore.problem? s.problemId site.store with
  | error e =>
    rw [problem] at found
    exact ⟨_, found (.refl _)⟩
  | ok result =>
    rw [problem] at found
    cases result with
    | none => exact ⟨_, found (.refl _)⟩
    | some p =>
      have searched {detail : String}
          (rest : Leads setup id ((findCases s p).step setup id site) (site, giveUp s detail)) :
          Leads setup id (site, findProblem s) (site, giveUp s detail) :=
        found (.step rfl rfl rest)
      simp only [step] at searched
      cases listed : DocumentStore.cases s.problemId site.store with
      | error e =>
        rw [listed] at searched
        exact ⟨_, searched (.refl _)⟩
      | ok cases =>
        by_cases empty : cases = []
        · rw [listed, empty] at searched
          exact ⟨_, searched (.refl _)⟩
        · exact absurd ⟨problem, listed, empty⟩ (missing p cases)

end Job

inductive Job.Action where
  | save (d : Submission)
  | call (u : ExecutionUnit)
  deriving DecidableEq, Repr

namespace Site

def accepts (s : Site) (d : Submission) : Bool := (s.store.fault? (.saveSubmission d.status)).isNone

def conclusion (s : Site) (status : Status) : Outcome :=
  match s.store.fault? (.saveSubmission status) with
  | none => .completed status
  | some e => .storeFailed e

/-- The site after an action. A save that is refused changes nothing. -/
def act (s : Site) : Job.Action → Site
  | .save d => if s.accepts d then s.keep d else s
  | .call u => { s with calls := s.calls ++ [u] }

def acts (s : Site) (actions : List Job.Action) : Site := actions.foldl act s

@[simp] theorem acts_nil (s : Site) : s.acts [] = s := rfl

@[simp] theorem acts_cons (s : Site) (a : Job.Action) (as : List Job.Action) :
    s.acts (a :: as) = (s.act a).acts as := rfl

theorem acts_append (s : Site) (before after : List Job.Action) :
    s.acts (before ++ after) = (s.acts before).acts after := List.foldl_append ..

theorem accepts_iff (s : Site) (d : Submission) :
    s.accepts d = true ↔ s.store.fault? (.saveSubmission d.status) = none := by
  unfold accepts
  rw [Option.isNone_iff_eq_none]

theorem saveSubmission_of_accepts {s : Site} {d : Submission} (accepted : s.accepts d = true) :
    s.saveSubmission d = .ok (s.keep d) := saveSubmission_of_free ((s.accepts_iff d).mp accepted)

theorem conclusion_of_accepts {s : Site} {d : Submission} (accepted : s.accepts d = true) :
    s.conclusion d.status = .completed d.status := by
  unfold conclusion
  rw [(s.accepts_iff d).mp accepted]

theorem conclusion_of_fault {s : Site} {status : Status} {e : StoreError}
    (fault : s.store.fault? (.saveSubmission status) = some e) :
    s.conclusion status = .storeFailed e := by
  unfold conclusion
  rw [fault]

theorem conclusion_settles (s : Site) (status : Status) :
    ¬(s.conclusion status = .missing ∨ ∃ other, s.conclusion status = .skipped other) := by
  unfold conclusion
  cases s.store.fault? (.saveSubmission status) <;> simp

theorem not_accepts_of_fault {s : Site} {d : Submission} {e : StoreError}
    (fault : s.store.fault? (.saveSubmission d.status) = some e) : ¬s.accepts d = true := by
  rw [accepts_iff, fault]
  nofun

theorem accepts_or_fault (s : Site) (d : Submission) :
    s.accepts d = true ∨ ∃ e, s.store.fault? (.saveSubmission d.status) = some e := by
  unfold accepts
  cases s.store.fault? (.saveSubmission d.status) with
  | none => exact .inl rfl
  | some e => exact .inr ⟨e, rfl⟩

theorem act_save_of_accepts {s : Site} {d : Submission} (accepted : s.accepts d = true) :
    s.act (.save d) = s.keep d := if_pos accepted

theorem act_save_of_fault {s : Site} {d : Submission} {e : StoreError}
    (fault : s.store.fault? (.saveSubmission d.status) = some e) : s.act (.save d) = s :=
  if_neg (not_accepts_of_fault fault)

theorem act_recounted (s : Site) (metrics : Metrics) (a : Job.Action) :
    { s with metrics }.act a = { s.act a with metrics } := by
  cases a with
  | call u => rfl
  | save d =>
    have same : { s with metrics }.accepts d = s.accepts d := rfl
    simp only [act, same]
    split <;> rfl

theorem acts_recounted (s : Site) (metrics : Metrics) (actions : List Job.Action) :
    { s with metrics }.acts actions = { s.acts actions with metrics } := by
  induction actions generalizing s with
  | nil => rfl
  | cons a as ih => rw [acts_cons, act_recounted, ih, acts_cons]

theorem acts_call (s : Site) (made : List ExecutionUnit) :
    s.acts (made.map .call) = { s with calls := s.calls ++ made } := by
  induction made generalizing s with
  | nil => rw [List.append_nil, List.map_nil, acts_nil]
  | cons u us ih =>
    rw [List.map_cons, acts_cons, ih]
    simp only [act, List.append_assoc, List.singleton_append]

theorem acts_evaluated {s : Site} {marked d : Submission} (noted : s.accepts marked = true)
    (taken : s.accepts d = true) (made : List ExecutionUnit) :
    s.acts (.save marked :: made.map .call ++ [.save d]) =
      { (s.keep marked).keep d with calls := s.calls ++ made } := by
  have later : { s.keep marked with calls := s.calls ++ made }.accepts d = true := taken
  rw [List.cons_append, acts_cons, act_save_of_accepts noted, acts_append, acts_call, acts_cons,
    calls_keep, act_save_of_accepts later, acts_nil]
  rfl

end Site

namespace Job

variable (setup : Setup) (id : Uuid)

def action? (site : Site) : Job → Option Action
  | .run _ plan progress => (progress.next? plan).map fun next => .call (plan.unitFor next.1.input)
  | j => (j.saves? site).map .save

def actions (site : Site) (j : Job) : List Action :=
  match h : j.outcome? with
  | some _ => []
  | none =>
    have := step_rank setup id site j h
    (j.action? site).toList ++ (j.step setup id site).2.actions (j.step setup id site).1
termination_by j.rank
decreasing_by exact this

theorem actions_done (site : Site) (outcome : Outcome) :
    (done outcome).actions setup id site = [] := by
  rw [actions]
  split
  · rfl
  · contradiction

theorem actions_step (site : Site) {j : Job} (going : j.outcome? = none) :
    j.actions setup id site = (j.action? site).toList ++
      (j.step setup id site).2.actions setup id (j.step setup id site).1 := by
  rw [actions]
  split
  · rename_i o ended
    rw [going] at ended
    contradiction
  · rfl

theorem conclude_of_accepts {site : Site} {d : Submission} (accepted : site.accepts d = true)
    (elapsedMs : Nat) :
    ∃ metrics, conclude d elapsedMs site =
      ({ site.keep d with metrics }, .done (.completed d.status)) := by
  unfold conclude
  rw [Site.saveSubmission_of_accepts accepted]
  exact ⟨_, rfl⟩

theorem conclude_of_fault {site : Site} {d : Submission} {e : StoreError}
    (fault : site.store.fault? (.saveSubmission d.status) = some e) (elapsedMs : Nat) :
    conclude d elapsedMs site = (site, .done (.storeFailed e)) := by
  unfold conclude
  rw [Site.saveSubmission_of_fault fault]

theorem conclude_act (d : Submission) (elapsedMs : Nat) (site : Site) :
    ∃ metrics, (conclude d elapsedMs site).1 = { site.act (.save d) with metrics } := by
  rcases site.accepts_or_fault d with accepted | ⟨e, fault⟩
  · obtain ⟨metrics, kept⟩ := conclude_of_accepts accepted elapsedMs
    rw [kept, Site.act_save_of_accepts accepted]
    exact ⟨metrics, rfl⟩
  · rw [conclude_of_fault fault, Site.act_save_of_fault fault]
    exact ⟨site.metrics, rfl⟩

/-- A step takes its action, and changes counts beyond it. -/
theorem step_acts (site : Site) (j : Job) :
    ∃ metrics, (j.step setup id site).1 =
      { site.acts (j.action? site).toList with metrics } := by
  cases j with
  | load | findProblem | findCases | done => exact ⟨site.metrics, rfl⟩
  | giveUp s detail => exact conclude_act ..
  | save s e elapsedMs => exact conclude_act ..
  | mark s p cases =>
    have acted : ((mark s p cases).step setup id site).1 =
        site.act (.save (s.markRunning site.now)) := by
      simp only [step]
      rcases site.accepts_or_fault (s.markRunning site.now) with accepted | ⟨e, fault⟩
      · rw [Site.saveSubmission_of_accepts accepted, Site.act_save_of_accepts accepted]
      · rw [Site.saveSubmission_of_fault fault, Site.act_save_of_fault fault]
    exact ⟨_, acted⟩
  | run s plan progress =>
    refine ⟨site.metrics, ?_⟩
    simp only [step, action?]
    cases progress.next? plan <;> rfl
  | await s plan progress c reply =>
    simp only [step]
    split
    · exact ⟨site.metrics, rfl⟩
    · exact ⟨site.metrics, rfl⟩
    · exact ⟨_, rfl⟩

/-- A job changes a site by its actions, and by counts. -/
theorem finish_acts (site : Site) (j : Job) :
    ∃ metrics, (j.finish setup id site).1 =
      { site.acts (j.actions setup id site) with metrics } := by
  induction site, j using finish.induct setup id with
  | case1 site j outcome ended =>
    obtain ⟨o, rfl⟩ : ∃ o, j = .done o := by
      cases j with
      | done o => exact ⟨o, rfl⟩
      | _ => contradiction
    rw [finish_done, actions_done]
    exact ⟨site.metrics, rfl⟩
  | case2 site j going _ ih =>
    -- The counts that the first step has changed do not touch what the others do.
    obtain ⟨metrics, stepped⟩ := step_acts setup id site j
    obtain ⟨last, ended⟩ := ih
    rw [finish_step setup id site going, actions_step setup id site going, Site.acts_append, ended]
    refine ⟨last, ?_⟩
    generalize (j.step setup id site).2.actions setup id (j.step setup id site).1 = rest
    rw [stepped, Site.acts_recounted]

theorem action?_of_silent {site : Site} {j : Job} (silent : j.saves? site = none) :
    j.action? site = none ∨ ∃ u, j.action? site = some (.call u) := by
  cases j with
  | load | findProblem | findCases | await | done => exact .inl rfl
  | giveUp | mark | save => contradiction
  | run s plan progress =>
    simp only [action?]
    cases progress.next? plan with
    | none => exact .inl rfl
    | some next => exact .inr ⟨_, rfl⟩

variable {setup id}

/-- What a job does on its way to a point where it has saved nothing are its calls. -/
theorem Leads.actions_eq {p q : Site × Job} (leads : Leads setup id p q) :
    ∃ made, q.1.calls = p.1.calls ++ made ∧
      p.2.actions setup id p.1 = made.map Action.call ++ q.2.actions setup id q.1 := by
  induction leads with
  | refl p => exact ⟨[], (List.append_nil _).symm, rfl⟩
  | @step site j q going silent rest ih =>
    obtain ⟨made, called, done⟩ := ih
    obtain ⟨metrics, stepped⟩ := step_acts setup id site j
    rw [actions_step setup id site going, done]
    rcases action?_of_silent silent with action | ⟨u, action⟩
    · rw [action] at stepped ⊢
      refine ⟨made, ?_, rfl⟩
      rw [called, stepped]
      rfl
    · rw [action] at stepped ⊢
      refine ⟨u :: made, ?_, rfl⟩
      rw [called, stepped]
      exact List.append_assoc ..

theorem Leads.actions_same {p q : Site × Job} (leads : Leads setup id p q)
    (same : q.1.calls = p.1.calls) :
    p.2.actions setup id p.1 = q.2.actions setup id q.1 := by
  obtain ⟨made, called, done⟩ := leads.actions_eq
  obtain rfl := List.self_eq_append_right.mp (same.symm.trans called)
  exact done

end Job

end Grader

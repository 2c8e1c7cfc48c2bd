import Grader.Proofs.Process
import Grader.Proofs.Server

/-! The detail of failures on our side, which is for operators. Without it, the work on a submission
goes the same way whatever the detail is. -/
namespace Grader

theorem Except.map_eq_map_cases {f : α → β} {x y : Except ε α} (same : x.map f = y.map f) :
    (∃ e, x = .error e ∧ y = .error e) ∨ ∃ a b, x = .ok a ∧ y = .ok b ∧ f a = f b := by
  cases x <;> cases y <;> simp_all [Except.map]

theorem Except.mapError_eq_mapError_cases {f : ε → τ} {x y : Except ε α}
    (same : x.mapError f = y.mapError f) :
    (∃ d e, x = .error d ∧ y = .error e ∧ f d = f e) ∨ ∃ a, x = .ok a ∧ y = .ok a := by
  cases x <;> cases y
  · exact .inl ⟨_, _, rfl, rfl, Except.error.inj same⟩
  · contradiction
  · contradiction
  · obtain rfl := Except.ok.inj same
    exact .inr ⟨_, rfl, rfl⟩

theorem Option.map_eq_map_cases {f : α → β} {x y : Option α} (same : x.map f = y.map f) :
    (x = none ∧ y = none) ∨ ∃ a b, x = some a ∧ y = some b ∧ f a = f b := by
  cases x <;> cases y <;> simp_all

/-- Which error of ours it was, and what is said about it, left out. -/
def EngineError.withoutDetail : EngineError → EngineError
  | .unsupportedLanguage l => .unsupportedLanguage l
  | .unavailable .. | .malformedResponse .. => .unavailable .python ""

def CallEnd.withoutDetail : CallEnd → CallEnd
  | .answered output => .answered output
  | .failed e => .failed e.withoutDetail
  | .crashed => .crashed

def Reply.withoutDetail (r : Reply) : Reply := { r with result := r.result.withoutDetail }

def Engine.withoutDetail (engine : Engine) : Engine := fun calls u => (engine calls u).withoutDetail

def Setup.withoutDetail (s : Setup) : Setup := { s with engine := s.engine.withoutDetail }

@[simp] theorem Reply.withoutDetail_twice (r : Reply) :
    r.withoutDetail.withoutDetail = r.withoutDetail := by
  obtain ⟨delayMs, _ | e | _⟩ := r
  · rfl
  · cases e <;> rfl
  · rfl

@[simp] theorem Setup.withoutDetail_twice (s : Setup) :
    s.withoutDetail.withoutDetail = s.withoutDetail := by
  have engine : s.engine.withoutDetail.withoutDetail = s.engine.withoutDetail :=
    funext fun calls => funext fun u => (s.engine calls u).withoutDetail_twice
  simp [withoutDetail, engine]

theorem CallEnd.withoutDetail_cases {c d : CallEnd} (same : c.withoutDetail = d.withoutDetail) :
    c = d ∨ ∃ e f, c = .failed e ∧ d = .failed f := by
  cases c <;> cases d <;> simp_all [withoutDetail]

/-- The submitter is told no more than that something went wrong. -/
@[simp] theorem CaseResult.errorMessage_withoutDetail (e : EngineError) :
    errorMessage e.withoutDetail = errorMessage e := by
  cases e <;> rfl

def Table.map (f : α → β) (t : Table κ α) : Table κ β := ⟨t.entries.map fun e => (e.1, f e.2)⟩

section Tables

variable [BEq κ] (f : α → β)

theorem Table.get?_map (t : Table κ α) (key : κ) : (t.map f).get? key = (t.get? key).map f := by
  have found (es : List (κ × α)) :
      (es.map fun e => (e.1, f e.2)).lookup key = (es.lookup key).map f := by
    induction es with
    | nil => rfl
    | cons e es ih =>
      obtain ⟨k, a⟩ := e
      simp only [List.map_cons, List.lookup_cons]
      cases key == k <;> simp [ih]
  exact found t.entries

theorem Table.map_put (t : Table κ α) (key : κ) (a : α) :
    (t.put key a).map f = (t.map f).put key (f a) := by
  have entry (es : List (κ × α)) : (putEntry key a es).map (fun e => (e.1, f e.2)) =
      putEntry key (f a) (es.map fun e => (e.1, f e.2)) := by
    induction es with
    | nil => rfl
    | cons e es ih =>
      simp only [putEntry, List.map_cons]
      split
      · rfl
      · rw [List.map_cons, ih]
  simp only [put, map, entry]

end Tables

/-- What a problem or its cases could not be read for, left out. -/
def MemoryStore.withoutDetail (s : MemoryStore) : MemoryStore :=
  { s with
    submissions := s.submissions.map Submission.withoutDiagnostic
    fault? := fun
      | .findProblem => (s.fault? .findProblem).map fun _ => .server ""
      | .findCases => (s.fault? .findCases).map fun _ => .server ""
      | o => s.fault? o }

/-- Metrics are for operators too. -/
def Site.withoutDetail (s : Site) : Site :=
  { s with store := s.store.withoutDetail, metrics := .zero }

namespace MemoryStore

variable (s : MemoryStore)

@[simp] theorem withoutDetail_twice : s.withoutDetail.withoutDetail = s.withoutDetail := by
  obtain ⟨⟨submissions⟩, problems, cases, records, journal, fault?⟩ := s
  simp only [withoutDetail, mk.injEq, true_and]
  constructor
  · simp [Table.map, Submission.withoutDiagnostic]
  · funext o
    cases o <;> simp [Function.comp_def]

theorem submission?_withoutDetail (id : Uuid) :
    DocumentStore.submission? id s.withoutDetail =
      (DocumentStore.submission? id s).map (Option.map Submission.withoutDiagnostic) := by
  simp only [DocumentStore.submission?, answer, withoutDetail, Table.get?_map]
  split <;> rfl

theorem saveSubmission_withoutDetail (d : Submission) :
    DocumentStore.saveSubmission d.withoutDiagnostic s.withoutDetail =
      (DocumentStore.saveSubmission d s).map withoutDetail := by
  cases fault : s.fault? (.saveSubmission d.status) with
  | some e => simp [DocumentStore.saveSubmission, answer, withoutDetail, fault, Except.map,
      Submission.withoutDiagnostic]
  | none => simp [DocumentStore.saveSubmission, answer, withoutDetail, fault, Except.map,
      Submission.withoutDiagnostic, Table.map_put]

theorem problem?_withoutDetail (id : String) :
    DocumentStore.problem? id s.withoutDetail =
      (DocumentStore.problem? id s).mapError fun _ => .server "" := by
  simp only [DocumentStore.problem?, answer, withoutDetail]
  cases s.fault? .findProblem <;> rfl

theorem cases_withoutDetail (id : String) :
    DocumentStore.cases id s.withoutDetail =
      (DocumentStore.cases id s).mapError fun _ => .server "" := by
  simp only [DocumentStore.cases, answer, withoutDetail]
  cases s.fault? .findCases <;> rfl

end MemoryStore

namespace Site

variable {s : Site}

@[simp] theorem withoutDetail_twice (s : Site) :
    s.withoutDetail.withoutDetail = s.withoutDetail := by
  simp [withoutDetail]

theorem saveSubmission_withoutDetail (s : Site) (d : Submission) :
    s.withoutDetail.saveSubmission d.withoutDiagnostic =
      (s.saveSubmission d).map withoutDetail := by
  simp only [saveSubmission, withoutDetail, MemoryStore.saveSubmission_withoutDetail]
  cases DocumentStore.saveSubmission d s.store <;> rfl

theorem withStore_alike {x y : Site} {s t : MemoryStore}
    (sites : x.withoutDetail = y.withoutDetail) (stores : s.withoutDetail = t.withoutDetail) :
    ({ x with store := s } : Site).withoutDetail = ({ y with store := t } : Site).withoutDetail :=
  (congrArg (fun z : Site => ({ z with store := s.withoutDetail } : Site)) sites).trans
    (congrArg (fun store => ({ y.withoutDetail with store } : Site)) stores)

/-- The same save of two sites fails in both, or leaves them alike. -/
theorem saveSubmission_alike {s t : Submission} {x y : Site}
    (same : s.withoutDiagnostic = t.withoutDiagnostic) (sites : x.withoutDetail = y.withoutDetail) :
    (∃ e, x.saveSubmission s = .error e ∧ y.saveSubmission t = .error e) ∨
      ∃ x' y', x.saveSubmission s = .ok x' ∧ y.saveSubmission t = .ok y' ∧
        x'.withoutDetail = y'.withoutDetail := by
  have saved : (x.saveSubmission s).map withoutDetail = (y.saveSubmission t).map withoutDetail := by
    rw [← saveSubmission_withoutDetail, same, sites, saveSubmission_withoutDetail]
  exact Except.map_eq_map_cases saved

end Site

/-- An evaluation as its submitter may see it. -/
def Evaluation.withoutDetail (e : Evaluation) : Evaluation := { e with diagnostics := [] }

def Progress.withoutDetail (p : Progress) : Progress := { p with diagnostics := [] }

theorem Progress.next?_withoutDetail (p : Progress) (plan : Plan) :
    p.withoutDetail.next? plan = (p.next? plan).map fun q => (q.1, q.2.withoutDetail) := by
  obtain ⟨pending, elapsedMs, results, diagnostics⟩ := p
  cases pending with
  | nil => rfl
  | cons c cs =>
    by_cases late : plan.budgetMs.toNat ≤ elapsedMs <;>
      simp [next?, withoutDetail, exhausted, late]

theorem Progress.failed_withoutDetail (p : Progress) (c : TestCase) (e : EngineError) :
    (p.withoutDetail.failed c e.withoutDetail).withoutDetail = (p.failed c e).withoutDetail := by
  simp [failed, withoutDetail]

namespace Job

def withoutDetail : Job → Job
  | .load => .load
  | .findProblem s => .findProblem s.withoutDiagnostic
  | .findCases s p => .findCases s.withoutDiagnostic p
  | .giveUp s _ => .giveUp s.withoutDiagnostic ""
  | .mark s p cases => .mark s.withoutDiagnostic p cases
  | .run s plan progress => .run s.withoutDiagnostic plan progress.withoutDetail
  | .await s plan progress c reply =>
    .await s.withoutDiagnostic plan progress.withoutDetail c reply.withoutDetail
  | .save s evaluation elapsedMs => .save s.withoutDiagnostic evaluation.withoutDetail elapsedMs
  | .done outcome => .done outcome

@[simp] theorem withoutDetail_twice (j : Job) : j.withoutDetail.withoutDetail = j.withoutDetail := by
  cases j <;>
    simp [withoutDetail, Submission.withoutDiagnostic, Progress.withoutDetail,
      Evaluation.withoutDetail]

@[simp] theorem outcome?_withoutDetail (j : Job) : j.withoutDetail.outcome? = j.outcome? := by
  cases j <;> rfl

@[simp] theorem delayMs_withoutDetail (j : Job) : j.withoutDetail.delayMs = j.delayMs := by
  cases j <;> rfl

theorem loaded_withoutDetail (r : Except StoreError (Option Submission)) :
    (loaded (r.map (Option.map Submission.withoutDiagnostic))).withoutDetail =
      (loaded r).withoutDetail := by
  rcases r with e | _ | s
  · rfl
  · rfl
  · have status : s.withoutDiagnostic.status = s.status := rfl
    simp only [Except.map, Option.map, loaded, status]
    split <;> rfl

theorem problemFound_withoutDetail (s : Submission) (r : Except StoreError (Option Problem))
    (e : StoreError) : (problemFound s.withoutDiagnostic (r.mapError fun _ => e)).withoutDetail =
      (problemFound s r).withoutDetail := by
  rcases r with _ | _ | p <;> rfl

theorem casesFound_withoutDetail (s : Submission) (p : Problem)
    (r : Except StoreError (List TestCase)) (e : StoreError) :
    (casesFound s.withoutDiagnostic p (r.mapError fun _ => e)).withoutDetail =
      (casesFound s p r).withoutDetail := by
  rcases r with _ | _ | ⟨c, cs⟩ <;> rfl

theorem begin_withoutDetail (setup : Setup) (s : Submission) (p : Problem) (cases : List TestCase) :
    (begin setup.withoutDetail s.withoutDiagnostic p cases).withoutDetail =
      (begin setup s p cases).withoutDetail := by
  unfold begin
  cases p.memoryLimit <;> rfl

/-- What a step has made of a site and a job, without detail. -/
abbrev outline (p : Site × Job) : Site × Job := (p.1.withoutDetail, p.2.withoutDetail)

theorem outline_conclude {s t : Submission} {x y : Site}
    (same : s.withoutDiagnostic = t.withoutDiagnostic) (sites : x.withoutDetail = y.withoutDetail)
    (elapsedMs : Nat) : outline (conclude s elapsedMs x) = outline (conclude t elapsedMs y) := by
  have status : s.withoutDiagnostic.status = t.withoutDiagnostic.status := by rw [same]
  unfold conclude
  rcases Site.saveSubmission_alike same sites with
    ⟨e, first, second⟩ | ⟨x', y', first, second, after⟩
  · rw [first, second]
    exact Prod.ext sites rfl
  · rw [first, second]
    exact Prod.ext after (congrArg (fun status => done (.completed status)) status)

/-- The detail of failures does not change what a step does beside it. -/
theorem outline_step (setup : Setup) (id : Uuid) (site : Site) (j : Job) :
    outline (j.step setup id site) =
      outline (j.withoutDetail.step setup.withoutDetail id site.withoutDetail) := by
  cases j with
  | load =>
    have loads := loaded_withoutDetail (DocumentStore.submission? id site.store)
    rw [← site.store.submission?_withoutDetail] at loads
    exact Prod.ext site.withoutDetail_twice.symm loads.symm
  | findProblem s =>
    have finds := problemFound_withoutDetail s (DocumentStore.problem? s.problemId site.store)
      (.server "")
    rw [← site.store.problem?_withoutDetail] at finds
    exact Prod.ext site.withoutDetail_twice.symm finds.symm
  | findCases s p =>
    have finds := casesFound_withoutDetail s p (DocumentStore.cases s.problemId site.store)
      (.server "")
    rw [← site.store.cases_withoutDetail] at finds
    exact Prod.ext site.withoutDetail_twice.symm finds.symm
  | giveUp s detail =>
    exact outline_conclude (s := s.fail detail site.now)
      (t := s.withoutDiagnostic.fail "" site.now) rfl site.withoutDetail_twice.symm 0
  | mark s p cases =>
    have same : (s.markRunning site.now).withoutDiagnostic =
        (s.withoutDiagnostic.markRunning site.now).withoutDiagnostic := rfl
    have now : site.withoutDetail.now = site.now := rfl
    simp only [step, withoutDetail, now]
    rcases Site.saveSubmission_alike same site.withoutDetail_twice.symm with
      ⟨e, first, second⟩ | ⟨x, y, first, second, after⟩
    · rw [first, second]
      exact Prod.ext site.withoutDetail_twice.symm rfl
    · rw [first, second]
      exact Prod.ext after (begin_withoutDetail setup (s.markRunning site.now) p cases).symm
  | run s plan progress =>
    have next := progress.next?_withoutDetail plan
    simp only [step, withoutDetail, next]
    cases progress.next? plan with
    | none => exact Prod.ext site.withoutDetail_twice.symm rfl
    | some q =>
      obtain ⟨c, q⟩ := q
      have reply := (setup.engine site.calls (plan.unitFor c.input)).withoutDetail_twice
      refine Prod.ext (site.call setup.engine (plan.unitFor c.input)).2.withoutDetail_twice.symm ?_
      exact congrArg (await s.withoutDiagnostic plan q.withoutDetail c) reply.symm
  | await s plan progress c reply =>
    simp only [step, withoutDetail]
    cases result : reply.result with
    | crashed =>
      rw [Reply.withoutDetail, result]
      exact Prod.ext site.withoutDetail_twice.symm rfl
    | answered output =>
      rw [Reply.withoutDetail, result]
      exact Prod.ext site.withoutDetail_twice.symm rfl
    | failed e =>
      rw [Reply.withoutDetail, result]
      refine Prod.ext site.withoutDetail_twice.symm ?_
      exact congrArg (run s.withoutDiagnostic plan)
        ((progress.afterDelay reply.delayMs).failed_withoutDetail c e).symm
  | save s e elapsedMs =>
    exact outline_conclude (s := s.complete e.status e.results e.tally e.diagnostic site.now)
      (t := s.withoutDiagnostic.complete e.status e.results e.tally e.withoutDetail.diagnostic
        site.now) rfl site.withoutDetail_twice.symm elapsedMs
  | done outcome => simp [step, withoutDetail]

variable {a b : Setup} {x y : Site} {j k : Job}

theorem step_alike (setups : a.withoutDetail = b.withoutDetail)
    (sites : x.withoutDetail = y.withoutDetail) (jobs : j.withoutDetail = k.withoutDetail)
    (id : Uuid) : outline (j.step a id x) = outline (k.step b id y) := by
  rw [outline_step a, setups, sites, jobs, ← outline_step]

theorem outcome?_alike (jobs : j.withoutDetail = k.withoutDetail) : j.outcome? = k.outcome? := by
  rw [← outcome?_withoutDetail, jobs, outcome?_withoutDetail]

theorem finish_alike (setups : a.withoutDetail = b.withoutDetail)
    (sites : x.withoutDetail = y.withoutDetail) (jobs : j.withoutDetail = k.withoutDetail)
    (id : Uuid) :
    (j.finish a id x).1.withoutDetail = (k.finish b id y).1.withoutDetail ∧
      (j.finish a id x).2 = (k.finish b id y).2 := by
  induction x, j using Job.finish.induct a id generalizing y k with
  | case1 x j outcome ended =>
    obtain rfl := Server.outcome?_eq_some ended
    obtain rfl := Server.outcome?_eq_some ((outcome?_alike jobs).symm.trans ended)
    rw [finish_done, finish_done]
    exact ⟨sites, rfl⟩
  | case2 x j going lower ih =>
    have step := step_alike setups sites jobs id
    rw [finish_step a id x going, finish_step b id y ((outcome?_alike jobs).symm.trans going)]
    exact ih (congrArg Prod.fst step) (congrArg Prod.snd step)

theorem proceed_done (setup : Setup) (id : Uuid) (site : Site) (outcome : Outcome) :
    (done outcome).proceed setup id site = (site, done outcome) := by
  rw [proceed]
  split
  · rfl
  · contradiction

theorem proceed_step (setup : Setup) (id : Uuid) (site : Site) {j : Job}
    (going : j.outcome? = none) :
    j.proceed setup id site =
      let (after, next) := j.step setup id site
      if next.waits then (after, next) else next.proceed setup id after := by
  rw [proceed]
  split
  · rename_i ended
    rw [going] at ended
    contradiction
  · rfl

theorem delayMs_alike (jobs : j.withoutDetail = k.withoutDetail) : j.delayMs = k.delayMs := by
  rw [← delayMs_withoutDetail, jobs, delayMs_withoutDetail]

theorem waits_alike (jobs : j.withoutDetail = k.withoutDetail) : j.waits = k.waits := by
  unfold waits
  rw [delayMs_alike jobs]

theorem proceed_alike (setups : a.withoutDetail = b.withoutDetail)
    (sites : x.withoutDetail = y.withoutDetail) (jobs : j.withoutDetail = k.withoutDetail)
    (id : Uuid) : outline (j.proceed a id x) = outline (k.proceed b id y) := by
  induction x, j using Job.proceed.induct a id generalizing y k with
  | case1 x j outcome ended =>
    obtain rfl := Server.outcome?_eq_some ended
    obtain rfl := Server.outcome?_eq_some ((outcome?_alike jobs).symm.trans ended)
    rw [proceed_done, proceed_done]
    exact Prod.ext sites rfl
  | case2 x j going =>
    rename_i waits
    have step := step_alike setups sites jobs id
    have both := waits_alike (congrArg Prod.snd step)
    rw [proceed_step a id x going, proceed_step b id y ((outcome?_alike jobs).symm.trans going)]
    have waits : (j.step a id x).2.waits = true := waits
    simp only [← both, waits, if_true]
    exact step
  | case3 x j going =>
    rename_i waits ih
    have step := step_alike setups sites jobs id
    have both := waits_alike (congrArg Prod.snd step)
    rw [proceed_step a id x going, proceed_step b id y ((outcome?_alike jobs).symm.trans going)]
    have goes : ¬(j.step a id x).2.waits = true := waits
    simp only [← both, goes]
    exact ih (congrArg Prod.fst step) (congrArg Prod.snd step)

end Job

/-- The work on a submission leaves the same, and ends the same, whatever the detail is. -/
theorem Site.process_alike {a b : Setup} {x y : Site} (setups : a.withoutDetail = b.withoutDetail)
    (sites : x.withoutDetail = y.withoutDetail) (id : Uuid) :
    (x.process a id).1.withoutDetail = (y.process b id).1.withoutDetail ∧
      (x.process a id).2 = (y.process b id).2 := Job.finish_alike setups sites rfl id

end Grader

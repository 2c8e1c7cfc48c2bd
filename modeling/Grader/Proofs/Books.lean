import Grader.Proofs.Counters
import Grader.Proofs.Languages

/-! The books that the counts of a server keep. Each submission that was put into the queue is
completed, due, or was let go of without a completion; and each offer that was not taken turns a
request away. -/
namespace Grader

open Api (Failure Intake Requeue)

namespace Site

def spoken (s : Site) (l : Language) (ids : List Uuid) : Nat :=
  ids.countP fun id => s.languageOf? id = some l

theorem spoken_cons {s : Site} {id : Uuid} {k : Language} (known : s.languageOf? id = some k)
    (l : Language) (ids : List Uuid) :
    s.spoken l (id :: ids) = s.spoken l ids + if l = k then 1 else 0 := by
  unfold spoken
  rw [List.countP_cons, known]
  by_cases same : l = k
  · simp [same]
  · simp [same, Ne.symm same]

theorem spoken_kept {a b : Site} (kept : a.KeepsLanguages b) (l : Language) {ids : List Uuid}
    (known : ∀ id ∈ ids, ∃ k, a.languageOf? id = some k) : b.spoken l ids = a.spoken l ids := by
  refine List.countP_congr fun id member => ?_
  obtain ⟨k, same⟩ := known id member
  rw [same, kept id k same]

/-- The counts of a site on which some submissions are due, others have lapsed, and a number of
requests were turned away. -/
structure Books (s : Site) (due lapsed : List Uuid) (away : Nat) : Prop where
  known : ∀ id ∈ due ++ lapsed, ∃ l, s.languageOf? id = some l
  enqueued (l : Language) : s.metrics.enqueuedOf l =
    s.metrics.completedOf l + s.spoken l due + s.spoken l lapsed
  evaluated (l : Language) : s.metrics.evaluatedOf l = s.metrics.completedOf l
  rejected : s.metrics.rejectedTotal = away
  depth : s.metrics.queueDepth = s.queue.depth

namespace Books

variable {a b : Site} {due lapsed : List Uuid} {away : Nat}

theorem regroup (books : a.Books due lapsed away) {others : List Uuid} (perm : due.Perm others) :
    a.Books others lapsed away where
  known id member := books.known id ((perm.append_right lapsed).mem_iff.mpr member)
  enqueued l := by
    rw [books.enqueued l]
    unfold spoken
    rw [perm.countP_eq]
  evaluated := books.evaluated
  rejected := books.rejected
  depth := books.depth

theorem aside (books : a.Books due lapsed away) (kept : a.KeepsLanguages b)
    (metrics : a.metrics.Aside b.metrics) (depth : b.queue.depth = a.queue.depth) :
    b.Books due lapsed away := by
  obtain ⟨dispatchFailures, limited, metrics⟩ := metrics
  have due_known (id : Uuid) (member : id ∈ due) := books.known id (List.mem_append_left lapsed member)
  have lapsed_known (id : Uuid) (member : id ∈ lapsed) :=
    books.known id (List.mem_append_right due member)
  refine ⟨fun id member => ?_, fun l => ?_, fun l => ?_, ?_, ?_⟩
  · obtain ⟨l, same⟩ := books.known id member
    exact ⟨l, kept id l same⟩
  · rw [metrics, spoken_kept kept l due_known, spoken_kept kept l lapsed_known]
    exact books.enqueued l
  · rw [metrics]
    exact books.evaluated l
  · rw [metrics]
    exact books.rejected
  · rw [metrics, depth]
    exact books.depth

theorem told (books : a.Books due lapsed away) (queue : Queue) :
    ({ a with queue, metrics := a.metrics.setQueueDepth queue.depth } : Site).Books due lapsed away where
  known := books.known
  enqueued := books.enqueued
  evaluated := books.evaluated
  rejected := books.rejected
  depth := rfl

theorem queued (books : a.Books due lapsed away) {id : Uuid} {l : Language}
    (known : a.languageOf? id = some l) :
    ({ a with metrics := a.metrics.recordEnqueued l.name } : Site).Books (id :: due) lapsed away where
  known x member := by
    rcases List.mem_cons.mp member with rfl | before
    · exact ⟨l, known⟩
    · exact books.known x before
  enqueued k := by
    have before := books.enqueued k
    have mine : a.spoken k (id :: due) = _ := spoken_cons known k due
    show (a.metrics.recordEnqueued l.name).enqueuedOf k =
      a.metrics.completedOf k + a.spoken k (id :: due) + a.spoken k lapsed
    rw [Metrics.enqueuedOf_recordEnqueued, mine]
    omega
  evaluated := books.evaluated
  rejected := books.rejected
  depth := books.depth

theorem refused (books : a.Books due lapsed away) (reason : String) :
    ({ a with metrics := a.metrics.recordRejected reason } : Site).Books due lapsed (away + 1) where
  known := books.known
  enqueued := books.enqueued
  evaluated := books.evaluated
  rejected := by
    show (a.metrics.recordRejected reason).rejectedTotal = away + 1
    rw [Metrics.rejectedTotal_recordRejected, books.rejected]
  depth := books.depth

theorem completed {id : Uuid} (books : a.Books (id :: due) lapsed away) {l : Language}
    (known : a.languageOf? id = some l) (s : Status) (ms : Float) :
    ({ a with metrics := a.metrics.recordCompleted l.name s.name ms } : Site).Books due lapsed away where
  known x member := books.known x (List.mem_cons_of_mem id member)
  enqueued k := by
    have before := books.enqueued k
    rw [spoken_cons known k due] at before
    show a.metrics.enqueuedOf k = (a.metrics.recordCompleted l.name s.name ms).completedOf k +
      a.spoken k due + a.spoken k lapsed
    rw [Metrics.completedOf_recordCompleted]
    omega
  evaluated k := by
    show (a.metrics.recordCompleted l.name s.name ms).evaluatedOf k =
      (a.metrics.recordCompleted l.name s.name ms).completedOf k
    rw [Metrics.evaluatedOf_recordCompleted, Metrics.completedOf_recordCompleted, books.evaluated]
  rejected := books.rejected
  depth := books.depth

theorem lapse {id : Uuid} (books : a.Books (id :: due) lapsed away) :
    a.Books due (lapsed ++ [id]) away := by
  have perm : (id :: due ++ lapsed).Perm (due ++ (lapsed ++ [id])) := by
    rw [← List.append_assoc]
    exact (List.perm_append_singleton id (due ++ lapsed)).symm
  obtain ⟨k, known⟩ := books.known id List.mem_cons_self
  refine ⟨fun x member => books.known x (perm.mem_iff.mpr member), fun l => ?_, books.evaluated,
    books.rejected, books.depth⟩
  have before := books.enqueued l
  have last : a.spoken l (lapsed ++ [id]) = a.spoken l (id :: lapsed) :=
    (List.perm_append_singleton id lapsed).countP_eq _
  rw [spoken_cons known] at before
  rw [last, spoken_cons known]
  omega

end Books

end Site

theorem Site.metrics_runUnit (engine : Engine) (s : Site) (u : ExecutionUnit) :
    s.metrics.Aside (s.runUnit engine u).metrics := by
  unfold runUnit
  simp only
  split
  · exact ⟨_, _, rfl⟩
  · exact .refl _

def Outcome.isCompleted : Outcome → Bool
  | .completed _ => true
  | _ => false

def Job.isCompleted (j : Job) : Bool := j.outcome?.any Outcome.isCompleted

def Worker.unfinished? : Worker → Option Uuid
  | .busy id job => if job.isCompleted then none else some id
  | .idle | .stopped => none

namespace Job

theorem conclude_counts (s : Submission) (elapsedMs : Nat) (site : Site) :
    (conclude s elapsedMs site).1.metrics =
        site.metrics.recordCompleted s.language.name s.status.name (Float.ofNat elapsedMs) ∧
        (conclude s elapsedMs site).2.isCompleted = true ∨
      (conclude s elapsedMs site).1 = site ∧ (conclude s elapsedMs site).2.isCompleted = false := by
  unfold conclude
  split
  · exact .inr ⟨rfl, rfl⟩
  · rename_i after saved
    rw [Site.kept_of_saved saved]
    exact .inl ⟨rfl, rfl⟩

/-- A step completes the submission and counts it for its language, or it counts nothing but failures
of the engine. -/
theorem step_counts (setup : Setup) (id : Uuid) (site : Site) {j : Job}
    (going : j.outcome? = none) :
    let after := j.step setup id site
    (∃ s ∈ j.submission?, ∃ (status : Status) (ms : Float),
        after.1.metrics = site.metrics.recordCompleted s.language.name status.name ms ∧
          after.2.isCompleted = true) ∨
      site.metrics.Aside after.1.metrics ∧ after.2.isCompleted = false := by
  cases j with
  | load =>
    refine .inr ⟨.refl _, ?_⟩
    simp only [step, loaded]
    repeat' split
    all_goals rfl
  | findProblem s =>
    refine .inr ⟨.refl _, ?_⟩
    simp only [step, problemFound]
    split <;> rfl
  | findCases s p =>
    refine .inr ⟨.refl _, ?_⟩
    simp only [step, casesFound]
    split <;> rfl
  | giveUp s detail =>
    rcases conclude_counts (s.fail detail site.now) 0 site with ⟨metrics, ended⟩ | ⟨same, failed⟩
    · exact .inl ⟨s, rfl, _, _, metrics, ended⟩
    · refine .inr ⟨?_, failed⟩
      rw [step, same]
      exact .refl _
  | mark s p cases =>
    right
    simp only [step]
    split
    · exact ⟨.refl _, rfl⟩
    · rename_i after saved
      rw [Site.kept_of_saved saved]
      refine ⟨.refl _, ?_⟩
      rcases begin_cases setup (s.markRunning site.now) p cases with ⟨plan, progress, run⟩ | crashed
      · rw [run]
        rfl
      · rw [crashed]
        rfl
  | run s plan progress =>
    right
    simp only [step]
    split <;> exact ⟨.refl _, rfl⟩
  | await s plan progress c reply =>
    right
    simp only [step]
    split
    · exact ⟨.refl _, rfl⟩
    · exact ⟨.refl _, rfl⟩
    · exact ⟨⟨_, _, rfl⟩, rfl⟩
  | save s e elapsedMs =>
    rcases conclude_counts
      (s.complete e.status e.results e.tally e.diagnostic site.now) elapsedMs site with
      ⟨metrics, ended⟩ | ⟨same, failed⟩
    · exact .inl ⟨s, rfl, _, _, metrics, ended⟩
    · refine .inr ⟨?_, failed⟩
      rw [step, same]
      exact .refl _
  | done outcome => contradiction

end Job

namespace Api

/-- The queue has not taken the submission, and the intake is answered so or is going to be. -/
def Intake.isTurnedAway : Intake → Bool
  | .withdraw .. => true
  | .done (.error f) => f.turnsAway
  | _ => false

def Requeue.isTurnedAway : Requeue → Bool
  | .restore _ f | .done (.error f) => f.turnsAway
  | _ => false

/-- What a step of a request counts, which was or is turned away. -/
inductive Reckons (a : Site) (before : Bool) : Site → Bool → Prop where
  | nothing (b : Site) (metrics : b.metrics = a.metrics) (queue : b.queue = a.queue) :
      Reckons a before b before
  | queued (id : Uuid) (l : Language) (known : a.languageOf? id = some l)
      (waits : before = false) :
      Reckons a before
        { a with
          queue := a.queue.push id
          metrics := (a.metrics.setQueueDepth (a.queue.push id).depth).recordEnqueued l.name } false
  | refused (reason : String) (waits : before = false) :
      Reckons a before { a with metrics := a.metrics.recordRejected reason } true

end Api

theorem Site.enqueue_counts (s : Site) (id : Uuid) :
    s.enqueue id = (.queued, { s with
        queue := s.queue.push id, metrics := s.metrics.setQueueDepth (s.queue.push id).depth }) ∨
      (id ∈ s.queue.inFlight ∧ ∃ reason,
        s.enqueue id = (.alreadyQueued, { s with metrics := s.metrics.recordRejected reason })) ∨
      ∃ e reason,
        s.enqueue id = (.refused e, { s with metrics := s.metrics.recordRejected reason }) := by
  unfold Site.enqueue
  rcases s.queue.enqueue_cases id with ⟨_, offered⟩ | ⟨flying, offered⟩ | ⟨e, offered⟩
  · rw [offered]
    exact .inl rfl
  · rw [offered]
    exact .inr (.inl ⟨flying, _, rfl⟩)
  · rw [offered]
    cases e <;> exact .inr (.inr ⟨_, _, rfl⟩)

namespace Api

theorem Intake.step_reckons {site : Site} (saves : site.Saves) {k : Intake} (fits : k.Fits site) :
    Reckons site k.isTurnedAway (k.step site).1 (k.step site).2.isTurnedAway := by
  cases k with
  | findProblem s =>
    simp only [step]
    split <;> exact .nothing site rfl rfl
  | store s =>
    simp only [step, saves.save]
    exact .nothing _ rfl rfl
  | offer s =>
    have known : site.languageOf? s.id = some s.language := Site.languageOf?_of_stored fits.shows
    simp only [step]
    rcases site.enqueue_counts s.id with offered | ⟨flying, _⟩ | ⟨e, reason, offered⟩
    · rw [offered]
      exact .queued s.id s.language known rfl
    · exact absurd flying (fits.grounded s rfl)
    · rw [offered]
      exact .refused reason rfl
  | withdraw s e =>
    simp only [step, saves.save]
    exact .nothing _ rfl rfl
  | done result => exact .nothing site rfl rfl

theorem Requeue.step_reckons {site : Site} (saves : site.Saves) {q : Requeue}
    (failed : ∀ f ∈ q.failed?, site.languageOf? f.id = some f.language)
    (current : ∀ f c, q = .offer f c → c.language = f.language) :
    Reckons site q.isTurnedAway (q.step site).1 (q.step site).2.isTurnedAway := by
  cases q with
  | load id =>
    simp only [step]
    split
    · exact .nothing site rfl rfl
    · exact .nothing site rfl rfl
    · split <;> exact .nothing site rfl rfl
  | reset f =>
    simp only [step, saves.save]
    exact .nothing _ rfl rfl
  | offer f c =>
    have known : site.languageOf? f.id = some c.language := by
      rw [current f c rfl]
      exact failed f rfl
    simp only [step]
    rcases site.enqueue_counts f.id with offered | ⟨_, reason, offered⟩ | ⟨e, reason, offered⟩
    · rw [offered]
      exact .queued f.id c.language known rfl
    · rw [offered]
      exact .refused reason rfl
    · rw [offered]
      exact .refused reason rfl
  | restore f rejection =>
    simp only [step, saves.save]
    exact .nothing _ rfl rfl
  | done result => exact .nothing site rfl rfl

end Api

theorem countP_set {p : α → Bool} {as : List α} {i : Nat} {a : α} (there : as[i]? = some a) (b : α) :
    (as.set i b).countP p + (p a).toNat = as.countP p + (p b).toNat := by
  induction as generalizing i with
  | nil => contradiction
  | cons c cs ih =>
    cases i with
    | zero =>
      obtain rfl := Option.some.inj there
      simp only [List.set_cons_zero, List.countP_cons]
      cases p c <;> cases p b <;> rfl
    | succ i =>
      have tail := ih (i := i) there
      simp only [List.set_cons_succ, List.countP_cons]
      omega

namespace Traffic

def due (t : Traffic) : List Uuid :=
  t.site.queue.channel ++ t.server.workers.filterMap Worker.unfinished?

/-- The requests that were turned away, or are going to be. -/
def turnedAway (t : Traffic) : Nat :=
  t.intakes.countP Intake.isTurnedAway + t.requeues.countP Requeue.isTurnedAway

/-- The books of a server where some requests were turned away before these. -/
def Books (t : Traffic) (lapsed : List Uuid) (earlier : Nat) : Prop :=
  t.site.Books t.due lapsed (earlier + t.turnedAway)

/-- What is let go of by an event without a completion. -/
def lapse (t : Traffic) : Event → List Uuid
  | .act (.release i) =>
    match t.server.worker? i with
    | some (.busy id (.done outcome)) => if outcome.isCompleted then [] else [id]
    | _ => []
  | _ => []

/-- What a run lets go of without a completion, in the order in which that happens. -/
def lapses (setup : Setup) : List Event → Traffic → List Uuid
  | [], _ => []
  | e :: es, t => t.lapse e ++ lapses setup es (t.advance setup e)

/-- No operation of the store is set to fail, and requests that are neither intakes nor requeues
are counted by the limiter at most. -/
def Event.IsRegular (t : Traffic) : Event → Prop
  | .count _ metrics _ => metrics = { t.site.metrics with limited := metrics.limited }
  | e => e.Faultless

def Regular (setup : Setup) : List Event → Traffic → Prop
  | [], _ => True
  | e :: es, t => e.IsRegular t ∧ Regular setup es (t.advance setup e)

theorem Event.IsRegular.faultless {t : Traffic} {e : Event} (regular : e.IsRegular t) :
    e.Faultless := by
  cases e with
  | count => trivial
  | _ => exact regular

theorem Regular.faultless {setup : Setup} {schedule : List Event} {t : Traffic}
    (regular : Regular setup schedule t) : ∀ e ∈ schedule, e.Faultless := by
  induction schedule generalizing t with
  | nil => exact fun e member => (List.not_mem_nil member).elim
  | cons e es ih => exact List.forall_mem_cons.mpr ⟨regular.1.faultless, ih regular.2⟩

theorem start_books {site : Site} (metrics : site.metrics = .zero)
    (channel : site.queue.channel = []) (inFlight : site.queue.inFlight = []) (workers : Nat) :
    (start site workers).Books [] 0 := by
  have due : (start site workers).due = [] := by
    simp [Traffic.due, Traffic.site, start, Server.withWorkers, channel, Worker.unfinished?]
  unfold Books
  rw [due]
  refine ⟨fun id member => (List.not_mem_nil member).elim, fun l => ?_, fun l => ?_, ?_, ?_⟩
  all_goals
    show _ = _
    simp only [start, Traffic.site, Server.withWorkers, metrics]
  · rfl
  · rfl
  · rfl
  · unfold Queue.depth
    rw [inFlight]
    rfl

namespace Books

variable {t : Traffic} {lapsed : List Uuid} {earlier : Nat} (books : t.Books lapsed earlier)
include books

theorem requested {after : Site} {before turned : Bool} (kept : t.site.KeepsLanguages after)
    (reckons : Api.Reckons t.site before after turned) {away : Nat}
    (moved : away + before.toNat = earlier + t.turnedAway + turned.toNat) :
    after.Books (after.queue.channel ++ t.server.workers.filterMap Worker.unfinished?) lapsed away := by
  cases reckons with
  | nothing b metrics queue =>
    obtain rfl : away = earlier + t.turnedAway := by omega
    rw [queue]
    exact Site.Books.aside books kept (metrics ▸ .refl _) (by rw [queue])
  | queued id l known waits =>
    obtain rfl : away = earlier + t.turnedAway := by simpa [waits] using moved
    have pushed := ((Site.Books.told books (t.site.queue.push id)).queued known)
    refine pushed.regroup ?_
    show (id :: (t.site.queue.channel ++ _)).Perm (t.site.queue.channel ++ [id] ++ _)
    rw [List.append_assoc]
    exact List.perm_middle.symm
  | refused reason waits =>
    obtain rfl : away = earlier + t.turnedAway + 1 := by simpa [waits] using moved
    exact Site.Books.refused books reason

theorem take {i : Nat} {id : Uuid} {rest : List Uuid} (idle : t.server.worker? i = some .idle)
    (waits : t.site.queue.channel = id :: rest) :
    let site : Site := { t.site with queue := { t.site.queue with channel := rest } }
    ({ t with server := Server.setWorker { t.server with site } i (.busy id .load) } :
      Traffic).Books lapsed earlier := by
  have set := perm_filterMap_set (f := Worker.unfinished?) idle (.busy id .load)
  have moved : t.due.Perm
      (rest ++ (t.server.workers.set i (.busy id .load)).filterMap Worker.unfinished?) := by
    unfold due
    rw [waits]
    exact List.perm_middle.symm.trans (set.symm.append_left rest)
  exact (Site.Books.regroup books moved).aside (.of_stored fun _ => rfl) (.refl _) rfl

theorem work {setup : Setup} (agrees : t.Agrees) {i : Nat} {id : Uuid} {job : Job}
    (busy : t.server.worker? i = some (.busy id job)) (going : job.outcome? = none)
    (kept : t.site.KeepsLanguages (job.step setup id t.site).1) :
    let next := job.step setup id t.site
    ({ t with server := Server.setWorker { t.server with site := next.1 } i (.busy id next.2) } :
      Traffic).Books lapsed earlier := by
  intro next
  have queue : next.1.queue = t.site.queue := job.queue_step setup id t.site
  have depth : next.1.queue.depth = t.site.queue.depth := by rw [queue]
  have unfinished : Worker.unfinished? (.busy id job) = some id := by
    simp [Worker.unfinished?, Job.isCompleted, going]
  have set := perm_filterMap_set (f := Worker.unfinished?) busy (.busy id next.2)
  rw [unfinished] at set
  show next.1.Books
    (next.1.queue.channel ++
      (t.server.workers.set i (.busy id next.2)).filterMap Worker.unfinished?)
    lapsed (earlier + t.turnedAway)
  rw [queue]
  rcases job.step_counts setup id t.site going with
    ⟨s, read, status, ms, metrics, ended⟩ | ⟨metrics, due⟩
  · have finished : Worker.unfinished? (.busy id next.2) = none := if_pos ended
    rw [finished] at set
    have opened := Site.Books.regroup books
      ((set.symm.append_left t.site.queue.channel).trans List.perm_middle)
    have completed := opened.completed (agrees.jobs i id job busy s read) status ms
    exact completed.aside kept (metrics ▸ .refl _) depth
  · have still : Worker.unfinished? (.busy id next.2) = some id := by
      simp only [Worker.unfinished?, next, due, if_neg Bool.false_ne_true]
    rw [still] at set
    have moved := Site.Books.regroup books (set.cons_inv.symm.append_left t.site.queue.channel)
    exact moved.aside kept metrics depth

theorem release {i : Nat} {id : Uuid} {outcome : Outcome}
    (busy : t.server.worker? i = some (.busy id (.done outcome))) :
    ({ t with server := Server.setWorker { t.server with site := t.site.release id } i .idle } :
      Traffic).Books (lapsed ++ if outcome.isCompleted then [] else [id]) earlier := by
  have set := perm_filterMap_set (f := Worker.unfinished?) busy .idle
  have told := Site.Books.told books (t.site.queue.release id)
  cases ended : outcome.isCompleted with
  | true =>
    have unfinished : Worker.unfinished? (.busy id (.done outcome)) = none := by
      simp [Worker.unfinished?, Job.isCompleted, Job.outcome?, ended]
    rw [unfinished] at set
    rw [if_pos rfl, List.append_nil]
    exact told.regroup (set.symm.append_left t.site.queue.channel)
  | false =>
    have unfinished : Worker.unfinished? (.busy id (.done outcome)) = some id := by
      simp [Worker.unfinished?, Job.isCompleted, Job.outcome?, ended]
    rw [unfinished] at set
    refine Site.Books.lapse (told.regroup ?_)
    exact (set.symm.append_left t.site.queue.channel).trans List.perm_middle

theorem act {setup : Setup} (orderly : t.Orderly) (agrees : t.Agrees) (a : Action) :
    (t.advance setup (.act a)).Books (lapsed ++ t.lapse (.act a)) earlier := by
  simp only [advance]
  cases acted : t.server.act? setup a with
  | none =>
    have nothing : t.lapse (.act a) = [] := by
      cases a with
      | release i =>
        simp only [lapse]
        split
        · rename_i id outcome busy
          simp [Server.act?, Server.release?, busy, Job.outcome?] at acted
        · rfl
      | take | work | stop => rfl
    rw [nothing, List.append_nil]
    exact books
  | some server =>
    have kept := (agrees.act (Server.act?_acts acted) orderly).2
    cases a with
    | take i =>
      obtain ⟨id, rest, idle, waits, rfl⟩ := Server.take?_eq_some acted
      rw [show t.lapse (.act (.take i)) = [] from rfl, List.append_nil]
      exact books.take idle waits
    | work i =>
      obtain ⟨id, job, busy, going, rfl⟩ := Server.work?_eq_some acted
      rw [show t.lapse (.act (.work i)) = [] from rfl, List.append_nil]
      exact books.work agrees busy going kept
    | release i =>
      obtain ⟨id, outcome, busy, rfl⟩ := Server.release?_eq_some acted
      simp only [lapse, busy]
      exact books.release busy
    | stop i =>
      obtain ⟨idle, empty, stopping, rfl⟩ := Server.stop?_eq_some acted
      rw [show t.lapse (.act (.stop i)) = [] from rfl, List.append_nil]
      have set := perm_filterMap_set (f := Worker.unfinished?) idle .stopped
      exact Site.Books.regroup books (set.symm.append_left t.site.queue.channel)

theorem advance {setup : Setup} (orderly : t.Orderly) (agrees : t.Agrees) {e : Event}
    (regular : e.IsRegular t) : (t.advance setup e).Books (lapsed ++ t.lapse e) earlier := by
  have kept := (agrees.moves (advance_moves setup orderly.faultless regular.faultless) orderly).2
  cases e with
  | act a => exact books.act orderly agrees a
  | submit fresh userId problemId language code =>
    rw [show t.lapse (.submit fresh userId problemId language code) = [] from rfl, List.append_nil]
    simp only [Traffic.advance]
    split
    · unfold Books Traffic.turnedAway
      rw [List.countP_append]
      exact books
    · exact books
  | intake i =>
    rw [show t.lapse (.intake i) = [] from rfl, List.append_nil]
    simp only [Traffic.advance] at kept ⊢
    split at kept
    · rename_i k there
      have reckons := Intake.step_reckons orderly.faultless.saves (orderly.intakes i k there)
      have moved := countP_set (p := Intake.isTurnedAway) there (k.step t.site).2
      refine books.requested kept reckons ?_
      simp only [Traffic.turnedAway, withSite]
      omega
    · exact books
  | again id =>
    rw [show t.lapse (.again id) = [] from rfl, List.append_nil]
    unfold Books Traffic.turnedAway
    simp only [Traffic.advance, List.countP_append]
    exact books
  | requeue j =>
    rw [show t.lapse (.requeue j) = [] from rfl, List.append_nil]
    simp only [Traffic.advance] at kept ⊢
    split at kept
    · rename_i q there
      have reckons := Requeue.step_reckons orderly.faultless.saves (agrees.failed j q there)
        (fun f c same => agrees.current j f c (same ▸ there))
      have moved := countP_set (p := Requeue.isTurnedAway) there (q.step t.site).2
      refine books.requested kept reckons ?_
      simp only [Traffic.turnedAway, withSite]
      omega
    · exact books
  | count records metrics guests =>
    rw [show t.lapse (.count records metrics guests) = [] from rfl, List.append_nil]
    exact Site.Books.aside books kept ⟨_, _, regular⟩ rfl
  | unit u =>
    rw [show t.lapse (.unit u) = [] from rfl, List.append_nil]
    have queue := t.site.queue_runUnit setup.engine u
    show (t.site.runUnit setup.engine u).Books ((t.site.runUnit setup.engine u).queue.channel ++
      t.server.workers.filterMap Worker.unfinished?) lapsed (earlier + t.turnedAway)
    rw [queue]
    exact Site.Books.aside books kept (t.site.metrics_runUnit setup.engine u)
      (congrArg Queue.depth queue)
  | surroundings x =>
    rw [show t.lapse (.surroundings x) = [] from rfl, List.append_nil]
    exact Site.Books.aside books kept (.refl _) rfl
  | close =>
    rw [show t.lapse .close = [] from rfl, List.append_nil]
    exact Site.Books.aside books kept (.refl _) rfl

end Books

/-- The books are kept through a run, with what it lets go of added to what has lapsed. -/
theorem execute_books (setup : Setup) {schedule : List Event} {t : Traffic}
    (regular : Regular setup schedule t) (orderly : t.Orderly) (agrees : t.Agrees)
    {lapsed : List Uuid} {earlier : Nat} (books : t.Books lapsed earlier) :
    (execute setup schedule t).Books (lapsed ++ lapses setup schedule t) earlier := by
  induction schedule generalizing t lapsed with
  | nil =>
    rw [show lapses setup [] t = [] from rfl, List.append_nil]
    exact books
  | cons e es ih =>
    have moves := advance_moves setup orderly.faultless regular.1.faultless
    have later := ih regular.2 (moves.orderly orderly) (agrees.moves moves orderly).1
      (books.advance orderly agrees regular.1)
    rw [List.append_assoc] at later
    exact later

end Traffic

end Grader

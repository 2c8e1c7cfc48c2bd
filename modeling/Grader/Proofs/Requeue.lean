import Grader.Proofs.Attended
import Grader.Proofs.Endings
import Grader.Proofs.Process

/-! Verdicts under requeues. A requeue that the queue does not take writes back the failed state that
it has read, whatever has been stored since. So a verdict that a worker has stored is lost to a requeue
that had read the submission before, and to no other. -/
namespace Grader

open Api (Failure Requeue)

theorem Job.step_delivers (setup : Setup) (id : Uuid) {site : Site} (saves : site.Saves) {j : Job}
    {v : Submission} (saved : j.saves? site = some v) (ended : v.status.isTerminal = true) :
    (j.step setup id site).2 = .done (.completed v.status) := by
  cases j with
  | giveUp s detail =>
    obtain rfl := Option.some.inj saved
    simp only [step, conclude, saves.save]
  | mark s p cases =>
    obtain rfl := Option.some.inj saved
    contradiction
  | save s e elapsedMs =>
    obtain rfl := Option.some.inj saved
    simp only [step, conclude, saves.save]
  | _ => contradiction

namespace Api.Requeue

theorem turnsAway_of_restore {site : Site} {q : Requeue} {failed : Submission} {rejection : Failure}
    (next : (q.step site).2 = .restore failed rejection) : rejection.turnsAway = true := by
  cases q with
  | load id =>
    simp only [step] at next
    split at next
    · cases next
    · cases next
    · split at next <;> cases next
  | reset f =>
    simp only [step] at next
    split at next <;> cases next
  | offer f c =>
    simp only [step] at next
    split at next <;> cases next <;> rfl
  | restore f r =>
    simp only [step] at next
    split at next <;> cases next
  | done result => cases next

theorem step_restore {site : Site} (saves : site.Saves) (failed : Submission) (rejection : Failure) :
    (step site (.restore failed rejection)).2 = .done (.error rejection) := by
  simp only [step, saves.save]

end Api.Requeue

namespace Traffic

def Delivers (t : Traffic) (i : Nat) (v : Submission) : Prop :=
  ∃ job, t.server.worker? i = some (.busy v.id job) ∧ job.saves? t.site = some v ∧
    v.status.isTerminal = true

/-- The requeue has been answered that its submission is in the queue. -/
def Accepted (t : Traffic) (j : Nat) (id : Uuid) : Prop :=
  ∃ s, t.requeues[j]? = some (.done (.ok s)) ∧ s.id = id

def HasRead (t : Traffic) (j : Nat) (failed : Submission) : Prop :=
  ∃ q, t.requeues[j]? = some q ∧ failed ∈ q.failed?

/-- The requeue had read the failed state before `t`, and has been turned away since. It has written
that state back then. -/
def Returned (t : Traffic) (j : Nat) (failed : Submission) (u : Traffic) : Prop :=
  t.HasRead j failed ∧
    ∃ rejection, u.requeues[j]? = some (.done (.error rejection)) ∧ rejection.turnsAway = true

/-- The submission waits because of a requeue that has not been answered. -/
def Hidden (t : Traffic) (id : Uuid) : Prop :=
  (∃ d, t.site.stored? id = some d ∧ d.status = .pending) ∧
    ∃ (j : Nat) (q : Requeue), t.requeues[j]? = some q ∧ q.Covers id

def back? (t : Traffic) (id : Uuid) : Event → Option Submission
  | .requeue j =>
    match t.requeues[j]? with
    | some (.restore failed _) => if failed.id = id then some failed else none
    | _ => none
  | _ => none

/-- The states of the submission that a run writes back, in the order in which that happens. -/
def writtenBack (setup : Setup) (id : Uuid) : List Event → Traffic → List Submission
  | [], _ => []
  | e :: es, t => (t.back? id e).toList ++ writtenBack setup id es (t.advance setup e)

theorem back?_of_restore {t : Traffic} {j : Nat} {failed : Submission} {rejection : Failure}
    (there : t.requeues[j]? = some (.restore failed rejection)) :
    t.back? failed.id (.requeue j) = some failed := by
  simp [back?, there]

theorem back?_of_other {t : Traffic} {j : Nat} {q : Requeue} (there : t.requeues[j]? = some q)
    {id : Uuid} (other : ∀ failed rejection, q = .restore failed rejection → failed.id ≠ id) :
    t.back? id (.requeue j) = none := by
  simp only [back?, there]
  split
  · rename_i failed rejection same
    exact if_neg (other failed rejection (Option.some.inj same))
  · rfl

theorem getLast?_append_getD (d? : Option Submission) (ds : List Submission) (last : Submission) :
    (d?.toList ++ ds).getLast?.getD last = ds.getLast?.getD (d?.getD last) := by
  rw [List.getLast?_append]
  cases ds.getLast? <;> cases d? <;> rfl

def stepped (t : Traffic) (j : Nat) (q : Requeue) : Traffic :=
  { t.withSite (q.step t.site).1 with requeues := t.requeues.set j (q.step t.site).2 }

theorem getElem?_stepped (t : Traffic) {j : Nat} {q : Requeue} (there : t.requeues[j]? = some q) :
    (t.stepped j q).requeues[j]? = some (q.step t.site).2 := by
  obtain ⟨inside, _⟩ := List.getElem?_eq_some_iff.mp there
  exact List.getElem?_set_self inside

theorem Moves.stepped (setup : Setup) {t : Traffic} {j : Nat} {q : Requeue}
    (there : t.requeues[j]? = some q) : t.Moves setup (.requeue j) (t.stepped j q) :=
  .requeue j q there

theorem Moves.answered {setup : Setup} {t u : Traffic} {e : Event} (moves : t.Moves setup e u)
    {j : Nat} {result : Except Failure Submission} (there : t.requeues[j]? = some (.done result)) :
    u.requeues[j]? = some (.done result) := by
  obtain ⟨inside, _⟩ := List.getElem?_eq_some_iff.mp there
  cases moves with
  | again x => exact (List.getElem?_append_left inside).trans there
  | requeue a q there' =>
    by_cases same : j = a
    · obtain rfl := same
      obtain rfl := Option.some.inj (there'.symm.trans there)
      exact List.getElem?_set_self inside
    · exact (List.getElem?_set_ne (Ne.symm same)).trans there
  | act | submit | intake | aside => exact there

theorem Moves.accepted {setup : Setup} {t u : Traffic} {e : Event} (moves : t.Moves setup e u)
    {j : Nat} {id : Uuid} : t.Accepted j id → u.Accepted j id := by
  rintro ⟨s, there, own⟩
  exact ⟨s, moves.answered there, own⟩

theorem execute_accepted (setup : Setup) {schedule : List Event} (calm : ∀ e ∈ schedule, e.Faultless)
    {t : Traffic} (orderly : t.Orderly) {j : Nat} {id : Uuid} (accepted : t.Accepted j id) :
    (execute setup schedule t).Accepted j id :=
  (execute_preserves setup calm (fun _ _ _ _ _ moves => moves.accepted) orderly accepted).2

theorem Returned.moves {setup : Setup} {t s u : Traffic} {e : Event} (moves : s.Moves setup e u)
    {j : Nat} {failed : Submission} : t.Returned j failed s → t.Returned j failed u := by
  rintro ⟨read, rejection, there, away⟩
  exact ⟨read, rejection, moves.answered there, away⟩

/-- Whoever is going to write a state back has been turned away by the queue. -/
def Refused (t : Traffic) : Prop :=
  ∀ (j : Nat) failed rejection, t.requeues[j]? = some (.restore failed rejection) →
    rejection.turnsAway = true

theorem Moves.refused {setup : Setup} {t u : Traffic} {e : Event} (moves : t.Moves setup e u)
    (refused : t.Refused) : u.Refused := by
  intro j failed rejection there
  cases moves with
  | again x =>
    rcases getElem?_concat_cases there with before | ⟨_, impossible⟩
    · exact refused j failed rejection before
    · cases impossible
  | requeue a q there' =>
    rcases getElem?_set_cases there with ⟨_, next⟩ | ⟨_, before⟩
    · exact Requeue.turnsAway_of_restore next.symm
    · exact refused j failed rejection before
  | act | submit | intake | aside => exact refused j failed rejection there

/-- Where a state of the submission comes from that is stored or at hand after the verdict. -/
def Traced (t : Traffic) (v d : Submission) (s : Traffic) : Prop :=
  d = v ∨ ∃ j, t.Returned j d s

/-- Since a worker has stored the verdict `v` at `t`, what was written back last is stored or hidden,
and nothing is at hand that does not come from before. -/
structure Keeps (t : Traffic) (v last : Submission) (s : Traffic) : Prop where
  idle : s.Idle v.id
  refused : s.Refused
  ended : last.status.isTerminal = true
  shows : s.site.stored? v.id = some last ∨ s.Hidden v.id
  traced : t.Traced v last s
  held : ∀ (j : Nat) q, s.requeues[j]? = some q → ∀ f ∈ q.failed?, f.id = v.id →
    t.HasRead j f ∨ t.Traced v f s

theorem Traced.moves {setup : Setup} {t s u : Traffic} {v d : Submission} {e : Event}
    (moves : s.Moves setup e u) : t.Traced v d s → t.Traced v d u
  | .inl same => .inl same
  | .inr ⟨j, returned⟩ => .inr ⟨j, returned.moves moves⟩

namespace Keeps

variable {t s : Traffic} {v last : Submission} (keeps : t.Keeps v last s)
include keeps

theorem of_same {setup : Setup} {u : Traffic} {e : Event} (moves : s.Moves setup e u)
    (idle : u.Idle v.id) (stored : u.site.stored? v.id = s.site.stored? v.id)
    (requeues : u.requeues = s.requeues) : t.Keeps v last u := by
  refine ⟨idle, moves.refused keeps.refused, keeps.ended, ?_, keeps.traced.moves moves, ?_⟩
  · unfold Hidden
    rw [stored, requeues]
    exact keeps.shows
  · rw [requeues]
    intro j q there f read own
    exact (keeps.held j q there f read own).imp_right (·.moves moves)

/-- A requeue reads nothing but what was written back last. -/
theorem read {f : Submission} (found : s.site.stored? v.id = some f)
    (broken : f.status = .internalError) : f = last := by
  rcases keeps.shows with shown | ⟨⟨d, hidden, waits⟩, _⟩
  · exact Option.some.inj (found.symm.trans shown)
  · obtain rfl := Option.some.inj (found.symm.trans hidden)
    rw [waits] at broken
    contradiction

section Step

variable (setup : Setup) (orderly : s.Orderly) {j : Nat} {q : Requeue}
include setup orderly

theorem of_step (there : s.requeues[j]? = some q)
    (unqueued : v.id ∉ (q.step s.site).1.queue.channel) {d : Submission}
    (ended : d.status.isTerminal = true)
    (shows : (s.stepped j q).site.stored? v.id = some d ∨ (s.stepped j q).Hidden v.id)
    (traced : t.Traced v d (s.stepped j q)) : t.Keeps v d (s.stepped j q) := by
  have moves := Moves.stepped setup there
  refine ⟨keeps.idle.requeue unqueued, moves.refused keeps.refused, ended, shows, traced, ?_⟩
  intro a p there' f read own
  rcases getElem?_set_cases there' with ⟨rfl, rfl⟩ | ⟨_, before⟩
  · rcases Requeue.step_failed? read with kept | ⟨x, _, loaded, broken⟩
    · exact (keeps.held a q there f kept own).imp_right (·.moves moves)
    · rw [← orderly.keyed x f loaded, own] at loaded
      obtain rfl := keeps.read loaded broken
      exact .inr (keeps.traced.moves moves)
  · exact (keeps.held a p before f read own).imp_right (·.moves moves)

theorem step_other (there : s.requeues[j]? = some q) (other : ∀ f ∈ q.failed?, f.id ≠ v.id) :
    t.Keeps v last (s.stepped j q) := by
  have stored : (s.stepped j q).site.stored? v.id = s.site.stored? v.id := stored?_requeue other
  refine keeps.of_step setup orderly there (keeps.idle.unqueued_of_other other) keeps.ended ?_
    (keeps.traced.moves (.stepped setup there))
  rcases keeps.shows with shown | ⟨⟨d, hidden, waits⟩, a, p, there', covers⟩
  · exact .inl (stored.trans shown)
  · refine .inr ⟨⟨d, stored.trans hidden, waits⟩, a, p, ?_, covers⟩
    refine (List.getElem?_set_ne ?_).trans there'
    rintro rfl
    obtain rfl := Option.some.inj (there.symm.trans there')
    obtain ⟨f, read, own⟩ := Requeue.failed?_of_covers covers
    exact other f read own

/-- To reset the submission hides it until the requeue is answered. -/
theorem step_reset {f : Submission} (there : s.requeues[j]? = some (.reset f)) (own : f.id = v.id) :
    t.Keeps v last (s.stepped j (.reset f)) := by
  have saves := orderly.faultless.saves
  have unqueued := keeps.idle.unqueued_of_same (Requeue.queue_step s.site (q := .reset f) rfl)
  have attempted := (Requeue.reset f).step_attempted s.site
  have mine := s.getElem?_stepped there
  rw [Requeue.step_reset saves f] at mine
  refine keeps.of_step setup orderly there unqueued keeps.ended ?_
    (keeps.traced.moves (.stepped setup there))
  refine .inr ⟨⟨f.reset s.site.now, ?_, rfl⟩, j, _, mine, own⟩
  rw [← own]
  exact (attempted.stored? saves f.id).trans (Site.stored?_keep_same s.site (f.reset _))

/-- The queue takes the submission, or nothing but the answer is left to hide it. -/
theorem step_offer {f c : Submission} (there : s.requeues[j]? = some (.offer f c))
    (own : f.id = v.id) : t.Keeps v last (s.stepped j (.offer f c)) ∨
      (s.stepped j (.offer f c)).Accepted j v.id ∧ ¬s.Accepted j v.id := by
  have mine := s.getElem?_stepped there
  rcases Requeue.step_offer s.site f c with ⟨_, _, next⟩ | ⟨rejection, queue, next⟩
  · rw [next] at mine
    refine .inr ⟨⟨c, mine, (orderly.current j f c there).trans own⟩, ?_⟩
    rintro ⟨r, answered, _⟩
    cases Option.some.inj (there.symm.trans answered)
  · rw [next] at mine
    have stored : (s.stepped j (.offer f c)).site.stored? v.id = s.site.stored? v.id :=
      ((Requeue.offer f c).step_attempted s.site).stored? orderly.faultless.saves v.id
    refine .inl (keeps.of_step setup orderly there (keeps.idle.unqueued_of_same queue) keeps.ended ?_
      (keeps.traced.moves (.stepped setup there)))
    rcases keeps.shows with shown | ⟨⟨d, hidden, waits⟩, _⟩
    · exact .inl (stored.trans shown)
    · exact .inr ⟨⟨d, stored.trans hidden, waits⟩, j, _, mine, own⟩

/-- What is written back was read before the verdict, or comes from a requeue that has read it then. -/
theorem step_restore {f : Submission} {rejection : Failure}
    (there : s.requeues[j]? = some (.restore f rejection)) (own : f.id = v.id) :
    t.Keeps v f (s.stepped j (.restore f rejection)) := by
  have saves := orderly.faultless.saves
  have unqueued := keeps.idle.unqueued_of_same
    (Requeue.queue_step s.site (q := .restore f rejection) rfl)
  have attempted := (Requeue.restore f rejection).step_attempted s.site
  have mine := s.getElem?_stepped there
  rw [Requeue.step_restore saves f rejection] at mine
  refine keeps.of_step setup orderly there unqueued ?_ (.inl ?_) ?_
  · rw [(orderly.failed j _ there f rfl).1]
    rfl
  · rw [← own]
    exact (attempted.stored? saves f.id).trans (Site.stored?_keep_same s.site f)
  · rcases keeps.held j _ there f rfl own with before | origin
    · exact .inr ⟨j, before, rejection, mine, keeps.refused j f rejection there⟩
    · exact origin.moves (.stepped setup there)

theorem requeue (there : s.requeues[j]? = some q) :
    t.Keeps v ((s.back? v.id (.requeue j)).getD last) (s.stepped j q) ∨
      (s.stepped j q).Accepted j v.id ∧ ¬s.Accepted j v.id := by
  by_cases mine : ∃ f ∈ q.failed?, f.id = v.id
  · obtain ⟨f, read, own⟩ := mine
    cases q with
    | load | done => exact (Option.not_mem_none f read).elim
    | reset failed =>
      obtain rfl := Option.some.inj read
      rw [back?_of_other there (fun _ _ same => by cases same)]
      exact .inl (keeps.step_reset setup orderly there own)
    | offer failed current =>
      obtain rfl := Option.some.inj read
      rw [back?_of_other there (fun _ _ same => by cases same)]
      exact keeps.step_offer setup orderly there own
    | restore failed rejection =>
      obtain rfl := Option.some.inj read
      rw [← own, back?_of_restore there, own]
      exact .inl (keeps.step_restore setup orderly there own)
  · have other (f : Submission) (read : f ∈ q.failed?) : f.id ≠ v.id :=
      fun own => mine ⟨f, read, own⟩
    rw [back?_of_other there (fun f r same => other f (same ▸ rfl))]
    exact .inl (keeps.step_other setup orderly there other)

end Step

theorem other {setup : Setup} (orderly : s.Orderly) {e : Event} {u : Traffic}
    (moves : s.Moves setup e u) (other : ∀ j, e ≠ .requeue j) : t.Keeps v last u := by
  have same := keeps.of_same moves
  cases moves with
  | act a server acts =>
    obtain ⟨idle, stored⟩ := keeps.idle.act orderly acts
    exact same idle stored rfl
  | submit x userId problemId language code unused =>
    obtain ⟨d, found⟩ : ∃ d, s.site.stored? v.id = some d := by
      rcases keeps.shows with shown | ⟨⟨d, hidden, _⟩, _⟩
      · exact ⟨last, shown⟩
      · exact ⟨d, hidden⟩
    exact same (keeps.idle.submit unused found) rfl rfl
  | intake i k there =>
    obtain ⟨idle, stored⟩ := keeps.idle.intake there
    exact same idle stored rfl
  | again x =>
    have asked : s.Moves setup (.again x) { s with requeues := s.requeues ++ [.load x] } := .again x
    refine ⟨{ keeps.idle with }, asked.refused keeps.refused, keeps.ended, ?_,
      keeps.traced.moves asked, ?_⟩
    · rcases keeps.shows with shown | ⟨hidden, j, q, there, covers⟩
      · exact .inl shown
      · obtain ⟨inside, _⟩ := List.getElem?_eq_some_iff.mp there
        exact .inr ⟨hidden, j, q, (List.getElem?_append_left inside).trans there, covers⟩
    · intro j q there f read own
      rcases getElem?_concat_cases there with before | ⟨_, rfl⟩
      · exact (keeps.held j q before f read own).imp_right (·.moves asked)
      · exact (Option.not_mem_none f read).elim
  | requeue j q there => exact absurd rfl (other j)
  | aside e site stopping submissions channel inFlight fault =>
    obtain ⟨idle, stored⟩ := keeps.idle.aside stopping submissions channel
    exact same idle stored rfl

theorem advance (setup : Setup) (orderly : s.Orderly) {e : Event} (calm : e.Faultless) :
    t.Keeps v ((s.back? v.id e).getD last) (s.advance setup e) ∨
      ∃ j, (s.advance setup e).Accepted j v.id ∧ ¬s.Accepted j v.id := by
  have moves := advance_moves setup orderly.faultless calm
  cases e with
  | requeue j =>
    cases there : s.requeues[j]? with
    | none =>
      simp only [Traffic.advance, back?, there]
      exact .inl keeps
    | some q =>
      simp only [Traffic.advance, there]
      exact (keeps.requeue setup orderly there).imp_right fun accepted => ⟨j, accepted⟩
  | _ => exact .inl (keeps.other orderly moves fun _ same => by cases same)

end Keeps

theorem execute_keeps (setup : Setup) {schedule : List Event} (calm : ∀ e ∈ schedule, e.Faultless)
    {t s : Traffic} (orderly : s.Orderly) {v last : Submission} (keeps : t.Keeps v last s) :
    t.Keeps v ((writtenBack setup v.id schedule s).getLast?.getD last) (execute setup schedule s) ∨
      ∃ j, (execute setup schedule s).Accepted j v.id ∧ ¬s.Accepted j v.id := by
  induction schedule generalizing s last with
  | nil => exact .inl keeps
  | cons e es ih =>
    have now := calm e List.mem_cons_self
    have later (e' : Event) (member : e' ∈ es) := calm e' (List.mem_cons_of_mem _ member)
    have moves := advance_moves setup orderly.faultless now
    have after := moves.orderly orderly
    rw [writtenBack, getLast?_append_getD]
    rcases keeps.advance setup orderly now with kept | ⟨j, accepted, new⟩
    · rcases ih later after kept with kept | ⟨j, accepted, new⟩
      · exact .inl kept
      · exact .inr ⟨j, accepted, fun before => new (moves.accepted before)⟩
    · exact .inr ⟨j, execute_accepted setup later after accepted, new⟩

/-- The step that stores a verdict leaves it to nobody but the requeues. -/
theorem Delivers.keeps (setup : Setup) {t : Traffic} (orderly : t.Orderly) (refused : t.Refused)
    {i : Nat} {v : Submission} (delivers : t.Delivers i v) :
    t.Keeps v v (t.advance setup (.act (.work i))) := by
  obtain ⟨job, busy, saved, ended⟩ := delivers
  have going : job.outcome? = none := by
    cases job with
    | done => contradiction
    | _ => rfl
  have next := Job.step_delivers setup v.id orderly.faultless.saves saved ended
  have moved : t.advance setup (.act (.work i)) = { t with
      server := ({ t.server with site := (job.step setup v.id t.site).1 } : Server).setWorker i
        (.busy v.id (.done (.completed v.status))) } := by
    simp only [Traffic.advance, Server.act?, Server.work?, busy, going]
    rw [← next]
    rfl
  have moves := advance_moves setup orderly.faultless (e := .act (.work i)) trivial
  have stored : (t.advance setup (.act (.work i))).site.stored? v.id = some v := by
    rw [moved]
    refine ((job.step_attempted setup v.id t.site).stored? orderly.faultless.saves v.id).trans ?_
    rw [saved]
    exact Site.stored?_keep_same t.site v
  have done : (t.advance setup (.act (.work i))).server.worker? i =
      some (.busy v.id (.done (.completed v.status))) := by
    rw [moved]
    exact Server.worker?_set_same busy rfl
  refine ⟨.of_done (moves.orderly orderly) done, moves.refused refused, ended, .inl stored, .inl rfl, ?_⟩
  rw [moved]
  intro j q there f read own
  exact .inl ⟨q, there, read⟩

/-- While the store does not fail and no requeue of the submission is accepted, a verdict that a worker
has stored is gone, unless an unanswered requeue hides it, exactly if the last state that was written
back is another one. A requeue that had read that state before the verdict was stored, and was turned
away afterwards, has written it back. -/
theorem verdict_lost_iff (setup : Setup) {site : Site} (faultless : site.Faultless)
    (keyed : site.Keyed) (channel : site.queue.channel = []) (inFlight : site.queue.inFlight = [])
    (workers : Nat) {before schedule : List Event} (calm : ∀ e ∈ before ++ schedule, e.Faultless)
    {i : Nat} {v : Submission}
    (delivers : (execute setup before (start site workers)).Delivers i v) :
    let t := execute setup before (start site workers)
    let u := execute setup (.act (.work i) :: schedule) t
    (∀ j, u.Accepted j v.id → t.Accepted j v.id) → ¬u.Hidden v.id →
      (u.site.stored? v.id ≠ some v ↔ ∃ failed j,
        (writtenBack setup v.id (.act (.work i) :: schedule) t).getLast? = some failed ∧
          failed ≠ v ∧ t.Returned j failed u) := by
  intro t u unaccepted unhidden
  have calm_before (e : Event) (member : e ∈ before) := calm e (List.mem_append_left _ member)
  have calm_after (e : Event) (member : e ∈ schedule) := calm e (List.mem_append_right _ member)
  have begun := start_orderly faultless keyed channel inFlight workers
  have none_refused : (start site workers).Refused := by
    intro j failed rejection there
    simp [start] at there
  obtain ⟨orderly, refused⟩ : t.Orderly ∧ t.Refused := execute_preserves setup calm_before
    (fun _ _ _ _ _ moves => moves.refused) begun none_refused
  have moves := advance_moves setup orderly.faultless (e := .act (.work i)) trivial
  have run := execute_keeps setup calm_after (moves.orderly orderly)
    (delivers.keeps setup orderly refused)
  rcases run with keeps | ⟨j, accepted, new⟩
  · have stored := keeps.shows.resolve_right unhidden
    show (execute setup schedule _).site.stored? v.id ≠ some v ↔ ∃ failed j,
      (writtenBack setup v.id schedule _).getLast? = some failed ∧ _
    rw [stored]
    constructor
    · intro lost
      cases written : (writtenBack setup v.id schedule (t.advance setup (.act (.work i)))).getLast? with
      | none =>
        rw [written] at lost
        exact absurd rfl lost
      | some failed =>
        have traced := keeps.traced
        rw [written] at lost traced
        have other : failed ≠ v := fun same => lost (congrArg some same)
        obtain ⟨j, returned⟩ := traced.resolve_left other
        exact ⟨failed, j, rfl, other, returned⟩
    · rintro ⟨failed, j, written, other, _⟩
      rw [written]
      exact fun same => other (Option.some.inj same)
  · exact absurd (moves.accepted (unaccepted j accepted)) new

end Traffic

namespace Rollback

open Traffic

def failed : Submission := Echo.submission.fail "no sandbox" default

def cases : List TestCase := [⟨"a", "echo", "", "", false, 0, 1⟩]

def site : Site :=
  .start Echo.setup.config (.ofDocuments [failed] [Echo.problem] [("echo", cases)] []) default

/-- One requeue reads the failed state, and another one gets the submission to a worker. -/
def opening : List Event :=
  [.again (.ofNat 7), .requeue 0, .again (.ofNat 7), .requeue 1, .requeue 1, .requeue 1,
    .act (.take 0), .act (.work 0), .act (.work 0), .act (.work 0)]

def opened : Traffic := execute Echo.setup opening (start site 1)

def running : Submission := (failed.reset default).markRunning default

def verdict : Submission :=
  running.complete .accepted [⟨"a", 1, .accepted, "", "", none, 1, 512⟩] ⟨1, 512, 1, 1⟩ none default

def grading : List Event := [.act (.work 0), .act (.work 0), .act (.work 0), .act (.work 0)]

/-- The worker is about to store the verdict. -/
def graded : Traffic := execute Echo.setup (opening ++ grading) (start site 1)

theorem graded_eq : graded = execute Echo.setup [.act (.work 0), .act (.work 0), .act (.work 0)]
    { opened with server := ⟨opened.site.keep running, [.busy (.ofNat 7)
      (.run running (Echo.setup.planFor running Echo.problem cases) ⟨cases, 0, [], []⟩)],
      false⟩ } := by
  have sorted : Progress.start cases = ⟨cases, 0, [], []⟩ := by
    simp [Progress.start, TestCase.ordered, cases]
  unfold graded
  rw [execute_append, ← sorted]
  rfl

theorem graded_delivers : graded.Delivers 0 verdict := by
  rw [graded_eq]
  exact ⟨_, rfl, rfl, rfl⟩

def late : List Event := [.requeue 0, .requeue 0, .requeue 0]

theorem execute_late :
    (execute Echo.setup (.act (.work 0) :: late) graded).site.stored? (.ofNat 7) = some failed ∧
      (execute Echo.setup (.act (.work 0) :: late) graded).requeues =
        [.done (.error (Requeue.stillProcessed (.ofNat 7))), .done (.ok (failed.reset default))] ∧
      graded.Accepted 1 (.ofNat 7) := by
  rw [graded_eq]
  exact ⟨rfl, rfl, _, rfl, rfl⟩

/-- The submission was accepted, and is stored as failed. -/
theorem verdict_lost_iff_late :
    let u := execute Echo.setup (.act (.work 0) :: late) graded
    u.site.stored? (.ofNat 7) = some failed ∧
      u.requeues =
        [.done (.error (Requeue.stillProcessed (.ofNat 7))), .done (.ok (failed.reset default))] ∧
      graded.Accepted 1 (.ofNat 7) ∧
      ∃ f j, (writtenBack Echo.setup (.ofNat 7) (.act (.work 0) :: late) graded).getLast? = some f ∧
        f ≠ verdict ∧ graded.Returned j f u := by
  intro u
  obtain ⟨stored, requeues, accepted⟩ := execute_late
  have faultless : site.Faultless := fun _ => rfl
  have keyed : site.Keyed := MemoryStore.keyed_ofDocuments _ _ _ _
  have calm (e : Event) (member : e ∈ (opening ++ grading) ++ late) : e.Faultless := by
    simp only [opening, grading, late, List.cons_append, List.nil_append, List.mem_cons] at member
    rcases member with rfl | rfl | rfl | rfl | rfl | rfl | rfl | rfl | rfl | rfl | rfl | rfl | rfl |
      rfl | rfl | rfl | rfl | none
    all_goals trivial
  refine ⟨stored, requeues, accepted, ?_⟩
  refine (verdict_lost_iff Echo.setup faultless keyed rfl rfl 1 calm graded_delivers ?_ ?_).mp ?_
  · rintro j ⟨s, there, own⟩
    change u.requeues[j]? = some (.done (.ok s)) at there
    rw [requeues] at there
    match j with
    | 0 => cases there
    | 1 => exact accepted
    | _ + 2 => cases there
  · rintro ⟨_, j, q, there, covers⟩
    change u.requeues[j]? = some q at there
    rw [requeues] at there
    match j with
    | 0 | 1 =>
      cases there
      exact covers
    | _ + 2 => cases there
  · intro same
    cases stored.symm.trans same

end Rollback

end Grader

import Grader.Proofs.Orderly

/-! The language of a stored submission. It never changes, and every copy that a job or a requeue
has at hand tells the same. -/
namespace Grader

open Api (Intake Requeue)

namespace Site

def languageOf? (s : Site) (id : Uuid) : Option Language := (s.stored? id).map (·.language)

/-- What is stored in a language stays in it. -/
def KeepsLanguages (a b : Site) : Prop :=
  ∀ id l, a.languageOf? id = some l → b.languageOf? id = some l

variable {a b : Site}

theorem KeepsLanguages.of_stored (same : ∀ id, b.stored? id = a.stored? id) : a.KeepsLanguages b := by
  intro id l known
  unfold languageOf?
  rw [same]
  exact known

theorem languageOf?_of_stored {id : Uuid} {d : Submission} (found : a.stored? id = some d) :
    a.languageOf? id = some d.language := by
  unfold languageOf?
  rw [found]
  rfl

theorem Attempted.keepsLanguages {d? : Option Submission} (attempted : a.Attempted d? b)
    (same : ∀ d ∈ d?, ∀ l, a.languageOf? d.id = some l → d.language = l) : a.KeepsLanguages b := by
  intro id l known
  by_cases own : ∃ d ∈ d?, id = d.id
  · obtain ⟨d, rfl, rfl⟩ := own
    rcases attempted with aside | ⟨_, aside⟩
    · unfold languageOf? Site.stored?
      rw [aside.store]
      show ((a.keep d).stored? d.id).map _ = some l
      rw [stored?_keep_same]
      exact congrArg some (same d rfl l known)
    · unfold languageOf? Site.stored?
      rw [aside.store]
      exact known
  · unfold languageOf?
    rw [attempted.stored?_other fun d saved equal => own ⟨d, saved, equal⟩]
    exact known

end Site

namespace Job

theorem saves?_language {site : Site} {j : Job} {d : Submission} (saved : d ∈ j.saves? site) :
    ∃ s ∈ j.submission?, d.language = s.language := by
  cases j with
  | giveUp s | mark s | save s =>
    obtain rfl := Option.some.inj saved
    exact ⟨s, rfl, rfl⟩
  | _ => contradiction

/-- What a job has at hand after a step it had before, or has just loaded. -/
theorem step_language (setup : Setup) {id : Uuid} {site : Site} {j : Job} {s : Submission}
    (read : s ∈ (j.step setup id site).2.submission?) :
    (∃ r ∈ j.submission?, s.language = r.language) ∨ site.stored? id = some s := by
  cases j with
  | load =>
    simp only [step, loaded] at read
    split at read
    · cases read
    · cases read
    · rename_i r found
      split at read
      · cases read
      · obtain rfl := Option.some.inj read
        exact .inr (Site.stored?_of_loaded found)
  | findProblem r =>
    simp only [step, problemFound] at read
    split at read <;> exact .inl ⟨s, read, rfl⟩
  | findCases r p =>
    simp only [step, casesFound] at read
    split at read <;> exact .inl ⟨s, read, rfl⟩
  | giveUp | save =>
    simp only [step, conclude] at read
    split at read <;> cases read
  | mark r p cases =>
    simp only [step] at read
    split at read
    · cases read
    · rcases begin_cases setup (r.markRunning site.now) p cases with ⟨plan, progress, run⟩ | crashed
      · rw [run] at read
        obtain rfl := Option.some.inj read
        exact .inl ⟨r, rfl, rfl⟩
      · rw [crashed] at read
        cases read
  | run r plan progress =>
    simp only [step] at read
    split at read <;> exact .inl ⟨s, read, rfl⟩
  | await r plan progress c reply =>
    simp only [step] at read
    split at read
    · cases read
    · exact .inl ⟨s, read, rfl⟩
    · exact .inl ⟨s, read, rfl⟩
  | done outcome => cases read

end Job

namespace Api

/-- An intake has its submission for itself, so that what it saves is new or a state of the same. -/
theorem Intake.Fits.saves_language {site : Site} {k : Intake} (fits : k.Fits site) {d : Submission}
    (saved : d ∈ k.saves? site) {l : Language} (known : site.languageOf? d.id = some l) :
    d.language = l := by
  have shows := fits.shows
  unfold Site.languageOf? at known
  cases k with
  | store s =>
    obtain rfl := Option.some.inj saved
    rw [show site.stored? s.id = none from shows] at known
    contradiction
  | withdraw s e =>
    obtain rfl := Option.some.inj saved
    rw [show site.stored? (s.fail _ site.now).id = some s from shows] at known
    exact Option.some.inj known
  | findProblem | offer | done => contradiction

theorem Requeue.saves?_language {site : Site} {q : Requeue} {d : Submission}
    (saved : d ∈ q.saves? site) : ∃ f ∈ q.failed?, d.id = f.id ∧ d.language = f.language := by
  cases q with
  | reset f | restore f rejection =>
    obtain rfl := Option.some.inj saved
    exact ⟨f, rfl, rfl, rfl⟩
  | _ => contradiction

/-- What a requeue offers is the submission that it has read, reset. -/
theorem Requeue.step_offers {site : Site} {q : Requeue} {failed current : Submission}
    (offers : (q.step site).2 = .offer failed current) :
    q = .reset failed ∧ current = failed.reset site.now := by
  cases q with
  | load id =>
    simp only [step] at offers
    split at offers
    · cases offers
    · cases offers
    · split at offers <;> cases offers
  | reset f =>
    simp only [step] at offers
    split at offers
    · cases offers
    · cases offers
      exact ⟨rfl, rfl⟩
  | offer f c | restore f rejection =>
    simp only [step] at offers
    split at offers <;> cases offers
  | done result => cases offers

end Api

namespace Traffic

/-- Whatever is at hand of a submission is in the language of what is stored. -/
structure Agrees (t : Traffic) : Prop where
  jobs : ∀ i id job, t.server.worker? i = some (.busy id job) →
    ∀ s ∈ job.submission?, t.site.languageOf? id = some s.language
  failed : ∀ (j : Nat) q, t.requeues[j]? = some q → ∀ f ∈ q.failed?,
    t.site.languageOf? f.id = some f.language
  current : ∀ (j : Nat) f c, t.requeues[j]? = some (.offer f c) → c.language = f.language

theorem start_agrees (site : Site) (workers : Nat) : (start site workers).Agrees where
  jobs i id job busy := by
    obtain ⟨_, same⟩ := List.getElem?_eq_some_iff.mp busy
    simp [start, Server.withWorkers] at same
  failed j q there := by simp [start] at there
  current j f c there := by simp [start] at there

namespace Agrees

variable {t : Traffic} (agrees : t.Agrees)
include agrees

theorem of_kept {u : Traffic} (kept : t.site.KeepsLanguages u.site)
    (workers : ∀ i id job, u.server.worker? i = some (.busy id job) → ∀ s ∈ job.submission?,
      t.server.worker? i = some (.busy id job))
    (requeues : ∀ (j : Nat) q, u.requeues[j]? = some q → ∀ f ∈ q.failed?,
      t.requeues[j]? = some q) : u.Agrees where
  jobs i id job busy s read := kept id _ (agrees.jobs i id job (workers i id job busy s read) s read)
  failed j q there f read := kept f.id _ (agrees.failed j q (requeues j q there f read) f read)
  current j f c there := agrees.current j f c (requeues j _ there f rfl)

theorem act {setup : Setup} {server : Server} (acts : t.server.Acts setup server) (orderly : t.Orderly) :
    ({ t with server } : Traffic).Agrees ∧ t.site.KeepsLanguages server.site := by
  cases acts with
  | take i id rest idle waits =>
    have kept : t.site.KeepsLanguages { t.site with queue := { t.site.queue with channel := rest } } :=
      .of_stored fun _ => rfl
    refine ⟨agrees.of_kept kept (fun k x job busy s read => ?_) fun _ _ there _ _ => there, kept⟩
    rcases Server.worker?_of_set rfl busy with ⟨_, same⟩ | ⟨_, before⟩
    · cases same
      cases read
    · exact before
  | work i id job busy going =>
    have kept : t.site.KeepsLanguages (job.step setup id t.site).1 := by
      refine (job.step_attempted setup id t.site).keepsLanguages fun d saved l known => ?_
      obtain ⟨s, read, same⟩ := Job.saves?_language saved
      rw [Job.saves?_id (orderly.jobs i id job busy) t.site d saved,
        agrees.jobs i id job busy s read] at known
      exact same.trans (Option.some.inj known)
    refine ⟨⟨fun k x job' busy' s read => ?_, fun j q there f read =>
      kept f.id _ (agrees.failed j q there f read), agrees.current⟩, kept⟩
    rcases Server.worker?_of_set rfl busy' with ⟨_, same⟩ | ⟨_, before⟩
    · cases same
      rcases Job.step_language setup read with ⟨r, had, same⟩ | found
      · rw [same]
        exact kept id _ (agrees.jobs i id job busy r had)
      · exact kept id _ (Site.languageOf?_of_stored found)
    · exact kept x _ (agrees.jobs k x job' before s read)
  | release i id outcome busy =>
    have kept : t.site.KeepsLanguages (t.site.release id) := .of_stored fun _ => rfl
    refine ⟨agrees.of_kept kept (fun k x job busy s read => ?_) fun _ _ there _ _ => there, kept⟩
    rcases Server.worker?_of_set rfl busy with ⟨_, same⟩ | ⟨_, before⟩
    · cases same
    · exact before
  | stop i idle =>
    have kept : t.site.KeepsLanguages t.site := .of_stored fun _ => rfl
    refine ⟨agrees.of_kept kept (fun k x job busy s read => ?_) fun _ _ there _ _ => there, kept⟩
    rcases Server.worker?_of_set rfl busy with ⟨_, same⟩ | ⟨_, before⟩
    · cases same
    · exact before

theorem requeue (orderly : t.Orderly) {j : Nat} {q : Requeue} (there : t.requeues[j]? = some q) :
    ({ t.withSite (q.step t.site).1 with
      requeues := t.requeues.set j (q.step t.site).2 } : Traffic).Agrees ∧
      t.site.KeepsLanguages (q.step t.site).1 := by
  have kept : t.site.KeepsLanguages (q.step t.site).1 := by
    refine (q.step_attempted t.site).keepsLanguages fun d saved l known => ?_
    obtain ⟨f, read, own, same⟩ := Requeue.saves?_language saved
    rw [own, agrees.failed j q there f read] at known
    exact same.trans (Option.some.inj known)
  refine ⟨⟨fun i id job busy s read => kept id _ (agrees.jobs i id job busy s read),
    fun a p there' f read => ?_, fun a f c there' => ?_⟩, kept⟩
  · rcases getElem?_set_cases there' with ⟨rfl, rfl⟩ | ⟨_, before⟩
    · rcases Requeue.step_failed? read with had | ⟨id, _, found, _⟩
      · exact kept f.id _ (agrees.failed a q there f had)
      · rw [← orderly.keyed id f found] at found
        exact kept f.id _ (Site.languageOf?_of_stored found)
    · exact kept f.id _ (agrees.failed a p before f read)
  · rcases getElem?_set_cases there' with ⟨_, next⟩ | ⟨_, before⟩
    · obtain ⟨_, rfl⟩ := Requeue.step_offers next.symm
      rfl
    · exact agrees.current a f c before

theorem moves {setup : Setup} {e : Event} {u : Traffic} (moves : t.Moves setup e u)
    (orderly : t.Orderly) : u.Agrees ∧ t.site.KeepsLanguages u.site := by
  cases moves with
  | act a server acts => exact agrees.act acts orderly
  | submit fresh userId problemId language code unused =>
    exact ⟨{ agrees with }, .of_stored fun _ => rfl⟩
  | intake i k there =>
    have kept : t.site.KeepsLanguages (k.step t.site).1 :=
      (k.step_attempted t.site).keepsLanguages fun d saved l known =>
        (orderly.intakes i k there).saves_language saved known
    exact ⟨agrees.of_kept kept (fun _ _ _ busy _ _ => busy) fun _ _ there _ _ => there, kept⟩
  | again id =>
    have kept : t.site.KeepsLanguages t.site := .of_stored fun _ => rfl
    refine ⟨agrees.of_kept kept (fun _ _ _ busy _ _ => busy) fun j q there f read => ?_, kept⟩
    rcases getElem?_concat_cases there with before | ⟨_, rfl⟩
    · exact before
    · exact (Option.not_mem_none f read).elim
  | requeue j q there => exact agrees.requeue orderly there
  | aside e site stopping submissions channel inFlight fault =>
    have kept : t.site.KeepsLanguages site := .of_stored fun id => by
      unfold Site.stored?
      rw [submissions]
    exact ⟨agrees.of_kept kept (fun _ _ _ busy _ _ => busy) fun _ _ there _ _ => there, kept⟩

end Agrees

end Traffic

end Grader

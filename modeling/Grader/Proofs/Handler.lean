import Grader.Api.Answer
import Grader.Proofs.Store

/-! What a request may do to a site. Apart from an intake and a requeue, each of which is told by its
own steps, a request changes nothing but the counts of requests. -/
namespace Grader

/-- However a computation ends, it takes the state along a relation. -/
def Within (R : σ → σ → Prop) (h : ExceptT ε (StateM σ) α) : Prop :=
  ∀ s, R s (StateT.run (ExceptT.run h) s).2

/-- Relations that hold along several changes one after another. -/
structure Chained (R : σ → σ → Prop) : Prop where
  refl : ∀ a, R a a
  trans : ∀ {a b c}, R a b → R b c → R a c

namespace Within

variable {R : σ → σ → Prop} (chained : Chained R)
include chained

theorem pure (a : α) : Within R (Pure.pure a : ExceptT ε (StateM σ) α) := fun s => chained.refl s

theorem throw (e : ε) : Within R (MonadExcept.throw e : ExceptT ε (StateM σ) α) :=
  fun s => chained.refl s

theorem get : Within R (MonadState.get : ExceptT ε (StateM σ) σ) := fun s => chained.refl s

theorem bind {h : ExceptT ε (StateM σ) α} {f : α → ExceptT ε (StateM σ) β} (first : Within R h)
    (next : ∀ a, Within R (f a)) : Within R (h >>= f) := by
  intro s
  have step := first s
  show R s (StateT.run (ExceptT.bindCont f (StateT.run (ExceptT.run h) s).1)
    (StateT.run (ExceptT.run h) s).2).2
  generalize StateT.run (ExceptT.run h) s = after at step
  obtain ⟨result, t⟩ := after
  cases result with
  | ok a => exact chained.trans step (next a t)
  | error e => exact step

theorem tryCatch {h : ExceptT ε (StateM σ) α} {handler : ε → ExceptT ε (StateM σ) α}
    (first : Within R h) (caught : ∀ e, Within R (handler e)) :
    Within R (MonadExcept.tryCatch h handler) := by
  intro s
  have step := first s
  show R s (StateT.run (match (StateT.run (ExceptT.run h) s).1 with
    | .ok a => Pure.pure (.ok a)
    | .error e => ExceptT.run (handler e)) (StateT.run (ExceptT.run h) s).2).2
  generalize StateT.run (ExceptT.run h) s = after at step
  obtain ⟨result, t⟩ := after
  cases result with
  | ok a => exact step
  | error e => exact chained.trans step (caught e t)

omit chained in
theorem get_bind {f : σ → ExceptT ε (StateM σ) α}
    (next : ∀ s, R s (StateT.run (ExceptT.run (f s)) s).2) :
    Within R (MonadState.get >>= f) := next

/-- A state that is set comes in the place of the one before. -/
theorem set_bind {h : ExceptT ε (StateM σ) α} {s t : σ} (set : R s t) (next : Within R h) :
    R s (StateT.run (ExceptT.run (MonadStateOf.set t >>= fun _ => h)) s).2 :=
  chained.trans set (next t)

end Within

/-- The stores have the same documents, but for the records of quotas. -/
def MemoryStore.Recounted (a b : MemoryStore) : Prop := ∃ records, b = { a with records }

theorem MemoryStore.recounted_chained : Chained MemoryStore.Recounted where
  refl a := ⟨a.records, rfl⟩
  trans := by
    rintro a _ _ ⟨_, rfl⟩ ⟨records, rfl⟩
    exact ⟨records, rfl⟩

namespace Limiter

open MemoryStore (recounted_chained)

theorem find_within (userId : String) :
    Within MemoryStore.Recounted (find userId : Call MemoryStore (Option QuotaRecord)) := by
  refine Within.get_bind fun s => ?_
  split
  · exact Within.pure recounted_chained _ s
  · exact Within.throw recounted_chained _ s

theorem save_within (r : QuotaRecord) :
    Within MemoryStore.Recounted (save r : Call MemoryStore Unit) := by
  refine Within.get_bind fun s => ?_
  simp only [RecordStore.saveRecord, MemoryStore.answer]
  split
  · rename_i t saved
    split at saved
    · contradiction
    · exact ⟨_, (Except.ok.inj saved).symm⟩
  · exact Within.throw recounted_chained _ s

theorem load_within (subject : Subject) (now : Instant) :
    Within MemoryStore.Recounted (load subject now : Call MemoryStore QuotaRecord) := by
  refine Within.bind recounted_chained (find_within _) fun found => ?_
  cases found with
  | some r => exact Within.pure recounted_chained r
  | none =>
    exact Within.bind recounted_chained (save_within _) fun _ => Within.pure recounted_chained _

theorem check_within (subject : Subject) (service : Service) (now : Instant) :
    Within MemoryStore.Recounted (check subject service now : Call MemoryStore Decision) := by
  refine Within.bind recounted_chained (load_within _ _) fun r => ?_
  split
  · exact Within.throw recounted_chained _
  · rename_i q _
    simp only
    split
    · exact Within.bind recounted_chained (save_within _) fun _ => Within.pure recounted_chained _
    · exact Within.pure recounted_chained _

theorem usages_within (subject : Subject) (now : Instant) :
    Within MemoryStore.Recounted (usages subject now : Call MemoryStore (List Usage)) :=
  Within.bind recounted_chained (load_within _ _) fun _ => Within.pure recounted_chained _

theorem setCeiling_within (userId : String) (service : Service) (ceiling : UInt32) (now : Instant) :
    Within MemoryStore.Recounted
      (setCeiling userId service ceiling now : Call MemoryStore Quota) := by
  refine Within.bind recounted_chained (find_within _) fun found => ?_
  cases found with
  | none => exact Within.throw recounted_chained _
  | some r =>
    simp only
    split
    · exact Within.throw recounted_chained _
    · exact Within.bind recounted_chained (save_within _) fun _ => Within.pure recounted_chained _

end Limiter

namespace Api

section

variable {R : Site → Site → Prop} (chained : Chained R)
include chained

namespace Handler

theorem fromStore_within (r : Except StoreError α) : Within R (fromStore r) := by
  cases r with
  | ok a => exact Within.pure chained a
  | error e => exact Within.throw chained _

theorem caller_within (r : Request) : Within R (caller r) := by
  unfold caller
  cases Caller.ofRequest r with
  | ok c => exact Within.pure chained c
  | error f => exact Within.throw chained f

theorem admin_within (caller : Caller) : Within R (admin caller) := by
  unfold admin
  split
  · exact Within.pure chained _
  · exact Within.throw chained _

theorem segment_within (raw : String) : Within R (segment raw) := by
  unfold segment
  split
  · exact Within.pure chained _
  · exact Within.throw chained _

theorem body_within (r : Request) (d : Json.Decoder α) : Within R (body r d) := by
  unfold body
  repeat' split
  all_goals first
    | exact Within.pure chained _
    | exact Within.throw chained _

end Handler

theorem readLanguage_within (text : String) : Within R (readLanguage text) := by
  unfold readLanguage
  split
  · exact Within.pure chained _
  · exact Within.throw chained _

theorem checkCode_within (code : String) : Within R (checkCode code) := by
  unfold checkCode
  repeat' split
  all_goals first
    | exact Within.pure chained _
    | exact Within.throw chained _

theorem readId_within (text : String) : Within R (readId text) := by
  unfold readId
  split
  · exact Within.pure chained _
  · exact Within.throw chained _

theorem readService_within (name : String) : Within R (readService name) := by
  unfold readService
  split
  · exact Within.throw chained _
  · exact Within.throw chained _
  · exact Within.pure chained _

theorem showSubmission_within (r : Request) (raw : String) : Within R (showSubmission r raw) := by
  refine Within.bind chained (Handler.caller_within chained r) fun caller => ?_
  refine Within.bind chained (Handler.segment_within chained raw) fun text => ?_
  refine Within.bind chained (readId_within chained text) fun id => ?_
  refine Within.bind chained (Within.get chained) fun site => ?_
  refine Within.bind chained (Handler.fromStore_within chained _) fun found => ?_
  cases found with
  | none => exact Within.throw chained _
  | some s =>
    simp only
    split
    · exact Within.throw chained _
    · exact Within.pure chained _

theorem showHealth_within : Within R showHealth :=
  Within.bind chained (Within.get chained) fun _ => Within.pure chained _

theorem showMetrics_within : Within R showMetrics :=
  Within.bind chained (Within.get chained) fun _ => Within.pure chained _

theorem findProblem_within (id : Option String) : Within R (findProblem id) := by
  cases id with
  | none => exact Within.pure chained _
  | some id =>
    refine Within.bind chained (Within.get chained) fun site => ?_
    refine Within.bind chained (Handler.fromStore_within chained _) fun found => ?_
    cases found with
    | none => exact Within.throw chained _
    | some p => exact Within.pure chained _

theorem readRun_within (config : Config) (r : Request) : Within R (readRun config r) := by
  refine Within.bind chained (Handler.body_within chained r _) fun new => ?_
  refine Within.bind chained (readLanguage_within chained _) fun language => ?_
  refine Within.bind chained (checkCode_within chained _) fun _ => ?_
  simp only
  split
  · exact Within.throw chained _
  · refine Within.bind chained (findProblem_within chained _) fun problem => ?_
    exact Within.pure chained _

theorem begin_within (config : Config) (r : Request) (usage : Usage) :
    Within R (begin config r usage) := by
  refine Within.tryCatch chained ?_ fun f => Within.pure chained _
  exact Within.bind chained (readRun_within chained config r) fun units =>
    Within.pure chained _

end

end Api

/-- The sites differ in counts of requests at most. -/
def Site.Recounted (a b : Site) : Prop :=
  ∃ records limited guests, b =
    { a with
      store := { a.store with records }, metrics := { a.metrics with limited }, guests }

theorem Site.Recounted.refl (s : Site) : s.Recounted s :=
  ⟨s.store.records, s.metrics.limited, s.guests, rfl⟩

theorem Site.Recounted.trans {a b c : Site} (first : a.Recounted b) (next : b.Recounted c) :
    a.Recounted c := by
  obtain ⟨_, _, _, rfl⟩ := first
  obtain ⟨records, limited, guests, rfl⟩ := next
  exact ⟨records, limited, guests, rfl⟩

namespace Api

/-- What holds along every count of a request. -/
structure Counts (R : Site → Site → Prop) : Prop extends Chained R where
  recounted : ∀ {a b}, a.Recounted b → R a b

theorem recounted_counts : Counts Site.Recounted where
  refl := .refl
  trans := .trans
  recounted := id

variable {R : Site → Site → Prop} (counts : Counts R)
include counts

namespace Handler

theorem fromLimiter_within {call : Limiter.Call MemoryStore α}
    (within : Within MemoryStore.Recounted call) : Within R (fromLimiter call) := by
  refine Within.get_bind fun site => ?_
  have step := within site.store
  generalize StateT.run (ExceptT.run call) site.store = after at step
  obtain ⟨result, store⟩ := after
  obtain ⟨records, rfl⟩ := step
  refine Within.set_bind counts.toChained
    (counts.recounted ⟨records, site.metrics.limited, site.guests, rfl⟩) ?_
  cases result with
  | ok a => exact Within.pure counts.toChained a
  | error e => exact Within.throw counts.toChained _

theorem recordLimited_within (name : String) (f : Failure) :
    Within R (do
      modify fun s => { s with metrics := s.metrics.recordLimited name }
      throw f : Handler Usage) :=
  fun s => counts.recounted ⟨s.store.records, _, s.guests, rfl⟩

theorem gate_within (caller : Caller) (service : Service) : Within R (gate caller service) := by
  refine Within.bind counts.toChained (Within.get counts.toChained) fun site => ?_
  refine Within.bind counts.toChained (fromLimiter_within counts (Limiter.check_within _ _ _))
    fun decision => ?_
  split
  · exact Within.pure counts.toChained _
  · exact recordLimited_within counts _ _

theorem gateGuest_within (address : String) : Within R (gateGuest address) := by
  refine Within.get_bind fun site => ?_
  generalize site.guests.check address site.now = checked
  obtain ⟨decision, guests⟩ := checked
  refine Within.set_bind counts.toChained
    (counts.recounted ⟨site.store.records, site.metrics.limited, guests, rfl⟩) ?_
  split
  · exact Within.pure counts.toChained _
  · exact recordLimited_within counts _ _

end Handler

theorem showUsages_within (r : Request) : Within R (showUsages r) := by
  refine Within.bind counts.toChained (Handler.caller_within counts.toChained r) fun caller => ?_
  refine Within.bind counts.toChained (Within.get counts.toChained) fun site => ?_
  refine Within.bind counts.toChained
    (Handler.fromLimiter_within counts (Limiter.usages_within _ _)) fun usages => ?_
  exact Within.pure counts.toChained _

theorem consume_within (r : Request) (raw : String) : Within R (consume r raw) := by
  refine Within.bind counts.toChained (Handler.caller_within counts.toChained r) fun caller => ?_
  refine Within.bind counts.toChained (Handler.segment_within counts.toChained raw) fun text => ?_
  refine Within.bind counts.toChained (readService_within counts.toChained text) fun service => ?_
  refine Within.bind counts.toChained (Handler.gate_within counts caller service) fun usage => ?_
  exact Within.pure counts.toChained _

theorem setCeiling_within (r : Request) : Within R (setCeiling r) := by
  refine Within.bind counts.toChained (Handler.caller_within counts.toChained r) fun caller => ?_
  refine Within.bind counts.toChained (Handler.body_within counts.toChained r _) fun new => ?_
  refine Within.bind counts.toChained (Handler.admin_within counts.toChained caller) fun _ => ?_
  refine Within.bind counts.toChained (readService_within counts.toChained _) fun service => ?_
  refine Within.bind counts.toChained (Within.get counts.toChained) fun site => ?_
  refine Within.bind counts.toChained
    (Handler.fromLimiter_within counts (Limiter.setCeiling_within _ _ _ _)) fun quota => ?_
  exact Within.pure counts.toChained _

theorem showRecord_within (r : Request) (raw : String) : Within R (showRecord r raw) := by
  refine Within.bind counts.toChained (Handler.caller_within counts.toChained r) fun caller => ?_
  refine Within.bind counts.toChained (Handler.segment_within counts.toChained raw) fun userId => ?_
  refine Within.bind counts.toChained (Handler.admin_within counts.toChained caller) fun _ => ?_
  refine Within.bind counts.toChained
    (Handler.fromLimiter_within counts (Limiter.find_within _)) fun found => ?_
  cases found with
  | none => exact Within.throw counts.toChained _
  | some record => exact Within.pure counts.toChained _

end Api

end Grader

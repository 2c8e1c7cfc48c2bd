import Grader.Api.Server
import Grader.Proofs.Answer
import Grader.Proofs.Isolation
import Grader.Proofs.Process
import Grader.Proofs.RequestStep
import Grader.Proofs.Segments

/-! Requests that are refused. A refusal leaves the documents, the queue and the engine alone, and
costs its caller nothing but the one unit that was paid at the gate of a route. -/
namespace Grader

namespace Table

variable [BEq κ] [LawfulBEq κ]

theorem put_put (t : Table κ α) (key : κ) (a b : α) : (t.put key a).put key b = t.put key b := by
  obtain ⟨es⟩ := t
  show Table.mk _ = Table.mk _
  congr 1
  induction es with
  | nil => simp [put, putEntry]
  | cons e es ih =>
    by_cases same : key == e.1
    · simp [put, putEntry, same]
    · simpa [put, putEntry, same] using ih

theorem put_of_get? {t : Table κ α} {key : κ} {a : α} (found : t.get? key = some a) :
    t.put key a = t := by
  obtain ⟨es⟩ := t
  show Table.mk _ = Table.mk _
  congr 1
  induction es with
  | nil => contradiction
  | cons e es ih =>
    obtain ⟨k, b⟩ := e
    by_cases same : key = k
    · obtain rfl := same
      have value : some b = some a := by simpa [get?, List.lookup_cons] using found
      simp [putEntry, Option.some.inj value]
    · have other : (key == k) = false := beq_eq_false_iff_ne.mpr same
      have later : (Table.mk es).get? key = some a := by
        simpa only [get?, List.lookup_cons, other] using found
      simpa [putEntry, same] using ih later

end Table

/-- The documents, the queue and the calls of the engine are as they were. -/
structure Site.Undisturbed (a b : Site) : Prop where
  submissions : b.store.submissions = a.store.submissions
  problems : b.store.problems = a.store.problems
  cases : b.store.cases = a.store.cases
  queue : b.queue = a.queue
  calls : b.calls = a.calls

/-- Nothing has changed but metrics and the counts of guests. -/
def Site.Unspent (a b : Site) : Prop := ∃ metrics guests, b = { a with metrics, guests }

theorem Site.Unspent.refl (s : Site) : s.Unspent s := ⟨s.metrics, s.guests, rfl⟩

theorem Site.Unspent.undisturbed {a b : Site} (unspent : a.Unspent b) : a.Undisturbed b := by
  obtain ⟨_, _, rfl⟩ := unspent
  exact ⟨rfl, rfl, rfl, rfl, rfl⟩

theorem Site.Unspent.store {a b : Site} (unspent : a.Unspent b) : b.store = a.store := by
  obtain ⟨_, _, rfl⟩ := unspent
  rfl

/-- What is written over and written back is as it was. -/
theorem Site.undisturbed_restored {site : Site} (keyed : site.Keyed) {id : Uuid}
    {failed current : Submission} (found : site.stored? id = some failed)
    (same : current.id = failed.id) (metrics : Metrics) :
    site.Undisturbed { (site.keep current).keep failed with metrics } where
  submissions := by
    have own : failed.id = id := keyed id failed found
    show (site.store.submissions.put current.id current).put failed.id failed = _
    rw [same, Table.put_put, Table.put_of_get? (own ▸ found)]
  problems := rfl
  cases := rfl
  queue := rfl
  calls := rfl

namespace Api

open Handler

theorem plain_ends (fresh : Uuid) (r : Request) {route : Route} (direct : route ≠ .execute) :
    Ends (fun response => response.status < 400) (fun _ => True) (plain fresh r route) := by
  have concludes (result : Site × Except Failure Submission) :
      Ends (fun response => response.status < 400) (fun _ => True) (concluded result) := by
    refine (ends_any _).bind fun _ _ => ?_
    cases result.2 with
    | ok s => exact ends_pure (by decide : (202 : Nat) < 400)
    | error f => exact ends_throw trivial
  cases route with
  | execute => contradiction
  | guest => exact ends_pure (by decide : (201 : Nat) < 400)
  | submissions =>
    exact (ends_any _).bind fun _ _ => (ends_any _).bind fun _ _ => (ends_any _).bind fun _ _ =>
      (ends_any _).bind fun _ _ => ends_get.bind fun _ _ => concludes _
  | requeue =>
    exact (ends_any _).bind fun _ _ => (ends_any _).bind fun _ _ => (ends_any _).bind fun _ _ =>
      (ends_any _).bind fun _ _ => ends_get.bind fun _ _ => concludes _
  | submission =>
    refine (ends_any _).bind fun c _ => (ends_any _).bind fun _ _ => (ends_any _).bind fun _ _ =>
      ends_get.bind fun _ _ => (ends_any _).bind fun found _ => ?_
    cases found with
    | none => exact ends_throw trivial
    | some s =>
      simp only
      split
      · exact ends_throw trivial
      · exact ends_pure (by decide : (200 : Nat) < 400)
  | usages =>
    exact (ends_any _).bind fun _ _ => (ends_any _).bind fun _ _ => (ends_any _).bind fun _ _ =>
      ends_pure (by decide : (200 : Nat) < 400)
  | consume =>
    exact (ends_any _).bind fun _ _ => (ends_any _).bind fun _ _ => (ends_any _).bind fun _ _ =>
      (ends_any _).bind fun _ _ => ends_pure (by decide : (200 : Nat) < 400)
  | ceilings =>
    exact (ends_any _).bind fun _ _ => (ends_any _).bind fun _ _ => (ends_any _).bind fun _ _ =>
      (ends_any _).bind fun _ _ => (ends_any _).bind fun _ _ => (ends_any _).bind fun _ _ =>
      ends_pure (by decide : (200 : Nat) < 400)
  | record =>
    refine (ends_any _).bind fun _ _ => (ends_any _).bind fun _ _ => (ends_any _).bind fun _ _ =>
      (ends_any _).bind fun found _ => ?_
    cases found with
    | none => exact ends_throw trivial
    | some record => exact ends_pure (by decide : (200 : Nat) < 400)
  | health => exact ends_get.bind fun _ _ => ends_pure (by decide : (200 : Nat) < 400)
  | metrics => exact ends_get.bind fun _ _ => ends_pure (by decide : (200 : Nat) < 400)

theorem run_fromLimiter (call : Limiter.Call MemoryStore α) (site : Site) :
    (fromLimiter call).run site =
      ((Limiter.run call site.store).1.mapError .ofLimiter,
        { site with store := (Limiter.run call site.store).2 }) := by
  unfold fromLimiter
  rw [run_get_bind]
  unfold Limiter.run
  generalize StateT.run (ExceptT.run call) site.store = ran
  obtain ⟨result, store⟩ := ran
  cases result <;> rfl

theorem fresh_check_allowed {subject : Subject} {service : Service} {now : Instant} {q : Quota}
    (found : (QuotaRecord.new subject now).quota? service subject.isAdmin now = some q) :
    (q.check now).1.allowed = true := by
  have default : QuotaRecord.default? service subject.isAdmin now = some q := by
    unfold QuotaRecord.quota? at found
    split at found
    · rename_i listed
      exact listed.trans found
    · exact found
  exact QuotaRecord.default?_check_allowed default now

/-- Where nothing is left of a quota the record of it was there, and is left as it is. -/
theorem run_check_cases {s : MemoryStore} (serves : s.ServesRecords) (subject : Subject)
    {service : Service} (limited : service ≠ .guestCreation) (now : Instant) :
    ∃ decision store, Limiter.run (Limiter.check subject service now) s = (.ok decision, store) ∧
      (decision.allowed = false → store = s) := by
  obtain ⟨q, found⟩ := QuotaRecord.quota?_isSome limited (s.recordFor subject now) subject.isAdmin now
  have checked := Limiter.run_check serves subject service now
  rw [found] at checked
  refine ⟨_, _, checked, fun refused => ?_⟩
  rw [refused, if_neg Bool.false_ne_true]
  unfold MemoryStore.opened
  cases there : s.records.get? subject.userId with
  | some r => rfl
  | none =>
    have fresh : s.recordFor subject now = .new subject now := by
      rw [MemoryStore.recordFor, there, Option.getD_none]
    rw [fresh] at found
    rw [fresh_check_allowed found] at refused
    contradiction

/-- A request that is let through has paid its unit, and one that is not has paid nothing. -/
theorem run_gate {site : Site} (faultless : site.Faultless) (caller : Caller) {service : Service}
    (limited : service ≠ .guestCreation) :
    (∃ usage store, Limiter.run (Limiter.check caller.subject service site.now) site.store =
        (.ok ⟨true, usage⟩, store) ∧
      (gate caller service).run site = (.ok usage, { site with store })) ∨
    ∃ usage metrics,
      (gate caller service).run site = (.error (.limited usage), { site with metrics }) := by
  obtain ⟨decision, store, checked, refused⟩ :=
    run_check_cases ⟨faultless _, faultless _⟩ caller.subject limited site.now
  have called := run_fromLimiter (Limiter.check caller.subject service site.now) site
  rw [checked] at called
  unfold gate
  rw [run_get_bind, run_bind_ok called]
  cases allowed : decision.allowed with
  | true =>
    refine .inl ⟨decision.usage, store, ?_, rfl⟩
    rw [checked, ← allowed]
  | false =>
    rw [refused allowed]
    exact .inr ⟨decision.usage, _, rfl⟩

/-- An intake that is refused for its content has changed nothing. -/
theorem Intake.finish_refused {site : Site} (faultless : site.Faultless) (s : Submission)
    {f : Failure} (ended : (Intake.finish site (.findProblem s)).2.result = .error f) :
    (Intake.finish site (.findProblem s)).1 = site ∧ f.OfContent ∨ f.status = 503 := by
  have ends := Intake.finish_ends faultless s
  generalize Intake.finish site (.findProblem s) = p at ends ended
  cases ends with
  | barred missing =>
    obtain rfl := Except.error.inj ended
    exact .inl ⟨rfl, Failure.ofContent 404 rfl (by decide)⟩
  | queued | flying => cases ended
  | withdrawn metrics e offered =>
    obtain rfl := Except.error.inj ended
    exact .inr rfl

/-- A requeue that is refused leaves the failed submission as it found it. -/
theorem Requeue.finish_refused {site : Site} (faultless : site.Faultless) (keyed : site.Keyed)
    {id : Uuid} {f : Failure} (ended : (Requeue.finish site (.load id)).2.result = .error f) :
    site.Undisturbed (Requeue.finish site (.load id)).1 ∧
      (Requeue.finish site (.load id)).1.store.records = site.store.records := by
  have ends := Requeue.finish_ends faultless id
  generalize Requeue.finish site (.load id) = p at ends ended
  cases ends with
  | missing | barred => exact ⟨(Site.Unspent.refl site).undisturbed, rfl⟩
  | queued => cases ended
  | flying failed found _ metrics | refused failed found _ metrics =>
    have same : (failed.reset site.now).id = failed.id := rfl
    exact ⟨Site.undisturbed_restored keyed found same metrics, rfl⟩

def Failing (P : Failure → Site → Prop) (site : Site) (h : Handler α) : Prop :=
  ∀ f after, h.run site = (.error f, after) → P f after

def Frugal (site : Site) (h : Handler α) : Prop := Failing (fun _ after => site.Unspent after) site h

section

variable {site : Site} {P : Failure → Site → Prop}

theorem failing_of_still {h : Handler α} (still : h.Still) {good : α → Prop} {bad : Failure → Prop}
    (ends : h.Ends good bad) (implied : ∀ f, bad f → P f site) : Failing P site h := by
  intro f after ran
  have same : (h.run site).2 = site := still site
  rw [ran] at same
  obtain rfl : after = site := same
  rcases ends after with ⟨_, _, ok, _⟩ | ⟨d, _, failed, no⟩
  · rw [ran] at ok
    cases (Prod.mk.inj ok).1
  · rw [ran] at failed
    obtain rfl := Except.error.inj (Prod.mk.inj failed).1
    exact implied f no

theorem failing_bind {h : Handler α} (still : h.Still) {f : α → Handler β}
    (first : Failing P site h)
    (next : ∀ a, h.run site = (.ok a, site) → Failing P site (f a)) : Failing P site (h >>= f) := by
  intro e after ran
  rcases run_bind h f site with ⟨d, u, failed, bound⟩ | ⟨a, u, read, bound⟩
  · rw [bound] at ran
    obtain ⟨same, rfl⟩ := Prod.mk.inj ran
    obtain rfl := Except.error.inj same
    exact first d u failed
  · have same : (h.run site).2 = site := still site
    rw [read] at same
    obtain rfl : u = site := same
    exact next a read e after (bound ▸ ran)

theorem frugal_of_still {h : Handler α} (still : h.Still) : Frugal site h :=
  failing_of_still still (ends_any h) fun _ _ => .refl site

theorem frugal_bind {h : Handler α} (still : h.Still) {f : α → Handler β}
    (next : ∀ a, h.run site = (.ok a, site) → Frugal site (f a)) : Frugal site (h >>= f) :=
  failing_bind still (frugal_of_still still) next

theorem frugal_map {h : Handler α} (frugal : Frugal site h) (g : α → β) :
    Frugal site (h >>= fun a => pure (g a)) := by
  intro e after ran
  rcases run_bind h (fun a => pure (g a)) site with ⟨d, u, failed, bound⟩ | ⟨a, u, _, bound⟩
  · rw [bound] at ran
    obtain ⟨-, rfl⟩ := Prod.mk.inj ran
    exact frugal d _ failed
  · rw [bound] at ran
    cases (Prod.mk.inj ran).1

theorem frugal_fromLimiter {call : Limiter.Call MemoryStore α}
    (kept : ∀ e store, Limiter.run call site.store = (.error e, store) → store = site.store) :
    Frugal site (fromLimiter call) := by
  intro f after ran
  rw [run_fromLimiter] at ran
  obtain ⟨failed, rfl⟩ := Prod.mk.inj ran
  cases called : Limiter.run call site.store with
  | mk result store =>
    cases result with
    | ok a =>
      rw [called] at failed
      cases failed
    | error e =>
      rw [kept e store called]
      exact .refl site

theorem frugal_gate (faultless : site.Faultless) (caller : Caller) {service : Service}
    (limited : service ≠ .guestCreation) : Frugal site (gate caller service) := by
  intro f after ran
  rcases run_gate faultless caller limited with ⟨_, _, _, passed⟩ | ⟨_, metrics, stopped⟩
  · rw [passed] at ran
    cases (Prod.mk.inj ran).1
  · rw [stopped] at ran
    obtain ⟨-, rfl⟩ := Prod.mk.inj ran
    exact ⟨metrics, site.guests, rfl⟩

theorem run_gateGuest (address : String) (site : Site) :
    ∃ result metrics guests, (gateGuest address).run site = (result, { site with metrics, guests }) := by
  unfold gateGuest
  rw [run_get_bind]
  generalize site.guests.check address site.now = checked
  obtain ⟨decision, guests⟩ := checked
  simp only
  split
  · exact ⟨.ok decision.usage, site.metrics, guests, rfl⟩
  · exact ⟨.error (.limited decision.usage), _, guests, rfl⟩

theorem run_readService_ok {name : String} {after : Site} {service : Service}
    (read : (readService name).run site = (.ok service, after)) : service ≠ .guestCreation := by
  unfold readService at read
  split at read
  · cases (Prod.mk.inj read).1
  · cases (Prod.mk.inj read).1
  · rename_i limited _
    obtain rfl := Except.ok.inj (Prod.mk.inj read).1
    exact limited

theorem plain_frugal (faultless : site.Faultless) (fresh : Uuid) (r : Request) {route : Route}
    (ungated : route.gate? = none) (noRequeue : ∀ raw, route ≠ .requeue raw) :
    Frugal site (plain fresh r route) := by
  have serves : site.store.ServesRecords := ⟨faultless _, faultless _⟩
  have caller := caller_within still_chained r
  cases route with
  | submissions | execute => contradiction
  | requeue raw => exact absurd rfl (noRequeue raw)
  | submission raw => exact frugal_of_still (showSubmission_within still_chained r raw)
  | guest => exact frugal_of_still (Within.pure still_chained _)
  | health => exact frugal_of_still (showHealth_within still_chained)
  | metrics => exact frugal_of_still (showMetrics_within still_chained)
  | usages =>
    refine frugal_bind caller fun c _ => frugal_bind (Within.get still_chained) fun s _ => ?_
    refine frugal_map (frugal_fromLimiter fun e store called => ?_) _
    rw [Limiter.run_usages serves] at called
    cases (Prod.mk.inj called).1
  | consume raw =>
    refine frugal_bind caller fun c _ => frugal_bind (segment_within still_chained raw) fun text _ => ?_
    refine frugal_bind (readService_within still_chained text) fun service read => ?_
    exact frugal_map (frugal_gate faultless c (run_readService_ok read)) _
  | ceilings =>
    refine frugal_bind caller fun c _ => frugal_bind (body_within still_chained r _) fun new _ => ?_
    refine frugal_bind (admin_within still_chained c) fun _ _ => ?_
    refine frugal_bind (readService_within still_chained _) fun service _ => ?_
    refine frugal_bind (Within.get still_chained) fun s _ => ?_
    refine frugal_map (frugal_fromLimiter fun e store called => ?_) _
    rw [Limiter.run_setCeiling serves] at called
    split at called
    · exact (Prod.mk.inj called).2.symm
    · split at called
      · exact (Prod.mk.inj called).2.symm
      · cases (Prod.mk.inj called).1
  | record raw =>
    refine frugal_bind caller fun c _ => ?_
    refine frugal_bind (segment_within still_chained raw) fun userId _ => ?_
    refine frugal_bind (admin_within still_chained c) fun _ _ => ?_
    have found := run_fromLimiter (Limiter.find userId) site
    rw [Limiter.run_find serves] at found
    intro f after ran
    rw [run_bind_ok found] at ran
    split at ran
    · obtain ⟨-, rfl⟩ := Prod.mk.inj ran
      exact .refl site
    · cases (Prod.mk.inj ran).1

/-- A submission that is refused past the gate is refused for its content and not stored, unless the
queue does not take it. -/
theorem createSubmission_failing (faultless : site.Faultless) (fresh : Uuid) {r : Request}
    {c : Caller} (identified : Caller.ofRequest r = .ok c) :
    Failing (fun f after => f.OfContent ∧ after = site ∨ f.status = 503) site
      (createSubmission fresh r) := by
  have content (f : Failure) (no : f.OfContent) : f.OfContent ∧ site = site ∨ f.status = 503 :=
    .inl ⟨no, rfl⟩
  intro f after ran
  unfold createSubmission at ran
  rw [run_bind_ok (run_caller identified site)] at ran
  revert f after
  refine failing_bind (body_within still_chained r _)
    (failing_of_still (body_within still_chained r _) (body_ends r _) content) fun new _ => ?_
  refine failing_bind (readLanguage_within still_chained _)
    (failing_of_still (readLanguage_within still_chained _) (readLanguage_ends _) content)
    fun language _ => ?_
  refine failing_bind (checkCode_within still_chained _)
    (failing_of_still (checkCode_within still_chained _) (checkCode_ends _) content) fun _ _ => ?_
  intro f after ran
  rw [run_get_bind, run_concluded] at ran
  obtain ⟨ended, rfl⟩ := Prod.mk.inj ran
  cases result : (Intake.finish site (.findProblem
      (.new fresh c.userId new.problemId language new.code site.now))).2.result with
  | ok s =>
    rw [result] at ended
    cases ended
  | error d =>
    rw [result] at ended
    obtain rfl := Except.error.inj ended
    exact (Intake.finish_refused faultless _ result).imp_left fun ⟨same, no⟩ => ⟨no, same⟩

theorem run_begin (config : Config) (r : Request) (usage : Usage) (site : Site) :
    (∃ units, (begin config r usage).run site = (.ok (.run units usage), site)) ∨
      ∃ f : Failure, f.OfContent ∧
        (begin config r usage).run site = (.ok (.reply (f.response.withUsage usage)), site) := by
  have same : ((readRun config r).run site).2 = site := readRun_within still_chained config r site
  unfold begin
  rw [run_tryCatch]
  rcases readRun_ends config r site with ⟨units, after, ran, -⟩ | ⟨f, after, ran, content⟩
  · rw [ran] at same
    obtain rfl : after = site := same
    rw [run_bind_ok ran]
    exact .inl ⟨units, rfl⟩
  · rw [ran] at same
    obtain rfl : after = site := same
    rw [run_bind_error ran]
    exact .inr ⟨f, content, rfl⟩

end

theorem status_of_unidentified {r : Request} {f : Failure}
    (unknown : Caller.ofRequest r = .error f) : f.status = 401 := by
  unfold Caller.ofRequest at unknown
  split at unknown
  · obtain rfl := Except.error.inj unknown
    rfl
  · contradiction

structure Refusal (route : Route) (r : Request) (status : Nat) (site after : Site) : Prop where
  undisturbed : site.Undisturbed after
  kept (free : status ∈ [401, 403, 409, 429] ∨ route.gate? = none) :
    after.store.records = site.store.records
  paid (service : Service) (gated : route.gate? = some service) (past : status ∉ [401, 429]) :
    ∃ caller usage, Caller.ofRequest r = .ok caller ∧
      Limiter.run (Limiter.check caller.subject service site.now) site.store =
        (.ok ⟨true, usage⟩, after.store) ∧
      after = { site with store := after.store } ∧
      site.store.Alters caller.userId after.store

theorem refusal_of_unspent {route : Route} {r : Request} {status : Nat} {site after : Site}
    (unspent : site.Unspent after) (free : route.gate? = none ∨ status ∈ [401, 429]) :
    Refusal route r status site after where
  undisturbed := unspent.undisturbed
  kept _ := by rw [unspent.store]
  paid service gated past := by
    rcases free with ungated | free
    · rw [ungated] at gated
      contradiction
    · exact absurd free past

theorem check_recounted {subject : Subject} {service : Service} {now : Instant} {s store : MemoryStore}
    {decision : Decision}
    (checked : Limiter.run (Limiter.check subject service now) s = (.ok decision, store)) :
    ∃ records, store = { s with records } := by
  have recounted := Limiter.check_within subject service now s
  rwa [show StateT.run (ExceptT.run (Limiter.check subject service now)) s = _ from checked]
    at recounted

theorem refusal_of_paid {route : Route} {r : Request} {f : Failure} {site : Site}
    {store : MemoryStore} {service : Service} {caller : Caller} {usage : Usage}
    (faultless : site.Faultless) (keyed : site.store.records.Keyed QuotaRecord.userId)
    (gated : route.gate? = some service) (identified : Caller.ofRequest r = .ok caller)
    (checked : Limiter.run (Limiter.check caller.subject service site.now) site.store =
      (.ok ⟨true, usage⟩, store)) (content : f.OfContent) :
    Refusal route r f.status site { site with store } where
  undisturbed := by
    obtain ⟨records, rfl⟩ := check_recounted checked
    exact ⟨rfl, rfl, rfl, rfl, rfl⟩
  kept free := by
    rcases free with free | ungated
    · exact absurd free content.unlisted
    · rw [ungated] at gated
      contradiction
  paid other same _ := by
    obtain rfl := Option.some.inj (gated.symm.trans same)
    have alters := Limiter.Turn.take_alters ⟨faultless _, faultless _⟩ keyed
      (.check caller.subject service site.now)
    simp only [Limiter.Turn.take, checked] at alters
    exact ⟨caller, usage, identified, checked, rfl, alters⟩

section

variable {config : Config} {fresh : Uuid} {r : Request} {route : Route} {site after : Site}
  {response : Response}

/-- A reply of a route without a gate is no refusal, or tells how the handler of the route failed. -/
theorem ungated_reply (ungated : route.gate? = none) (direct : route ≠ .guest)
    (taken : route.takes r.method = true)
    (ran : answered route r ((answerRoute config fresh r route).run site) = (.reply response, after)) :
    response.status < 400 ∨
      ∃ f, (plain fresh r route).run site = (.error f, after) ∧ response.status = f.status := by
  have routed_eq : routed fresh r route = plain fresh r route := if_pos taken
  have executes : route ≠ .execute := by
    rintro rfl
    contradiction
  unfold answerRoute at ran
  simp only [ungated, if_neg direct, routed_eq] at ran
  rcases plain_ends fresh r executes site with ⟨q, u, ended, fine⟩ | ⟨f, u, failed, -⟩
  · rw [run_bind_ok ended] at ran
    obtain ⟨same, rfl⟩ := Prod.mk.inj ran
    obtain rfl := Answer.reply.inj same
    exact .inl (by rwa [status_headOnly])
  · rw [run_bind_error failed] at ran
    obtain ⟨same, rfl⟩ := Prod.mk.inj ran
    obtain rfl := Answer.reply.inj same
    exact .inr ⟨f, failed, by rw [status_headOnly, Failure.response_status]⟩

/-- A refused requeue has read nothing, or is told by how its steps end. -/
theorem requeue_refusal (faultless : site.Faultless) (keyed : site.Keyed) {raw : String} {f : Failure}
    (failed : (requeueSubmission r raw).run site = (.error f, after)) :
    Refusal (.requeue raw) r f.status site after := by
  rcases run_requeueSubmission r raw site with ⟨e, _, same⟩ | ⟨_, _, id, _, _, _, _, went⟩
  · rw [same] at failed
    obtain ⟨-, rfl⟩ := Prod.mk.inj failed
    exact refusal_of_unspent (.refl site) (.inl rfl)
  · rw [went] at failed
    obtain ⟨ended, rfl⟩ := Prod.mk.inj failed
    cases result : (Requeue.finish site (.load id)).2.result with
    | ok s =>
      rw [result] at ended
      cases ended
    | error e =>
      obtain ⟨undisturbed, records⟩ := Requeue.finish_refused faultless keyed result
      exact ⟨undisturbed, fun _ => records, fun _ gated => nomatch gated⟩

theorem answerRoute_guest (config : Config) (fresh : Uuid) (r : Request) :
    answerRoute config fresh r .guest = (do
      let usage ← gateGuest r.address
      let response ← routed fresh r .guest
      pure (.reply (response.withUsage usage))) := rfl

theorem guest_refusal (taken : Route.guest.takes r.method = true)
    (ran : answered .guest r ((answerRoute config fresh r .guest).run site) = (.reply response, after))
    (refused : 400 ≤ response.status) : Refusal .guest r response.status site after := by
  obtain ⟨result, metrics, guests, counted⟩ := run_gateGuest r.address site
  rw [answerRoute_guest, show routed fresh r .guest = pure (createGuest fresh) from if_pos taken] at ran
  cases result with
  | ok usage =>
    rw [run_bind_ok counted] at ran
    obtain ⟨same, rfl⟩ := Prod.mk.inj ran
    obtain rfl := Answer.reply.inj same
    exact absurd refused (by decide : ¬400 ≤ 201)
  | error f =>
    rw [run_bind_error counted] at ran
    obtain ⟨-, rfl⟩ := Prod.mk.inj ran
    exact refusal_of_unspent ⟨metrics, guests, rfl⟩ (.inl rfl)

theorem failed_reply {f : Failure} {u : Site}
    (ran : answered route r (.error f, u) = (.reply response, after)) :
    response.status = f.status ∧ after = u := by
  obtain ⟨same, rfl⟩ := Prod.mk.inj ran
  obtain rfl := Answer.reply.inj same
  exact ⟨by rw [status_headOnly, Failure.response_status], rfl⟩

theorem submitted_refusal {c : Caller} {usage : Usage} {u : Site} (faultless : u.Faultless)
    (identified : Caller.ofRequest r = .ok c)
    (ran : answered .submissions r ((told (createSubmission fresh r) >>= fun q =>
      (pure (.reply (q.withUsage usage)) : Handler Answer)).run u) = (.reply response, after))
    (refused : 400 ≤ response.status) (client : response.status < 500) :
    ∃ f : Failure, f.OfContent ∧ response.status = f.status ∧ after = u := by
  have direct : Route.submissions ≠ .execute := by decide
  rw [run_told_bind] at ran
  obtain ⟨same, rfl⟩ := Prod.mk.inj ran
  obtain rfl := Answer.reply.inj same
  rcases plain_ends fresh r direct u with ⟨q, v, ended, fine⟩ | ⟨f, v, failed, -⟩
  · change (createSubmission fresh r).run u = _ at ended
    rw [ended] at refused
    exact absurd (show q.status < 400 from fine) (Nat.not_lt.mpr refused)
  · change (createSubmission fresh r).run u = _ at failed
    have status : (Response.ofRun ((createSubmission fresh r).run u).1).status = f.status := by
      rw [failed]
      exact f.response_status
    rw [failed]
    rcases createSubmission_failing faultless fresh identified f v failed with
      ⟨content, same⟩ | unavailable
    · exact ⟨f, content, f.response_status, same⟩
    · have told : (Response.ofRun ((createSubmission fresh r).run u).1).status < 500 := client
      omega

theorem gated_refusal {service : Service} (gated : route.gate? = some service)
    (faultless : site.Faultless) (keyed : site.store.records.Keyed QuotaRecord.userId)
    (taken : route.takes r.method = true)
    (ran : answered route r ((answerRoute config fresh r route).run site) = (.reply response, after))
    (refused : 400 ≤ response.status) (client : response.status < 500) :
    Refusal route r response.status site after := by
  have limited : service ≠ .guestCreation := by
    cases route <;> cases gated <;> decide
  have routed_eq : routed fresh r route = plain fresh r route := if_pos taken
  unfold answerRoute at ran
  simp only [gated, routed_eq] at ran
  cases identified : Caller.ofRequest r with
  | error f =>
    have unknown : (caller r).run site = (.error f, site) := by
      unfold caller
      rw [identified]
      rfl
    rw [run_bind_error unknown] at ran
    obtain ⟨status, rfl⟩ := failed_reply ran
    rw [status]
    exact refusal_of_unspent (.refl after) (.inr (by rw [status_of_unidentified identified]; decide))
  | ok c =>
    rw [run_bind_ok (run_caller identified site)] at ran
    rcases run_gate faultless c limited with ⟨usage, store, checked, passed⟩ | ⟨usage, metrics, stopped⟩
    · rw [run_bind_ok passed] at ran
      have paid {f : Failure} := refusal_of_paid (f := f) faultless keyed gated identified checked
      split at ran
      · rcases run_begin config r usage { site with store } with ⟨units, began⟩ | ⟨f, content, barred⟩
        · rw [began] at ran
          cases (Prod.mk.inj ran).1
        · rw [barred] at ran
          obtain ⟨same, rfl⟩ := Prod.mk.inj ran
          obtain rfl := Answer.reply.inj same
          exact Failure.response_status f ▸ paid content
      · rename_i waits
        have submits : route = .submissions := by
          cases route with
          | submissions => rfl
          | execute => exact absurd ⟨rfl, taken⟩ waits
          | _ => cases gated
        obtain rfl := submits
        have still : ({ site with store } : Site).Faultless := by
          obtain ⟨records, rfl⟩ := check_recounted checked
          exact faultless
        obtain ⟨f, content, status, same⟩ := submitted_refusal still identified ran refused client
        rw [status, same]
        exact paid content
    · rw [run_bind_error stopped] at ran
      obtain ⟨status, rfl⟩ := failed_reply ran
      rw [status]
      exact refusal_of_unspent ⟨metrics, site.guests, rfl⟩ (.inr (by decide : 429 ∈ [401, 429]))

theorem answer_refusal (routes : Route.ofSegments? r.segments = some route)
    (taken : route.takes r.method = true) (faultless : site.Faultless) (keyed : site.Keyed)
    (records : site.store.records.Keyed QuotaRecord.userId)
    (ran : StateT.run (answer config fresh r) site = (.reply response, after))
    (refused : 400 ≤ response.status) (client : response.status < 500) :
    Refusal route r response.status site after := by
  rw [answer_run routes] at ran
  cases gated : route.gate? with
  | some service => exact gated_refusal gated faultless records taken ran refused client
  | none =>
    by_cases guest : route = .guest
    · obtain rfl := guest
      exact guest_refusal taken ran refused
    rcases ungated_reply gated guest taken ran with fine | ⟨f, failed, status⟩
    · omega
    rw [status]
    by_cases requeue : ∃ raw, route = .requeue raw
    · obtain ⟨raw, rfl⟩ := requeue
      exact requeue_refusal faultless keyed failed
    · have unspent := plain_frugal faultless fresh r gated
        (fun raw same => requeue ⟨raw, same⟩) f after failed
      exact refusal_of_unspent unspent (.inl gated)

end

/-- Only the route of custom runs has units to run, and what comes of those is no refusal. -/
theorem respond_cases (setup : Setup) (fresh : Uuid) (r : Request) (running : Running) :
    (∃ response site, StateT.run (answer setup.config fresh r) running.site = (.reply response, site) ∧
      respond setup fresh r running = (response, running.withSite site)) ∨
    (respond setup fresh r running).1.status ∈ [200, 500] := by
  cases ran : StateT.run (answer setup.config fresh r) running.site with
  | mk a site =>
    unfold respond
    rw [ran]
    cases a with
    | reply response => exact .inl ⟨response, site, rfl, rfl⟩
    | run units usage =>
      right
      simp only
      generalize runUnits setup units (running.withSite site) = p
      obtain ⟨results, after⟩ := p
      cases results with
      | some results => exact List.mem_cons_self
      | none => exact List.mem_cons_of_mem _ List.mem_cons_self

/-- A request that is refused, of a route that takes it, disturbs nothing. It leaves the records of
quotas alone but for the unit that was paid for it at a gate. -/
theorem respond_refusal (setup : Setup) (fresh : Uuid) {r : Request} {route : Route}
    (routes : Route.ofSegments? r.segments = some route) (taken : route.takes r.method = true)
    {running after : Running} (faultless : running.site.Faultless) (keyed : running.site.Keyed)
    (records : running.site.store.records.Keyed QuotaRecord.userId) {response : Response}
    (responded : respond setup fresh r running = (response, after))
    (refused : 400 ≤ response.status) (client : response.status < 500) :
    after = running.withSite after.site ∧
      Refusal route r response.status running.site after.site := by
  rcases respond_cases setup fresh r running with ⟨_, site, ran, replied⟩ | other
  · rw [responded] at replied
    obtain ⟨rfl, rfl⟩ := Prod.mk.inj replied
    exact ⟨rfl, answer_refusal routes taken faultless keyed records ran refused client⟩
  · rw [responded] at other
    have status : response.status = 200 ∨ response.status = 500 := by simpa using other
    omega

end Api

namespace Untyped

open Api

/-- Nothing says that the body is a document. -/
def request : Request := ⟨"POST", "/submissions", [("x-user-id", "ada")], "print(1)", none⟩

theorem identified : Caller.ofRequest request = .ok ⟨"ada", "ada", false⟩ :=
  Caller.ofRequest_eq_ok (by decide +kernel)

theorem untyped : request.hasJsonType = false := by decide +kernel

theorem create_fails (site : Site) :
    (createSubmission (.ofNat 8) request).run site = (.error (.unreadable 415), site) := by
  have unread : (Handler.body request NewSubmission.fields.decode).run site =
      (.error (.unreadable 415), site) := by
    unfold Handler.body
    rw [untyped]
    rfl
  unfold createSubmission
  rw [Handler.run_bind_ok (Handler.run_caller identified site), Handler.run_bind_error unread]

theorem request_routes : Route.ofSegments? request.segments = some .submissions := by
  rw [Request.segments, Target.segments_eq]
  decide

theorem answer_status : ∃ response after,
    StateT.run (answer Echo.setup.config (.ofNat 8) request) Echo.site = (.reply response, after) ∧
      response.status = 415 := by
  have passed : ∃ usage after, (Handler.gate ⟨"ada", "ada", false⟩ .codeSubmission).run Echo.site =
      (.ok usage, after) := ⟨_, _, rfl⟩
  obtain ⟨usage, after, passed⟩ := passed
  rw [answer_run request_routes, answerRoute_submissions,
    Handler.run_bind_ok (Handler.run_caller identified Echo.site), Handler.run_bind_ok passed,
    run_told_bind, show routed (.ofNat 8) request .submissions = createSubmission (.ofNat 8) request
      from if_pos rfl, create_fails]
  exact ⟨_, after, rfl, rfl⟩

/-- The unit is paid before anybody looks at the body. -/
theorem respond_refusal_untyped :
    ∃ response after, respond Echo.setup (.ofNat 8) request (.start Echo.site 1) = (response, after) ∧
      response.status = 415 ∧ Refusal .submissions request 415 Echo.site after.site := by
  obtain ⟨response, site, ran, status⟩ := answer_status
  have responded : respond Echo.setup (.ofNat 8) request (.start Echo.site 1) =
      (response, (Running.start Echo.site 1).withSite site) := by
    unfold respond
    rw [show (Running.start Echo.site 1).site = Echo.site from rfl, ran]
  have faultless : (Running.start Echo.site 1).site.Faultless := fun _ => rfl
  have records : Echo.site.store.records.Keyed QuotaRecord.userId :=
    Table.keyed_ofList QuotaRecord.userId []
  have refusal := respond_refusal Echo.setup (.ofNat 8) request_routes rfl faultless Echo.site_keyed
    records responded (by rw [status]; decide) (by rw [status]; decide)
  exact ⟨response, _, responded, status, status ▸ refusal.2⟩

end Untyped

end Grader

import Grader.Proofs.Handler

/-! How handlers end, and what a failure on the way is about. Reading what a request asks for leaves
the site alone and fails for other reasons than the queue does. -/
namespace Grader.Api

theorem Failure.response_status (f : Failure) : f.response.status = f.status := by
  cases f <;> rfl

/-- The failure says that the queue has not taken the submission. -/
def Failure.turnsAway (f : Failure) : Bool := f.status = 409 || f.status = 503

theorem Caller.ofRequest_eq_ok {r : Request} {c : Caller}
    (identified : (Caller.ofRequest r).toOption = some c) : Caller.ofRequest r = .ok c := by
  cases read : Caller.ofRequest r with
  | ok d =>
    rw [read] at identified
    exact congrArg Except.ok (Option.some.inj identified)
  | error f =>
    rw [read] at identified
    contradiction

namespace Handler

/-- How a handler ends, and the site that it leaves. -/
def run (h : Handler α) (site : Site) : Except Failure α × Site := StateT.run (ExceptT.run h) site

theorem run_bind (h : Handler α) (f : α → Handler β) (site : Site) :
    (∃ e after, h.run site = (.error e, after) ∧ (h >>= f).run site = (.error e, after)) ∨
      ∃ a after, h.run site = (.ok a, after) ∧ (h >>= f).run site = (f a).run after := by
  have bound : (h >>= f).run site = StateT.run (ExceptT.bindCont f (h.run site).1) (h.run site).2 :=
    rfl
  generalize h.run site = ran at bound
  obtain ⟨result, after⟩ := ran
  cases result with
  | error e => exact .inl ⟨e, after, rfl, bound⟩
  | ok a => exact .inr ⟨a, after, rfl, bound⟩

/-- The handler changes nothing. -/
def Still (h : Handler α) : Prop := Within (fun a b => b = a) h

theorem still_chained : Chained fun a b : Site => b = a where
  refl _ := rfl
  trans first next := next.trans first

theorem run_bind_ok {h : Handler α} {site after : Site} {a : α}
    (ran : h.run site = (.ok a, after)) (f : α → Handler β) :
    (h >>= f).run site = (f a).run after := by
  have bound : (h >>= f).run site = StateT.run (ExceptT.bindCont f (h.run site).1) (h.run site).2 :=
    rfl
  rw [bound, ran]
  rfl

theorem run_bind_error {h : Handler α} {site after : Site} {f : Failure}
    (ran : h.run site = (.error f, after)) (g : α → Handler β) :
    (h >>= g).run site = (.error f, after) := by
  have bound : (h >>= g).run site = StateT.run (ExceptT.bindCont g (h.run site).1) (h.run site).2 :=
    rfl
  rw [bound, ran]
  rfl

theorem run_tryCatch (h : Handler α) (handler : Failure → Handler α) (site : Site) :
    (tryCatch h handler).run site =
      match h.run site with
      | (.ok a, after) => (.ok a, after)
      | (.error f, after) => (handler f).run after := by
  unfold Handler.run
  simp only [tryCatch, tryCatchThe, MonadExceptOf.tryCatch, ExceptT.tryCatch, ExceptT.run, ExceptT.mk,
    StateT.run, bind, StateT.bind]
  cases h site with
  | mk result after => cases result <;> rfl

theorem run_get_bind (f : Site → Handler α) (site : Site) :
    ((get : Handler Site) >>= f).run site = (f site).run site := rfl

theorem run_caller {r : Request} {c : Caller} (identified : Caller.ofRequest r = .ok c) (site : Site) :
    (caller r).run site = (.ok c, site) := by
  unfold caller
  rw [identified]
  rfl

/-- How a handler may end, whatever the site. -/
def Ends (good : α → Prop) (bad : Failure → Prop) (h : Handler α) : Prop :=
  ∀ site, (∃ a after, h.run site = (.ok a, after) ∧ good a) ∨
    ∃ f after, h.run site = (.error f, after) ∧ bad f

variable {good : α → Prop} {bad : Failure → Prop}

theorem ends_pure {a : α} (ok : good a) : Ends good bad (pure a) :=
  fun site => .inl ⟨a, site, rfl, ok⟩

theorem ends_throw {f : Failure} (no : bad f) : Ends good bad (throw f : Handler α) :=
  fun site => .inr ⟨f, site, rfl, no⟩

theorem ends_get : Ends (fun _ => True) bad (get : Handler Site) :=
  fun site => .inl ⟨site, site, rfl, trivial⟩

theorem Ends.bind {known : α → Prop} {good : β → Prop} {h : Handler α} {f : α → Handler β}
    (first : Ends known bad h) (next : ∀ a, known a → Ends good bad (f a)) :
    Ends good bad (h >>= f) := by
  intro site
  rcases run_bind h f site with ⟨e, after, ran, bound⟩ | ⟨a, after, ran, bound⟩
  · rcases first site with ⟨a, _, other, _⟩ | ⟨d, _, same, no⟩
    · rw [ran] at other
      cases (Prod.mk.inj other).1
    · rw [ran] at same
      obtain rfl := Except.error.inj (Prod.mk.inj same).1
      exact .inr ⟨e, after, bound, no⟩
  · rcases first site with ⟨b, _, same, ok⟩ | ⟨d, _, other, _⟩
    · rw [ran] at same
      obtain rfl := Except.ok.inj (Prod.mk.inj same).1
      rw [bound]
      exact next a ok after
    · rw [ran] at other
      cases (Prod.mk.inj other).1

theorem ends_any (h : Handler α) : Ends (fun _ => True) (fun _ => True) h := by
  intro site
  cases ran : h.run site with
  | mk result after =>
    cases result with
    | ok a => exact .inl ⟨a, after, rfl, trivial⟩
    | error f => exact .inr ⟨f, after, rfl, trivial⟩

/-- What only reads fails, or hands on what it has read. -/
theorem Still.run_bind {h : Handler α} (still : h.Still) {good : α → Prop} {bad : Failure → Prop}
    (ends : Ends good bad h) (f : α → Handler β) (site : Site) :
    (∃ e, bad e ∧ (h >>= f).run site = (.error e, site)) ∨
      ∃ a, h.run site = (.ok a, site) ∧ (h >>= f).run site = (f a).run site := by
  have same : (h.run site).2 = site := still site
  rcases ends site with ⟨a, after, ran, -⟩ | ⟨e, after, ran, no⟩
  · rw [ran] at same
    obtain rfl : after = site := same
    exact .inr ⟨a, ran, run_bind_ok ran f⟩
  · rw [ran] at same
    obtain rfl : after = site := same
    exact .inl ⟨e, no, run_bind_error ran f⟩

end Handler

open Handler

/-- The failure is about what is asked for, or about the store. -/
def Failure.OfContent (f : Failure) : Prop := f.status ∈ [400, 404, 413, 415, 422, 500]

theorem Failure.ofContent {f : Failure} (n : Nat) (status : f.status = n)
    (listed : n ∈ [400, 404, 413, 415, 422, 500]) : f.OfContent := by rwa [OfContent, status]

/-- Then it is neither about who asks nor about what is under way or left. -/
theorem Failure.OfContent.unlisted {f : Failure} (content : f.OfContent) :
    f.status ∉ [401, 403, 409, 429] := by
  have apart : ∀ n ∈ [400, 404, 413, 415, 422, 500], n ∉ [401, 403, 409, 429] := by decide
  exact apart f.status content

/-- The failure comes before the queue is asked. -/
def Failure.IsEarly (f : Failure) : Prop :=
  f.status ∈ [400, 401, 403, 404, 413, 415, 422, 429, 500]

theorem Failure.early {f : Failure} (n : Nat) (status : f.status = n)
    (listed : n ∈ [400, 401, 403, 404, 413, 415, 422, 429, 500]) : f.IsEarly := by
  rwa [IsEarly, status]

theorem Failure.OfContent.early {f : Failure} (content : f.OfContent) : f.IsEarly := by
  have within : ∀ n ∈ [400, 404, 413, 415, 422, 500],
      n ∈ [400, 401, 403, 404, 413, 415, 422, 429, 500] := by decide
  exact within f.status content

/-- Then it tells neither that the queue has taken something nor that it has not. -/
theorem Failure.IsEarly.unlisted {f : Failure} (early : f.IsEarly) :
    f.status ∉ [202, 409, 503] := by
  have apart : ∀ n ∈ [400, 401, 403, 404, 413, 415, 422, 429, 500], n ∉ [202, 409, 503] := by decide
  exact apart f.status early

theorem Failure.IsEarly.heard {f : Failure} (early : f.IsEarly) : f.turnsAway = false := by
  have apart : ∀ n ∈ [400, 401, 403, 404, 413, 415, 422, 429, 500],
      (n = 409 || n = 503) = false := by decide
  exact apart f.status early

theorem fromStore_ends (read : Except StoreError α) :
    Ends (fun _ => True) Failure.OfContent (fromStore read) := by
  cases read with
  | ok a => exact ends_pure trivial
  | error e => exact ends_throw (Failure.ofContent 500 rfl (by decide))

theorem body_ends (r : Request) (d : Json.Decoder α) :
    Ends (fun _ => True) Failure.OfContent (body r d) := by
  unfold body
  repeat' split
  · exact ends_throw (Failure.ofContent 415 rfl (by decide))
  · exact ends_throw (Failure.ofContent 413 rfl (by decide))
  · exact ends_pure trivial
  · exact ends_throw (Failure.ofContent 400 rfl (by decide))
  · exact ends_throw (Failure.ofContent 422 rfl (by decide))

theorem readLanguage_ends (text : String) :
    Ends (fun _ => True) Failure.OfContent (readLanguage text) := by
  unfold readLanguage
  split
  · exact ends_pure trivial
  · exact ends_throw (Failure.ofContent 400 rfl (by decide))

theorem checkCode_ends (code : String) :
    Ends (fun _ => True) Failure.OfContent (checkCode code) := by
  unfold checkCode
  repeat' split
  · exact ends_throw (Failure.ofContent 400 rfl (by decide))
  · exact ends_throw (Failure.ofContent 400 rfl (by decide))
  · exact ends_pure trivial

theorem findProblem_ends (id : Option String) :
    Ends (fun _ => True) Failure.OfContent (findProblem id) := by
  cases id with
  | none => exact ends_pure trivial
  | some id =>
    refine ends_get.bind fun site _ => (fromStore_ends _).bind fun found _ => ?_
    cases found with
    | none => exact ends_throw (Failure.ofContent 404 rfl (by decide))
    | some p => exact ends_pure trivial

/-- A custom run is refused for what it asks for only. -/
theorem readRun_ends (config : Config) (r : Request) :
    Ends (fun _ => True) Failure.OfContent (readRun config r) := by
  refine (body_ends r _).bind fun new _ => (readLanguage_ends _).bind fun language _ => ?_
  refine (checkCode_ends _).bind fun _ _ => ?_
  simp only
  split
  · exact ends_throw (Failure.ofContent 400 rfl (by decide))
  · exact (findProblem_ends _).bind fun _ _ => ends_pure trivial

theorem segment_ends (raw : String) :
    Ends (fun _ => True) Failure.OfContent (Handler.segment raw) := by
  unfold Handler.segment
  split
  · exact ends_pure trivial
  · exact ends_throw (Failure.ofContent 400 rfl (by decide))

theorem readId_ends (text : String) : Ends (fun _ => True) Failure.OfContent (readId text) := by
  unfold readId
  split
  · exact ends_pure trivial
  · exact ends_throw (Failure.ofContent 400 rfl (by decide))

theorem caller_ends (r : Request) :
    Ends (fun _ => True) Failure.IsEarly (caller r) := by
  unfold caller Caller.ofRequest
  cases r.filledHeader? "x-user-id" with
  | none => exact ends_throw (Failure.early 401 rfl (by decide))
  | some userId => exact ends_pure trivial

theorem admin_ends (c : Caller) :
    Ends (fun _ => True) Failure.IsEarly (admin c) := by
  unfold admin Caller.requireAdmin
  cases c.isAdmin with
  | true => exact ends_pure trivial
  | false => exact ends_throw (Failure.early 403 rfl (by decide))

theorem fromLimiter_ends (call : Limiter.Call MemoryStore α) :
    Ends (fun _ => True) Failure.IsEarly (fromLimiter call) := by
  intro site
  unfold fromLimiter
  rw [run_get_bind]
  generalize StateT.run (ExceptT.run call) site.store = p
  obtain ⟨result, store⟩ := p
  cases result with
  | ok a => exact .inl ⟨a, _, rfl, trivial⟩
  | error e =>
    refine .inr ⟨_, _, rfl, ?_⟩
    cases e with
    | store => exact Failure.early 500 rfl (by decide)
    | unknownUser => exact Failure.early 404 rfl (by decide)
    | unknownService => exact Failure.early 400 rfl (by decide)

theorem gate_ends (c : Caller) (service : Service) :
    Ends (fun _ => True) Failure.IsEarly (gate c service) := by
  refine ends_get.bind fun site _ => (fromLimiter_ends _).bind fun decision _ => ?_
  split
  · exact ends_pure trivial
  · exact (show Ends (fun _ => True) _ (modify _ : Handler PUnit) from
      fun site => .inl ⟨_, _, rfl, trivial⟩).bind fun _ _ =>
        ends_throw (Failure.early 429 rfl (by decide))

end Grader.Api

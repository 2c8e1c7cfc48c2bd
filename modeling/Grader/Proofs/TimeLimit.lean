import Grader.Proofs.Budget
import Grader.Proofs.Digits

/-! The time limit of a run and the deadline of its call. A run that asks for a limit gets one up to
the maximum, and its call the margin on top of it. A run that asks for none gets the default as it
is set, also where the default is nothing or above the maximum, while the deadline of its call stays
within the maximum and the margin. -/
namespace Grader

/-- The sandbox is told the limit of the unit. -/
theorem HttpEngine.payload_timeLimitMs (u : ExecutionUnit) :
    (payload u).field? "time_limit_ms" = some (.nat u.timeLimitMs.toNat) := by
  obtain ⟨language, code, input, functionName, parser, timeLimitMs⟩ := u
  cases parser <;> rfl

namespace Config

/-- The environment that sets the three numbers which the time of a run depends on. -/
def timing (defaultMs maxMs marginMs : UInt64) : Environment := fun key =>
  if key = "DEFAULT_TIME_LIMIT_MS" then some (Text.ofNat defaultMs.toNat)
  else if key = "MAX_TIME_LIMIT_MS" then some (Text.ofNat maxMs.toNat)
  else if key = "DISPATCH_MARGIN_MS" then some (Text.ofNat marginMs.toNat)
  else none

variable (c : Config) (requested : UInt64)

theorem effectiveTimeLimit_zero : c.effectiveTimeLimit 0 = c.defaultTimeLimitMs := rfl

variable {requested} in
theorem effectiveTimeLimit_of_asked (asked : requested ≠ 0) :
    c.effectiveTimeLimit requested = min requested c.maxTimeLimitMs := if_neg asked

theorem effectiveTimeLimit_le_iff :
    c.effectiveTimeLimit requested ≤ c.maxTimeLimitMs ↔
      (requested = 0 → c.defaultTimeLimitMs ≤ c.maxTimeLimitMs) := by
  by_cases none : requested = 0
  · simp [none, effectiveTimeLimit_zero]
  · have within : c.effectiveTimeLimit requested ≤ c.maxTimeLimitMs := by
      rw [effectiveTimeLimit_of_asked c none, UInt64.le_iff_toNat_le, toNat_min]
      exact Nat.min_le_right ..
    simp [none, within]

theorem effectiveTimeLimit_pos_iff :
    0 < c.effectiveTimeLimit requested ↔
      if requested = 0 then 0 < c.defaultTimeLimitMs else 0 < c.maxTimeLimitMs := by
  by_cases none : requested = 0
  · simp [none, effectiveTimeLimit_zero]
  · have positive : 0 < requested.toNat :=
      Nat.pos_of_ne_zero fun zero => none (UInt64.toNat_inj.mp zero)
    rw [if_neg none, effectiveTimeLimit_of_asked c none, UInt64.lt_iff_toNat_lt,
      UInt64.lt_iff_toNat_lt, toNat_min, UInt64.toNat_zero]
    omega

theorem callTimeout_ofConfig (limit : UInt64) :
    (HttpEngine.ofConfig c).callTimeout limit =
      min limit.toNat c.maxTimeLimitMs.toNat + c.dispatchMarginMs.toNat := by
  rw [HttpEngine.callTimeout, toNat_min]
  rfl

/-- For which settings the limit of a run is positive and within the maximum, its deadline the limit
and the margin, and the deadline no shorter than the limit that the sandbox is told. -/
theorem limits_coherent_iff (env : Environment) (requested : UInt64) :
    let c := ofEnvironment env
    let limit := c.effectiveTimeLimit requested
    let deadlineMs := (HttpEngine.ofConfig c).callTimeout limit
    (0 < limit ∧ limit ≤ c.maxTimeLimitMs ↔ 0 < c.maxTimeLimitMs ∧
      (requested = 0 → 0 < c.defaultTimeLimitMs ∧ c.defaultTimeLimitMs ≤ c.maxTimeLimitMs)) ∧
    (deadlineMs = limit.toNat + c.dispatchMarginMs.toNat ↔
      (requested = 0 → c.defaultTimeLimitMs ≤ c.maxTimeLimitMs)) ∧
    (limit.toNat ≤ deadlineMs ↔ (requested = 0 →
      c.defaultTimeLimitMs.toNat ≤ c.maxTimeLimitMs.toNat + c.dispatchMarginMs.toNat)) ∧
    ∀ u : ExecutionUnit, (HttpEngine.payload { u with timeLimitMs := limit }).field?
      "time_limit_ms" = some (.nat limit.toNat) := by
  intro c limit deadlineMs
  have timeout : deadlineMs = min limit.toNat c.maxTimeLimitMs.toNat + c.dispatchMarginMs.toNat :=
    c.callTimeout_ofConfig limit
  have within : limit ≤ c.maxTimeLimitMs ↔ _ := c.effectiveTimeLimit_le_iff requested
  have positive : 0 < limit ↔ _ := c.effectiveTimeLimit_pos_iff requested
  have asked : requested ≠ 0 → limit ≤ c.maxTimeLimitMs := fun some =>
    within.mpr fun none => absurd none some
  refine ⟨?_, ?_, ?_, fun u => HttpEngine.payload_timeLimitMs _⟩
  · rw [within, positive]
    by_cases none : requested = 0
    · have raised (some : 0 < c.defaultTimeLimitMs)
          (below : c.defaultTimeLimitMs ≤ c.maxTimeLimitMs) : 0 < c.maxTimeLimitMs := by
        rw [UInt64.lt_iff_toNat_lt] at some ⊢
        exact Nat.lt_of_lt_of_le some (UInt64.le_iff_toNat_le.mp below)
      simp only [none, if_true, forall_const]
      exact ⟨fun both => ⟨raised both.1 both.2, both⟩, And.right⟩
    · simp [none]
  · rw [timeout, ← within, UInt64.le_iff_toNat_le]
    omega
  · rw [timeout]
    by_cases none : requested = 0
    · have unset : limit = c.defaultTimeLimitMs := by
        show c.effectiveTimeLimit requested = _
        rw [none, effectiveTimeLimit_zero]
      rw [unset]
      simp only [none, forall_const]
      omega
    · have below := UInt64.le_iff_toNat_le.mp (asked none)
      refine iff_of_true ?_ fun zero => absurd zero none
      omega

/-- A default of a minute is granted although the maximum is half of it, and the call ends first. -/
example :
    let c := ofEnvironment (timing 60000 30000 2000)
    c.effectiveTimeLimit 0 = 60000 ∧ (HttpEngine.ofConfig c).callTimeout 60000 = 32000 := by
  decide +kernel

end Config

end Grader

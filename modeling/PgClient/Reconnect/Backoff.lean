import PgClient.Library.Duration
import PgClient.Reconnect.Retry

/-!
The delays between attempts, which are computed in two places.
-/

namespace PgClient

/-- `ReconnectConfig` with its delays. -/
structure DelayedReconnectConfig extends ReconnectConfig where
  initialDelay : Duration := .ofMillis 100
  maxDelay : Duration := .ofSecs 10
deriving DecidableEq, Repr

structure RetryPolicy where
  maxAttempts : Nat
  initialDelay : Duration
  maxDelay : Duration
deriving DecidableEq, Repr

/-- `saturating_pow` on 32 bits. -/
def saturatingPow (base exponent : Nat) : UInt32 :=
  .ofNat (min (base ^ exponent) (2 ^ 32 - 1))

/-- The overflow of the product, at which the code panics, is `none`. -/
def DelayedReconnectConfig.delayForAttempt (config : DelayedReconnectConfig) (attempt : UInt32) :
    Option Duration := do
  let multiplier := saturatingPow 2 (attempt.toNat - 1)
  let delay ← config.initialDelay.checkedMul multiplier
  return min delay config.maxDelay

def RetryPolicy.delayForAttempt (policy : RetryPolicy) (attempt : UInt32) : Option Duration := do
  let multiplier := saturatingPow 2 (attempt.toNat - 1)
  let delay ← policy.initialDelay.checkedMul multiplier
  return min delay policy.maxDelay

/-- The multiplier of an attempt. -/
def multiplier (attempt : UInt32) : Nat := min (2 ^ (attempt.toNat - 1)) (2 ^ 32 - 1)

theorem saturatingPow_toNat (attempt : UInt32) :
    (saturatingPow 2 (attempt.toNat - 1)).toNat = multiplier attempt := by
  have hBound : multiplier attempt < 2 ^ 32 :=
    Nat.lt_of_le_of_lt (Nat.min_le_right _ _) (by decide)
  exact Nat.mod_eq_of_lt hBound

theorem multiplier_mono {earlier attempt : UInt32} (h : earlier ≤ attempt) :
    multiplier earlier ≤ multiplier attempt := by
  have hPow : 2 ^ (earlier.toNat - 1) ≤ 2 ^ (attempt.toNat - 1) :=
    Nat.pow_le_pow_right (by decide) (Nat.sub_le_sub_right (UInt32.le_iff_toNat_le.mp h) 1)
  simp only [multiplier]
  omega

/-- Up to the thirty-second attempt nothing saturates. -/
theorem multiplier_of_le {attempt : UInt32} (h : attempt.toNat ≤ 32) :
    multiplier attempt = 2 ^ (attempt.toNat - 1) := by
  have hPow : 2 ^ (attempt.toNat - 1) ≤ 2 ^ 31 :=
    Nat.pow_le_pow_right (by decide) (by omega)
  simp only [multiplier]
  omega

theorem multiplier_of_gt {attempt : UInt32} (h : 32 < attempt.toNat) :
    multiplier attempt = 2 ^ 32 - 1 ∧ 2 ^ 32 ≤ 2 ^ (attempt.toNat - 1) := by
  have hPow : 2 ^ 32 ≤ 2 ^ (attempt.toNat - 1) :=
    Nat.pow_le_pow_right (by decide) (by omega)
  simp only [multiplier]
  omega

/-- The saturated multiplier is as good as the power of two in these cases. -/
theorem min_multiplier_iff (initial max : Nat) (attempt : UInt32) :
    min (initial * multiplier attempt) max = min (initial * 2 ^ (attempt.toNat - 1)) max ↔
      attempt.toNat ≤ 32 ∨ initial = 0 ∨ max ≤ initial * (2 ^ 32 - 1) := by
  by_cases hAttempt : attempt.toNat ≤ 32
  · rw [multiplier_of_le hAttempt]
    exact ⟨fun _ => .inl hAttempt, fun _ => rfl⟩
  · obtain ⟨hMultiplier, hPow⟩ := multiplier_of_gt (Nat.lt_of_not_le hAttempt)
    have hProduct : initial * 2 ^ 32 ≤ initial * 2 ^ (attempt.toNat - 1) :=
      Nat.mul_le_mul_left initial hPow
    rw [hMultiplier]
    constructor
    · intro hMin
      omega
    · rintro (hLe | rfl | hReached)
      · exact absurd hLe hAttempt
      · simp
      · omega

section Millis

variable {config : DelayedReconnectConfig} {initial max : UInt64} {attempt : UInt32}

/-- What the delay of an attempt is, and when there is one, for delays in whole milliseconds. -/
theorem delayForAttempt_spec (hInitial : config.initialDelay = .ofMillis initial)
    (hMax : config.maxDelay = .ofMillis max) :
    if initial.toNat * multiplier attempt < 2 ^ 64 * 1000
    then ∃ delay, config.delayForAttempt attempt = some delay ∧
      delay.asNanos = min (initial.toNat * multiplier attempt) max.toNat * 10 ^ 6
    else config.delayForAttempt attempt = none := by
  have hProduct :=
    Duration.checkedMul_spec config.initialDelay (saturatingPow 2 (attempt.toNat - 1))
  rw [saturatingPow_toNat, hInitial, Duration.asNanos_ofMillis] at hProduct
  have hNanos : initial.toNat * 10 ^ 6 * multiplier attempt =
      initial.toNat * multiplier attempt * 10 ^ 6 := by ring
  rw [hNanos] at hProduct
  by_cases hFits : initial.toNat * multiplier attempt < 2 ^ 64 * 1000
  · rw [if_pos (by omega)] at hProduct
    obtain ⟨product, hSome, hExact⟩ := hProduct
    rw [if_pos hFits]
    refine ⟨min product config.maxDelay, ?_, ?_⟩
    · simp [DelayedReconnectConfig.delayForAttempt, hInitial, hSome]
    · rw [Duration.asNanos_min, hExact, hMax, Duration.asNanos_ofMillis]
      omega
  · rw [if_neg (by omega)] at hProduct
    rw [if_neg hFits]
    simp [DelayedReconnectConfig.delayForAttempt, hInitial, hProduct]

theorem delayForAttempt_some (hInitial : config.initialDelay = .ofMillis initial)
    (hMax : config.maxDelay = .ofMillis max)
    (hFits : initial.toNat * multiplier attempt < 2 ^ 64 * 1000) :
    ∃ delay, config.delayForAttempt attempt = some delay ∧
      delay.asNanos = min (initial.toNat * multiplier attempt) max.toNat * 10 ^ 6 := by
  have hSpec := @delayForAttempt_spec config initial max attempt hInitial hMax
  rwa [if_pos hFits] at hSpec

end Millis

/-- The delay of an attempt is the exact one, no earlier delay is longer, and the policy that is
written apart has the same. -/
structure BacksOff (config : DelayedReconnectConfig) (initial max : UInt64) (attempt : UInt32) :
    Prop where
  exact : ∃ delay, config.delayForAttempt attempt = some delay ∧
    delay.asNanos = min (initial.toNat * 2 ^ (attempt.toNat - 1)) max.toNat * 10 ^ 6
  monotone : ∀ earlier, 1 ≤ earlier → earlier ≤ attempt → ∃ delay delay',
    config.delayForAttempt earlier = some delay ∧
      config.delayForAttempt attempt = some delay' ∧ delay ≤ delay'
  agree : ∀ policy : RetryPolicy, policy.initialDelay = config.initialDelay →
    policy.maxDelay = config.maxDelay →
      policy.delayForAttempt attempt = config.delayForAttempt attempt

/-- The delay is exact as long as the product stays below 2^64 seconds, and either the attempt is
at most the thirty-second, there is no delay at all, or the limit has been reached by then. -/
theorem backsOff_iff (config : DelayedReconnectConfig) (initial max : UInt64) (attempt : UInt32)
    (hInitial : config.initialDelay = .ofMillis initial)
    (hMax : config.maxDelay = .ofMillis max) :
    BacksOff config initial max attempt ↔
      initial.toNat * min (2 ^ (attempt.toNat - 1)) (2 ^ 32 - 1) < 2 ^ 64 * 1000 ∧
        (attempt.toNat ≤ 32 ∨ initial.toNat = 0 ∨
          max.toNat ≤ initial.toNat * (2 ^ 32 - 1)) := by
  change _ ↔ initial.toNat * multiplier attempt < 2 ^ 64 * 1000 ∧ _
  rw [← min_multiplier_iff]
  constructor
  · intro h
    obtain ⟨delay, hDelay, hExact⟩ := h.exact
    have hSpec := @delayForAttempt_spec config initial max attempt hInitial hMax
    by_cases hFits : initial.toNat * multiplier attempt < 2 ^ 64 * 1000
    · rw [if_pos hFits] at hSpec
      obtain ⟨delay', hDelay', hNanos⟩ := hSpec
      cases hDelay.symm.trans hDelay'
      exact ⟨hFits, by omega⟩
    · rw [if_neg hFits, hDelay] at hSpec
      cases hSpec
  · intro ⟨hFits, hExact⟩
    obtain ⟨delay, hDelay, hNanos⟩ := delayForAttempt_some hInitial hMax hFits
    refine ⟨⟨delay, hDelay, hExact ▸ hNanos⟩, ?_, ?_⟩
    · intro earlier _ hEarlier
      have hLess : initial.toNat * multiplier earlier ≤ initial.toNat * multiplier attempt :=
        Nat.mul_le_mul_left _ (multiplier_mono hEarlier)
      obtain ⟨delay', hDelay', hNanos'⟩ :=
        delayForAttempt_some hInitial hMax (Nat.lt_of_le_of_lt hLess hFits)
      refine ⟨delay', delay, hDelay', hDelay, Duration.le_iff_asNanos.mpr ?_⟩
      rw [hNanos, hNanos']
      omega
    · intro policy hPolicy hPolicyMax
      simp only [RetryPolicy.delayForAttempt, DelayedReconnectConfig.delayForAttempt, hPolicy,
        hPolicyMax]

/-- The default delays at the eighth attempt, where the limit is reached. -/
theorem backsOff_default : BacksOff {} 100 10000 8 :=
  (backsOff_iff {} 100 10000 8 rfl rfl).mpr ⟨by decide, .inl (by decide)⟩

/-- A delay of 2^64 - 1 milliseconds overflows at the eleventh attempt, below any limit. -/
theorem not_backsOff :
    ¬ ∀ (config : DelayedReconnectConfig) (initial max : UInt64) (attempt : UInt32),
      config.initialDelay = .ofMillis initial → config.maxDelay = .ofMillis max → 1 ≤ attempt →
        BacksOff config initial max attempt := by
  intro hAll
  have h := hAll { initialDelay := .ofMillis (2 ^ 64 - 1), maxDelay := .ofMillis 10000 }
    (2 ^ 64 - 1) 10000 11 rfl rfl (by decide)
  obtain ⟨delay, hDelay, _⟩ := h.exact
  have hNone : DelayedReconnectConfig.delayForAttempt
      { initialDelay := .ofMillis (2 ^ 64 - 1), maxDelay := .ofMillis 10000 } 11 = none := by
    decide +kernel
  rw [hNone] at hDelay
  cases hDelay

end PgClient

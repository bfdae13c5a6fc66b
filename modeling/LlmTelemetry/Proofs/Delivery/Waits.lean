import LlmTelemetry.Proofs.Decimal.Rounding
import LlmTelemetry.Proofs.Delivery.Retries
/-!
# How long a policy waits

The waits are reckoned in seconds as doubles, and a duration is no double: a thousandth of a second has to be rounded
already. Each of the three roundings on the way is off by a small share. As long as the cap is no more than ten days
the shares add up to less than half a nanosecond, so the wait that comes back is the exact one. The doubling stops
after 63 steps, but by then one nanosecond has grown beyond the cap.
-/

namespace LlmTelemetry

open Decimal (Near Ratio)

namespace ApiError

/-- The error is a rate limit that hints at how long to wait. -/
inductive Hints : ApiError → Prop
  | rateLimited {message : String} {hint : Float} (positive : hint > 0.0) : Hints (.rateLimited message (some hint))

theorem isRetryable_eq_false {error : ApiError} :
    error.isRetryable = false ↔
      (∀ message hint, error ≠ .rateLimited message hint) ∧ ∀ message, error ≠ .backpressure message := by
  cases error <;> simp [isRetryable]

end ApiError

/-! ## Durations as doubles -/

namespace Duration

theorem denominator_seconds_pos (d : Duration) : 0 < d.seconds.denominator :=
  Ratio.denominator_nearestDouble_pos _

theorem nanosecondsPerSecond_pos : 0 < nanosecondsPerSecond := by
  decide

/-- The whole seconds and the rest are rounded, and then their sum is. -/
theorem near_seconds (d : Duration) :
    Near (1 / 2 ^ 51) (d.nanoseconds / nanosecondsPerSecond) d.seconds.value := by
  let whole := Ratio.ofNat (d.nanoseconds / nanosecondsPerSecond)
  let rest : Ratio := ⟨d.nanoseconds % nanosecondsPerSecond, nanosecondsPerSecond⟩
  have unit_pos : (0 : ℚ) < nanosecondsPerSecond := by exact_mod_cast nanosecondsPerSecond_pos
  have exact_sum : whole.value + rest.value = d.nanoseconds / nanosecondsPerSecond := by
    rw [Ratio.value_ofNat, Ratio.value, add_div' _ _ _ unit_pos.ne']
    congr 1
    exact_mod_cast Nat.div_add_mod' d.nanoseconds nanosecondsPerSecond
  have parts := (Ratio.near_nearestDouble (r := whole) Nat.one_pos).add
    (Ratio.near_nearestDouble (r := rest) nanosecondsPerSecond_pos)
  rw [exact_sum, ← Ratio.value_sum (Ratio.denominator_nearestDouble_pos _)
    (Ratio.denominator_nearestDouble_pos _)] at parts
  have proper : 0 < (whole.nearestDouble.sum rest.nearestDouble).denominator :=
    Ratio.denominator_sum_pos (Ratio.denominator_nearestDouble_pos _) (Ratio.denominator_nearestDouble_pos _)
  have nonneg : (0 : ℚ) ≤ d.nanoseconds / nanosecondsPerSecond := by positivity
  -- The parts are off by one share, and their sum once more by as much.
  have all := parts.trans (Ratio.near_nearestDouble proper) nonneg (by positivity) (by positivity) (by norm_num)
  exact all.mono (by norm_num) nonneg

/-- A number of seconds that is less than half a nanosecond away from a duration gives that duration. -/
theorem nearest?_eq {seconds : Ratio} (proper : 0 < seconds.denominator) {d : Duration}
    (close : |seconds.value * nanosecondsPerSecond - d.nanoseconds| < 1 / 2) (short : d.nanoseconds < limit) :
    nearest? seconds = some d := by
  rw [← Ratio.value_times] at close
  have rounded := Ratio.round_eq_of_abs_sub_lt (Ratio.denominator_times_pos proper _) close
  unfold nearest?
  rw [rounded]
  exact if_pos short

end Duration

namespace RetryPolicy

variable {policy : RetryPolicy} {attempt : Nat} {error : ApiError}

/-! ## Waits without a hint -/

/-- The base doubled after each attempt, up to the cap. -/
def exactWait (policy : RetryPolicy) (attempt : Nat) : Duration :=
  ⟨min (policy.base.nanoseconds * 2 ^ attempt) policy.cap.nanoseconds⟩

theorem exactWait_mono {later : Nat} (le : attempt ≤ later) :
    (policy.exactWait attempt).nanoseconds ≤ (policy.exactWait later).nanoseconds := by
  have power : 2 ^ attempt ≤ 2 ^ later := Nat.pow_le_pow_right (by decide) le
  exact min_le_min_right _ (Nat.mul_le_mul_left _ power)

/-- Ten days. With a cap that is no longer, the waits are exact. -/
def longestCap : Duration := .ofSeconds 864000

/-- To stop the doubling after 63 steps makes no difference: one nanosecond has grown beyond the cap by then. -/
theorem exactWait_clamped (short : policy.cap.nanoseconds ≤ longestCap.nanoseconds) :
    policy.exactWait (min attempt 63) = policy.exactWait attempt := by
  by_cases few : attempt ≤ 63
  · rw [min_eq_left few]
  · have beyond {steps : Nat} (many : 63 ≤ steps) (positive : 0 < policy.base.nanoseconds) :
        policy.cap.nanoseconds ≤ policy.base.nanoseconds * 2 ^ steps := by
      calc policy.cap.nanoseconds ≤ 2 ^ 63 := le_trans short (by decide)
        _ ≤ 2 ^ steps := Nat.pow_le_pow_right (by decide) many
        _ ≤ policy.base.nanoseconds * 2 ^ steps := Nat.le_mul_of_pos_left _ positive
    rcases Nat.eq_zero_or_pos policy.base.nanoseconds with zero | positive
    · simp [exactWait, zero]
    · have atLimit : policy.cap.nanoseconds ≤ policy.base.nanoseconds * 2 ^ min attempt 63 :=
        beyond (by omega) positive
      have later : policy.cap.nanoseconds ≤ policy.base.nanoseconds * 2 ^ attempt := beyond (by omega) positive
      rw [exactWait, exactWait, min_eq_right atLimit, min_eq_right later]

theorem denominator_doubled_pos (policy : RetryPolicy) (steps : Nat) :
    0 < (policy.base.seconds.times (Nat.pow 2 steps)).denominator :=
  Ratio.denominator_times_pos policy.base.denominator_seconds_pos _

/-- To double is exact, and so is to take the less of two, so the share that a wait is off is that of a duration. -/
theorem near_exactWait (policy : RetryPolicy) (steps : Nat) :
    Near (1 / 2 ^ 51) (policy.exactWait steps).nanoseconds
      (((policy.base.seconds.times (Nat.pow 2 steps)).lesser policy.cap.seconds).value *
        Duration.nanosecondsPerSecond) := by
  have unit_pos : (0 : ℚ) < Duration.nanosecondsPerSecond := by exact_mod_cast Duration.nanosecondsPerSecond_pos
  have doubled := policy.base.near_seconds.mul (by positivity : (0 : ℚ) ≤ 2 ^ steps)
  have least := (doubled.min policy.cap.near_seconds (by norm_num) (by norm_num)).mul unit_pos.le
  rw [Ratio.value_lesser (policy.denominator_doubled_pos steps) policy.cap.denominator_seconds_pos, Ratio.value_times]
  convert least using 1
  · rw [min_mul_of_nonneg _ _ unit_pos.le, div_mul_cancel₀ _ unit_pos.ne', mul_right_comm,
      div_mul_cancel₀ _ unit_pos.ne']
    simp [exactWait]
  · simp

/-- Reckoned in doubles, the wait is the exact one. -/
theorem backoff?_eq (short : policy.cap.nanoseconds ≤ longestCap.nanoseconds) :
    policy.backoff? attempt = some (policy.exactWait attempt) := by
  rw [← exactWait_clamped short, backoff?]
  generalize min attempt 63 = steps
  have atMost : (policy.exactWait steps).nanoseconds ≤ longestCap.nanoseconds := le_trans (min_le_right _ _) short
  apply Duration.nearest?_eq
  · exact Ratio.denominator_lesser_pos (policy.denominator_doubled_pos steps) policy.cap.denominator_seconds_pos
  -- Ten days are less than `2 ^ 50` nanoseconds, of which the share is less than one half.
  · have days : ((policy.exactWait steps).nanoseconds : ℚ) ≤ 864000 * 1000000000 := by exact_mod_cast atMost
    refine lt_of_le_of_lt (policy.near_exactWait steps).abs_sub_le ?_
    linarith
  · exact lt_of_le_of_lt atMost (by decide)

/-! ## Decisions -/

/-- The policy gives up, or waits as the hint of a rate limit says, or waits for the base doubled. -/
inductive Decides (policy : RetryPolicy) (attempt : Nat) : ApiError → Decision → Prop
  | final {error : ApiError} (last : error.isRetryable = false ∨ policy.maxRetries.toNat ≤ attempt) :
    Decides policy attempt error .giveUp
  | hinted {message : String} {hint : Float} (spare : attempt < policy.maxRetries.toNat) (positive : hint > 0.0) :
    Decides policy attempt (.rateLimited message (some hint)) (.retryAfter (policy.hintedDelay hint))
  | doubled {error : ApiError} (spare : attempt < policy.maxRetries.toNat) (retryable : error.isRetryable = true)
    (silent : ¬ error.Hints) : Decides policy attempt error (.retryAfter (policy.exactWait attempt))

theorem decide?_of_no_hint (spare : attempt < policy.maxRetries.toNat) (retryable : error.isRetryable = true)
    (silent : ¬ error.Hints) : policy.decide? attempt error = (policy.backoff? attempt).map .retryAfter := by
  have more : ¬ (¬ error.isRetryable = true ∨ attempt ≥ policy.maxRetries.toNat) := by
    simp [retryable, spare]
  rw [decide?, if_neg more]
  split
  · rename_i hint known
    cases error with
    | rateLimited message retryAfter =>
      obtain rfl : retryAfter = some hint := known
      exact if_neg fun positive => silent (.rateLimited positive)
    | _ => cases known
  · rfl

/-- With a cap of at most ten days the policy comes to a decision, and waits exactly. -/
theorem exists_decides (short : policy.cap.nanoseconds ≤ longestCap.nanoseconds) (attempt : Nat)
    (error : ApiError) :
    ∃ decision, policy.decide? attempt error = some decision ∧ policy.Decides attempt error decision := by
  by_cases last : error.isRetryable = false ∨ policy.maxRetries.toNat ≤ attempt
  · exact ⟨_, decide?_eq_giveUp.mpr last, .final last⟩
  obtain ⟨retryable, spare⟩ : error.isRetryable = true ∧ attempt < policy.maxRetries.toNat := by
    simpa using last
  by_cases hinting : error.Hints
  · cases hinting with
    | rateLimited positive => exact ⟨_, decide?_of_hint spare positive, .hinted spare positive⟩
  · refine ⟨_, ?_, .doubled spare retryable hinting⟩
    rw [decide?_of_no_hint spare retryable hinting, backoff?_eq short]
    rfl

theorem hintedDelay_le (policy : RetryPolicy) (hint : Float) :
    (policy.hintedDelay hint).nanoseconds ≤ policy.cap.nanoseconds := by
  rw [hintedDelay]
  split
  · split
    · exact min_le_right _ _
    · exact le_rfl
  · exact le_rfl

theorem Decides.le_cap {delay : Duration} (decides : policy.Decides attempt error (.retryAfter delay)) :
    delay.nanoseconds ≤ policy.cap.nanoseconds := by
  cases decides with
  | hinted _ _ => exact policy.hintedDelay_le _
  | doubled _ _ _ => exact min_le_right _ _

theorem Decides.eq_exactWait {delay : Duration} (decides : policy.Decides attempt error (.retryAfter delay))
    (silent : ¬ error.Hints) : delay = policy.exactWait attempt := by
  cases decides with
  | hinted _ positive => exact absurd (.rateLimited positive) silent
  | doubled _ _ _ => rfl

/-- A policy whose cap is at most ten days comes to a decision after every attempt and every error. It gives up exactly
if the error is neither a rate limit nor backpressure, or the retries are used up. Otherwise it waits no longer than
the cap. Unless a rate limit hints at how long to wait, the wait is the base doubled once for each attempt before, or
the cap if that is less, to the nanosecond; so it does not become shorter from one attempt to the next. -/
theorem waits_exact_and_capped (policy : RetryPolicy) (short : policy.cap.nanoseconds ≤ longestCap.nanoseconds)
    (attempt : Nat) (error : ApiError) :
    ∃ decision, policy.decide? attempt error = some decision ∧
      (decision = .giveUp ↔
        ((∀ message hint, error ≠ .rateLimited message hint) ∧ ∀ message, error ≠ .backpressure message) ∨
          policy.maxRetries.toNat ≤ attempt) ∧
      ∀ delay, decision = .retryAfter delay →
        delay.nanoseconds ≤ policy.cap.nanoseconds ∧
          (¬ error.Hints →
            delay.nanoseconds = min (policy.base.nanoseconds * 2 ^ attempt) policy.cap.nanoseconds ∧
              ∀ later ≥ attempt, ∀ again : ApiError, ¬ again.Hints →
                ∀ longer, policy.decide? later again = some (.retryAfter longer) →
                  delay.nanoseconds ≤ longer.nanoseconds) := by
  obtain ⟨decision, decided, decides⟩ := exists_decides short attempt error
  refine ⟨decision, decided, ?_, ?_⟩
  · rw [← ApiError.isRetryable_eq_false, ← decide?_eq_giveUp, decided, Option.some_inj]
  · rintro delay rfl
    refine ⟨decides.le_cap, fun silent => ?_⟩
    obtain rfl := decides.eq_exactWait silent
    refine ⟨rfl, fun later after again silent' longer waits => ?_⟩
    obtain ⟨decision, decided', decides'⟩ := exists_decides short later again
    rw [waits] at decided'
    cases decided'
    rw [decides'.eq_exactWait silent']
    exact exactWait_mono after

/-- A base of one second and one nanosecond is no double in seconds, but nineteen times doubled it is exact still. A
hint that is not a number does not count. After seventy attempts the wait is the cap of ten days. -/
theorem waits_exact_and_capped_at_ten_days :
    let policy : RetryPolicy := ⟨100, ⟨1000000001⟩, longestCap⟩
    let unclear : ApiError := .rateLimited "" (some (0.0 / 0.0))
    policy.cap.nanoseconds ≤ longestCap.nanoseconds ∧ ¬ unclear.Hints ∧
      policy.decide? 19 unclear = some (.retryAfter ⟨524288000524288⟩) ∧
        policy.decide? 70 unclear = some (.retryAfter longestCap) := by
  intro policy unclear
  have short : policy.cap.nanoseconds ≤ longestCap.nanoseconds := le_rfl
  have silent : ¬ unclear.Hints := by
    show ¬ (ApiError.rateLimited "" (some (0.0 / 0.0))).Hints
    rintro ⟨positive⟩
    exact absurd positive (by decide)
  have waits (attempt : Nat) (spare : attempt < 100) :
      policy.decide? attempt unclear =
        some (.retryAfter ⟨min (1000000001 * 2 ^ attempt) longestCap.nanoseconds⟩) := by
    obtain ⟨decision, decided, final, exact_wait⟩ := waits_exact_and_capped policy short attempt unclear
    cases decision with
    | giveUp =>
      rcases final.mp rfl with ⟨unlimited, -⟩ | spent
      · exact absurd rfl (unlimited _ _)
      · exact absurd spare (not_lt.mpr spent)
    | retryAfter delay =>
      have nanoseconds := ((exact_wait delay rfl).2 silent).1
      rw [decided, ← nanoseconds]
  exact ⟨short, silent, waits 19 (by decide), waits 70 (by decide)⟩

end RetryPolicy

end LlmTelemetry

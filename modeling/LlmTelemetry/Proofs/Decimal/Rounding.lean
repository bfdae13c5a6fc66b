import LlmTelemetry.Decimal.Ratio
import Mathlib.Algebra.Order.Field.Power
import Mathlib.Tactic.FieldSimp
import Mathlib.Tactic.Linarith
import Mathlib.Tactic.Positivity
import Mathlib.Tactic.Ring
/-!
# How far rounding is off

A fraction stands for a rational number. Rounding it to the nearest double moves it by at most half a unit of the
last of its 53 bits, which is a fixed share of its size. Sums, multiples and minima of estimates that are off by such
a share are off by no more than the same share, so a few operations on doubles come near the exact result.
-/

namespace LlmTelemetry.Decimal

/-! ## Estimates -/

/-- The estimate is off the exact number by at most a share of it. -/
structure Near (share exact estimate : ℚ) : Prop where
  atLeast : (1 - share) * exact ≤ estimate
  atMost : estimate ≤ (1 + share) * exact

namespace Near

variable {share other exact second estimate further : ℚ}

theorem of_abs_sub_le (off : |estimate - exact| ≤ share * exact) : Near share exact estimate := by
  obtain ⟨below, above⟩ := abs_le.mp off
  constructor <;> linarith

theorem abs_sub_le (near : Near share exact estimate) : |estimate - exact| ≤ share * exact := by
  obtain ⟨below, above⟩ := near
  rw [abs_le]
  constructor <;> linarith

theorem add (first : Near share exact estimate) (next : Near share second further) :
    Near share (exact + second) (estimate + further) := by
  obtain ⟨below, above⟩ := first
  obtain ⟨below', above'⟩ := next
  constructor <;> linarith

theorem mul (near : Near share exact estimate) {factor : ℚ} (nonneg : 0 ≤ factor) :
    Near share (exact * factor) (estimate * factor) := by
  constructor
  · rw [← mul_assoc]
    exact mul_le_mul_of_nonneg_right near.atLeast nonneg
  · rw [← mul_assoc]
    exact mul_le_mul_of_nonneg_right near.atMost nonneg

theorem min (first : Near share exact estimate) (next : Near share second further) (nonneg : 0 ≤ share)
    (le_one : share ≤ 1) : Near share (min exact second) (min estimate further) := by
  constructor
  · rw [mul_min_of_nonneg _ _ (sub_nonneg.mpr le_one)]
    exact min_le_min first.atLeast next.atLeast
  · rw [mul_min_of_nonneg _ _ (by linarith)]
    exact min_le_min first.atMost next.atMost

/-- To estimate an estimate adds up the shares, and a little more. -/
theorem trans (first : Near share exact estimate) (next : Near other estimate further) (nonneg : 0 ≤ exact)
    (share_nonneg : 0 ≤ share) (other_nonneg : 0 ≤ other) (le_one : other ≤ 1) :
    Near (share + other + share * other) exact further := by
  have product : 0 ≤ share * other * exact := by positivity
  constructor
  · have below := mul_le_mul_of_nonneg_left first.atLeast (sub_nonneg.mpr le_one)
    linarith [next.atLeast]
  · have above := mul_le_mul_of_nonneg_left first.atMost (by linarith : 0 ≤ 1 + other)
    linarith [next.atMost]

theorem mono (near : Near share exact estimate) (more : share ≤ other) (nonneg : 0 ≤ exact) :
    Near other exact estimate := by
  have slack := mul_le_mul_of_nonneg_right more nonneg
  obtain ⟨below, above⟩ := near
  constructor <;> linarith

end Near

/-! ## Fractions -/

namespace Ratio

variable {r first second : Ratio}

/-- The number that a fraction stands for. -/
def value (r : Ratio) : ℚ := r.numerator / r.denominator

@[simp] theorem value_ofNat (n : Nat) : (ofNat n).value = n := by
  simp [value, ofNat]

@[simp] theorem value_times (r : Ratio) (n : Nat) : (r.times n).value = r.value * n := by
  simp only [value, times, Nat.cast_mul]
  ring

theorem value_sum (proper : 0 < first.denominator) (proper' : 0 < second.denominator) :
    (first.sum second).value = first.value + second.value := by
  simp only [value, sum]
  push_cast
  field_simp

theorem value_le_iff (proper : 0 < first.denominator) (proper' : 0 < second.denominator) :
    first.value ≤ second.value ↔
      first.numerator * second.denominator ≤ second.numerator * first.denominator := by
  rw [value, value, div_le_div_iff₀ (by exact_mod_cast proper) (by exact_mod_cast proper')]
  exact_mod_cast Iff.rfl

theorem value_lesser (proper : 0 < first.denominator) (proper' : 0 < second.denominator) :
    (first.lesser second).value = min first.value second.value := by
  rw [lesser]
  split
  · rename_i below
    exact (min_eq_left ((value_le_iff proper proper').mpr below)).symm
  · rename_i above
    rw [← value_le_iff proper proper'] at above
    exact (min_eq_right (le_of_not_ge above)).symm

theorem denominator_times_pos (proper : 0 < r.denominator) (n : Nat) : 0 < (r.times n).denominator :=
  proper

theorem denominator_sum_pos (proper : 0 < first.denominator) (proper' : 0 < second.denominator) :
    0 < (first.sum second).denominator :=
  Nat.mul_pos proper proper'

theorem denominator_lesser_pos (proper : 0 < first.denominator) (proper' : 0 < second.denominator) :
    0 < (first.lesser second).denominator := by
  rw [lesser]
  split
  · exact proper
  · exact proper'

@[simp] theorem value_scaled (n : Nat) (exponent : Int) : (scaled n exponent).value = n * 2 ^ exponent := by
  rw [scaled]
  split
  · obtain ⟨power, rfl⟩ := Int.eq_ofNat_of_zero_le ‹_›
    simp [value]
  · obtain ⟨power, rfl⟩ : ∃ power : Nat, exponent = -power := ⟨exponent.natAbs, by omega⟩
    simp [value, div_eq_mul_inv]

theorem value_unscaled (r : Ratio) (exponent : Int) : (r.unscaled exponent).value = r.value / 2 ^ exponent := by
  rw [unscaled]
  split
  · obtain ⟨power, rfl⟩ := Int.eq_ofNat_of_zero_le ‹_›
    simp [value, div_div]
  · obtain ⟨power, rfl⟩ : ∃ power : Nat, exponent = -power := ⟨exponent.natAbs, by omega⟩
    simp [value, mul_div_right_comm]

theorem denominator_scaled_pos (n : Nat) (exponent : Int) : 0 < (scaled n exponent).denominator := by
  rw [scaled]
  split
  · exact Nat.one_pos
  · exact Nat.two_pow_pos _

theorem denominator_unscaled_pos (proper : 0 < r.denominator) (exponent : Int) :
    0 < (r.unscaled exponent).denominator := by
  rw [unscaled]
  split
  · exact Nat.mul_pos proper (Nat.two_pow_pos _)
  · exact proper

/-! ## Rounding to a natural number -/

theorem nearestEven_bounds (numerator : Nat) {denominator : Nat} (proper : 0 < denominator) :
    2 * numerator ≤ (2 * nearestEven numerator denominator + 1) * denominator ∧
      2 * nearestEven numerator denominator * denominator ≤ 2 * numerator + denominator := by
  have parts := Nat.div_add_mod numerator denominator
  have small := Nat.mod_lt numerator proper
  unfold nearestEven
  dsimp only
  generalize numerator / denominator = quotient at parts
  generalize numerator % denominator = rest at parts small
  split
  · rename_i up
    have half : denominator ≤ 2 * rest := by omega
    constructor <;> linarith
  · rename_i down
    have half : 2 * rest ≤ denominator := by omega
    constructor <;> linarith

/-- The nearest natural number is at most one half away. -/
theorem abs_round_sub_le (proper : 0 < r.denominator) : |(r.round : ℚ) - r.value| ≤ 1 / 2 := by
  obtain ⟨below, above⟩ := nearestEven_bounds r.numerator proper
  have positive : (0 : ℚ) < r.denominator := by exact_mod_cast proper
  have below' : 2 * (r.numerator : ℚ) ≤ (2 * r.round + 1) * r.denominator := by exact_mod_cast below
  have above' : 2 * (r.round : ℚ) * r.denominator ≤ 2 * r.numerator + r.denominator := by exact_mod_cast above
  have numerator_eq : r.value * r.denominator = r.numerator := div_mul_cancel₀ _ positive.ne'
  rw [← numerator_eq] at below' above'
  rw [abs_le]
  constructor
  · refine le_of_mul_le_mul_right ?_ positive
    linarith
  · refine le_of_mul_le_mul_right ?_ positive
    linarith

/-- A fraction that is less than one half away from a natural number is rounded to it. -/
theorem round_eq_of_abs_sub_lt (proper : 0 < r.denominator) {n : Nat} (close : |r.value - n| < 1 / 2) :
    r.round = n := by
  have apart : |(r.round : ℚ) - n| < 1 := by
    calc |(r.round : ℚ) - n| ≤ |(r.round : ℚ) - r.value| + |r.value - n| := abs_sub_le _ _ _
      _ < 1 / 2 + 1 / 2 := add_lt_add_of_le_of_lt (abs_round_sub_le proper) close
      _ = 1 := by norm_num
  have whole : |(r.round : Int) - n| < 1 := by exact_mod_cast apart
  have same : (r.round : Int) - n = 0 := Int.abs_lt_one_iff.mp whole
  omega

/-! ## Rounding to a double -/

/-- The fraction is scaled by this power of two to have 53 bits before the point. -/
def doubleExponent (r : Ratio) : Int :=
  let guess : Int := (r.numerator.log2 : Int) - (r.denominator.log2 : Int) - 52
  let first := r.unscaled guess
  if first.numerator < first.denominator * Nat.pow 2 52 then guess - 1 else guess

theorem nearestDouble_eq (positive : r.numerator ≠ 0) :
    r.nearestDouble = scaled (r.unscaled r.doubleExponent).round r.doubleExponent := by
  rw [nearestDouble, if_neg positive]
  rfl

theorem denominator_nearestDouble_pos (r : Ratio) : 0 < r.nearestDouble.denominator := by
  by_cases zero : r.numerator = 0
  · rw [nearestDouble, if_pos zero]
    exact Nat.one_pos
  · rw [nearestDouble_eq zero]
    exact denominator_scaled_pos _ _

/-- The two leading bits of a fraction tell how large it is. -/
theorem two_zpow_lt_value (proper : 0 < r.denominator) (positive : r.numerator ≠ 0) :
    (2 : ℚ) ^ ((r.numerator.log2 : Int) - (r.denominator.log2 : Int) - 1) < r.value := by
  have denominator_pos : (0 : ℚ) < r.denominator := by exact_mod_cast proper
  have numerator_ge : (2 : ℚ) ^ (r.numerator.log2 : Int) ≤ r.numerator := by
    exact_mod_cast Nat.log2_self_le positive
  have denominator_lt : (r.denominator : ℚ) < 2 ^ ((r.denominator.log2 : Int) + 1) := by
    exact_mod_cast Nat.lt_log2_self
  rw [value, lt_div_iff₀ denominator_pos]
  calc (2 : ℚ) ^ ((r.numerator.log2 : Int) - (r.denominator.log2 : Int) - 1) * r.denominator
      < 2 ^ ((r.numerator.log2 : Int) - (r.denominator.log2 : Int) - 1) * 2 ^ ((r.denominator.log2 : Int) + 1) :=
        mul_lt_mul_of_pos_left denominator_lt (by positivity)
    _ = 2 ^ (r.numerator.log2 : Int) := by
        rw [← zpow_add₀ two_ne_zero]
        congr 1
        ring
    _ ≤ r.numerator := numerator_ge

theorem le_unscaled_doubleExponent (proper : 0 < r.denominator) (positive : r.numerator ≠ 0) :
    2 ^ 52 ≤ (r.unscaled r.doubleExponent).value := by
  have leading := two_zpow_lt_value proper positive
  unfold doubleExponent
  generalize (r.numerator.log2 : Int) - (r.denominator.log2 : Int) = size at leading
  dsimp only
  -- The guess may be one too high; the leading bits tell that it is not two too high.
  split
  · rw [value_unscaled, le_div_iff₀ (by positivity), ← zpow_natCast, ← zpow_add₀ two_ne_zero]
    refine le_trans (le_of_eq ?_) leading.le
    congr 1
    push_cast
    ring
  · rename_i enough
    have whole : (ofNat (2 ^ 52)).value ≤ (r.unscaled (size - 52)).value := by
      rw [value_le_iff Nat.one_pos (denominator_unscaled_pos proper _)]
      simpa [ofNat, Nat.mul_comm] using enough
    rw [value_ofNat] at whole
    exact_mod_cast whole

/-- The nearest double is off by at most half a unit of its last bit. -/
theorem near_nearestDouble (proper : 0 < r.denominator) : Near (1 / 2 ^ 53) r.value r.nearestDouble.value := by
  by_cases zero : r.numerator = 0
  · have nothing : r.value = 0 := by simp [value, zero]
    rw [nearestDouble, if_pos zero, value_ofNat, nothing, Nat.cast_zero]
    exact ⟨by simp, by simp⟩
  have half := abs_round_sub_le (denominator_unscaled_pos proper r.doubleExponent)
  have large := le_unscaled_doubleExponent proper zero
  rw [nearestDouble_eq zero, value_scaled]
  rw [value_unscaled] at half large
  generalize ((r.unscaled r.doubleExponent).round : ℚ) = rounded at half
  have scale_pos : (0 : ℚ) < 2 ^ r.doubleExponent := by positivity
  generalize (2 : ℚ) ^ r.doubleExponent = scale at half large scale_pos
  apply Near.of_abs_sub_le
  rw [le_div_iff₀ scale_pos] at large
  calc |rounded * scale - r.value| = |rounded - r.value / scale| * scale := by
        rw [← abs_of_pos scale_pos, ← abs_mul, abs_of_pos scale_pos, sub_mul, div_mul_cancel₀ _ scale_pos.ne']
    _ ≤ 1 / 2 * scale := mul_le_mul_of_nonneg_right half scale_pos.le
    _ ≤ 1 / 2 ^ 53 * r.value := by linarith

end Ratio

end LlmTelemetry.Decimal

import Mathlib
/-!
# Doubles that stay finite

A double is a whole number of at most 53 bits, scaled by a power of two, and it overflows only when that power is
large. So it is enough to bound the power: each operation adds a little to the bound, and a few operations on
numbers of common size never reach the end of the range. The bounds are far from sharp.
-/

namespace LlmTelemetry.Decimal

open Float.Model Float.Model.UnpackedFloat

/-- Zero, or at most 53 bits scaled by a power of two that is within a bound. -/
def Within (bound : Nat) : UnpackedFloat → Prop
  | .zero _ => True
  | .finite _ mantissa exponent _ => mantissa.log2 < 53 ∧ exponent ≤ bound
  | .infinity _ => False
  | .notANumber => False

instance (bound : Nat) : (value : UnpackedFloat) → Decidable (Within bound value)
  | .zero _ => isTrue trivial
  | .finite _ mantissa exponent _ => inferInstanceAs (Decidable (mantissa.log2 < 53 ∧ exponent ≤ bound))
  | .infinity _ => isFalse id
  | .notANumber => isFalse id

theorem Within.isFinite {bound : Nat} {value : UnpackedFloat} (within : Within bound value) :
    value.isFinite = true := by
  cases value <;> first | rfl | exact within.elim

/-! ## Packing -/

theorem log2_lt_of_lt {number bits : Nat} (positive : 0 < bits) (small : number < 2 ^ bits) :
    number.log2 < bits := by
  by_cases zero : number = 0
  · simpa [zero] using positive
  · exact (Nat.log2_lt zero).mpr small

theorem lt_of_log2_lt {number bits : Nat} (few : number.log2 < bits) : number < 2 ^ bits :=
  lt_of_lt_of_le Nat.lt_log2_self (Nat.pow_le_pow_right (by decide) few)

theorem within_unpack {bound : Nat} {bits : BitVec Format.binary64.numBits}
    (low : (unpackExponent bits).toNat ≤ bound + 1075) (small : bound ≤ 900) :
    Within bound (UnpackedFloat.unpack Format.binary64 bits) := by
  have ordinary : unpackExponent bits ≠ -1#_ := by
    intro top
    rw [top] at low
    simp at low
    omega
  rw [UnpackedFloat.unpack, if_neg ordinary]
  dsimp only
  split
  · rename_i lowest
    split
    · trivial
    · have mantissa := (unpackMantissa bits).isLt
      refine ⟨log2_lt_of_lt (by decide) (lt_trans mantissa (by decide)), ?_⟩
      simp [lowest, Format.exponentBias]
  · have mantissa := (1#1 ++ unpackMantissa bits).isLt
    refine ⟨log2_lt_of_lt (by decide) mantissa, ?_⟩
    simp [Format.exponentBias]
    omega

theorem within_pack {bound : Nat} {value : UnpackedFloat} (within : Within bound value) (small : bound ≤ 900) :
    Within bound (Float.Model.pack value).unpack := by
  refine within_unpack ?_ small
  change (unpackExponent (UnpackedFloat.pack Format.binary64 value)).toNat ≤ bound + 1075
  cases value with
  | infinity _ => exact within.elim
  | notANumber => exact within.elim
  | zero _ => simp [UnpackedFloat.pack, packedZero]
  | finite sign mantissa exponent positive =>
    have fits := within.2
    have biased : (exponent + Format.binary64.exponentBias + Format.binary64.mantissaBitsWithoutImplicit).toNat ≤
        bound + 1075 := by
      change (exponent + 1023 + 52).toNat ≤ bound + 1075
      omega
    rw [UnpackedFloat.pack]
    split
    · rename_i overflows
      change 2048 ≤ _ at overflows
      omega
    split
    · rw [unpackExponent_packComponents, BitVec.toNat_ofNat]
      exact le_trans (Nat.mod_le _ _) biased
    · simp

/-! ## Rounding -/

theorem mantissa_shiftRight (extended : ExtendedMantissa) (count : Nat) :
    (extended >>> count).mantissa = extended.mantissa / 2 ^ count := by
  induction count with
  | zero => simp [HShiftRight.hShiftRight, Nat.repeat]
  | succ count ih =>
    change (extended >>> count).mantissa / 2 = _
    rw [ih, Nat.div_div_eq_div_mul, Nat.pow_succ]

theorem roundedMantissa_le (extended : ExtendedMantissa) :
    extended.roundedMantissa ≤ extended.mantissa + 1 := by
  obtain ⟨mantissa, roundBit, stickyBit⟩ := extended
  cases roundBit <;> cases stickyBit <;>
    simp [ExtendedMantissa.roundedMantissa, ExtendedMantissa.accuracy, Accuracy.roundToNearestEven]
  omega

theorem mantissa_ofMantissaAndAccuracy (mantissa : Nat) (accuracy : Accuracy) :
    (ExtendedMantissa.ofMantissaAndAccuracy mantissa accuracy).mantissa = mantissa := by
  cases accuracy with
  | exact => rfl
  | inexact side => cases side <;> rfl

variable {bound : Nat} {mantissa : Nat} {exponent : Int}

/-- To shift to the target exponent leaves at most 53 bits, and a power of two that is not above the leading
bit. -/
theorem shiftToTargetExponent_le (accuracy : Accuracy) (leading : totalExponent mantissa exponent ≤ bound) :
    (shiftToTargetExponent Format.binary64 mantissa exponent accuracy).1.mantissa < 2 ^ 53 ∧
      (shiftToTargetExponent Format.binary64 mantissa exponent accuracy).2 ≤ bound := by
  rw [totalExponent] at leading
  simp only [shiftToTargetExponent, shiftToExponent, mantissa_shiftRight, mantissa_ofMantissaAndAccuracy,
    Format.targetExponent, Format.mantissaBits, Format.minExponent, totalExponent]
  constructor
  · generalize shifted : (max _ _ - exponent).toNat = count
    have enough : mantissa.log2 + 1 ≤ 53 + count := by omega
    rw [Nat.div_lt_iff_lt_mul (Nat.two_pow_pos count), ← Nat.pow_add]
    exact lt_of_lt_of_le Nat.lt_log2_self (Nat.pow_le_pow_right (by decide) enough)
  · omega

theorem within_roundWithAccuracy (sign : Sign) (accuracy : Accuracy)
    (leading : totalExponent mantissa exponent ≤ bound) :
    Within (bound + 54) (roundWithAccuracy Format.binary64 sign mantissa exponent accuracy) := by
  have first := shiftToTargetExponent_le accuracy leading
  rw [roundWithAccuracy]
  generalize shiftToTargetExponent Format.binary64 mantissa exponent accuracy = shifted at first
  obtain ⟨extended, shiftedExponent⟩ := shifted
  obtain ⟨few, low⟩ : extended.mantissa < 2 ^ 53 ∧ shiftedExponent ≤ bound := first
  have carried : extended.roundedMantissa < 2 ^ 54 := by
    have := roundedMantissa_le extended
    omega
  have rounded : totalExponent extended.roundedMantissa shiftedExponent ≤ (bound + 54 : Nat) := by
    have := log2_lt_of_lt (by decide) carried
    rw [totalExponent]
    omega
  have second := shiftToTargetExponent_le .exact rounded
  dsimp only
  split
  · trivial
  · exact ⟨log2_lt_of_lt (by decide) second.1, second.2⟩

theorem totalExponent_decreaseExponent (target : Int) :
    totalExponent (decreaseExponent mantissa exponent target).1 (decreaseExponent mantissa exponent target).2 ≤
      totalExponent mantissa exponent := by
  have scaled : (mantissa <<< (exponent - target).toNat).log2 < mantissa.log2 + 1 + (exponent - target).toNat := by
    refine log2_lt_of_lt (by omega) ?_
    rw [Nat.shiftLeft_eq, Nat.pow_add]
    exact Nat.mul_lt_mul_of_pos_right Nat.lt_log2_self (Nat.two_pow_pos _)
  simp only [totalExponent, decreaseExponent]
  omega

theorem within_round (sign : Sign) (leading : totalExponent mantissa exponent ≤ bound) :
    Within (bound + 54) (UnpackedFloat.round Format.binary64 sign mantissa exponent) :=
  within_roundWithAccuracy sign .exact (le_trans (totalExponent_decreaseExponent _) leading)

theorem within_normalize {signed : Int} (zeroSign : Sign) (leading : totalExponent signed.natAbs exponent ≤ bound) :
    Within (bound + 54) (UnpackedFloat.normalize Format.binary64 signed exponent zeroSign) := by
  rw [UnpackedFloat.normalize]
  split
  · rename_i negative
    have : (-signed).toNat = signed.natAbs := by
      have := Int.compare_eq_lt.mp negative
      omega
    exact within_round .negative (this ▸ leading)
  · trivial
  · rename_i positive
    have : signed.toNat = signed.natAbs := by
      have := Int.compare_eq_gt.mp positive
      omega
    exact within_round .positive (this ▸ leading)

/-! ## Operations -/

theorem Within.mono {larger : Nat} {value : UnpackedFloat} (within : Within bound value) (more : bound ≤ larger) :
    Within larger value := by
  cases value with
  | infinity _ => exact within.elim
  | notANumber => exact within.elim
  | zero _ => trivial
  | finite _ _ _ _ => exact ⟨within.1, le_trans within.2 (by omega)⟩

theorem within_ofInt {signed : Int} (small : signed.natAbs < 2 ^ 64) :
    Within 118 (UnpackedFloat.ofInt Format.binary64 signed) := by
  have leading : totalExponent signed.natAbs 0 ≤ (64 : Nat) := by
    have := log2_lt_of_lt (by decide) small
    rw [totalExponent]
    omega
  exact within_normalize .positive leading

theorem within_mul {first second : UnpackedFloat} {otherBound : Nat} (left : Within bound first)
    (right : Within otherBound second) :
    Within (bound + otherBound + 160) (UnpackedFloat.mul Format.binary64 first second) := by
  cases first <;> cases second <;> first | exact left.elim | exact right.elim | trivial | skip
  rename_i sign₁ mantissa₁ exponent₁ positive₁ sign₂ mantissa₂ exponent₂ positive₂
  have product : mantissa₁ * mantissa₂ < 2 ^ 53 * 2 ^ 53 :=
    Nat.mul_lt_mul'' (lt_of_log2_lt left.1) (lt_of_log2_lt right.1)
  rw [← Nat.pow_add] at product
  have leading : totalExponent (mantissa₁ * mantissa₂) (exponent₁ + exponent₂) ≤ (bound + otherBound + 106 : Nat) := by
    have := log2_lt_of_lt (by decide) product
    have := left.2
    have := right.2
    rw [totalExponent]
    omega
  exact within_roundWithAccuracy _ .exact leading

theorem decreaseExponent_lt {target : Int} (few : mantissa.log2 < 53) :
    (decreaseExponent mantissa exponent target).1 < 2 ^ (53 + (exponent - target).toNat) := by
  rw [decreaseExponent, Nat.shiftLeft_eq, Nat.pow_add]
  exact Nat.mul_lt_mul_of_pos_right (lt_of_log2_lt few) (Nat.two_pow_pos _)

theorem natAbs_apply (sign : Sign) (number : Nat) : (sign.apply number).natAbs = number := by
  cases sign <;> simp [Sign.apply]

theorem within_add {first second : UnpackedFloat} (left : Within bound first) (right : Within bound second) :
    Within (bound + 108) (UnpackedFloat.add Format.binary64 first second) := by
  cases first <;> cases second <;> first | exact left.elim | exact right.elim | skip
  case zero.zero sign₁ sign₂ => cases sign₁ <;> cases sign₂ <;> trivial
  case zero.finite => exact right.mono (by omega)
  case finite.zero => exact left.mono (by omega)
  case finite.finite sign₁ mantissa₁ exponent₁ positive₁ sign₂ mantissa₂ exponent₂ positive₂ =>
    let least := min exponent₁ exponent₂
    let shift := (bound - least).toNat
    have low : exponent₁ ≤ bound ∧ exponent₂ ≤ bound := ⟨left.2, right.2⟩
    have summand {mantissa : Nat} {exponent : Int} (few : mantissa.log2 < 53) (low : exponent ≤ bound) :
        (decreaseExponent mantissa exponent least).1 < 2 ^ (53 + shift) :=
      lt_of_lt_of_le (decreaseExponent_lt few) (Nat.pow_le_pow_right (by decide) (by omega))
    let sum := sign₁.apply (decreaseExponent mantissa₁ exponent₁ least).1 +
      sign₂.apply (decreaseExponent mantissa₂ exponent₂ least).1
    have small : sum.natAbs < 2 ^ (54 + shift) := by
      refine lt_of_le_of_lt (Int.natAbs_add_le _ _) ?_
      have first := summand left.1 left.2
      have second := summand right.1 right.2
      rw [natAbs_apply, natAbs_apply]
      rw [show 54 + shift = 53 + shift + 1 by omega, Nat.pow_succ]
      omega
    have leading : totalExponent sum.natAbs least ≤ (bound + 54 : Nat) := by
      have := log2_lt_of_lt (by omega) small
      rw [totalExponent]
      omega
    exact within_normalize .positive leading

/-- A number that is not zero, scaled by a power of two that is not below a floor. -/
def Above (floor : Nat) : UnpackedFloat → Prop
  | .finite _ _ exponent _ => -(floor : Int) ≤ exponent
  | _ => False

instance (floor : Nat) : (value : UnpackedFloat) → Decidable (Above floor value)
  | .zero _ => isFalse id
  | .finite _ _ exponent _ => inferInstanceAs (Decidable (-(floor : Int) ≤ exponent))
  | .infinity _ => isFalse id
  | .notANumber => isFalse id

theorem within_div {first second : UnpackedFloat} {floor : Nat} (left : Within bound first)
    (right : Above floor second) :
    Within (bound + floor + 107) (UnpackedFloat.div Format.binary64 first second) := by
  cases first <;> cases second <;> first | exact left.elim | exact right.elim | trivial | skip
  rename_i sign₁ mantissa₁ exponent₁ positive₁ sign₂ mantissa₂ exponent₂ positive₂
  obtain ⟨few, low⟩ := left
  have high : -(floor : Int) ≤ exponent₂ := right
  simp only [UnpackedFloat.div, divCore]
  generalize reached : min (exponent₁ - exponent₂) _ = target
  have := reached ▸ min_le_left (exponent₁ - exponent₂) _
  generalize shifted : (exponent₁ - exponent₂ - target).toNat = shift
  have quotient : mantissa₁ <<< shift / mantissa₂ < 2 ^ (53 + shift) :=
    lt_of_le_of_lt (Nat.div_le_self _ _) (shifted ▸ decreaseExponent_lt few)
  have leading : totalExponent (mantissa₁ <<< shift / mantissa₂) target ≤ (bound + floor + 53 : Nat) := by
    have := log2_lt_of_lt (by omega) quotient
    rw [totalExponent]
    omega
  exact within_roundWithAccuracy _ _ leading

/-! ## Doubles -/

/-- A double that is zero, or at most 53 bits scaled by a power of two that is within a bound. -/
def Bounded (bound : Nat) (value : Float) : Prop := Within bound value.toModel.unpack

instance (bound : Nat) (value : Float) : Decidable (Bounded bound value) :=
  inferInstanceAs (Decidable (Within _ _))

section Doubles

variable {value other : Float} {otherBound : Nat}

theorem Bounded.isFinite (bounded : Bounded bound value) : value.isFinite = true :=
  Within.isFinite bounded

theorem zero_isFinite : (0.0 : Float).isFinite = true := by
  decide +kernel

theorem bounded_toFloat (number : UInt64) : Bounded 118 number.toFloat :=
  within_pack (within_ofInt (by simpa using number.toNat_lt)) (by decide)

theorem Bounded.mul (left : Bounded bound value) (right : Bounded otherBound other)
    (small : bound + otherBound ≤ 740) : Bounded (bound + otherBound + 160) (value * other) :=
  within_pack (within_mul left right) (by omega)

theorem Bounded.add (left : Bounded bound value) (right : Bounded bound other) (small : bound ≤ 792) :
    Bounded (bound + 108) (value + other) :=
  within_pack (within_add left right) (by omega)

theorem Bounded.div {floor : Nat} (left : Bounded bound value) (right : Above floor other.toModel.unpack)
    (small : bound + floor ≤ 793) : Bounded (bound + floor + 107) (value / other) :=
  within_pack (within_div left right) (by omega)

end Doubles

end LlmTelemetry.Decimal

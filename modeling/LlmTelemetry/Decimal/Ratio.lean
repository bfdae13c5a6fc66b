/-!
# Fractions and the doubles nearest to them

A nonnegative fraction is a pair of natural numbers. `Ratio.nearestDouble` is the rounding of one
operation on doubles, and gives the fraction that the double stands for.
-/

namespace LlmTelemetry.Decimal

/-- The nearest natural number to a fraction, the even one of two equally near. -/
def nearestEven (numerator denominator : Nat) : Nat :=
  let quotient := numerator / denominator
  let twice := 2 * (numerator % denominator)
  if twice > denominator ∨ (twice = denominator ∧ quotient % 2 = 1) then quotient + 1 else quotient

structure Ratio where
  numerator : Nat
  denominator : Nat
deriving DecidableEq, Repr

namespace Ratio

def ofNat (n : Nat) : Ratio := ⟨n, 1⟩

/-- `n * 2 ^ e` as a fraction. -/
def scaled (n : Nat) (e : Int) : Ratio :=
  if e ≥ 0 then ⟨n * Nat.pow 2 e.toNat, 1⟩ else ⟨n, Nat.pow 2 (-e).toNat⟩

/-- The fraction divided by `2 ^ e`. -/
def unscaled (r : Ratio) (e : Int) : Ratio :=
  if e ≥ 0 then ⟨r.numerator, r.denominator * Nat.pow 2 e.toNat⟩
  else ⟨r.numerator * Nat.pow 2 (-e).toNat, r.denominator⟩

def sum (a b : Ratio) : Ratio :=
  ⟨a.numerator * b.denominator + b.numerator * a.denominator, a.denominator * b.denominator⟩

def times (r : Ratio) (n : Nat) : Ratio := ⟨r.numerator * n, r.denominator⟩

def lesser (a b : Ratio) : Ratio :=
  if a.numerator * b.denominator ≤ b.numerator * a.denominator then a else b

/-- The nearest natural number, the even one of two equally near. -/
def round (r : Ratio) : Nat := nearestEven r.numerator r.denominator

/-- The double nearest to a fraction that is far from the ends of the range of doubles: 53 significant
bits, ties to even. -/
def nearestDouble (r : Ratio) : Ratio :=
  if r.numerator = 0 then ofNat 0
  else
    let guess : Int := (r.numerator.log2 : Int) - (r.denominator.log2 : Int) - 52
    let first := r.unscaled guess
    let exponent := if first.numerator < first.denominator * Nat.pow 2 52 then guess - 1 else guess
    scaled (r.unscaled exponent).round exponent

end Ratio

end LlmTelemetry.Decimal

import LlmTelemetry.Decimal.Ratio
/-!
# Shortest decimal digits of a double

A double is a natural number times a power of two, and the reals that round to it form an interval.
`shortest` walks the decimal grids with one digit, two digits and so on, and takes the first grid
that has a point in that interval: of the two grid points around the double the nearer one, and of two
equally near ones the even one. Seventeen digits always suffice.
-/

namespace LlmTelemetry.Decimal

/-- A finite double without its sign: `significand * 2 ^ exponent`. -/
structure Magnitude where
  significand : Nat
  exponent : Int
  /-- The next double below is half as far away as the next one above. -/
  atPowerOfTwo : Bool
deriving DecidableEq, Repr

/-- Whether the sign bit of a double is set, zeros included. -/
def isNegative (x : Float) : Bool :=
  x.toBits.toNat ≥ Nat.pow 2 63

/-- The magnitude of a finite double. -/
def magnitude (x : Float) : Magnitude :=
  let bits := x.toBits.toNat % Nat.pow 2 63
  let biased : Nat := bits / Nat.pow 2 52
  let fraction : Nat := bits % Nat.pow 2 52
  if biased = 0 then ⟨fraction, -1074, false⟩
  else ⟨fraction + Nat.pow 2 52, (biased : Int) - 1075, fraction = 0 && biased > 1⟩

/-- The exact value of a finite double without its sign. -/
def exactValue (x : Float) : Ratio :=
  let m := magnitude x
  .scaled m.significand m.exponent

/-- The `k` with `10 ^ (k - 1) ≤ r < 10 ^ k`, for a positive fraction `r`. -/
def Ratio.decimalPosition (r : Ratio) : Int :=
  let below (k : Int) : Bool :=
    if k ≥ 0 then r.numerator < r.denominator * Nat.pow 10 k.toNat
    else r.numerator * Nat.pow 10 (-k).toNat < r.denominator
  let guess : Int := ((r.numerator.log2 : Int) - (r.denominator.log2 : Int)) * 30103 / 100000
  ((List.range 5).map fun (i : Nat) => guess - 1 + (i : Int)).find? below |>.getD (guess + 4)

/-- A decimal number `digits * 10 ^ exponent`. -/
structure Digits where
  digits : Nat
  exponent : Int
deriving DecidableEq, Repr

/-- The point of the grid of `count` digits that rounds to the double, if there is one. `low` and
`high` bound the interval of reals that round to it, and `closed` says whether they belong to it. -/
def gridPoint? (value low high : Ratio) (closed : Bool) (position : Int) (count : Nat) :
    Option Digits :=
  let exponent : Int := position - count
  let up : Nat := if exponent ≥ 0 then 1 else Nat.pow 10 (-exponent).toNat
  let down : Nat := if exponent ≥ 0 then Nat.pow 10 exponent.toNat else 1
  let numerator := value.numerator * up
  let denominator := value.denominator * down
  let lower := numerator / denominator
  let inside (point : Nat) : Bool :=
    let atLeast := (low.numerator * up, point * (low.denominator * down))
    let atMost := (point * (high.denominator * down), high.numerator * up)
    if closed then atLeast.1 ≤ atLeast.2 && atMost.1 ≤ atMost.2
    else atLeast.1 < atLeast.2 && atMost.1 < atMost.2
  let twice := 2 * (numerator % denominator)
  let upperIsNearer := twice > denominator || (twice == denominator && lower % 2 == 1)
  let nearer := if upperIsNearer then lower + 1 else lower
  let farther := if upperIsNearer then lower else lower + 1
  if inside nearer then some ⟨nearer, exponent⟩
  else if inside farther then some ⟨farther, exponent⟩
  else none

/-- The shortest decimal number that rounds to a finite double, without its sign. -/
def shortest (x : Float) : Digits :=
  let m := magnitude x
  if m.significand = 0 then ⟨0, 0⟩
  else
    let value := Ratio.scaled (4 * m.significand) (m.exponent - 2)
    let low := Ratio.scaled (4 * m.significand - (if m.atPowerOfTwo then 1 else 2)) (m.exponent - 2)
    let high := Ratio.scaled (4 * m.significand + 2) (m.exponent - 2)
    let closed := m.significand % 2 == 0
    let position := value.decimalPosition
    let counts := (List.range 17).map (· + 1)
    (counts.findSome? (gridPoint? value low high closed position)).getD ⟨0, 0⟩

/-- Divide out the trailing zeros of the digits. -/
def Digits.trimmed (d : Digits) : Digits :=
  let rec go : Nat → Nat → Int → Digits
    | 0, n, e => ⟨n, e⟩
    | fuel + 1, n, e => if n ≠ 0 ∧ n % 10 = 0 then go fuel (n / 10) (e + 1) else ⟨n, e⟩
  go 400 d.digits d.exponent

end LlmTelemetry.Decimal

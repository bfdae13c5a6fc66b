import LlmTelemetry.Decimal.Shortest
/-!
# Laying out decimal digits

`Layout` says how a double is written once its shortest digits are known: between which magnitudes
it is written positionally, and how an exponent looks otherwise.
-/

namespace LlmTelemetry.Decimal

structure Layout where
  /-- A number below ten to this power is written positionally. -/
  positionalBelow : Int
  /-- A number not below ten to this power is written positionally. -/
  positionalFrom : Int
  /-- Written between the digits and a nonnegative exponent. -/
  positiveExponentMark : String
  /-- Written between the digits and the absolute value of a negative exponent. -/
  negativeExponentMark : String
  /-- Ends a positional number that has no fractional digits. -/
  wholeSuffix : String

def zeros (count : Nat) : String :=
  String.ofList (List.replicate count '0')

def Layout.write (layout : Layout) (x : Float) : String :=
  let sign := if isNegative x then "-" else ""
  let shortestDigits := (shortest x).trimmed
  let text := toString shortestDigits.digits
  let length := text.length
  -- the decimal point stands after this many digits
  let point : Int := length + shortestDigits.exponent
  sign ++
    if shortestDigits.digits = 0 then "0" ++ layout.wholeSuffix
    else if layout.positionalFrom < point ∧ point ≤ layout.positionalBelow then
      if shortestDigits.exponent ≥ 0 then
        text ++ zeros shortestDigits.exponent.toNat ++ layout.wholeSuffix
      else if point > 0 then
        let split := point.toNat
        String.ofList (text.toList.take split) ++ "." ++ String.ofList (text.toList.drop split)
      else "0." ++ zeros (-point).toNat ++ text
    else
      let mantissa :=
        if length = 1 then text
        else String.ofList (text.toList.take 1) ++ "." ++ String.ofList (text.toList.drop 1)
      let exponent := point - 1
      if exponent ≥ 0 then mantissa ++ layout.positiveExponentMark ++ toString exponent.toNat
      else mantissa ++ layout.negativeExponentMark ++ toString (-exponent).toNat

end LlmTelemetry.Decimal

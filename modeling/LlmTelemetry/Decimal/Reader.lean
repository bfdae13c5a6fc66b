/-!
# Reading doubles

A number is a sign, digits with at most one point among them, and a decimal exponent; the words `inf`,
`infinity` and `nan` are numbers as well, in any case. The double is the one nearest to the number.
-/

namespace LlmTelemetry.Decimal

def ofDigits (digits : List Char) : Nat :=
  digits.foldl (fun value c => 10 * value + (c.toNat - '0'.toNat)) 0

/-- Beyond this many digits before the point every number is infinite, and beyond as many zeros after
it every number is zero. -/
def farExponent : Int := 400

/-- The double nearest to `digits * 10 ^ exponent`. -/
def nearest (digits : Nat) (exponent : Int) : Float :=
  let size : Int := (Nat.toDigits 10 digits).length
  if digits = 0 then 0.0
  else if size + exponent > farExponent then 1.0 / 0.0
  else if size + exponent < -farExponent then 0.0
  else if exponent < 0 then Float.ofScientific digits true exponent.natAbs
  else Float.ofScientific digits false exponent.natAbs

def exponent? : List Char → Option Int
  | [] => some 0
  | mark :: text =>
    let (negative, digits) := match text with
      | '-' :: rest => (true, rest)
      | '+' :: rest => (false, rest)
      | rest => (false, rest)
    if (mark = 'e' ∨ mark = 'E') ∧ ¬ digits.isEmpty ∧ digits.all Char.isDigit then
      some (if negative then -(ofDigits digits : Int) else ofDigits digits)
    else none

/-- A number without a sign. -/
def unsigned? (text : List Char) : Option Float :=
  let word := String.ofList (text.map Char.toLower)
  if word = "inf" ∨ word = "infinity" then some (1.0 / 0.0)
  else if word = "nan" then some (0.0 / 0.0)
  else
    let whole := text.takeWhile Char.isDigit
    let (fraction, rest) := match text.dropWhile Char.isDigit with
      | '.' :: rest => (rest.takeWhile Char.isDigit, rest.dropWhile Char.isDigit)
      | rest => ([], rest)
    if whole.isEmpty ∧ fraction.isEmpty then none
    else
      (exponent? rest).map fun exponent =>
        nearest (ofDigits (whole ++ fraction)) (exponent - fraction.length)

def parse? (text : String) : Option Float :=
  match text.toList with
  | '-' :: rest => (unsigned? rest).map fun x => -x
  | '+' :: rest => unsigned? rest
  | rest => unsigned? rest

end LlmTelemetry.Decimal

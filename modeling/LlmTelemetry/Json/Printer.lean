import LlmTelemetry.Json.Basic
import LlmTelemetry.Decimal.Layout
/-!
# Compact JSON text

No blanks, object fields in their stored order, and of the characters in a string only the quote, the
backslash and the control characters escaped.
-/

namespace LlmTelemetry

/-- Doubles are positional from `0.00001` up to sixteen digits before the point, always with a
fractional digit, and have a signed exponent otherwise. -/
def Number.layout : Decimal.Layout where
  positionalBelow := 16
  positionalFrom := -5
  positiveExponentMark := "e+"
  negativeExponentMark := "e-"
  wholeSuffix := ".0"

def Number.text : Number → String
  | .natural value => toString value.toNat
  | .negative value => toString value.toInt
  | .double value => Number.layout.write value

namespace Json

/-- The two hexadecimal digits of a number below 256. -/
def hexPair (value : Nat) : List Char :=
  [Nat.digitChar (value / 16 % 16), Nat.digitChar (value % 16)]

/-- A character as it stands between the quotes of a string. -/
def escape (c : Char) : List Char :=
  if c = '"' then ['\\', '"']
  else if c = '\\' then ['\\', '\\']
  else if c = '\x08' then ['\\', 'b']
  else if c = '\x0c' then ['\\', 'f']
  else if c = '\n' then ['\\', 'n']
  else if c = '\r' then ['\\', 'r']
  else if c = '\t' then ['\\', 't']
  else if c.toNat < 32 then ['\\', 'u', '0', '0'] ++ hexPair c.toNat
  else [c]

/-- A string with its quotes. -/
def quoted (value : String) : String :=
  "\"" ++ String.ofList (value.toList.flatMap escape) ++ "\""

mutual

def text : Json → String
  | .null => "null"
  | .bool true => "true"
  | .bool false => "false"
  | .number value => value.text
  | .string value => quoted value
  | .array items => "[" ++ String.intercalate "," (itemTexts items) ++ "]"
  | .object fields => "\x7b" ++ String.intercalate "," (fieldTexts fields) ++ "\x7d"

def itemTexts : List Json → List String
  | [] => []
  | item :: rest => text item :: itemTexts rest

def fieldTexts : List (String × Json) → List String
  | [] => []
  | (key, value) :: rest => (quoted key ++ ":" ++ text value) :: fieldTexts rest

end

end Json

end LlmTelemetry

import LlmTelemetry.Text.Utf8
/-!
# Query strings

Parameters are written as a form is: ASCII letters, digits and the characters `*-._` as they are, a
blank as `+`, and every other byte of the UTF-8 form as a percent sign and two hexadecimal digits.
-/

namespace LlmTelemetry.Form

/-- Whether a character is written as it is. -/
def isPlain (c : Char) : Bool :=
  c.isAlphanum || c == '*' || c == '-' || c == '.' || c == '_'

def hexDigit (n : Nat) : Char :=
  (Nat.digitChar n).toUpper

def encodeByte (byte : UInt8) : List Char :=
  let c := Char.ofNat byte.toNat
  if byte.toNat < 128 && isPlain c then [c]
  else if c = ' ' then ['+']
  else ['%', hexDigit (byte.toNat / 16), hexDigit (byte.toNat % 16)]

def encodeText (text : String) : String :=
  String.ofList ((Utf8.encode text).flatMap encodeByte)

def encode (params : List (String × String)) : String :=
  String.intercalate "&" (params.map fun (key, value) => encodeText key ++ "=" ++ encodeText value)

end LlmTelemetry.Form

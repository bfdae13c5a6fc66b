import LlmTelemetry.Json.Basic
/-!
# JSON text

Text is read in two steps. `Document.parse?` checks the grammar alone and keeps what a later reader may
refuse: numbers too large for a double, strings with half of a surrogate pair, repeated keys and any
depth. `Document.toJson?` is the reader that refuses the first two, lets the last of two equal keys
count, and admits 127 levels of arrays and objects.

A number with a fraction or an exponent, or too long for 64 bits, is a double made by one
multiplication or division of the digits read so far by a power of ten. Digits past the
64 bits are dropped.
-/

namespace LlmTelemetry

/-- A JSON text that follows the grammar. -/
inductive Document where
  | null
  | bool (value : Bool)
  /-- A number, with no value when it is too large for a double. -/
  | number (value : Option Number)
  /-- A string, with no value when it has half of a surrogate pair. -/
  | string (value : Option String)
  | array (items : List Document)
  | object (members : List (Option String × Document))

namespace Document

/-- Blank characters between tokens. -/
def isBlank (c : Char) : Bool :=
  c = ' ' || c = '\n' || c = '\t' || c = '\r'

def skipBlanks (cs : List Char) : List Char :=
  cs.dropWhile isBlank

def digitValue (c : Char) : Nat :=
  c.toNat - '0'.toNat

/-! ## Numbers -/

/-- `10 ^ n` as a double. -/
def powerOfTen (n : Nat) : Float :=
  Float.ofScientific 1 false n

/-- Scale by a power of ten, in steps of `10 ^ 308` as far as the exponent is below `-308`. -/
def scaleByPowerOfTen : Nat → Float → Int → Option Float
  | 0, f, _ => some f
  | steps + 1, f, exponent =>
    if exponent.natAbs ≤ 308 then
      if exponent ≥ 0 then
        let product := f * powerOfTen exponent.natAbs
        if product.isInf then none else some product
      else some (f / powerOfTen exponent.natAbs)
    else if f == 0.0 then some f
    else if exponent ≥ 0 then none
    else scaleByPowerOfTen steps (f / powerOfTen 308) (exponent + 308)

/-- The double `±significand * 10 ^ exponent`, or none when it is too large. -/
def doubleOfParts (isNegative : Bool) (significand : Nat) (exponent : Int) : Option Number :=
  (scaleByPowerOfTen 8 significand.toUInt64.toFloat exponent).map fun f =>
    .double (if isNegative then -f else f)

/-- Append a digit to a significand of at most 64 bits. -/
def appendDigit? (significand digit : Nat) : Option Nat :=
  if significand * 10 + digit < Nat.pow 2 64 then some (significand * 10 + digit) else none

/-- The significand of the integer digits, and how many of them did not fit. -/
def integerPart : Nat → List Char → Nat × Nat
  | significand, [] => (significand, 0)
  | significand, c :: rest =>
    match appendDigit? significand (digitValue c) with
    | some longer => integerPart longer rest
    | none => (significand, rest.length + 1)

/-- The significand after the fractional digits, and how many of them it took in. -/
def fractionPart : Nat → List Char → Nat × Nat
  | significand, [] => (significand, 0)
  | significand, c :: rest =>
    match appendDigit? significand (digitValue c) with
    | some longer => let (all, count) := fractionPart longer rest; (all, count + 1)
    | none => (significand, 0)

/-- A number literal, cut into its parts. -/
structure Literal where
  isNegative : Bool
  integerDigits : List Char
  fractionDigits : Option (List Char)
  /-- The sign (true for minus) and the digits of the exponent. -/
  exponentDigits : Option (Bool × List Char)

/-- The value of a literal, or none when it is too large for a double. -/
def Literal.value? (literal : Literal) : Option Number :=
  let (whole, dropped) := integerPart 0 literal.integerDigits
  match literal.fractionDigits, literal.exponentDigits, dropped with
  | none, none, 0 =>
    if literal.isNegative then
      if 1 ≤ whole ∧ whole ≤ Nat.pow 2 63 then some (.negative (Int64.ofInt (-(whole : Int))))
      else some (.double (-whole.toUInt64.toFloat))
    else some (.natural whole.toUInt64)
  | fraction, exponent, _ =>
    let (significand, taken) := fractionPart whole (fraction.getD [])
    let base : Int := (dropped : Int) - (taken : Int)
    match exponent with
    | none => doubleOfParts literal.isNegative significand base
    | some (isMinus, digits) =>
      let written : Nat := digits.foldl (fun n c => n * 10 + digitValue c) 0
      if written < Nat.pow 2 31 then
        doubleOfParts literal.isNegative significand (if isMinus then base - written else base + written)
      else if significand ≠ 0 ∧ ¬ isMinus then none
      else some (.double (if literal.isNegative then -0.0 else 0.0))

/-- The digits of a fraction, when a point follows. -/
def fraction? : List Char → Option (Option (List Char) × List Char)
  | '.' :: rest =>
    let digits := rest.takeWhile Char.isDigit
    if digits.isEmpty then none else some (some digits, rest.dropWhile Char.isDigit)
  | rest => some (none, rest)

/-- The digits after the sign of an exponent. -/
def exponentDigits? (isMinus : Bool) (cs : List Char) :
    Option (Option (Bool × List Char) × List Char) :=
  let digits := cs.takeWhile Char.isDigit
  if digits.isEmpty then none else some (some (isMinus, digits), cs.dropWhile Char.isDigit)

/-- The sign and digits of an exponent, when an exponent mark follows. -/
def exponent? : List Char → Option (Option (Bool × List Char) × List Char)
  | c :: rest =>
    if c = 'e' ∨ c = 'E' then
      match rest with
      | '+' :: digits => exponentDigits? false digits
      | '-' :: digits => exponentDigits? true digits
      | digits => exponentDigits? false digits
    else some (none, c :: rest)
  | [] => some (none, [])

/-- A number literal at the start of the text. -/
def literal? (cs : List Char) : Option (Literal × List Char) :=
  let (isNegative, unsigned) := match cs with
    | '-' :: rest => (true, rest)
    | rest => (false, rest)
  let digits := unsigned.takeWhile Char.isDigit
  if digits.isEmpty ∨ (digits.length > 1 ∧ digits.head? = some '0') then none
  else do
    let (fraction, afterFraction) ← fraction? (unsigned.dropWhile Char.isDigit)
    let (exponent, rest) ← exponent? afterFraction
    return (⟨isNegative, digits, fraction, exponent⟩, rest)

/-! ## Strings -/

/-- What stands between quotes: a character, or a 16-bit unit written as an escape. -/
inductive Piece where
  | char (c : Char)
  | unit (value : Nat)

def hexValue? (c : Char) : Option Nat :=
  if c.isDigit then some (c.toNat - '0'.toNat)
  else if 'a' ≤ c ∧ c ≤ 'f' then some (c.toNat - 'a'.toNat + 10)
  else if 'A' ≤ c ∧ c ≤ 'F' then some (c.toNat - 'A'.toNat + 10)
  else none

/-- The number that four hexadecimal digits write. -/
def unit? (a b c d : Char) : Option Nat := do
  let high := (← hexValue? a) * 16 + (← hexValue? b)
  let low := (← hexValue? c) * 16 + (← hexValue? d)
  return high * 256 + low

/-- The character that a one-letter escape stands for. -/
def shortEscape? (c : Char) : Option Char :=
  match c with
  | '"' => some '"'
  | '\\' => some '\\'
  | '/' => some '/'
  | 'b' => some '\x08'
  | 'f' => some '\x0c'
  | 'n' => some '\n'
  | 'r' => some '\r'
  | 't' => some '\t'
  | _ => none

/-- The pieces up to the closing quote. -/
def pieces? : List Char → Option (List Piece × List Char)
  | [] => none
  | '"' :: rest => some ([], rest)
  | '\\' :: 'u' :: a :: b :: c :: d :: rest => do
    let value ← unit? a b c d
    let (more, afterString) ← pieces? rest
    return (.unit value :: more, afterString)
  | '\\' :: letter :: rest => do
    let meant ← shortEscape? letter
    let (more, afterString) ← pieces? rest
    return (.char meant :: more, afterString)
  | c :: rest =>
    if c = '\\' ∨ c.toNat < 32 then none
    else do
      let (more, afterString) ← pieces? rest
      return (.char c :: more, afterString)

/-- The characters that the pieces stand for, or none when half of a surrogate pair is left alone. -/
def assemble? : List Piece → Option (List Char)
  | [] => some []
  | .char c :: rest => (assemble? rest).map (c :: ·)
  | .unit high :: .unit low :: rest =>
    if 0xD800 ≤ high ∧ high < 0xDC00 then
      if 0xDC00 ≤ low ∧ low < 0xE000 then
        (assemble? rest).map (Char.ofNat (0x10000 + (high - 0xD800) * 0x400 + (low - 0xDC00)) :: ·)
      else none
    else if 0xDC00 ≤ high ∧ high < 0xE000 then none
    else (assemble? (.unit low :: rest)).map (Char.ofNat high :: ·)
  | .unit value :: rest =>
    if 0xD800 ≤ value ∧ value < 0xE000 then none else (assemble? rest).map (Char.ofNat value :: ·)

/-- A string after its opening quote. -/
def string? (cs : List Char) : Option (Option String × List Char) := do
  let (pieces, rest) ← pieces? cs
  return ((assemble? pieces).map String.ofList, rest)

/-! ## Values -/

mutual

/-- A value at the start of the text. The fuel bounds the nesting and the number of elements. -/
def value? : Nat → List Char → Option (Document × List Char)
  | 0, _ => none
  | fuel + 1, cs =>
    match skipBlanks cs with
    | 'n' :: 'u' :: 'l' :: 'l' :: rest => some (.null, rest)
    | 't' :: 'r' :: 'u' :: 'e' :: rest => some (.bool true, rest)
    | 'f' :: 'a' :: 'l' :: 's' :: 'e' :: rest => some (.bool false, rest)
    | '"' :: rest => do
      let (value, afterString) ← string? rest
      return (.string value, afterString)
    | '[' :: rest =>
      match skipBlanks rest with
      | ']' :: afterArray => some (.array [], afterArray)
      | first => do
        let (items, afterArray) ← items? fuel first
        return (.array items, afterArray)
    | '\x7b' :: rest =>
      match skipBlanks rest with
      | '\x7d' :: afterObject => some (.object [], afterObject)
      | first => do
        let (members, afterObject) ← members? fuel first
        return (.object members, afterObject)
    | start => do
      let (literal, rest) ← literal? start
      return (.number literal.value?, rest)

/-- The elements of an array from the first one to the closing bracket. -/
def items? : Nat → List Char → Option (List Document × List Char)
  | 0, _ => none
  | fuel + 1, cs => do
    let (item, afterItem) ← value? fuel cs
    match skipBlanks afterItem with
    | ',' :: rest => do
      let (more, afterArray) ← items? fuel rest
      return (item :: more, afterArray)
    | ']' :: afterArray => some ([item], afterArray)
    | _ => none

/-- The members of an object from the first one to the closing brace. -/
def members? : Nat → List Char → Option (List (Option String × Document) × List Char)
  | 0, _ => none
  | fuel + 1, cs =>
    match skipBlanks cs with
    | '"' :: rest => do
      let (key, afterKey) ← string? rest
      match skipBlanks afterKey with
      | ':' :: afterColon => do
        let (value, afterValue) ← value? fuel afterColon
        match skipBlanks afterValue with
        | ',' :: next => do
          let (more, afterObject) ← members? fuel next
          return ((key, value) :: more, afterObject)
        | '\x7d' :: afterObject => some ([(key, value)], afterObject)
        | _ => none
      | _ => none
    | _ => none

end

/-- Read a text that holds one value and blanks. -/
def parse? (text : String) : Option Document := do
  let cs := text.toList
  let (document, rest) ← value? (2 * cs.length + 2) cs
  if (skipBlanks rest).isEmpty then some document else none

mutual

/-- The value of a document with at most `depth` levels of arrays and objects. -/
def toJson? : Nat → Document → Option Json
  | _, .null => some .null
  | _, .bool value => some (.bool value)
  | _, .number value => value.map .number
  | _, .string value => value.map .string
  | 0, .array _ => none
  | 0, .object _ => none
  | depth + 1, .array items => (itemsToJson? depth items).map .array
  | depth + 1, .object members => (membersToJson? depth members).map Json.record

def itemsToJson? : Nat → List Document → Option (List Json)
  | _, [] => some []
  | depth, item :: rest => do
    let value ← toJson? depth item
    let values ← itemsToJson? depth rest
    return value :: values

def membersToJson? : Nat → List (Option String × Document) → Option (List (String × Json))
  | _, [] => some []
  | depth, (key, item) :: rest => do
    let name ← key
    let value ← toJson? depth item
    let fields ← membersToJson? depth rest
    return (name, value) :: fields

end

end Document

/-- Arrays and objects may be nested this deep. -/
def Json.maximalDepth : Nat := 127

/-- Read a JSON text. -/
def Json.parse? (text : String) : Option Json :=
  (Document.parse? text).bind (Document.toJson? maximalDepth)

end LlmTelemetry

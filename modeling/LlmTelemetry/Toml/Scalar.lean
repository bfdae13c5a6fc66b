import LlmTelemetry.Decimal.Reader
import LlmTelemetry.Toml.Basic
/-!
# Numbers, dates and strings of TOML

A number or date is the longest run of characters that numbers and dates are made of, and it has to
follow one of their grammars as a whole. A string is read up to its closing quotes, with its escapes
resolved and its line ends written as line feeds.
-/

namespace LlmTelemetry.Toml

/-! ## Numbers -/

def underscoresBetween (isDigit : Char → Bool) : List Char → Bool
  | [] => false
  | [c] => isDigit c
  | c :: '_' :: rest => isDigit c && underscoresBetween isDigit rest
  | c :: rest => isDigit c && underscoresBetween isDigit rest

/-- The digits of a run, without underscores. -/
def digits? (isDigit : Char → Bool) (text : List Char) : Option (List Char) :=
  if underscoresBetween isDigit text then some (text.filter (· != '_')) else none

def hexValue (c : Char) : Nat :=
  if c.isDigit then c.toNat - '0'.toNat
  else c.toLower.toNat - 'a'.toNat + 10

def isHexDigit (c : Char) : Bool :=
  c.isDigit || ('a' ≤ c && c ≤ 'f') || ('A' ≤ c && c ≤ 'F')

/-- The number that digits write in a base. -/
def ofDigits (base : Nat) (digits : List Char) : Nat :=
  digits.foldl (fun value c => base * value + hexValue c) 0

/-- A sign and the text after it. -/
def sign (text : List Char) : Bool × List Char :=
  match text with
  | '-' :: rest => (true, rest)
  | '+' :: rest => (false, rest)
  | rest => (false, rest)

/-- Digits without a zero in front, unless it stands alone. -/
def decimalDigits? (text : List Char) : Option (List Char) :=
  match text with
  | '0' :: _ :: _ => none
  | _ => digits? Char.isDigit text

/-- Integers have 64 bits. -/
def signed64? (value : Int) : Option Int :=
  if Int64.minValue.toInt ≤ value ∧ value ≤ Int64.maxValue.toInt then some value else none

def integer? (text : List Char) : Option Int :=
  match text with
  | '0' :: 'x' :: rest => (digits? isHexDigit rest).bind fun ds => signed64? (ofDigits 16 ds)
  | '0' :: 'o' :: rest =>
    (digits? (fun c => '0' ≤ c && c ≤ '7') rest).bind fun ds => signed64? (ofDigits 8 ds)
  | '0' :: 'b' :: rest =>
    (digits? (fun c => c == '0' || c == '1') rest).bind fun ds => signed64? (ofDigits 2 ds)
  | _ =>
    let (negative, rest) := sign text
    (decimalDigits? rest).bind fun ds =>
      signed64? (if negative then -(ofDigits 10 ds : Int) else ofDigits 10 ds)

/-- The exponent after its mark. -/
def exponent? (text : List Char) : Option Int :=
  let (negative, rest) := sign text
  (digits? Char.isDigit rest).map fun ds =>
    if negative then -(ofDigits 10 ds : Int) else ofDigits 10 ds

def isExponentMark (c : Char) : Bool := c == 'e' || c == 'E'

/-- What follows the digits before the point: the digits after it and the exponent, not both absent. -/
def fractionAndExponent? (text : List Char) : Option (List Char × Int) :=
  match text with
  | '.' :: rest => do
    let fraction ← digits? Char.isDigit (rest.takeWhile (!isExponentMark ·))
    match rest.dropWhile (!isExponentMark ·) with
    | [] => some (fraction, 0)
    | _ :: rest => (exponent? rest).map fun exponent => (fraction, exponent)
  | c :: rest => if isExponentMark c then (exponent? rest).map fun e => ([], e) else none
  | [] => none

/-- A double. One that is too large above zero is refused. -/
def float? (text : List Char) : Option Float := do
  let (negative, rest) := sign text
  let value ← match rest with
    | ['i', 'n', 'f'] => some (1.0 / 0.0)
    | ['n', 'a', 'n'] => some (0.0 / 0.0)
    | _ => do
      let isWhole := fun c => c.isDigit || c == '_'
      let whole ← decimalDigits? (rest.takeWhile isWhole)
      let (fraction, exponent) ← fractionAndExponent? (rest.dropWhile isWhole)
      let value :=
        Decimal.nearest (Decimal.ofDigits (whole ++ fraction)) (exponent - fraction.length)
      if value.isInf && !negative then none else some value
  return if negative then -value else value

/-! ## Dates and times -/

/-- A number of exactly so many digits from `low` to `high`, and the text after it. -/
def fixed? (count low high : Nat) (text : List Char) : Option (Nat × List Char) :=
  let digits := text.take count
  let value := ofDigits 10 digits
  if digits.length = count ∧ digits.all Char.isDigit ∧ low ≤ value ∧ value ≤ high then
    some (value, text.drop count)
  else none

/-- The text after the character `c`. -/
def after? (c : Char) : List Char → Option (List Char)
  | d :: rest => if d = c then some rest else none
  | [] => none

def daysInMonth (year month : Nat) : Nat :=
  if month = 2 then
    if year % 4 = 0 ∧ (year % 100 ≠ 0 ∨ year % 400 = 0) then 29 else 28
  else if month = 4 ∨ month = 6 ∨ month = 9 ∨ month = 11 then 30
  else 31

def afterDate? (text : List Char) : Option (List Char) := do
  let (year, text) ← fixed? 4 0 9999 text
  let (month, text) ← fixed? 2 1 12 (← after? '-' text)
  let (_, text) ← fixed? 2 1 (daysInMonth year month) (← after? '-' text)
  return text

def afterTime? (text : List Char) : Option (List Char) := do
  let (_, text) ← fixed? 2 0 23 text
  let (_, text) ← fixed? 2 0 59 (← after? ':' text)
  let (_, text) ← fixed? 2 0 60 (← after? ':' text)
  match text with
  | '.' :: rest =>
    if (rest.takeWhile Char.isDigit).isEmpty then none else some (rest.dropWhile Char.isDigit)
  | rest => some rest

/-- Whether the text is an offset from UTC, or nothing. -/
def isOffset : List Char → Bool
  | [] => true
  | ['Z'] => true
  | ['z'] => true
  | c :: rest =>
    (c == '+' || c == '-') &&
      ((do
        let (_, text) ← fixed? 2 0 23 rest
        let (_, text) ← fixed? 2 0 59 (← after? ':' text)
        return text.isEmpty : Option Bool)).getD false

def isDatetime (text : List Char) : Bool :=
  match afterDate? text with
  | some [] => true
  | some (c :: rest) =>
    (c == 'T' || c == 't' || c == ' ') && ((afterTime? rest).map isOffset).getD false
  | none => (afterTime? text).map List.isEmpty |>.getD false

/-! ## Words -/

/-- The characters that numbers and dates are made of. -/
def isWordCharacter (c : Char) : Bool :=
  c.isAlphanum || c == '_' || c == '+' || c == '-' || c == '.' || c == ':'

/-- The number, date or truth value that a word stands for. -/
def ofWord? (word : List Char) : Option Toml :=
  if word = ['t', 'r', 'u', 'e'] then some (.boolean true)
  else if word = ['f', 'a', 'l', 's', 'e'] then some (.boolean false)
  else if isDatetime word then some (.datetime (String.ofList word))
  else
    match float? word with
    | some value => some (.float value)
    | none => (integer? word).map .integer

/-- The word that the text begins with. A blank between a date and a time belongs to it. -/
def splitWord (text : List Char) : List Char × List Char :=
  let word := text.takeWhile isWordCharacter
  match text.dropWhile isWordCharacter with
  | ' ' :: c :: rest =>
    if afterDate? word = some [] ∧ c.isDigit then
      (word ++ ' ' :: (c :: rest).takeWhile isWordCharacter, (c :: rest).dropWhile isWordCharacter)
    else (word, ' ' :: c :: rest)
  | rest => (word, rest)

def word? (text : List Char) : Option (Toml × List Char) :=
  let (word, rest) := splitWord text
  (ofWord? word).map fun value => (value, rest)

/-! ## Strings -/

/-- Whether a character may stand in a string or a comment as it is: no control character but the tab. -/
def isPrintable (c : Char) : Bool :=
  c == '\t' || (c.toNat ≥ 32 && c.toNat != 127)

def afterNewline? : List Char → Option (List Char)
  | '\n' :: rest => some rest
  | '\r' :: '\n' :: rest => some rest
  | _ => none

/-- The character that so many hexadecimal digits name. -/
def codePoint? (count : Nat) (text : List Char) : Option (Char × List Char) :=
  let digits := text.take count
  let code := ofDigits 16 digits
  if digits.length = count ∧ digits.all isHexDigit ∧ code.isValidChar then
    some (Char.ofNat code, text.drop count)
  else none

/-- The character that an escape stands for, after the backslash. -/
def escape? : List Char → Option (Char × List Char)
  | 'b' :: rest => some ('\x08', rest)
  | 'f' :: rest => some ('\x0c', rest)
  | 'n' :: rest => some ('\n', rest)
  | 'r' :: rest => some ('\r', rest)
  | 't' :: rest => some ('\t', rest)
  | '"' :: rest => some ('"', rest)
  | '\\' :: rest => some ('\\', rest)
  | 'u' :: rest => codePoint? 4 rest
  | 'U' :: rest => codePoint? 8 rest
  | _ => none

/-- The text of a string in double quotes, up to the closing quote. -/
def basic? : (fuel : Nat) → List Char → Option (List Char × List Char)
  | 0, _ => none
  | _ + 1, '"' :: rest => some ([], rest)
  | fuel + 1, '\\' :: rest => do
    let (c, rest) ← escape? rest
    let (more, rest) ← basic? fuel rest
    return (c :: more, rest)
  | fuel + 1, c :: rest =>
    if isPrintable c then (basic? fuel rest).map fun (more, rest) => (c :: more, rest) else none
  | _ + 1, [] => none

/-- The text of a string in single quotes, up to the closing quote. -/
def literal? : List Char → Option (List Char × List Char)
  | '\'' :: rest => some ([], rest)
  | c :: rest =>
    if isPrintable c then (literal? rest).map fun (more, rest) => (c :: more, rest) else none
  | [] => none

def isBlank (c : Char) : Bool := c == ' ' || c == '\t'

/-- The text after blanks and line ends. -/
def skipBlankLines : (fuel : Nat) → List Char → List Char
  | 0, text => text
  | fuel + 1, text =>
    match afterNewline? text with
    | some rest => skipBlankLines fuel rest
    | none =>
      match text with
      | c :: rest => if isBlank c then skipBlankLines fuel rest else text
      | [] => []

/-- The text after a backslash at the end of a line: it joins the line with the next text. -/
def lineJoin? (text : List Char) : Option (List Char) :=
  (afterNewline? (text.dropWhile isBlank)).map fun rest => skipBlankLines rest.length rest

/-- How many of the characters in front are the quote, five at most. -/
def quoteRun (quote : Char) (text : List Char) : Nat :=
  ((text.take 5).takeWhile (· == quote)).length

/-- The text of a string of several lines, up to the closing quotes. Up to two quotes may stand before
the three that close it. -/
def multiline? (quote : Char) (escapes : Bool) :
    (fuel : Nat) → List Char → Option (List Char × List Char)
  | 0, _ => none
  | _ + 1, [] => none
  | fuel + 1, c :: rest =>
    let run := quoteRun quote (c :: rest)
    if run ≥ 3 then some (List.replicate (run - 3) quote, (c :: rest).drop run)
    else
      match afterNewline? (c :: rest) with
      | some rest => (multiline? quote escapes fuel rest).map fun (more, rest) => ('\n' :: more, rest)
      | none =>
        if c == '\\' && escapes then
          match lineJoin? rest with
          | some rest => multiline? quote escapes fuel rest
          | none => do
            let (d, rest) ← escape? rest
            let (more, rest) ← multiline? quote escapes fuel rest
            return (d :: more, rest)
        else if isPrintable c then
          (multiline? quote escapes fuel rest).map fun (more, rest) => (c :: more, rest)
        else none

/-- A line end right after the opening quotes does not count. -/
def dropFirstNewline (text : List Char) : List Char :=
  (afterNewline? text).getD text

def line? : List Char → Option (String × List Char)
  | '"' :: rest => (basic? (rest.length + 1) rest).map fun (text, rest) => (String.ofList text, rest)
  | '\'' :: rest => (literal? rest).map fun (text, rest) => (String.ofList text, rest)
  | _ => none

def string? : List Char → Option (String × List Char)
  | '"' :: '"' :: '"' :: rest =>
    (multiline? '"' true (rest.length + 1) (dropFirstNewline rest)).map fun (text, rest) =>
      (String.ofList text, rest)
  | '\'' :: '\'' :: '\'' :: rest =>
    (multiline? '\'' false (rest.length + 1) (dropFirstNewline rest)).map fun (text, rest) =>
      (String.ofList text, rest)
  | text => line? text

end LlmTelemetry.Toml

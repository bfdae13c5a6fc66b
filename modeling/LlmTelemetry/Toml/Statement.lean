import LlmTelemetry.KeyedList
import LlmTelemetry.Toml.Scalar
/-!
# Statements of TOML

A document is a list of statements: headers of tables and values under keys. Arrays and braces nest, but
not deeper than `nestingLimit`, and a dotted key has fewer parts than that.
-/

namespace LlmTelemetry.Toml

/-- The depth at which values are refused. -/
def nestingLimit : Nat := 80

/-- A dotted key: the parts before the last one, and the last one. -/
structure Key where
  path : List String
  last : String
deriving DecidableEq

inductive Statement where
  | header (key : Key)
  | arrayHeader (key : Key)
  | value (key : Key) (content : Toml)

/-! ## Blanks -/

def skipBlanks (text : List Char) : List Char :=
  text.dropWhile isBlank

/-- The text after a comment, if there is one; none when it holds a control character. -/
def afterComment? : List Char → Option (List Char)
  | '#' :: rest =>
    match rest.dropWhile isPrintable with
    | [] => some []
    | text => if (afterNewline? text).isSome then some text else none
  | text => some text

/-- The text after blanks, comments and line ends. -/
def skipLines? : (fuel : Nat) → List Char → Option (List Char)
  | 0, text => some text
  | fuel + 1, text => do
    let text ← afterComment? (skipBlanks text)
    match afterNewline? text with
    | some rest => skipLines? fuel rest
    | none => some text

/-- The text after the end of a line, with what may stand before it. -/
def lineEnd? (text : List Char) : Option (List Char) := do
  let text ← afterComment? (skipBlanks text)
  match text with
  | [] => some []
  | text => afterNewline? text

/-! ## Keys -/

def isBareKeyCharacter (c : Char) : Bool :=
  c.isAlphanum || c == '_' || c == '-'

def keyPart? (text : List Char) : Option (String × List Char) :=
  match line? text with
  | some result => some result
  | none =>
    let name := text.takeWhile isBareKeyCharacter
    if name.isEmpty then none
    else some (String.ofList name, text.dropWhile isBareKeyCharacter)

/-- The parts of a key, with the blanks around them. -/
def keyParts? : (fuel : Nat) → List Char → Option (List String × List Char)
  | 0, _ => none
  | fuel + 1, text => do
    let (part, rest) ← keyPart? (skipBlanks text)
    match skipBlanks rest with
    | '.' :: rest => (keyParts? fuel rest).map fun (parts, rest) => (part :: parts, rest)
    | rest => some ([part], rest)

/-- The last of the parts, and the ones before it. -/
def Key.ofParts? (parts : List String) : Option Key :=
  if parts.length < nestingLimit then parts.getLast?.map fun last => ⟨parts.dropLast, last⟩
  else none

def key? (text : List Char) : Option (Key × List Char) := do
  let (parts, rest) ← keyParts? (text.length + 1) text
  let key ← Key.ofParts? parts
  return (key, rest)

/-! ## Tables in braces -/

/-- Put a value under a dotted key of a table in braces. The tables on the way are such as dotted keys of
the same table made. -/
def putInline (last : String) (content : Toml) :
    (path : List String) → List (String × Toml) → Option (List (String × Toml))
  | [], entries =>
    if KeyedList.contains last entries then none
    else some (KeyedList.put last content entries)
  | part :: path, entries =>
    match KeyedList.find? part entries with
    | none =>
      (putInline last content path []).map fun inner =>
        KeyedList.put part (.table .dotted inner) entries
    | some (.table .dotted inner) =>
      (putInline last content path inner).map fun inner =>
        KeyedList.put part (.table .dotted inner) entries
    | some _ => none

/-- The table in braces with the given values. -/
def inlineTable? (values : List (Key × Toml)) : Option Toml :=
  (values.foldlM (fun entries (value : Key × Toml) =>
    putInline value.1.last value.2 value.1.path entries) []).map (.table .inline)

/-! ## Values -/

def symbol? (c : Char) (text : List Char) : Option (List Char) :=
  after? c (skipBlanks text)

mutual

/-- Read a value that stands `depth` levels above the nesting limit. -/
def value? : (fuel : Nat) → (depth : Nat) → List Char → Option (Toml × List Char)
  | 0, _, _ => none
  | fuel + 1, depth, '[' :: rest =>
    match depth with
    | 0 => none
    | depth + 1 => (items? fuel depth rest).map fun (items, rest) => (.array items, rest)
  | fuel + 1, depth, '\x7b' :: rest =>
    match depth with
    | 0 => none
    | depth + 1 =>
      match symbol? '\x7d' rest with
      | some rest => some (.table .inline [], rest)
      | none => do
        let (values, rest) ← pairs? fuel depth rest
        let table ← inlineTable? values
        return (table, rest)
  | _ + 1, _, text =>
    match string? text with
    | some (value, rest) => some (.string value, rest)
    | none => word? text

def items? : (fuel : Nat) → (depth : Nat) → List Char → Option (List Toml × List Char)
  | 0, _, _ => none
  | fuel + 1, depth, text => do
    let text ← skipLines? text.length text
    match text with
    | ']' :: rest => some ([], rest)
    | text => do
      let (item, rest) ← value? fuel depth text
      match ← skipLines? rest.length rest with
      | ',' :: rest => (items? fuel depth rest).map fun (items, rest) => (item :: items, rest)
      | ']' :: rest => some ([item], rest)
      | _ => none

def pairs? : (fuel : Nat) → (depth : Nat) → List Char → Option (List (Key × Toml) × List Char)
  | 0, _, _ => none
  | fuel + 1, depth, text => do
    let (key, rest) ← key? text
    let rest ← after? '=' rest
    let (content, rest) ← value? fuel depth (skipBlanks rest)
    match skipBlanks rest with
    | ',' :: rest =>
      (pairs? fuel depth rest).map fun (values, rest) => ((key, content) :: values, rest)
    | '\x7d' :: rest => some ([(key, content)], rest)
    | _ => none

end

/-! ## Documents -/

def statement? (text : List Char) : Option (Statement × List Char) :=
  match text with
  | '[' :: '[' :: rest => do
    let (key, rest) ← key? rest
    let rest ← after? ']' (← after? ']' rest)
    return (.arrayHeader key, rest)
  | '[' :: rest => do
    let (key, rest) ← key? rest
    let rest ← after? ']' rest
    return (.header key, rest)
  | _ => do
    let (key, rest) ← key? text
    let rest ← after? '=' rest
    let (content, rest) ← value? (2 * rest.length + 2) (nestingLimit - 1) (skipBlanks rest)
    return (.value key content, rest)

/-- Read the statements of a document, each on lines of its own. -/
def statements? : (fuel : Nat) → List Char → Option (List Statement)
  | 0, _ => none
  | fuel + 1, text => do
    match ← skipLines? text.length text with
    | [] => some []
    | text => do
      let (statement, rest) ← statement? (skipBlanks text)
      let rest ← lineEnd? rest
      let more ← statements? fuel rest
      return statement :: more

end LlmTelemetry.Toml

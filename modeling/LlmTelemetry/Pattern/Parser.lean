import LlmTelemetry.Pattern.ClassText
import LlmTelemetry.Pattern.Regex
/-!
# The text form of regular expressions

A text is read token by token, and the tokens build the expression on a stack of open groups. A change of
flags such as `(?i)` holds up to the end of the group that it stands in.
-/

namespace LlmTelemetry

namespace Regex

/-- The flags that hold at a place of the text. -/
structure Flags where
  caseless : Bool := false
  manyLines : Bool := false
  dotMatchesAll : Bool := false
  preferLazy : Bool := false

inductive Token where
  | part (regex : Regex)
  | bar
  /-- A group opens in which these flags hold. -/
  | opening (numbered : Bool) (flags : Flags)
  | change (flags : Flags)
  | closing
  | repetition (least : Nat) (most : Option Nat) (greedy : Bool)

/-! ## Tokens -/

/-- The condition that an escaped letter names. -/
def escapedAssertion? (c : Char) : Option Assertion :=
  if c = 'b' then some .wordBoundary
  else if c = 'B' then some .noWordBoundary
  else if c = 'A' then some .textStart
  else if c = 'z' then some .textEnd
  else none

def character (flags : Flags) (c : Char) : Regex :=
  .one ((CharClass.single c).foldedIf flags.caseless)

/-- What a backslash and a character stand for. -/
def escape? (flags : Flags) (c : Char) : Option Regex :=
  match CharClass.escaped? c, escapedAssertion? c with
  | some cls, _ => some (.one cls)
  | none, some condition => some (.assertion condition)
  | none, none => (CharClass.escapedCharacter? c).map (character flags)

def number (digits : List Char) : Nat :=
  digits.foldl (fun value c => 10 * value + (c.toNat - '0'.toNat)) 0

/-- A number with white space around it. -/
def number? (text : List Char) : Option (Nat × List Char) :=
  let text := text.dropWhile Unicode.isSpace
  let digits := text.takeWhile Char.isDigit
  if digits.isEmpty then none
  else some (number digits, (text.dropWhile Char.isDigit).dropWhile Unicode.isSpace)

/-- A repetition is lazy when a question mark follows. -/
def repetition (flags : Flags) (least : Nat) (most : Option Nat) : List Char → Token × List Char
  | '?' :: rest => (.repetition least most flags.preferLazy, rest)
  | rest => (.repetition least most !flags.preferLazy, rest)

/-- What follows an opening brace. -/
def counted? (flags : Flags) (text : List Char) : Option (Token × List Char) := do
  let (least, text) ← number? text
  match text with
  | '\x7d' :: rest => some (repetition flags least (some least) rest)
  | ',' :: '\x7d' :: rest => some (repetition flags least none rest)
  | ',' :: text => do
    let (most, text) ← number? text
    match text with
    | '\x7d' :: rest =>
      if least ≤ most then some (repetition flags least (some most) rest) else none
    | _ => none
  | _ => none

/-- What follows an opening parenthesis with a question mark. -/
def flagsToken? (value : Bool) (flags : Flags) : List Char → Option (Token × List Char)
  | ':' :: rest => some (.opening false flags, rest)
  | ')' :: rest => some (.change flags, rest)
  | '-' :: rest => flagsToken? false flags rest
  | 'i' :: rest => flagsToken? value { flags with caseless := value } rest
  | 'm' :: rest => flagsToken? value { flags with manyLines := value } rest
  | 's' :: rest => flagsToken? value { flags with dotMatchesAll := value } rest
  | 'U' :: rest => flagsToken? value { flags with preferLazy := value } rest
  | _ => none

/-- The token that the text begins with, and the text after it. -/
def token? (flags : Flags) : List Char → Option (Token × List Char)
  | [] => none
  | '\\' :: c :: rest => (escape? flags c).map fun part => (.part part, rest)
  | '\\' :: [] => none
  | '[' :: rest =>
    (CharClass.parse? flags.caseless rest).map fun (cls, rest) => (.part (.one cls), rest)
  | '(' :: '?' :: rest => flagsToken? true flags rest
  | '(' :: rest => some (.opening true flags, rest)
  | ')' :: rest => some (.closing, rest)
  | '|' :: rest => some (.bar, rest)
  | '.' :: rest => some (.part (.one (.anything flags.dotMatchesAll)), rest)
  | '^' :: rest =>
    some (.part (.assertion (if flags.manyLines then .lineStart else .textStart)), rest)
  | '$' :: rest => some (.part (.assertion (if flags.manyLines then .lineEnd else .textEnd)), rest)
  | '*' :: rest => some (repetition flags 0 none rest)
  | '+' :: rest => some (repetition flags 1 none rest)
  | '?' :: rest => some (repetition flags 0 (some 1) rest)
  | '\x7b' :: rest => counted? flags rest
  | c :: rest => some (.part (character flags c), rest)

/-! ## Building the expression -/

/-- A group that is still open. -/
structure Group where
  flags : Flags
  number : Option Nat := none
  /-- The alternatives before the current one, the last one first. -/
  alternatives : List Regex := []
  /-- The parts of the current alternative, the last one first. -/
  parts : List Regex := []

namespace Group

def current (group : Group) : Regex := inOrder group.parts.reverse

/-- The choice between all alternatives of the group. -/
def body (group : Group) : Regex :=
  match group.alternatives with
  | [] => group.current
  | alternatives => choice (group.current :: alternatives).reverse

def close (group : Group) : Regex :=
  match group.number with
  | none => group.body
  | some number => .group number group.body

def push (group : Group) (part : Regex) : Group :=
  { group with parts := part :: group.parts }

def next (group : Group) : Group :=
  { group with alternatives := group.current :: group.alternatives, parts := [] }

end Group

/-- The innermost open group, the ones around it, and how many groups have had a number so far. -/
structure Builder where
  group : Group
  outer : List Group := []
  numbers : Nat := 0

namespace Builder

def push (builder : Builder) (part : Regex) : Builder :=
  { builder with group := builder.group.push part }

def add? (builder : Builder) : Token → Option Builder
  | .part regex => some (builder.push regex)
  | .bar => some { builder with group := builder.group.next }
  | .opening numbered flags =>
    let outer := builder.group :: builder.outer
    if numbered then
      some ⟨{ flags := flags, number := some builder.numbers }, outer, builder.numbers + 1⟩
    else some ⟨{ flags := flags }, outer, builder.numbers⟩
  | .change flags => some { builder with group := { builder.group with flags := flags } }
  | .closing =>
    match builder.outer with
    | [] => none
    | group :: outer => some ⟨group.push builder.group.close, outer, builder.numbers⟩
  | .repetition least most greedy =>
    match builder.group.parts with
    | [] => none
    | last :: before =>
      let part := last.times least most greedy
      some { builder with group := { builder.group with parts := part :: before } }

/-- Read the tokens of a text; every token takes at least one character. -/
def read? : (fuel : Nat) → Builder → List Char → Option Builder
  | _, builder, [] => some builder
  | 0, _, _ :: _ => none
  | fuel + 1, builder, text => do
    let (token, rest) ← token? builder.group.flags text
    read? fuel (← builder.add? token) rest

def finish? (builder : Builder) : Option Regex :=
  match builder.outer with
  | [] => some builder.group.close
  | _ :: _ => none

end Builder

def parse? (text : String) : Option Regex := do
  let builder ← Builder.read? text.length { group := { flags := {} } } text.toList
  builder.finish?

end Regex

/-- A regular expression together with its text. -/
structure Pattern where
  text : String
  regex : Regex
deriving DecidableEq

namespace Pattern

def parse? (text : String) : Option Pattern :=
  (Regex.parse? text).map fun regex => ⟨text, regex⟩

end Pattern

end LlmTelemetry

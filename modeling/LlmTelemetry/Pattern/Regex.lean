import LlmTelemetry.Pattern.CharClass
/-!
# Regular expressions

An expression is made of characters, conditions on a place of the text, sequences, alternatives,
repetitions and numbered groups.

Of alternatives the first one that matches is taken, and what all of them begin with is matched only once,
before one of them is chosen. This can be seen where that beginning matches in several ways: `.*a|.*b`
takes as much of `xaxb` as `.*` and one more character can, and so all of it.
-/

namespace LlmTelemetry

/-- A place in a text. -/
structure Place where
  /-- The character before the place. -/
  previous : Option Char
  /-- The characters after it. -/
  rest : List Char
deriving DecidableEq

/-- A condition on a place. -/
inductive Assertion where
  | textStart
  | textEnd
  | lineStart
  | lineEnd
  | wordBoundary
  | noWordBoundary
deriving DecidableEq

namespace Assertion

/-- Whether a word begins or ends at the place. -/
def atWordBoundary (place : Place) : Bool :=
  place.previous.any Unicode.isWord != place.rest.head?.any Unicode.isWord

def holds (place : Place) : Assertion → Bool
  | .textStart => place.previous.isNone
  | .textEnd => place.rest.isEmpty
  | .lineStart => place.previous.all (· == '\n')
  | .lineEnd => place.rest.head?.all (· == '\n')
  | .wordBoundary => atWordBoundary place
  | .noWordBoundary => !atWordBoundary place

end Assertion

inductive Regex where
  | empty
  | one (cls : CharClass)
  | assertion (condition : Assertion)
  | sequence (first second : Regex)
  | either (first second : Regex)
  /-- At least `least` times, and at most `most` times when there is a bound. -/
  | repeated (body : Regex) (least : Nat) (most : Option Nat) (greedy : Bool)
  /-- A group. No two groups of an expression have the same number. -/
  | group (number : Nat) (body : Regex)
deriving DecidableEq

namespace Regex

def inOrder : List Regex → Regex
  | [] => .empty
  | [last] => last
  | first :: second :: rest => .sequence first (inOrder (second :: rest))

/-- A repetition. No times leave nothing, and once is the part itself. -/
def times (body : Regex) (least : Nat) (most : Option Nat) (greedy : Bool) : Regex :=
  match least, most with
  | 0, some 0 => .empty
  | 1, some 1 => body
  | _, _ => .repeated body least most greedy

/-- The first of the alternatives that matches. -/
def firstOf : List Regex → Regex
  | [] => .empty
  | [last] => last
  | first :: second :: rest => .either first (firstOf (second :: rest))

/-- The parts that an expression is a sequence of. -/
def parts : Regex → List Regex
  | .empty => []
  | .sequence first second => first.parts ++ second.parts
  | regex => [regex]

/-- The beginning that two lists of parts have in common. -/
def sharedParts : List Regex → List Regex → List Regex
  | first :: rest, other :: others =>
    if first = other then first :: sharedParts rest others else []
  | _, _ => []

/-- The parts that all the alternatives begin with. There are none if an alternative is a single part. -/
def commonParts (alternatives : List Regex) : List Regex :=
  match alternatives.map parts with
  | [] => []
  | first :: others =>
    if (first :: others).all (2 ≤ ·.length) then others.foldl sharedParts first else []

/-- A choice between alternatives: what all of them begin with, and then the first of them that goes
on. -/
def choice (alternatives : List Regex) : Regex :=
  match commonParts alternatives with
  | [] => firstOf alternatives
  | common =>
    inOrder
      (common ++ [firstOf (alternatives.map fun regex => inOrder (regex.parts.drop common.length))])

end Regex

end LlmTelemetry

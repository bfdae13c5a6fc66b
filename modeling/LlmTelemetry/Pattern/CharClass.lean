import LlmTelemetry.Unicode.Digit
import LlmTelemetry.Unicode.Folding
import LlmTelemetry.Unicode.Space
import LlmTelemetry.Unicode.Word
/-!
# Sets of characters

The classes of characters that a regular expression is made of: ranges, the classes of Unicode, and what
is built of them by the operations on sets.
-/

namespace LlmTelemetry

inductive CharClass where
  | empty
  | range (first last : Char)
  | digit
  | space
  | word
  | complement (cls : CharClass)
  | union (first second : CharClass)
  | intersection (first second : CharClass)
  /-- The characters that differ by case only from one of the set. -/
  | caseless (cls : CharClass)
deriving DecidableEq

namespace CharClass

def contains : CharClass → Char → Bool
  | .empty, _ => false
  | .range first last, c => first ≤ c && c ≤ last
  | .digit, c => Unicode.isDigit c
  | .space, c => Unicode.isSpace c
  | .word, c => Unicode.isWord c
  | .complement cls, c => !contains cls c
  | .union first second, c => contains first c || contains second c
  | .intersection first second, c => contains first c && contains second c
  | .caseless cls, c => (Unicode.orbit c).any (contains cls)

def single (c : Char) : CharClass := .range c c

/-- The class of all characters, or of all but the line feed. -/
def anything (withLineFeed : Bool) : CharClass :=
  .complement (if withLineFeed then .empty else .single '\n')

/-- The class with one more part. -/
def add : CharClass → CharClass → CharClass
  | .empty, part => part
  | cls, part => .union cls part

/-- The characters of any of the parts. -/
def oneOf (parts : List CharClass) : CharClass :=
  parts.foldl add .empty

def difference (first second : CharClass) : CharClass :=
  .intersection first (.complement second)

/-- The characters in one of the classes but not in both. -/
def symmetricDifference (first second : CharClass) : CharClass :=
  .union (first.difference second) (second.difference first)

/-- The class in which case does not count when `caseless` is set. -/
def foldedIf (caseless : Bool) (cls : CharClass) : CharClass :=
  if caseless then .caseless cls else cls

def negatedIf (negated : Bool) (cls : CharClass) : CharClass :=
  if negated then .complement cls else cls

theorem contains_add (cls part : CharClass) (c : Char) :
    (cls.add part).contains c = (cls.contains c || part.contains c) := by
  cases cls <;> simp [add, contains]

end CharClass

end LlmTelemetry

import LlmTelemetry.Pattern.CharClass
/-!
# The text form of character classes

A class in brackets lists characters, ranges, escaped classes, named classes such as `[:alpha:]` and
further classes in brackets. The operators `&&`, `--` and `~~` intersect, subtract and take what is in one
side only; they bind alike and from the left. Where case does not count, every side and every class in
brackets is closed under changes of case before it is combined or negated.
-/

namespace LlmTelemetry

namespace CharClass

/-! ## Escapes -/

/-- The class that an escaped letter names. -/
def escaped? (c : Char) : Option CharClass :=
  if c = 'd' then some .digit
  else if c = 'D' then some (.complement .digit)
  else if c = 's' then some .space
  else if c = 'S' then some (.complement .space)
  else if c = 'w' then some .word
  else if c = 'W' then some (.complement .word)
  else none

/-- The character that an escape stands for. -/
def escapedCharacter? (c : Char) : Option Char :=
  if c = 'n' then some '\n'
  else if c = 't' then some '\t'
  else if c = 'r' then some '\r'
  else if c = 'f' then some '\x0c'
  else if c = 'v' then some '\x0b'
  else if c = 'a' then some '\x07'
  else if c.toNat < 128 ∧ ¬ c.isAlphanum ∧ c ≠ '<' ∧ c ≠ '>' then some c
  else none

/-! ## Named classes -/

/-- The classes of ASCII characters that have a name. -/
def named? (name : String) : Option CharClass :=
  let lower := range 'a' 'z'
  let upper := range 'A' 'Z'
  let digits := range '0' '9'
  match name with
  | "alnum" => some (oneOf [digits, upper, lower])
  | "alpha" => some (oneOf [upper, lower])
  | "ascii" => some (range '\x00' '\x7f')
  | "blank" => some (oneOf [single '\t', single ' '])
  | "cntrl" => some (oneOf [range '\x00' '\x1f', single '\x7f'])
  | "digit" => some digits
  | "graph" => some (range '!' '~')
  | "lower" => some lower
  | "print" => some (range ' ' '~')
  | "punct" => some (oneOf [range '!' '/', range ':' '@', range '[' '\x60', range '\x7b' '~'])
  | "space" => some (oneOf [range '\t' '\r', single ' '])
  | "upper" => some upper
  | "word" => some (oneOf [digits, upper, single '_', lower])
  | "xdigit" => some (oneOf [digits, range 'A' 'F', range 'a' 'f'])
  | _ => none

/-- The named class behind a bracket inside brackets, such as `:alpha:]`. -/
def namedText? (caseless : Bool) : List Char → Option (CharClass × List Char)
  | ':' :: text =>
    let (negated, text) := match text with
      | '^' :: rest => (true, rest)
      | other => (false, other)
    match text.dropWhile (· != ':') with
    | ':' :: ']' :: rest =>
      (named? (String.ofList (text.takeWhile (· != ':')))).map fun cls =>
        ((cls.foldedIf caseless).negatedIf negated, rest)
    | _ => none
  | _ => none

/-! ## Classes in brackets -/

/-- A member of a class: one character or a class. -/
def member? : List Char → Option ((Char ⊕ CharClass) × List Char)
  | '\\' :: c :: rest =>
    match escaped? c with
    | some cls => some (.inr cls, rest)
    | none => (escapedCharacter? c).map fun d => (.inl d, rest)
  | '\\' :: [] => none
  | c :: rest => some (.inl c, rest)
  | [] => none

/-- A member of a class, together with the range that it begins. A hyphen that stands before the closing
bracket or another hyphen begins no range. -/
def memberOrRange? (text : List Char) : Option (CharClass × List Char) := do
  let (first, rest) ← member? text
  let lower := match first with
    | .inl c => single c
    | .inr cls => cls
  match rest with
  | '-' :: ']' :: _ => some (lower, rest)
  | '-' :: '-' :: _ => some (lower, rest)
  | '-' :: after => do
    let (last, rest) ← member? after
    match first, last with
    | .inl first, .inl last => if first ≤ last then some (.range first last, rest) else none
    | _, _ => none
  | _ => some (lower, rest)

/-- A class in brackets that is being read. -/
structure Draft where
  caseless : Bool
  negated : Bool
  /-- What to do with the side of an operator that is being read. -/
  combine : CharClass → CharClass := id
  /-- The members of that side so far. -/
  members : CharClass

namespace Draft

def add (draft : Draft) (cls : CharClass) : Draft :=
  { draft with members := draft.members.add cls }

/-- Begin the right side of an operator. -/
def operator (draft : Draft) (operation : CharClass → CharClass → CharClass) : Draft :=
  let left := (draft.combine draft.members).foldedIf draft.caseless
  { draft with
    combine := fun right => operation left (right.foldedIf draft.caseless)
    members := .empty }

def close (draft : Draft) : CharClass :=
  ((draft.combine draft.members).foldedIf draft.caseless).negatedIf draft.negated

def begin (caseless : Bool) (text : List Char) : Draft × List Char :=
  let (negated, text) := match text with
    | '^' :: rest => (true, rest)
    | other => (false, other)
  match text with
  | ']' :: rest => (⟨caseless, negated, id, single ']'⟩, rest)
  | '-' :: rest => (⟨caseless, negated, id, single '-'⟩, rest.dropWhile (· == '-'))
  | other => (⟨caseless, negated, id, .empty⟩, other)

end Draft

/-- Read a class up to its closing bracket. The drafts of the classes around it are `outer`. -/
def read? : (fuel : Nat) → (draft : Draft) → (outer : List Draft) → List Char →
    Option (CharClass × List Char)
  | 0, _, _, _ => none
  | fuel + 1, draft, outer, text =>
    match text with
    | [] => none
    | '[' :: rest =>
      match namedText? draft.caseless rest with
      | some (cls, rest) => read? fuel (draft.add cls) outer rest
      | none =>
        let (inner, rest) := Draft.begin draft.caseless rest
        read? fuel inner (draft :: outer) rest
    | ']' :: rest =>
      match outer with
      | [] => some (draft.close, rest)
      | parent :: outer => read? fuel (parent.add draft.close) outer rest
    | '&' :: '&' :: rest => read? fuel (draft.operator .intersection) outer rest
    | '-' :: '-' :: rest => read? fuel (draft.operator difference) outer rest
    | '~' :: '~' :: rest => read? fuel (draft.operator symmetricDifference) outer rest
    | text => do
      let (cls, rest) ← memberOrRange? text
      read? fuel (draft.add cls) outer rest

def parse? (caseless : Bool) (text : List Char) : Option (CharClass × List Char) :=
  let (draft, rest) := Draft.begin caseless text
  read? text.length draft [] rest

end CharClass

end LlmTelemetry

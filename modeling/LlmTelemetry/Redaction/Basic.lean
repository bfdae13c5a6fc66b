import LlmTelemetry.Fault
import LlmTelemetry.Json.Basic
import LlmTelemetry.Pattern.Search
import LlmTelemetry.Redaction.Sensitive
/-!
# Redaction

What is taken out of texts before they leave the process. Under blackout every text that people wrote or
read is replaced as a whole. Otherwise the matches of the patterns are replaced in every string of a
value, and then the filter of the application, if there is one, is applied to the string. Keys of
objects and the structure of values stay.
-/

namespace LlmTelemetry

/-- What stands in for redacted text. -/
def redactedText : String := "[REDACTED]"

/-- A change of texts made by the application; it may abort. -/
abbrev TextFilter := String → Except Panic String

structure Redaction where
  blackout : Bool := false
  patterns : List Pattern := []
  filter : Option TextFilter := none

namespace Redaction

def hasFilters (redaction : Redaction) : Bool :=
  !redaction.patterns.isEmpty || redaction.filter.isSome

def maskText (redaction : Redaction) (text : String) : String :=
  redaction.patterns.foldl (fun text pattern => pattern.regex.replaceAll redactedText text) text

def scrubText (redaction : Redaction) (text : String) : Except Panic String :=
  match redaction.filter with
  | some filter => filter (redaction.maskText text)
  | none => .ok (redaction.maskText text)

mutual

def scrub (redaction : Redaction) : Json → Except Panic Json
  | .string text => (redaction.scrubText text).map Json.string
  | .array items => (redaction.scrubItems items).map Json.array
  | .object fields => (redaction.scrubFields fields).map Json.object
  | .null => .ok .null
  | .bool value => .ok (.bool value)
  | .number value => .ok (.number value)

def scrubItems (redaction : Redaction) : List Json → Except Panic (List Json)
  | [] => .ok []
  | item :: rest => do
    let item ← redaction.scrub item
    let rest ← redaction.scrubItems rest
    return item :: rest

def scrubFields (redaction : Redaction) :
    List (String × Json) → Except Panic (List (String × Json))
  | [] => .ok []
  | (key, value) :: rest => do
    let value ← redaction.scrub value
    let rest ← redaction.scrubFields rest
    return (key, value) :: rest

end

/-- A text that people wrote or read. -/
def textField (redaction : Redaction) (text : String) : Except Panic String :=
  if redaction.blackout then .ok redactedText
  else if redaction.hasFilters then redaction.scrubText text
  else .ok text

/-- A value that blackout leaves alone: parameters and arguments of tools. -/
def structuredField (redaction : Redaction) (value : Json) : Except Panic Json :=
  if redaction.hasFilters then redaction.scrub value else .ok value

def contentField (redaction : Redaction) (content : Json) : Except Panic Json :=
  if redaction.blackout then .ok (.string redactedText) else redaction.structuredField content

end Redaction

end LlmTelemetry

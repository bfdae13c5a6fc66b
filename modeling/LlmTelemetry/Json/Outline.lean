import LlmTelemetry.Json.Document
/-!
# Reading a part of a document

A reader that knows which fields it looks for passes over all others, whatever stands in them, and refuses
a field that is given twice. An outline says which fields those are.
-/

namespace LlmTelemetry

/-- What a reader looks at. -/
inductive Outline where
  | anything
  | items (item : Outline)
  | record (fields : List (String × Outline))

namespace Outline

/-- The outline of the items of an array, when all have the same. -/
def item : Outline → Outline
  | .items item => item
  | _ => .anything

end Outline

namespace Document

mutual

/-- The value of what a reader looks at, with at most `depth` levels of arrays and objects. -/
def select? : Outline → Nat → Document → Option Json
  | _, _, .null => some .null
  | _, _, .bool value => some (.bool value)
  | _, _, .number value => value.map .number
  | _, _, .string value => value.map .string
  | _, 0, .array _ => none
  | _, 0, .object _ => none
  | .record fields, depth + 1, .array items =>
    (selectEach? (fields.map Prod.snd) depth items).map .array
  | outline, depth + 1, .array items => (selectItems? outline.item depth items).map .array
  | .record fields, depth + 1, .object members =>
    (selectMembers? fields [] depth members).map Json.record
  | _, depth + 1, .object members => (membersToJson? depth members).map Json.record

def selectItems? : Outline → Nat → List Document → Option (List Json)
  | _, _, [] => some []
  | outline, depth, item :: rest => do
    let value ← select? outline depth item
    let values ← selectItems? outline depth rest
    return value :: values

/-- The elements of an array that stands for a record, each with the outline of its field. -/
def selectEach? : List Outline → Nat → List Document → Option (List Json)
  | _, _, [] => some []
  | outlines, depth, item :: rest => do
    let value ← select? (outlines.head?.getD .anything) depth item
    let values ← selectEach? outlines.tail depth rest
    return value :: values

/-- The members of an object that the reader looks at, none of them among those seen before. -/
def selectMembers? : List (String × Outline) → List String → Nat → List (Option String × Document) →
    Option (List (String × Json))
  | _, _, _, [] => some []
  | fields, seen, depth, (key, item) :: rest => do
    let name ← key
    match KeyedList.find? name fields with
    | none => selectMembers? fields seen depth rest
    | some outline =>
      if seen.contains name then none
      else do
        let value ← select? outline depth item
        let values ← selectMembers? fields (name :: seen) depth rest
        return (name, value) :: values

end

end Document

/-- Read the part of a JSON text that an outline looks at. -/
def Outline.read? (outline : Outline) (text : String) : Option Json :=
  (Document.parse? text).bind (Document.select? outline Json.maximalDepth)

end LlmTelemetry

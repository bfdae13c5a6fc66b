import LlmTelemetry.Json.Printer
import LlmTelemetry.Unicode.Visible
/-!
# Reading typed values from JSON

A record type is described once, by a `Shape`: its fields in order, how each is read and what stands in
for it when it is absent. A shape reads an object, whose keys may come with others that are ignored, and
it reads an array that lists the fields in order.

Of several faults the one told is fixed: in an object the first key in sorted order whose value cannot
be read, then the first missing field in the order of the shape; in an array the first element that
cannot be read or is missing.
-/

namespace LlmTelemetry

/-- Why a JSON value does not fit a type. -/
inductive DecodeError where
  | missingField (name : String)
  | invalidType (found : Json) (expected : String)
  | invalidValue (found : Json) (expected : String)
  | unknownVariant (found : String) (known : List String)
  | invalidLength (length : Nat) (expected : String)

namespace DecodeError

/-- A character of a quoted string in a message. One that can not be seen is written as its code point. -/
def escape (c : Char) : List Char :=
  if c = '"' then ['\\', '"']
  else if c = '\\' then ['\\', '\\']
  else if c = '\n' then ['\\', 'n']
  else if c = '\r' then ['\\', 'r']
  else if c = '\t' then ['\\', 't']
  else if c.toNat = 0 then ['\\', '0']
  else if Unicode.isVisible c then [c]
  else ['\\', 'u', '\x7b'] ++ Nat.toDigits 16 c.toNat ++ ['\x7d']

/-- How a message names the value that was found. -/
def foundText : Json → String
  | .null => "null"
  | .bool true => "boolean `true`"
  | .bool false => "boolean `false`"
  | .number (.natural value) => "integer `" ++ toString value.toNat ++ "`"
  | .number (.negative value) => "integer `" ++ toString value.toInt ++ "`"
  | .number (.double value) => "floating point `" ++ (Json.number (.double value)).text ++ "`"
  | .string value => "string \"" ++ String.ofList (value.toList.flatMap escape) ++ "\""
  | .array _ => "sequence"
  | .object _ => "map"

/-- The known variants of a choice, as a message lists them. -/
def choiceText : List String → String
  | [first, second] => "`" ++ first ++ "` or `" ++ second ++ "`"
  | [only] => "`" ++ only ++ "`"
  | many => "one of " ++ String.intercalate ", " (many.map fun name => "`" ++ name ++ "`")

def text : DecodeError → String
  | .missingField name => "missing field `" ++ name ++ "`"
  | .invalidType found expected => "invalid type: " ++ foundText found ++ ", expected " ++ expected
  | .invalidValue found expected => "invalid value: " ++ foundText found ++ ", expected " ++ expected
  | .unknownVariant found known =>
    "unknown variant `" ++ found ++ "`, expected " ++ choiceText known
  | .invalidLength length expected =>
    "invalid length " ++ toString length ++ ", expected " ++ expected

end DecodeError

/-- A way to read a value. -/
abbrev Decode (α : Type) := Json → Except DecodeError α

namespace Decode

def any : Decode Json := .ok

def string : Decode String
  | .string value => .ok value
  | other => .error (.invalidType other "a string")

def bool : Decode Bool
  | .bool value => .ok value
  | other => .error (.invalidType other "a boolean")

def uint64 : Decode UInt64
  | .number (.natural value) => .ok value
  | .number (.negative value) => .error (.invalidValue (.number (.negative value)) "u64")
  | other => .error (.invalidType other "u64")

/-- The double nearest to a signed integer. -/
def nearestDouble (value : Int64) : Float :=
  .ofModel (.ofInt64 value)

def float : Decode Float
  | .number (.natural value) => .ok value.toFloat
  | .number (.negative value) => .ok (nearestDouble value)
  | .number (.double value) => .ok value
  | other => .error (.invalidType other "f64")

/-- A value that may be `null`. -/
def optional {α : Type} (decode : Decode α) : Decode (Option α)
  | .null => .ok none
  | other => (decode other).map some

def list {α : Type} (decode : Decode α) : Decode (List α)
  | .array items => items.mapM decode
  | other => .error (.invalidType other "a sequence")

/-- The variant with the given name. -/
def named {α : Type} (variants : List (String × α)) (name : String) : Except DecodeError α :=
  match KeyedList.find? name variants with
  | some variant => .ok variant
  | none => .error (.unknownVariant name (KeyedList.keys variants))

/-- A variant without data: its name, or an object that maps its name to `null`. -/
def variant {α : Type} (variants : List (String × α)) : Decode α
  | .string name => named variants name
  | .object [(name, content)] => do
    let chosen ← named variants name
    match content with
    | .null => .ok chosen
    | other => .error (.invalidType other "unit")
  | .object fields => .error (.invalidValue (.object fields) "map with a single key")
  | other => .error (.invalidType other "string or map")

end Decode

/-- One field of a record type. -/
structure Field (α : Type) where
  name : String
  decode : Decode α
  /-- Stands in for the field when the object does not have its key. -/
  whenAbsent : Option α
  /-- Stands in for the field when the array ends before it. -/
  whenShort : Option α

def Field.required {α : Type} (name : String) (decode : Decode α) : Field α :=
  ⟨name, decode, none, none⟩

def Field.defaulted {α : Type} (name : String) (decode : Decode α) (value : α) : Field α :=
  ⟨name, decode, some value, some value⟩

/-- A field that may be absent or `null`. -/
def Field.optional {α : Type} (name : String) (decode : Decode α) : Field (Option α) :=
  .defaulted name (.optional decode) none

def Field.nullable {α : Type} (name : String) (decode : Decode α) : Field (Option α) :=
  ⟨name, .optional decode, some none, none⟩

/-- The fields of a record type, and how its values are built from them. -/
structure Shape (α : Type) where
  /-- For each key, whether a value under it can be read. -/
  checks : List (String × (Json → Except DecodeError Unit))
  /-- Build a value from the fields of an object. -/
  fromFields : (String → Option Json) → Except DecodeError α
  /-- Build a value from the elements of an array, given what to say when they run out and the number
  of elements before them. The elements left over are returned. -/
  fromItems : String → Nat → List Json → Except DecodeError (α × List Json)

namespace Shape

variable {α β : Type}

def build (value : α) : Shape α where
  checks := []
  fromFields := fun _ => .ok value
  fromItems := fun _ _ items => .ok (value, items)

def readField (field : Field β) (lookup : String → Option Json) : Except DecodeError β :=
  match lookup field.name, field.whenAbsent with
  | some value, _ => field.decode value
  | none, some value => .ok value
  | none, none => .error (.missingField field.name)

def readItem (field : Field β) (expected : String) (position : Nat) :
    List Json → Except DecodeError (β × List Json)
  | item :: rest => (field.decode item).map fun value => (value, rest)
  | [] =>
    match field.whenShort with
    | some value => .ok (value, [])
    | none => .error (.invalidLength position expected)

def field (shape : Shape (β → α)) (next : Field β) : Shape α where
  checks := shape.checks ++ [(next.name, fun value => (next.decode value).map fun _ => ())]
  fromFields := fun lookup => do
    let construct ← shape.fromFields lookup
    let value ← readField next lookup
    return construct value
  fromItems := fun expected position items => do
    let (construct, rest) ← shape.fromItems expected position items
    let (value, left) ← readItem next expected (position + shape.checks.length) rest
    return (construct value, left)

/-- The first key whose value cannot be read decides. -/
def checkFields (checks : List (String × (Json → Except DecodeError Unit))) :
    List (String × Json) → Except DecodeError Unit
  | [] => .ok ()
  | (key, value) :: rest => do
    match KeyedList.find? key checks with
    | some check => check value
    | none => .ok ()
    checkFields checks rest

/-- What an array of the fields is called in a message. -/
def lengthText (name : String) (count : Nat) : String :=
  "struct " ++ name ++ " with " ++ toString count ++ (if count = 1 then " element" else " elements")

/-- Read a value of the record type called `name`. -/
def decode (name : String) (shape : Shape α) : Decode α
  | .object fields => do
    checkFields shape.checks fields
    shape.fromFields fun key => KeyedList.find? key fields
  | .array items => do
    let (value, rest) ← shape.fromItems (lengthText name shape.checks.length) 0 items
    if rest.isEmpty then .ok value
    else .error (.invalidLength items.length "fewer elements in array")
  | other => .error (.invalidType other ("struct " ++ name))

end Shape

end LlmTelemetry

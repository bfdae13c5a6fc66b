import LlmTelemetry.KeyedList
/-!
# JSON values

A number keeps whether it was written as an integer or as a double, and the fields of an object are
sorted by key with no key twice. `Json.record` builds such an object from any list of fields.
-/

namespace LlmTelemetry

inductive Number where
  | natural (value : UInt64)
  | negative (value : Int64)
  | double (value : Float)
deriving DecidableEq

inductive Json where
  | null
  | bool (value : Bool)
  | number (value : Number)
  | string (value : String)
  | array (items : List Json)
  | object (fields : List (String × Json))

instance : Inhabited Json := ⟨.null⟩

namespace Json

def record (fields : List (String × Json)) : Json :=
  .object (KeyedList.sorted fields)

def ofUInt64 (value : UInt64) : Json :=
  .number (.natural value)

/-- A double; the ones that are no numbers have no JSON form and become `null`. -/
def ofFloat (value : Float) : Json :=
  if value.isFinite then .number (.double value) else .null

/-- An optional value, `null` when absent. -/
def ofOption {α : Type} (encode : α → Json) : Option α → Json
  | none => .null
  | some value => encode value

def field? (key : String) : Json → Option Json
  | .object fields => KeyedList.find? key fields
  | _ => none

def asString? : Json → Option String
  | .string value => some value
  | _ => none

def asArray? : Json → Option (List Json)
  | .array items => some items
  | _ => none

def asBool? : Json → Option Bool
  | .bool value => some value
  | _ => none

/-- The value of a nonnegative integer. -/
def asUInt64? : Json → Option UInt64
  | .number (.natural value) => some value
  | _ => none

def isObject : Json → Bool
  | .object _ => true
  | _ => false

def stringField? (key : String) (value : Json) : Option String :=
  (value.field? key).bind asString?

mutual

/-- Equality of values; doubles are equal when their bits are. -/
def beq : Json → Json → Bool
  | .null, .null => true
  | .bool a, .bool b => a == b
  | .number a, .number b => a = b
  | .string a, .string b => a == b
  | .array a, .array b => beqItems a b
  | .object a, .object b => beqFields a b
  | _, _ => false

def beqItems : List Json → List Json → Bool
  | [], [] => true
  | a :: as, b :: bs => beq a b && beqItems as bs
  | _, _ => false

def beqFields : List (String × Json) → List (String × Json) → Bool
  | [], [] => true
  | (j, a) :: as, (k, b) :: bs => j == k && beq a b && beqFields as bs
  | _, _ => false

end

instance : BEq Json := ⟨beq⟩

end Json

end LlmTelemetry

import LlmTelemetry.Json.Basic
/-!
# The strings and the keys of a value

The strings and the keys that occur in a value at any depth, and the change of all its strings that leaves
everything else as it is.
-/

namespace LlmTelemetry

namespace Json

mutual

/-- The strings of a value at any depth, without the keys of objects. -/
def strings : Json → List String
  | .string text => [text]
  | .array items => stringsOfItems items
  | .object fields => stringsOfFields fields
  | .null => []
  | .bool _ => []
  | .number _ => []

def stringsOfItems : List Json → List String
  | [] => []
  | item :: rest => item.strings ++ stringsOfItems rest

def stringsOfFields : List (String × Json) → List String
  | [] => []
  | (_, value) :: rest => value.strings ++ stringsOfFields rest

end

mutual

/-- The keys of the objects in a value at any depth. -/
def keys : Json → List String
  | .array items => keysOfItems items
  | .object fields => keysOfFields fields
  | .string _ => []
  | .null => []
  | .bool _ => []
  | .number _ => []

def keysOfItems : List Json → List String
  | [] => []
  | item :: rest => item.keys ++ keysOfItems rest

def keysOfFields : List (String × Json) → List String
  | [] => []
  | (key, value) :: rest => key :: value.keys ++ keysOfFields rest

end

section Members

variable {text key : String} {item : Json} {items : List Json}

theorem mem_stringsOfItems (member : item ∈ items) (among : text ∈ item.strings) : text ∈ stringsOfItems items := by
  induction items with
  | nil => cases member
  | cons first rest ih =>
    rw [stringsOfItems, List.mem_append]
    rcases List.mem_cons.mp member with rfl | member
    · exact .inl among
    · exact .inr (ih member)

theorem mem_keysOfItems (member : item ∈ items) (among : text ∈ item.keys) : text ∈ keysOfItems items := by
  induction items with
  | nil => cases member
  | cons first rest ih =>
    rw [keysOfItems, List.mem_append]
    rcases List.mem_cons.mp member with rfl | member
    · exact .inl among
    · exact .inr (ih member)

theorem mem_stringsOfFields {fields : List (String × Json)} (found : KeyedList.find? key fields = some item)
    (among : text ∈ item.strings) : text ∈ stringsOfFields fields := by
  induction fields with
  | nil => cases found
  | cons field rest ih =>
    rw [stringsOfFields, List.mem_append]
    rw [KeyedList.find?] at found
    split at found
    · exact .inl (Option.some.inj found ▸ among)
    · exact .inr (ih found)

theorem mem_strings_of_stringField? {value : Json} (found : value.stringField? key = some text) :
    text ∈ value.strings := by
  obtain ⟨item, here, string⟩ := Option.bind_eq_some_iff.mp found
  have among : text ∈ item.strings := by
    cases item with
    | string other =>
      cases string
      exact List.mem_singleton_self text
    | null | bool | number | array | object => cases string
  cases value with
  | object fields => exact mem_stringsOfFields here among
  | null | bool | number | string | array => cases here

end Members

mutual

/-- Change every string of a value. -/
def mapStrings (change : String → String) : Json → Json
  | .string text => .string (change text)
  | .array items => .array (mapItems change items)
  | .object fields => .object (mapFields change fields)
  | .null => .null
  | .bool value => .bool value
  | .number value => .number value

def mapItems (change : String → String) : List Json → List Json
  | [] => []
  | item :: rest => item.mapStrings change :: mapItems change rest

def mapFields (change : String → String) : List (String × Json) → List (String × Json)
  | [] => []
  | (key, value) :: rest => (key, value.mapStrings change) :: mapFields change rest

end

mutual

theorem strings_mapStrings (change : String → String) :
    (value : Json) → (value.mapStrings change).strings = value.strings.map change
  | .string _ => rfl
  | .array items => stringsOfItems_mapItems change items
  | .object fields => stringsOfFields_mapFields change fields
  | .null => rfl
  | .bool _ => rfl
  | .number _ => rfl

theorem stringsOfItems_mapItems (change : String → String) :
    (items : List Json) →
      stringsOfItems (mapItems change items) = (stringsOfItems items).map change
  | [] => rfl
  | item :: rest => by
    rw [mapItems, stringsOfItems, stringsOfItems, strings_mapStrings change item,
      stringsOfItems_mapItems change rest, List.map_append]

theorem stringsOfFields_mapFields (change : String → String) :
    (fields : List (String × Json)) →
      stringsOfFields (mapFields change fields) = (stringsOfFields fields).map change
  | [] => rfl
  | (key, value) :: rest => by
    rw [mapFields, stringsOfFields, stringsOfFields, strings_mapStrings change value,
      stringsOfFields_mapFields change rest, List.map_append]

end

mutual

theorem keys_mapStrings (change : String → String) :
    (value : Json) → (value.mapStrings change).keys = value.keys
  | .string _ => rfl
  | .array items => keysOfItems_mapItems change items
  | .object fields => keysOfFields_mapFields change fields
  | .null => rfl
  | .bool _ => rfl
  | .number _ => rfl

theorem keysOfItems_mapItems (change : String → String) :
    (items : List Json) → keysOfItems (mapItems change items) = keysOfItems items
  | [] => rfl
  | item :: rest => by
    rw [mapItems, keysOfItems, keysOfItems, keys_mapStrings change item,
      keysOfItems_mapItems change rest]

theorem keysOfFields_mapFields (change : String → String) :
    (fields : List (String × Json)) → keysOfFields (mapFields change fields) = keysOfFields fields
  | [] => rfl
  | (key, value) :: rest => by
    rw [mapFields, keysOfFields, keysOfFields, keys_mapStrings change value,
      keysOfFields_mapFields change rest]

end

mutual

/-- A change that leaves every string leaves the value. -/
theorem mapStrings_of_same {change : String → String} (same : ∀ text, change text = text) :
    (value : Json) → value.mapStrings change = value
  | .string text => congrArg string (same text)
  | .array items => congrArg array (mapItems_of_same same items)
  | .object fields => congrArg object (mapFields_of_same same fields)
  | .null => rfl
  | .bool _ => rfl
  | .number _ => rfl

theorem mapItems_of_same {change : String → String} (same : ∀ text, change text = text) :
    (items : List Json) → mapItems change items = items
  | [] => rfl
  | item :: rest => by
    rw [mapItems, mapStrings_of_same same item, mapItems_of_same same rest]

theorem mapFields_of_same {change : String → String} (same : ∀ text, change text = text) :
    (fields : List (String × Json)) → mapFields change fields = fields
  | [] => rfl
  | (key, value) :: rest => by
    rw [mapFields, mapStrings_of_same same value, mapFields_of_same same rest]

end

/-! ## Parts of a changed value -/

theorem asArray?_mapStrings (change : String → String) (value : Json) :
    (value.mapStrings change).asArray? = value.asArray?.map (List.map (mapStrings change)) := by
  cases value with
  | array items =>
    rw [mapStrings, asArray?, asArray?, Option.map_some]
    congr 1
    induction items with
    | nil => rfl
    | cons item rest ih => rw [mapItems, ih, List.map_cons]
  | null | bool | number | string | object => rfl

theorem field?_mapStrings (change : String → String) (key : String) (value : Json) :
    (value.mapStrings change).field? key = (value.field? key).map (mapStrings change) := by
  cases value with
  | object fields =>
    rw [mapStrings, field?, field?]
    induction fields with
    | nil => rfl
    | cons field rest ih =>
      obtain ⟨name, value⟩ := field
      rw [mapFields]
      by_cases here : name = key
      · simp [KeyedList.find?, here]
      · simpa [KeyedList.find?, here] using ih
  | null | bool | number | string | array => rfl

end Json

end LlmTelemetry

import LlmTelemetry.Fault
import LlmTelemetry.Proofs.Decimal.Finite
import LlmTelemetry.Proofs.Json.Fields
import LlmTelemetry.Wire.Decoder
/-!
# What a shape reads

Two laws of record types hold for every shape, whatever its fields are. An object that is built from a list of
fields is read when each field of the shape is: no key that is checked was not read as well. And what is read
from an object or an array keeps the properties that each of its fields has, given or filled in.
-/

namespace LlmTelemetry

/-! ## Values without infinities -/

namespace Json

mutual

/-- Every double in a value is a number, as it is in every JSON text. -/
def isFinite : Json → Bool
  | .number (.double value) => value.isFinite
  | .array items => itemsAreFinite items
  | .object fields => fieldsAreFinite fields
  | _ => true

def itemsAreFinite : List Json → Bool
  | [] => true
  | item :: rest => isFinite item && itemsAreFinite rest

def fieldsAreFinite : List (String × Json) → Bool
  | [] => true
  | (_, value) :: rest => isFinite value && fieldsAreFinite rest

end

theorem isFinite_of_mem {item : Json} {items : List Json} (finite : itemsAreFinite items = true)
    (among : item ∈ items) : item.isFinite = true := by
  induction items with
  | nil => cases among
  | cons first rest ih =>
    rw [itemsAreFinite, Bool.and_eq_true] at finite
    rcases List.mem_cons.mp among with rfl | among
    · exact finite.1
    · exact ih finite.2 among

theorem isFinite_of_find? {key : String} {value : Json} {fields : List (String × Json)}
    (finite : fieldsAreFinite fields = true) (found : KeyedList.find? key fields = some value) :
    value.isFinite = true := by
  induction fields with
  | nil => cases found
  | cons field rest ih =>
    rw [fieldsAreFinite, Bool.and_eq_true] at finite
    rw [KeyedList.find?] at found
    split at found
    · cases found
      exact finite.1
    · exact ih finite.2 found

end Json

/-! ## Readers -/

namespace Decode

variable {α : Type}

/-- Whatever is read from a value without infinities has a property. -/
def Ensures (decode : Decode α) (property : α → Prop) : Prop :=
  ∀ found value, found.isFinite = true → decode found = .ok value → property value

theorem bounded_nearestDouble (value : Int64) : Decimal.Bounded 118 (nearestDouble value) := by
  have small : value.toInt.natAbs < 2 ^ 64 := by
    have := value.le_toInt
    have := value.toInt_lt
    omega
  exact Decimal.within_pack (Decimal.within_ofInt small) (by decide)

theorem float_ensures : Decode.float.Ensures fun value => value.isFinite = true := by
  intro found value finite read
  match found, read with
  | .number (.natural number), rfl => exact (Decimal.bounded_toFloat number).isFinite
  | .number (.negative number), rfl => exact (bounded_nearestDouble number).isFinite
  | .number (.double number), rfl => exact finite

theorem optional_any_ensures : (Decode.optional .any).Ensures (· ≠ some .null) := by
  rintro found value - read rfl
  cases found <;> simp [Decode.optional, Decode.any, Except.map] at read

theorem mapM_ensures {decode : Decode α} {property : α → Prop} (each : decode.Ensures property)
    {items : List Json} {values : List α} (finite : ∀ item ∈ items, item.isFinite = true)
    (read : items.mapM decode = .ok values) : ∀ value ∈ values, property value := by
  induction items generalizing values with
  | nil =>
    cases read
    simp
  | cons item rest ih =>
    rw [List.mapM_cons] at read
    cases first : decode item with
    | error reason => rw [first] at read; cases read
    | ok value =>
      cases others : rest.mapM decode with
      | error reason => rw [first, others] at read; cases read
      | ok remaining =>
        rw [first, others] at read
        cases read
        rw [List.forall_mem_cons] at finite ⊢
        exact ⟨each item value finite.1 first, ih finite.2 others⟩

theorem list_ensures {decode : Decode α} {property : α → Prop} (each : decode.Ensures property) :
    (Decode.list decode).Ensures fun values => ∀ value ∈ values, property value := by
  intro found values finite read
  match found with
  | .array items => exact mapM_ensures each (fun _ among => Json.isFinite_of_mem finite among) read

/-- A list is read back when its elements are. -/
theorem list_map {decode : Decode α} {encode : α → Json} {values : List α}
    (reads : ∀ value ∈ values, decode (encode value) = .ok value) :
    Decode.list decode (.array (values.map encode)) = .ok values := by
  rw [Decode.list]
  induction values with
  | nil => rfl
  | cons value rest ih =>
    rw [List.forall_mem_cons] at reads
    rw [List.map_cons, List.mapM_cons, reads.1, ih reads.2]
    rfl

/-- An optional value is read back when its content is, and the content is not taken for nothing. -/
theorem optional_ofOption {decode : Decode α} {encode : α → Json} {value : Option α}
    (reads : ∀ content ∈ value, decode (encode content) = .ok content)
    (shown : ∀ content ∈ value, encode content ≠ .null) :
    Decode.optional decode (.ofOption encode value) = .ok value := by
  cases value with
  | none => rfl
  | some content =>
    rw [Json.ofOption, Decode.optional.eq_2 decode _ (shown content rfl), reads content rfl]
    rfl

end Decode

/-! ## Shapes -/

/-- What is read as a field, or fills it in, has a property. -/
structure Field.Ensures {β : Type} (next : Field β) (property : β → Prop) : Prop where
  read : next.decode.Ensures property
  absent : ∀ value ∈ next.whenAbsent, property value
  short : ∀ value ∈ next.whenShort, property value

theorem Field.ensures_required {β : Type} {name : String} {decode : Decode β} {property : β → Prop}
    (read : decode.Ensures property) : (Field.required name decode).Ensures property :=
  ⟨read, fun _ none => (nomatch none), fun _ none => (nomatch none)⟩

theorem Field.ensures_defaulted {β : Type} {name : String} {decode : Decode β} {value : β} {property : β → Prop}
    (read : decode.Ensures property) (filled : property value) :
    (Field.defaulted name decode value).Ensures property :=
  ⟨read, fun _ given => Option.some.inj given ▸ filled, fun _ given => Option.some.inj given ▸ filled⟩

theorem Field.ensures_true {β : Type} (next : Field β) : next.Ensures fun _ => True :=
  ⟨fun _ _ _ _ => trivial, fun _ _ => trivial, fun _ _ => trivial⟩

namespace Shape

variable {α β : Type} {shape : Shape α} {chain : Shape (β → α)} {next : Field β}

section Reading

/-- A value that was read as a field passes the check of its key. -/
class Sound (shape : Shape α) : Prop where
  passes : ∀ lookup value, shape.fromFields lookup = .ok value →
    ∀ entry ∈ shape.checks, ∀ found, lookup entry.1 = some found → entry.2 found = .ok ()

instance (value : α) : (build value).Sound where
  passes _ _ _ _ among := nomatch among

@[simp] theorem fromFields_build (value : α) (lookup : String → Option Json) :
    (build value).fromFields lookup = .ok value := rfl

@[simp] theorem fromFields_field (lookup : String → Option Json) :
    (chain.field next).fromFields lookup =
      (chain.fromFields lookup).bind fun construct => (readField next lookup).map construct := by
  simp only [field]
  generalize chain.fromFields lookup = earlier
  generalize readField next lookup = here
  cases earlier <;> cases here <;> rfl

theorem fromFields_field_eq_ok {lookup : String → Option Json} {value : α} :
    (chain.field next).fromFields lookup = .ok value ↔
      ∃ construct content, chain.fromFields lookup = .ok construct ∧ readField next lookup = .ok content ∧
        construct content = value := by
  rw [fromFields_field]
  cases chain.fromFields lookup <;> cases readField next lookup <;> simp [Except.bind, Except.map]

theorem fromItems_field_eq_ok {expected : String} {position : Nat} {items rest : List Json} {value : α} :
    (chain.field next).fromItems expected position items = .ok (value, rest) ↔
      ∃ construct content left, chain.fromItems expected position items = .ok (construct, left) ∧
        readItem next expected (position + chain.checks.length) left = .ok (content, rest) ∧
          construct content = value := by
  simp only [field]
  generalize chain.fromItems expected position items = earlier
  rcases earlier with reason | ⟨construct, left⟩
  · simp [bind, Except.bind]
  · generalize here : readItem next expected (position + chain.checks.length) left = last
    rcases last with reason | ⟨content, rest'⟩
    · simp [bind, Except.bind, here]
    · simp [bind, Except.bind, pure, Except.pure, here, and_comm]

instance [chain.Sound] : (chain.field next).Sound where
  passes := by
    intro lookup value read entry among found given
    obtain ⟨construct, content, earlier, here, -⟩ := fromFields_field_eq_ok.mp read
    rcases List.mem_append.mp among with among | among
    · exact Sound.passes lookup construct earlier entry among found given
    · rw [List.mem_singleton.mp among] at given ⊢
      rw [readField, given] at here
      have here : next.decode found = .ok content := here
      change (next.decode found).map _ = _
      rw [here]
      rfl

theorem checkFields_eq_ok {checks : List (String × (Json → Except DecodeError Unit))}
    {fields : List (String × Json)}
    (passes : ∀ field ∈ fields, ∀ check, KeyedList.find? field.1 checks = some check → check field.2 = .ok ()) :
    checkFields checks fields = .ok () := by
  induction fields with
  | nil => rfl
  | cons field rest ih =>
    obtain ⟨key, value⟩ := field
    rw [List.forall_mem_cons] at passes
    rw [checkFields, ih passes.2]
    cases asked : KeyedList.find? key checks with
    | none => rfl
    | some check => simp [passes.1 check asked, bind, Except.bind]

/-- An object that is built from fields is read when its fields are. -/
theorem decode_record [shape.Sound] (name : String) {fields : List (String × Json)} {value : α}
    (read : shape.fromFields (fun key => KeyedList.last? key fields) = .ok value) :
    shape.decode name (.record fields) = .ok value := by
  have lookups : (fun key => KeyedList.find? key (KeyedList.sorted fields)) =
      fun key => KeyedList.last? key fields :=
    funext fun key => (KeyedList.find?_sorted key fields).trans (KeyedList.find?_reverse key fields)
  have passes : checkFields shape.checks (KeyedList.sorted fields) = .ok () := by
    refine checkFields_eq_ok fun field among check asked => ?_
    exact Sound.passes _ value (lookups ▸ read) (field.1, check) (KeyedList.mem_of_find? asked) field.2
      (KeyedList.find?_of_mem_sorted among)
  simp only [Json.record, decode, passes, lookups, read, bind, Except.bind]

end Reading

section Ensured

variable {property : α → Prop}

/-- Whatever is built from values without infinities has a property, and what it leaves has none either. -/
structure Ensures (shape : Shape α) (property : α → Prop) : Prop where
  fields : ∀ lookup value, (∀ key found, lookup key = some found → found.isFinite = true) →
    shape.fromFields lookup = .ok value → property value
  items : ∀ expected position items value rest, (∀ item ∈ items, item.isFinite = true) →
    shape.fromItems expected position items = .ok (value, rest) →
      property value ∧ ∀ item ∈ rest, item.isFinite = true

theorem ensures_build {value : α} (holds : property value) : (build value).Ensures property where
  fields := by
    rintro lookup value - ⟨⟩
    exact holds
  items := by
    rintro expected position items value rest finite ⟨⟩
    exact ⟨holds, finite⟩

theorem readField_ensures {holds : β → Prop} (each : next.Ensures holds) {lookup : String → Option Json}
    (finite : ∀ key found, lookup key = some found → found.isFinite = true) {content : β}
    (read : readField next lookup = .ok content) : holds content := by
  cases given : lookup next.name with
  | some found =>
    rw [readField, given] at read
    exact each.read found content (finite _ _ given) read
  | none =>
    cases filled : next.whenAbsent with
    | some value =>
      rw [readField, given, filled] at read
      exact Except.ok.inj read ▸ each.absent value filled
    | none =>
      rw [readField, given, filled] at read
      cases read

theorem readItem_ensures {holds : β → Prop} (each : next.Ensures holds) {expected : String} {position : Nat}
    {items rest : List Json} (finite : ∀ item ∈ items, item.isFinite = true) {content : β}
    (read : readItem next expected position items = .ok (content, rest)) :
    holds content ∧ ∀ item ∈ rest, item.isFinite = true := by
  cases items with
  | cons item others =>
    obtain ⟨value, here, same⟩ := Ending.map_eq_ok.mp read
    cases same
    rw [List.forall_mem_cons] at finite
    exact ⟨each.read item content finite.1 here, finite.2⟩
  | nil =>
    cases filled : next.whenShort with
    | some value =>
      rw [readItem, filled] at read
      cases read
      exact ⟨each.short content filled, finite⟩
    | none =>
      rw [readItem, filled] at read
      cases read

/-- A field adds its property to what is known of the values. -/
theorem ensures_field {holds : β → Prop} (each : next.Ensures holds)
    (earlier : chain.Ensures fun construct => ∀ content, holds content → property (construct content)) :
    (chain.field next).Ensures property where
  fields := by
    intro lookup value finite read
    obtain ⟨construct, content, first, here, rfl⟩ := fromFields_field_eq_ok.mp read
    exact earlier.fields lookup construct finite first content (readField_ensures each finite here)
  items := by
    intro expected position items value rest finite read
    obtain ⟨construct, content, left, first, here, rfl⟩ := fromItems_field_eq_ok.mp read
    obtain ⟨known, finite⟩ := earlier.items expected position items construct left finite first
    obtain ⟨holds, finite⟩ := readItem_ensures each finite here
    exact ⟨known content holds, finite⟩

/-- A field of which nothing is known. -/
theorem ensures_field_any (earlier : chain.Ensures fun construct => ∀ content, property (construct content)) :
    (chain.field next).Ensures property := by
  refine ensures_field (Field.ensures_true next) ⟨?_, ?_⟩
  · intro lookup construct finite read content _
    exact earlier.fields lookup construct finite read content
  · intro expected position items construct rest finite read
    obtain ⟨known, finite⟩ := earlier.items expected position items construct rest finite read
    exact ⟨fun content _ => known content, finite⟩

/-- What holds of all that a shape builds holds of all that is read with it. -/
theorem decode_ensures (name : String) (ensured : shape.Ensures property) :
    (shape.decode name).Ensures property := by
  intro found value finite read
  cases found with
  | object fields =>
    rw [decode] at read
    cases passed : checkFields shape.checks fields with
    | error reason => rw [passed] at read; cases read
    | ok _ =>
      rw [passed] at read
      exact ensured.fields _ value (fun _ _ => Json.isFinite_of_find? finite) read
  | array items =>
    rw [decode] at read
    cases built : shape.fromItems (lengthText name shape.checks.length) 0 items with
    | error reason => rw [built] at read; cases read
    | ok pair =>
      obtain ⟨content, rest⟩ := pair
      have known := (ensured.items _ _ items content rest (fun _ => Json.isFinite_of_mem finite) built).1
      rw [built] at read
      by_cases all : rest.isEmpty
      · simp only [bind, Except.bind, all] at read
        exact Except.ok.inj read ▸ known
      · simp [bind, Except.bind, all] at read
  | null => cases read
  | bool _ => cases read
  | number _ => cases read
  | string _ => cases read

end Ensured

end Shape

end LlmTelemetry

import LlmTelemetry.Json.Basic
import Mathlib.Data.List.Induction
import Mathlib.Data.String.Basic
/-!
# The fields of an object

An object is built from any list of fields, and keeps them sorted. To look a field up in the sorted object is to
look it up in the fields as they were given, from the last one back. To change the values is to change them
before the fields are sorted.
-/

namespace LlmTelemetry

namespace KeyedList

section Lookup

variable {α : Type}

theorem find?_append {κ : Type} [DecidableEq κ] (key : κ) (first second : KeyedList κ α) :
    find? key (first ++ second) = (find? key first).or (find? key second) := by
  induction first with
  | nil => rfl
  | cons entry rest ih =>
    obtain ⟨k, v⟩ := entry
    by_cases here : k = key
    · simp [find?, here]
    · simpa [find?, here] using ih

theorem find?_insertSorted (key other : String) (value : α) (entries : KeyedList String α) :
    find? other (insertSorted key value entries) =
      if key = other then some value else find? other entries := by
  induction entries with
  | nil => rfl
  | cons entry rest ih =>
    obtain ⟨k, v⟩ := entry
    by_cases same : k = key
    · subst same
      by_cases asked : k = other <;> simp [insertSorted, find?, asked]
    · by_cases before : key < k
      · simp [insertSorted, find?, same, before]
      · by_cases asked : key = other
        · subst asked
          simp [insertSorted, find?, same, before, ih]
        · simp [insertSorted, find?, same, before, asked, ih]

theorem find?_sorted (key : String) (entries : KeyedList String α) :
    find? key (sorted entries) = find? key entries.reverse := by
  induction entries using List.reverseRecOn with
  | nil => rfl
  | append_singleton entries entry ih =>
    rw [sorted, List.foldl_append, List.reverse_append]
    obtain ⟨k, v⟩ := entry
    simp only [List.foldl_cons, List.foldl_nil, List.reverse_singleton, List.singleton_append, find?]
    rw [find?_insertSorted, ← ih]
    rfl

/-- The last value that is given for a key. -/
def last? {κ : Type} [DecidableEq κ] (key : κ) : KeyedList κ α → Option α
  | [] => none
  | (k, v) :: rest => (last? key rest).or (if k = key then some v else none)

theorem find?_reverse {κ : Type} [DecidableEq κ] (key : κ) (entries : KeyedList κ α) :
    find? key entries.reverse = last? key entries := by
  induction entries with
  | nil => rfl
  | cons entry rest ih =>
    rw [List.reverse_cons, find?_append, ih]
    rfl

end Lookup

section Order

variable {α : Type} {key : String} {value : α} {entries : KeyedList String α}

theorem mem_keys_insertSorted {other : String} (known : other ∈ keys (insertSorted key value entries)) :
    other = key ∨ other ∈ keys entries := by
  rw [← contains_eq_true, contains, find?_insertSorted] at known
  rw [← contains_eq_true, contains]
  by_cases same : key = other
  · exact .inl same.symm
  · rw [if_neg same] at known
    exact .inr known

theorem ascending_insertSorted (ascending : (keys entries).Pairwise (· < ·)) :
    (keys (insertSorted key value entries)).Pairwise (· < ·) := by
  induction entries with
  | nil => exact List.pairwise_singleton _ _
  | cons entry rest ih =>
    obtain ⟨k, v⟩ := entry
    obtain ⟨least, others⟩ := List.pairwise_cons.mp ascending
    rw [insertSorted]
    split
    · exact ascending
    split
    · rename_i before
      refine List.pairwise_cons.mpr ⟨fun other known => ?_, ascending⟩
      rcases List.mem_cons.mp known with rfl | known
      · exact before
      · exact lt_trans before (least other known)
    · rename_i apart behind
      refine List.pairwise_cons.mpr ⟨fun other known => ?_, ih others⟩
      rcases mem_keys_insertSorted known with rfl | known
      · exact lt_of_le_of_ne (not_lt.mp behind) apart
      · exact least other known

theorem ascending_sorted (entries : KeyedList String α) : (keys (sorted entries)).Pairwise (· < ·) := by
  induction entries using List.reverseRecOn with
  | nil => exact List.Pairwise.nil
  | append_singleton entries entry ih =>
    rw [sorted, List.foldl_append]
    exact ascending_insertSorted ih

theorem find?_of_mem {κ : Type} [DecidableEq κ] {key : κ} {entries : KeyedList κ α}
    (distinct : (keys entries).Nodup) (among : (key, value) ∈ entries) : find? key entries = some value := by
  induction entries with
  | nil => cases among
  | cons entry rest ih =>
    obtain ⟨k, v⟩ := entry
    obtain ⟨apart, distinct⟩ := List.nodup_cons.mp distinct
    rcases List.mem_cons.mp among with same | among
    · cases same
      rw [find?, if_pos rfl]
    · have elsewhere : k ≠ key := by
        rintro rfl
        exact apart (List.mem_map.mpr ⟨_, among, rfl⟩)
      rw [find?, if_neg elsewhere]
      exact ih distinct among

/-- A sorted list has every key once, so each of its entries is the one that is found. -/
theorem find?_of_mem_sorted (among : (key, value) ∈ sorted entries) :
    find? key (sorted entries) = some value :=
  find?_of_mem ((ascending_sorted entries).imp ne_of_lt) among

end Order

section Map

variable {α β : Type} (change : String → α → β)

theorem map_insertSorted (key : String) (value : α) (entries : KeyedList String α) :
    (insertSorted key value entries).map (fun entry => (entry.1, change entry.1 entry.2)) =
      insertSorted key (change key value)
        (entries.map fun entry => (entry.1, change entry.1 entry.2)) := by
  induction entries with
  | nil => rfl
  | cons entry rest ih =>
    obtain ⟨k, v⟩ := entry
    simp only [insertSorted, List.map_cons]
    split
    · rename_i same
      rw [same, List.map_cons]
    split
    · rfl
    · rw [List.map_cons, ih]

theorem map_sorted (entries : KeyedList String α) :
    (sorted entries).map (fun entry => (entry.1, change entry.1 entry.2)) =
      sorted (entries.map fun entry => (entry.1, change entry.1 entry.2)) := by
  induction entries using List.reverseRecOn with
  | nil => rfl
  | append_singleton entries entry ih =>
    rw [sorted, List.foldl_append, List.map_append, sorted, List.foldl_append]
    simp only [List.foldl_cons, List.foldl_nil, List.map_cons, List.map_nil]
    rw [map_insertSorted]
    exact congrArg _ ih

end Map

end KeyedList

namespace Json

@[simp] theorem field?_record (key : String) (fields : List (String × Json)) :
    (record fields).field? key = KeyedList.find? key fields.reverse := by
  rw [record, field?, KeyedList.find?_sorted]

/-- Change the value of one field of an object. -/
def mapField (key : String) (change : Json → Json) : Json → Json
  | .object fields =>
    .object (fields.map fun field => (field.1, if field.1 = key then change field.2 else field.2))
  | value => value

def mapEach (change : Json → Json) : Json → Json
  | .array items => .array (items.map change)
  | value => value

theorem mapField_record (key : String) (change : Json → Json) (fields : List (String × Json)) :
    mapField key change (record fields) =
      record (fields.map fun field => (field.1, if field.1 = key then change field.2 else field.2)) := by
  rw [record, mapField, record]
  exact congrArg _ (KeyedList.map_sorted (fun k value => if k = key then change value else value) fields)

end Json

end LlmTelemetry

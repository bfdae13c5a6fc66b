/-!
# Keyed lists

Association lists with at most one value per key, kept either in the order in which the keys first
came (`put`) or sorted by key (`insertSorted`). Writing a key that is already there replaces its value
in place, so writing back what was read leaves the list as it was.
-/

namespace LlmTelemetry

/-- Pairs of a key and its value. -/
abbrev KeyedList (κ : Type) (α : Type) := List (κ × α)

namespace KeyedList

variable {κ α : Type}

/-- The value stored under `key`. -/
def find? [DecidableEq κ] (key : κ) : KeyedList κ α → Option α
  | [] => none
  | (k, v) :: rest => if k = key then some v else find? key rest

def contains [DecidableEq κ] (key : κ) (entries : KeyedList κ α) : Bool :=
  (find? key entries).isSome

/-- Store `value` under `key`, in place when the key is there and at the end otherwise. -/
def put [DecidableEq κ] (key : κ) (value : α) : KeyedList κ α → KeyedList κ α
  | [] => [(key, value)]
  | (k, v) :: rest => if k = key then (k, value) :: rest else (k, v) :: put key value rest

def erase [DecidableEq κ] (key : κ) : KeyedList κ α → KeyedList κ α
  | [] => []
  | (k, v) :: rest => if k = key then erase key rest else (k, v) :: erase key rest

def keys (entries : KeyedList κ α) : List κ :=
  entries.map Prod.fst

/-- Store `value` under `key` in a list sorted by key. -/
def insertSorted (key : String) (value : α) : KeyedList String α → KeyedList String α
  | [] => [(key, value)]
  | (k, v) :: rest =>
    if k = key then (k, value) :: rest
    else if key < k then (key, value) :: (k, v) :: rest
    else (k, v) :: insertSorted key value rest

/-- The sorted list of `entries`, where of two values under one key the later one counts. -/
def sorted (entries : KeyedList String α) : KeyedList String α :=
  entries.foldl (fun fields entry => insertSorted entry.1 entry.2 fields) []

theorem find?_put [DecidableEq κ] (key other : κ) (value : α) (entries : KeyedList κ α) :
    find? other (put key value entries) = if key = other then some value else find? other entries := by
  induction entries with
  | nil => simp [put, find?]
  | cons entry rest ih =>
    obtain ⟨k, v⟩ := entry
    by_cases hk : k = key
    · subst hk
      by_cases ho : k = other <;> simp [put, find?, ho]
    · by_cases ho : k = other
      · subst ho
        simp [put, find?, hk, Ne.symm hk]
      · simp [put, find?, hk, ho, ih]

theorem find?_erase [DecidableEq κ] (key other : κ) (entries : KeyedList κ α) :
    find? other (erase key entries) = if key = other then none else find? other entries := by
  induction entries with
  | nil => simp [erase, find?]
  | cons entry rest ih =>
    obtain ⟨k, v⟩ := entry
    by_cases hk : k = key
    · subst hk
      by_cases ho : k = other
      · subst ho
        simpa [erase] using ih
      · simp [erase, find?, ih, ho]
    · by_cases ho : k = other
      · subst ho
        simp [erase, find?, hk, Ne.symm hk]
      · simp [erase, find?, hk, ho, ih]

theorem put_find? [DecidableEq κ] {key : κ} {value : α} {entries : KeyedList κ α}
    (h : find? key entries = some value) : put key value entries = entries := by
  induction entries with
  | nil => simp [find?] at h
  | cons entry rest ih =>
    obtain ⟨k, v⟩ := entry
    by_cases hk : k = key
    · subst hk
      simp only [find?, if_true, Option.some.injEq] at h
      simp [put, h]
    · simp only [find?, hk, if_false] at h
      simp [put, hk, ih h]

theorem put_put [DecidableEq κ] (key : κ) (first second : α) (entries : KeyedList κ α) :
    put key second (put key first entries) = put key second entries := by
  induction entries with
  | nil => simp [put]
  | cons entry rest ih =>
    obtain ⟨k, v⟩ := entry
    by_cases hk : k = key <;> simp [put, hk, ih]

/-! ## Keys -/

theorem contains_eq_true [DecidableEq κ] {key : κ} {entries : KeyedList κ α} :
    contains key entries = true ↔ key ∈ keys entries := by
  unfold contains keys
  induction entries with
  | nil => simp [find?]
  | cons entry rest ih =>
    obtain ⟨k, v⟩ := entry
    by_cases hk : k = key
    · simp [find?, hk]
    · simp [find?, hk, Ne.symm hk, ih]

theorem mem_of_find? [DecidableEq κ] {key : κ} {value : α} {entries : KeyedList κ α}
    (h : find? key entries = some value) : (key, value) ∈ entries := by
  induction entries with
  | nil => simp [find?] at h
  | cons entry rest ih =>
    obtain ⟨k, v⟩ := entry
    by_cases hk : k = key
    · subst hk
      simp only [find?, if_true, Option.some.injEq] at h
      simp [h]
    · simp only [find?, hk, if_false] at h
      exact List.mem_cons_of_mem _ (ih h)

theorem put_of_not_mem [DecidableEq κ] {key : κ} {entries : KeyedList κ α} (value : α)
    (absent : key ∉ keys entries) : put key value entries = entries ++ [(key, value)] := by
  induction entries with
  | nil => rfl
  | cons entry rest ih =>
    obtain ⟨k, v⟩ := entry
    simp only [keys, List.map_cons, List.mem_cons, not_or] at absent
    simp [put, Ne.symm absent.1, ih absent.2]

theorem insertSorted_perm {key : String} {entries : KeyedList String α} (value : α)
    (absent : key ∉ keys entries) : (insertSorted key value entries).Perm ((key, value) :: entries) := by
  induction entries with
  | nil => exact .refl _
  | cons entry rest ih =>
    obtain ⟨k, v⟩ := entry
    simp only [keys, List.map_cons, List.mem_cons, not_or] at absent
    rw [insertSorted, if_neg (Ne.symm absent.1)]
    split
    · exact .refl _
    · exact ((ih absent.2).cons _).trans (.swap _ _ _)

theorem erase_of_not_mem [DecidableEq κ] {key : κ} {entries : KeyedList κ α}
    (absent : key ∉ keys entries) : erase key entries = entries := by
  induction entries with
  | nil => rfl
  | cons entry rest ih =>
    obtain ⟨k, v⟩ := entry
    simp only [keys, List.map_cons, List.mem_cons, not_or] at absent
    rw [erase, if_neg (Ne.symm absent.1), ih absent.2]

theorem perm_cons_erase [DecidableEq κ] {key : κ} {value : α} {entries : KeyedList κ α}
    (distinct : (keys entries).Nodup) (h : find? key entries = some value) :
    entries.Perm ((key, value) :: erase key entries) := by
  induction entries with
  | nil => simp [find?] at h
  | cons entry rest ih =>
    obtain ⟨k, v⟩ := entry
    obtain ⟨apart, distinct⟩ := List.nodup_cons.mp distinct
    by_cases hk : k = key
    · subst hk
      simp only [find?, if_true, Option.some.injEq] at h
      rw [erase, if_pos rfl, erase_of_not_mem apart, h]
    · simp only [find?, hk, if_false] at h
      rw [erase, if_neg hk]
      exact ((ih distinct h).cons _).trans (.swap _ _ _)

end KeyedList

end LlmTelemetry

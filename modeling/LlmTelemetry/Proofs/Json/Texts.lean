import LlmTelemetry.Json.Printer
import LlmTelemetry.Proofs.Json.Strings
import Mathlib.Data.List.Infix
/-!
# What stands in the text of a value

The text of a value has its strings and keys as they are escaped. An escape begins with a backslash, so a text
without one that stands in an escaped string stands in the string as well, or has its beginning in an escape. In the
text of a number, hyphens are only signs.
-/

namespace LlmTelemetry

namespace Json

/-! ## Escaped texts -/

section Escape

variable {part text before after : List Char}

theorem escape_cases (c : Char) :
    escape c = [c] ∨ escape c = ['\\', '"'] ∨ escape c = ['\\', '\\'] ∨
      c.toNat < 32 ∧ ∃ tail, escape c = '\\' :: tail := by
  unfold escape
  split
  · exact .inr (.inl rfl)
  split
  · exact .inr (.inr (.inl rfl))
  iterate 5
    split
    · rename_i control
      subst control
      exact .inr (.inr (.inr ⟨by decide, _, rfl⟩))
  split
  · rename_i control
    exact .inr (.inr (.inr ⟨control, _, rfl⟩))
  · exact .inl rfl

theorem escape_eq_cons (c : Char) : escape c = [c] ∨ ∃ tail, escape c = '\\' :: tail := by
  rcases escape_cases c with same | same | same | ⟨-, same⟩
  · exact .inl same
  · exact .inr ⟨_, same⟩
  · exact .inr ⟨_, same⟩
  · exact .inr same

/-- What the escaped text begins with and has no backslash, the text begins with as well. -/
theorem eq_append_of_escape (plain : '\\' ∉ part) (same : part ++ after = text.flatMap escape) :
    ∃ rest, text = part ++ rest ∧ after = rest.flatMap escape := by
  induction part generalizing text with
  | nil => exact ⟨text, rfl, same⟩
  | cons d part ih =>
    rw [List.mem_cons, not_or] at plain
    cases text with
    | nil => cases same
    | cons c text =>
      rw [List.flatMap_cons] at same
      rcases escape_eq_cons c with kept | ⟨tail, escaped⟩
      · rw [kept] at same
        obtain ⟨rfl, others⟩ := List.cons.inj same
        obtain ⟨rest, rfl, behind⟩ := ih plain.2 others
        exact ⟨rest, rfl, behind⟩
      · rw [escaped] at same
        exact absurd (List.cons.inj same).1.symm plain.1

/-- Where the escaped text has a part without backslashes, the text has it as well, or the part begins in the escape
of a character. -/
theorem exists_of_escape (plain : '\\' ∉ part) (some_part : part ≠ [])
    (same : text.flatMap escape = before ++ part ++ after) :
    (∃ first last, text = first ++ part ++ last ∧ before = first.flatMap escape ∧ after = last.flatMap escape) ∨
      ∃ first c last tail, text = first ++ c :: last ∧ escape c ≠ [c] ∧ tail <:+ escape c ∧ tail ≠ [] ∧
        part <+: tail ++ last := by
  induction text generalizing before with
  | nil => simp [some_part] at same
  | cons c text ih =>
    have later (left : List Char) (outside : before = escape c ++ left)
        (others : text.flatMap escape = left ++ (part ++ after)) :
        (∃ first last, c :: text = first ++ part ++ last ∧ before = first.flatMap escape ∧
            after = last.flatMap escape) ∨
          ∃ first d last tail, c :: text = first ++ d :: last ∧ escape d ≠ [d] ∧ tail <:+ escape d ∧ tail ≠ [] ∧
            part <+: tail ++ last := by
      subst outside
      rcases ih (others.trans (List.append_assoc _ _ _).symm) with
        ⟨first, last, rfl, rfl, rfl⟩ | ⟨first, d, last, tail, rfl, escaped⟩
      · exact .inl ⟨c :: first, last, rfl, rfl, rfl⟩
      · exact .inr ⟨c :: first, d, last, tail, rfl, escaped⟩
    rw [List.flatMap_cons, List.append_assoc] at same
    rcases List.append_eq_append_iff.mp same with ⟨left, outside, others⟩ | ⟨tail, split, begins⟩
    · exact later left outside others
    · by_cases none_left : tail = []
      · subst none_left
        rw [List.append_nil] at split
        exact later [] (by simp [split]) begins.symm
      · by_cases kept : escape c = [c]
        · -- The part begins with this character.
          rw [kept] at split
          obtain ⟨rfl, rfl⟩ : before = [] ∧ tail = [c] := by
            rcases List.singleton_eq_append_iff.mp split with found | ⟨-, found⟩
            · exact found
            · exact absurd found none_left
          obtain ⟨first, more, rfl⟩ := List.exists_cons_of_ne_nil some_part
          obtain ⟨rfl, others⟩ := List.cons.inj begins
          obtain ⟨rest, rfl, behind⟩ := eq_append_of_escape (fun among => plain (List.mem_cons_of_mem _ among)) others
          exact .inl ⟨[], rest, rfl, rfl, behind⟩
        · refine .inr ⟨[], c, text, tail, rfl, kept, ⟨before, split.symm⟩, none_left, ?_⟩
          rcases List.append_eq_append_iff.mp begins with ⟨more, rfl, -⟩ | ⟨more, rfl, others⟩
          · exact (List.prefix_append part more).trans (List.prefix_append _ text)
          · obtain ⟨rest, rfl, -⟩ := eq_append_of_escape
              (fun among => plain (List.mem_append_right _ among)) others.symm
            rw [List.prefix_append_right_inj]
            exact List.prefix_append more rest

end Escape

/-! ## Strings in texts -/

theorem escape_infix_quoted (value : String) : value.toList.flatMap escape <:+: (quoted value).toList :=
  ⟨['"'], ['"'], by simp [quoted]⟩

theorem infix_intercalate {separator text : String} {texts : List String} (among : text ∈ texts) :
    text.toList <:+: (String.intercalate separator texts).toList := by
  rw [String.toList_intercalate]
  induction texts with
  | nil => cases among
  | cons first others ih =>
    cases others with
    | nil =>
      obtain rfl := List.mem_singleton.mp among
      simp
    | cons next others =>
      rw [List.map_cons, List.map_cons, List.intercalate_cons_cons]
      rcases List.mem_cons.mp among with rfl | among
      · rw [List.append_assoc]
        exact (List.prefix_append _ _).isInfix
      · exact (ih among).trans (List.suffix_append _ _).isInfix

mutual

/-- The text of a value has its escaped strings and keys. -/
theorem escape_infix_text {string : String} : (value : Json) → string ∈ value.strings ++ value.keys →
    string.toList.flatMap escape <:+: value.text.toList
  | .string value, among => by
    obtain rfl : string = value := List.mem_singleton.mp among
    exact escape_infix_quoted string
  | .array items, among => by
    obtain ⟨item, here, occurs⟩ := escape_infix_itemTexts items among
    rw [text, String.toList_append, String.toList_append]
    exact (occurs.trans (infix_intercalate here)).trans (List.infix_append _ _ _)
  | .object fields, among => by
    obtain ⟨field, here, occurs⟩ := escape_infix_fieldTexts fields among
    rw [text, String.toList_append, String.toList_append]
    exact (occurs.trans (infix_intercalate here)).trans (List.infix_append _ _ _)
  | .null, among => by cases among
  | .bool _, among => by cases among
  | .number _, among => by cases among

theorem escape_infix_itemTexts {string : String} : (items : List Json) →
    string ∈ stringsOfItems items ++ keysOfItems items →
      ∃ text ∈ itemTexts items, string.toList.flatMap escape <:+: text.toList
  | [], among => by cases among
  | item :: rest, among => by
    rw [itemTexts, List.exists_mem_cons_iff]
    simp only [stringsOfItems, keysOfItems, List.mem_append] at among
    have split : string ∈ item.strings ++ item.keys ∨ string ∈ stringsOfItems rest ++ keysOfItems rest := by
      simp only [List.mem_append]
      tauto
    exact split.imp (escape_infix_text item) (escape_infix_itemTexts rest)

theorem escape_infix_fieldTexts {string : String} : (fields : List (String × Json)) →
    string ∈ stringsOfFields fields ++ keysOfFields fields →
      ∃ text ∈ fieldTexts fields, string.toList.flatMap escape <:+: text.toList
  | [], among => by cases among
  | (key, value) :: rest, among => by
    rw [fieldTexts, List.exists_mem_cons_iff]
    simp only [stringsOfFields, keysOfFields, List.mem_append, List.mem_cons] at among
    have split : (string = key ∨ string ∈ value.strings ++ value.keys) ∨
        string ∈ stringsOfFields rest ++ keysOfFields rest := by
      simp only [List.mem_append]
      tauto
    refine split.imp ?_ (escape_infix_fieldTexts rest)
    rw [String.toList_append, String.toList_append]
    rintro (rfl | among)
    · rw [List.append_assoc]
      exact (escape_infix_quoted string).trans (List.prefix_append _ _).isInfix
    · exact (escape_infix_text value among).trans (List.suffix_append _ _).isInfix

end

end Json

/-! ## Texts of numbers -/

section NumberText

variable {text : List Char}

theorem hyphen_not_mem_toString (count : Nat) : '-' ∉ (toString count).toList := by
  rw [Nat.toString_eq_repr, Nat.toList_repr]
  intro among
  exact absurd (Nat.isDigit_of_mem_toDigits (by decide) (by decide) among) (by decide)

theorem hyphen_not_mem_tail {sign : List Char} (signed : sign = [] ∨ sign = ['-']) (others : '-' ∉ text) :
    '-' ∉ (sign ++ text).tail := by
  rcases signed with rfl | rfl
  · exact fun among => others (List.mem_of_mem_tail among)
  · exact others

/-- Hyphens are signs: of the number, and of its exponent. -/
def SignsOnly (text : List Char) : Prop :=
  '-' ∉ text.tail ∨
    ∃ mantissa exponent, text = mantissa ++ 'e' :: exponent ∧ '-' ∉ mantissa.tail ∧ '-' ∉ exponent.tail

theorem signsOnly_write (value : Float) : SignsOnly (Number.layout.write value).toList := by
  rw [Decimal.Layout.write]
  generalize (Decimal.shortest value).trimmed = digits
  have signed : (if Decimal.isNegative value then "-" else "").toList = [] ∨
      (if Decimal.isNegative value then "-" else "").toList = ['-'] := by
    split
    · exact .inr rfl
    · exact .inl rfl
  generalize (if Decimal.isNegative value then "-" else "") = sign at signed
  have plain := hyphen_not_mem_toString digits.digits
  generalize toString digits.digits = written at plain
  have taken (count : Nat) : '-' ∉ written.toList.take count := fun among => plain (List.mem_of_mem_take among)
  have dropped (count : Nat) : '-' ∉ written.toList.drop count := fun among => plain (List.mem_of_mem_drop among)
  have no_zero (count : Nat) : '-' ∉ (Decimal.zeros count).toList := by
    simp [Decimal.zeros]
  dsimp only
  rw [String.toList_append]
  split
  · exact .inl (hyphen_not_mem_tail signed (by decide))
  split
  · refine .inl (hyphen_not_mem_tail signed ?_)
    split
    · simp [plain, no_zero, Number.layout]
    · split <;> simp [plain, no_zero, taken, dropped]
  · right
    have mantissa : '-' ∉ (if written.length = 1 then written
        else String.ofList (written.toList.take 1) ++ "." ++ String.ofList (written.toList.drop 1)).toList := by
      split
      · exact plain
      · rw [String.toList_append, String.toList_append, String.toList_ofList, String.toList_ofList]
        simp only [List.mem_append, not_or]
        exact ⟨⟨taken 1, by decide⟩, by simpa using dropped 1⟩
    generalize (if written.length = 1 then written
        else String.ofList (written.toList.take 1) ++ "." ++ String.ofList (written.toList.drop 1)) = shown at mantissa
    have signs := hyphen_not_mem_tail signed mantissa
    generalize (written.length : Int) + digits.exponent = point
    split
    · exact ⟨_, '+' :: (toString (point - 1).toNat).toList, by simp [Number.layout], signs, hyphen_not_mem_toString _⟩
    · exact ⟨_, '-' :: (toString (-(point - 1)).toNat).toList, by simp [Number.layout], signs,
        hyphen_not_mem_toString _⟩

theorem signsOnly_text (value : Number) : SignsOnly value.text.toList := by
  cases value with
  | natural value => exact .inl (hyphen_not_mem_tail (.inl rfl) (hyphen_not_mem_toString value.toNat))
  | negative value =>
    rw [Number.text]
    cases value.toInt with
    | ofNat magnitude => exact .inl (hyphen_not_mem_tail (.inl rfl) (hyphen_not_mem_toString magnitude))
    | negSucc magnitude =>
      have signed : (toString (Int.negSucc magnitude)).toList = ['-'] ++ (toString (magnitude + 1)).toList := by
        rw [Int.toString_eq_repr, Int.repr, String.toList_append]
        rfl
      rw [signed]
      exact .inl (hyphen_not_mem_tail (.inr rfl) (hyphen_not_mem_toString _))
  | double value => exact signsOnly_write value

end NumberText

end LlmTelemetry

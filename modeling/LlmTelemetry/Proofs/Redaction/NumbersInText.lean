import LlmTelemetry.Proofs.Json.Texts
import LlmTelemetry.Proofs.Redaction.AttachedNumbers
/-!
# Social security numbers in JSON text

A value is written as text with quotes around its strings, and a control character in a string is written with
characters of words: `\n` ends in a letter and `\u0001` in a digit. So a number that stands apart in a string may
end a longer word in the text, and where the end of an escape looks like its beginning the text may have a number
that no string has. Elsewhere the numbers in the text are those of the strings, and stand apart as they do there.
-/

namespace LlmTelemetry

open Sensitive

/-! ## Characters around numbers -/

/-- A character that is neither in words nor in numbers. -/
def Separates (c : Char) : Prop :=
  Unicode.isWord c = false ∧ c ≠ '-'

instance (c : Char) : Decidable (Separates c) :=
  inferInstanceAs (Decidable (_ ∧ _))

namespace Sensitive.IsNumber

variable {number text other : List Char} {c : Char} (is_number : IsNumber number)
include is_number

theorem not_mem_of_separates (separates : Separates c) : c ∉ number := by
  refine is_number.not_mem ?_ separates.2
  rw [Bool.eq_false_iff]
  intro digit
  exact Bool.eq_false_iff.mp separates.1 (Unicode.isWord_of_isDigit digit)

theorem not_infix_of_tail (none : '-' ∉ text.tail) : ¬ number <:+: text := by
  rintro ⟨before, after, rfl⟩
  obtain ⟨first, rest, rfl, digit⟩ := is_number.exists_head
  have among : '-' ∈ rest := by
    rcases List.mem_cons.mp is_number.hyphen_mem with rfl | among
    · exact absurd digit (by decide)
    · exact among
  refine none ?_
  cases before with
  | nil => simp [among]
  | cons d before => simp [among]

theorem isolated_nil : Isolated number [] :=
  .of_absent fun occurs => is_number.ne_nil (List.infix_nil.mp occurs)

theorem isolated_append_cons (first : Isolated number text) (second : Isolated number other)
    (separates : Separates c) : Isolated number (text ++ c :: other) :=
  first.append_cons second is_number.ne_nil (is_number.not_mem_of_separates separates) separates.1

theorem isolated_enclosed {left right : Char} (opens : Separates left) (closes : Separates right)
    (inner : Isolated number text) : Isolated number ([left] ++ text ++ [right]) := by
  have closed := is_number.isolated_append_cons inner is_number.isolated_nil closes
  rw [List.append_assoc]
  exact is_number.isolated_append_cons is_number.isolated_nil closed opens

theorem isolated_intercalate {separator : String} {texts : List String}
    (each : ∀ text ∈ texts, Isolated number text.toList) (only : separator.toList = [c]) (separates : Separates c) :
    Isolated number (String.intercalate separator texts).toList := by
  rw [String.toList_intercalate, only]
  refine .intercalate ?_ is_number.ne_nil (is_number.not_mem_of_separates separates) separates.1
  simpa using each

end Sensitive.IsNumber

/-! ## Escaped strings -/

namespace Json

/-- What follows a control character of the text, behind its escape or with the end of it, begins with the number. -/
def Merges (number text : List Char) : Prop :=
  ∃ before c after tail, text = before ++ c :: after ∧ c.toNat < 32 ∧ tail <:+ escape c ∧ number <+: tail ++ after

section Escape

variable {number text after : List Char}

theorem isWord_getLast?_escape (no_control : ∀ c ∈ text.getLast?, ¬ c.toNat < 32)
    (no_word : text.getLast?.any Unicode.isWord = false) :
    (text.flatMap escape).getLast?.any Unicode.isWord = false := by
  rcases List.eq_nil_or_concat' text with rfl | ⟨others, c, rfl⟩
  · rfl
  · rw [List.getLast?_concat] at no_control no_word
    rw [List.flatMap_append, List.flatMap_singleton]
    rcases escape_cases c with same | same | same | ⟨control, -⟩
    · rw [same, List.getLast?_concat]
      exact no_word
    · rw [same, List.getLast?_append_cons]
      rfl
    · rw [same, List.getLast?_append_cons]
      rfl
    · exact absurd control (no_control c rfl)

theorem isWord_head?_escape (no_word : text.head?.any Unicode.isWord = false) :
    (text.flatMap escape).head?.any Unicode.isWord = false := by
  cases text with
  | nil => rfl
  | cons c text =>
    rw [List.flatMap_cons]
    rcases escape_eq_cons c with same | ⟨tail, same⟩
    · rw [same]
      exact no_word
    · rw [same]
      rfl

/-- A number that stands apart in a text does so in the escaped text. -/
theorem isolated_escape (is_number : IsNumber number) (isolated : Isolated number text)
    (clear : ¬ Merges number text) : Isolated number (text.flatMap escape) := by
  have no_backslash : '\\' ∉ number := is_number.not_mem_of_separates (by decide)
  have no_quote : '"' ∉ number := is_number.not_mem_of_separates (by decide)
  intro before after same
  rcases exists_of_escape no_backslash is_number.ne_nil same with
    ⟨first, last, rfl, rfl, rfl⟩ | ⟨first, c, last, tail, rfl, escaped, ⟨head, parts⟩, some_tail, begins⟩
  · have alone := isolated first last rfl
    refine ⟨isWord_getLast?_escape ?_ alone.1, isWord_head?_escape alone.2⟩
    intro c ends control
    obtain ⟨others, rfl⟩ := List.getLast?_eq_some_iff.mp ends
    exact clear ⟨others, c, number ++ last, [], by simp, control, List.nil_suffix, List.prefix_append _ _⟩
  -- A number does not begin with a quote or a backslash, so only the escape of a control character has its beginning.
  · obtain ⟨d, tail, rfl⟩ := List.exists_cons_of_ne_nil some_tail
    obtain ⟨e, rest, rfl⟩ := List.exists_cons_of_ne_nil is_number.ne_nil
    obtain rfl : e = d := (List.cons_prefix_cons.mp begins).1
    rw [List.mem_cons, not_or] at no_backslash no_quote
    have among : e ∈ escape c := by
      rw [← parts]
      exact List.mem_append_right _ List.mem_cons_self
    rcases escape_cases c with same | same | same | ⟨control, -⟩
    · exact absurd same escaped
    · rw [same] at among
      simp [Ne.symm no_backslash.1, Ne.symm no_quote.1] at among
    · rw [same] at among
      simp [Ne.symm no_backslash.1] at among
    · exact absurd ⟨first, c, last, e :: tail, rfl, control, ⟨head, parts⟩, begins⟩ clear

/-- The text ends in a character of a word that is not behind a hyphen. -/
def endsWord (text : List Char) : Bool :=
  match text.reverse with
  | last :: before :: _ => Unicode.isWord last && before != '-'
  | _ => false

theorem attached_of_endsWord {front : List Char} (ends : endsWord front = true) (occurs : front ++ number <:+: text) :
    Attached number text := by
  rw [endsWord] at ends
  split at ends
  · rename_i last before others same
    rw [Bool.and_eq_true, bne_iff_ne] at ends
    have parts : front = others.reverse ++ [before, last] := by
      rw [← List.reverse_reverse front, same]
      simp
    have inside : before :: last :: number <:+: front ++ number := by
      rw [parts, List.append_assoc]
      exact (List.suffix_append _ _).isInfix
    exact ⟨before, last, ends.2, ends.1, inside.trans occurs⟩
  · cases ends

/-- Before a digit in the escape of a control character, and behind the whole escape, a word goes on. -/
theorem endsWord_escape {c : Char} (control : c.toNat < 32) {front tail : List Char} (parts : front ++ tail = escape c)
    (digit : tail.head?.all Unicode.isDigit = true) : endsWord front = true := by
  have each : ∀ code < 32, (escape (Char.ofNat code)).length ≤ 6 ∧ ∀ count ≤ 6,
      ((escape (Char.ofNat code)).drop count).head?.all Unicode.isDigit = true →
        endsWord ((escape (Char.ofNat code)).take count) = true := by
    decide +kernel
  obtain ⟨short, ends⟩ := each c.toNat control
  rw [Char.ofNat_toNat, ← parts] at short ends
  rw [List.length_append] at short
  specialize ends front.length (by omega)
  rw [List.drop_left, List.take_left] at ends
  exact ends digit

theorem escape_of_digit {c : Char} (digit : Unicode.isDigit c = true) : escape c = [c] := by
  have others : ∀ d ∈ ['"', '\\', '\x08', '\x0c', '\n', '\r', '\t'], c ≠ d := by
    have none : ['"', '\\', '\x08', '\x0c', '\n', '\r', '\t'].all (fun d => !Unicode.isDigit d) = true := by decide
    rintro d among rfl
    have no_digit := List.all_eq_true.mp none c among
    rw [digit] at no_digit
    contradiction
  obtain ⟨range, among, above, -⟩ := Ranges.exists_of_contains digit
  have visible : ∀ range ∈ Unicode.digitRanges, 32 ≤ range.1 := by decide +kernel
  have code : ¬ c.toNat < 32 := Nat.not_lt.mpr ((visible range among).trans above)
  simp only [List.forall_mem_cons] at others
  simp [escape, others, code]

theorem prefix_escape (is_number : IsNumber number) {tail : List Char} (begins : number <+: tail ++ after) :
    number <+: tail ++ after.flatMap escape := by
  have plain : ∀ c ∈ number, escape c = [c] := by
    intro c among
    rcases is_number.digit_or_hyphen c among with digit | rfl
    · exact escape_of_digit digit
    · decide
  obtain ⟨last, same⟩ := begins
  rcases List.append_eq_append_iff.mp same with ⟨rest, rfl, -⟩ | ⟨rest, rfl, rfl⟩
  · rw [List.append_assoc]
    exact List.prefix_append number _
  · have kept : rest.flatMap escape = rest := by
      rw [List.flatMap_congr fun c among => plain c (List.mem_append_right _ among), List.flatMap_singleton']
    rw [List.flatMap_append, kept, ← List.append_assoc]
    exact List.prefix_append _ _

/-- A number at which an escape stands ends a longer word in the escaped text. -/
theorem attached_escape (is_number : IsNumber number) (merges : Merges number text) :
    Attached number (text.flatMap escape) := by
  obtain ⟨before, c, after, tail, rfl, control, ⟨front, parts⟩, begins⟩ := merges
  have digit : tail.head?.all Unicode.isDigit = true := by
    cases tail with
    | nil => rfl
    | cons d tail =>
      obtain ⟨first, rest, rfl, digit⟩ := is_number.exists_head
      rw [(List.cons_prefix_cons.mp begins).1] at digit
      exact digit
  obtain ⟨last, same⟩ := prefix_escape is_number begins
  refine attached_of_endsWord (endsWord_escape control parts digit) ⟨before.flatMap escape, last, ?_⟩
  rw [List.flatMap_append, List.flatMap_cons, ← parts]
  simp only [List.append_assoc, same]

theorem isolated_quoted (is_number : IsNumber number) {value : String}
    (isolated : Isolated number (value.toList.flatMap escape)) : Isolated number (quoted value).toList := by
  rw [quoted, String.toList_append, String.toList_append]
  refine is_number.isolated_enclosed (by decide) (by decide) ?_
  rwa [String.toList_ofList]

end Escape

end Json

/-! ## Texts of values -/

namespace Json

variable {number : List Char}

theorem isolated_number (is_number : IsNumber number) (value : Number) : Isolated number value.text.toList := by
  refine .of_absent fun occurs => ?_
  rcases signsOnly_text value with none | ⟨mantissa, exponent, parts, first, second⟩
  · exact is_number.not_infix_of_tail none occurs
  · rw [parts] at occurs
    rcases Regex.infix_append_cons (is_number.not_mem (by decide) (by decide)) occurs with occurs | occurs
    · exact is_number.not_infix_of_tail first occurs
    · exact is_number.not_infix_of_tail second occurs

mutual

/-- A number that stands apart in the escaped strings and keys of a value does so in the text of the value. -/
theorem isolated_text (is_number : IsNumber number) : (value : Json) →
    (∀ text ∈ value.strings ++ value.keys, Isolated number (text.toList.flatMap escape)) →
      Isolated number value.text.toList
  | .null, _ => .of_absent (is_number.not_infix_of_tail (by decide))
  | .bool true, _ => .of_absent (is_number.not_infix_of_tail (by decide))
  | .bool false, _ => .of_absent (is_number.not_infix_of_tail (by decide))
  | .number value, _ => isolated_number is_number value
  | .string value, each => isolated_quoted is_number (each value (List.mem_singleton_self value))
  | .array items, each => by
    rw [text, String.toList_append, String.toList_append]
    have inner : Isolated number (String.intercalate "," (itemTexts items)).toList :=
      is_number.isolated_intercalate (isolated_itemTexts is_number items each) rfl (by decide)
    exact is_number.isolated_enclosed (by decide) (by decide) inner
  | .object fields, each => by
    rw [text, String.toList_append, String.toList_append]
    have inner : Isolated number (String.intercalate "," (fieldTexts fields)).toList :=
      is_number.isolated_intercalate (isolated_fieldTexts is_number fields each) rfl (by decide)
    exact is_number.isolated_enclosed (by decide) (by decide) inner

theorem isolated_itemTexts (is_number : IsNumber number) : (items : List Json) →
    (∀ text ∈ stringsOfItems items ++ keysOfItems items, Isolated number (text.toList.flatMap escape)) →
      ∀ text ∈ itemTexts items, Isolated number text.toList
  | [], _ => by simp [itemTexts]
  | item :: rest, each => by
    rw [itemTexts, List.forall_mem_cons]
    simp only [stringsOfItems, keysOfItems, List.mem_append] at each
    exact ⟨isolated_text is_number item fun text among => each text ((List.mem_append.mp among).imp .inl .inl),
      isolated_itemTexts is_number rest fun text among => each text ((List.mem_append.mp among).imp .inr .inr)⟩

theorem isolated_fieldTexts (is_number : IsNumber number) : (fields : List (String × Json)) →
    (∀ text ∈ stringsOfFields fields ++ keysOfFields fields, Isolated number (text.toList.flatMap escape)) →
      ∀ text ∈ fieldTexts fields, Isolated number text.toList
  | [], _ => by simp [fieldTexts]
  | (key, value) :: rest, each => by
    rw [fieldTexts, List.forall_mem_cons]
    simp only [stringsOfFields, keysOfFields, List.mem_append, List.mem_cons] at each
    constructor
    · have first := isolated_quoted is_number (each key (.inr (.inl (.inl rfl))))
      have second := isolated_text is_number value fun text among =>
        each text ((List.mem_append.mp among).imp .inl (.inl ∘ .inr))
      have parts : (quoted key ++ ":" ++ value.text).toList = (quoted key).toList ++ ':' :: value.text.toList := by
        simp
      rw [parts]
      exact is_number.isolated_append_cons first second (by decide)
    · exact isolated_fieldTexts is_number rest fun text among => each text ((List.mem_append.mp among).imp .inr .inr)

end

end Json

end LlmTelemetry

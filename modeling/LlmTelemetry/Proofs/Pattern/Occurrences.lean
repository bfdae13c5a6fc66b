import LlmTelemetry.Proofs.Pattern.Gaps
import LlmTelemetry.Proofs.Pattern.Replacement
import Mathlib.Data.List.Infix
/-!
# Where a text occurs

Where an expression finds every occurrence of a text, and its matches are replaced by something that shares no
character with the text, the text does not occur any more: an occurrence would lie in a gap between two matches,
and would be the beginning of a match itself.

An expression that asks for word boundaries finds the occurrences that stand apart from other words. They are kept
when texts are joined by characters that are in no word.
-/

namespace LlmTelemetry

namespace Regex

section Separated

variable {text : List Char}

theorem infix_append_cons {before after : List Char} {c : Char} (apart : c ∉ text)
    (occurs : text <:+: before ++ c :: after) : text <:+: before ∨ text <:+: after := by
  induction before with
  | nil =>
    obtain first | later := List.infix_cons_iff.mp occurs
    · obtain rfl | ⟨others, rfl, -⟩ := List.prefix_cons_iff.mp first
      · exact .inl (List.nil_infix)
      · exact absurd List.mem_cons_self apart
    · exact .inr later
  | cons d before ih =>
    obtain first | later := List.infix_cons_iff.mp occurs
    · have whole : d :: before ++ [c] <+: d :: (before ++ c :: after) := ⟨after, by simp⟩
      obtain short | long := List.prefix_or_prefix_of_prefix first whole
      · obtain rfl | inside := List.prefix_concat_iff.mp short
        · exact absurd (List.mem_append_right _ (List.mem_singleton_self c)) apart
        · exact .inl inside.isInfix
      · exact absurd (long.subset (List.mem_append_right _ (List.mem_singleton_self c))) apart
    · obtain inside | behind := ih later
      · exact .inl (List.infix_cons inside)
      · exact .inr behind

theorem infix_of_infix_append {other after : List Char} (some_text : text ≠ [])
    (apart : ∀ c ∈ other, c ∉ text) (occurs : text <:+: other ++ after) : text <:+: after := by
  induction other with
  | nil => exact occurs
  | cons c other ih =>
    rw [List.forall_mem_cons] at apart
    have split : text <:+: [] ++ c :: (other ++ after) := occurs
    obtain inside | behind := infix_append_cons apart.1 split
    · exact absurd (List.infix_nil.mp inside) some_text
    · exact ih apart.2 behind

theorem infix_around {before other after : List Char} (some_text : text ≠ []) (some_other : other ≠ [])
    (apart : ∀ c ∈ other, c ∉ text) (occurs : text <:+: before ++ other ++ after) :
    text <:+: before ∨ text <:+: after := by
  obtain ⟨c, others, rfl⟩ := List.exists_cons_of_ne_nil some_other
  rw [List.forall_mem_cons] at apart
  rw [List.append_assoc, List.cons_append] at occurs
  obtain inside | behind := infix_append_cons apart.1 occurs
  · exact .inl inside
  · exact .inr (infix_of_infix_append some_text apart.2 behind)

end Separated

/-! ## Found occurrences -/

section Found

variable {regex : Regex} {text : List Char} {place : Place}

/-- Wherever the text occurs from a place on, a match begins. -/
def Finds (regex : Regex) (text : List Char) (place : Place) : Prop :=
  ∀ start ≤ place.rest.length, text <+: place.rest.drop start → ∃ length, regex.MatchesAt (place.skip start) length

theorem Finds.skip {count : Nat} (finds : regex.Finds text place) (inside : count ≤ place.rest.length) :
    regex.Finds text (place.skip count) := by
  intro start short begins
  rw [Place.rest_skip, List.length_drop] at short
  rw [Place.rest_skip, List.drop_drop] at begins
  rw [Place.skip_skip]
  exact finds (count + start) (by omega) begins

theorem Finds.exists_matchesAt {gap : List Char} (finds : regex.Finds text place) (begins : gap <+: place.rest)
    (occurs : text <:+: gap) :
    ∃ start, start + text.length ≤ gap.length ∧ ∃ length, regex.MatchesAt (place.skip start) length := by
  obtain ⟨first, last, rfl⟩ := occurs
  obtain ⟨rest, all⟩ := begins
  have there : text <+: place.rest.drop first.length := by
    rw [← all, List.append_assoc, List.append_assoc, List.drop_left]
    exact List.prefix_append text (last ++ rest)
  have inside : first.length ≤ place.rest.length := by
    rw [← all]
    simp
  exact ⟨first.length, by simp, finds first.length inside there⟩

theorem Replaced.no_occurrence {replacement out : List Char} (replaced : regex.Replaced replacement place out)
    (finds : regex.Finds text place) (some_text : text ≠ []) (some_replacement : replacement ≠ [])
    (apart : ∀ c ∈ replacement, c ∉ text) : ¬ text <:+: out := by
  induction replaced with
  | clean nowhere =>
    intro occurs
    obtain ⟨start, short, length, matched⟩ := finds.exists_matchesAt (List.prefix_refl _) occurs
    exact nowhere start (by omega) length matched
  | @replace place start length out first inside matched _ ih =>
    intro occurs
    obtain within | behind := infix_around some_text some_replacement apart occurs
    -- An occurrence in the gap would be found before the first match.
    · obtain ⟨earlier, short, taken, found⟩ := finds.exists_matchesAt (List.take_prefix start place.rest) within
      have positive := List.length_pos_iff.mpr some_text
      rw [List.length_take] at short
      exact first earlier (by omega) taken found
    · have ends := matched.1
      rw [Place.rest_skip, List.length_drop] at ends
      exact ih (finds.skip (by omega)) behind

/-- Where every occurrence of a text is found and replaced, it does not occur any more. -/
theorem not_infix_replaceAll (some_taken : regex.TakesSome) {within replacement : String}
    (finds : regex.Finds text ⟨none, within.toList⟩) (some_text : text ≠ [])
    (some_replacement : replacement.toList ≠ []) (apart : ∀ c ∈ replacement.toList, c ∉ text) :
    ¬ text <:+: (regex.replaceAll replacement within).toList :=
  (replaced_replaceAll some_taken replacement within).no_occurrence finds some_text some_replacement apart

end Found

end Regex

/-! ## Occurrences that stand apart -/

/-- Wherever a word occurs in a text, no character of another word stands next to it. -/
def Isolated (word text : List Char) : Prop :=
  ∀ before after, text = before ++ word ++ after →
    before.getLast?.any Unicode.isWord = false ∧ after.head?.any Unicode.isWord = false

namespace Isolated

variable {word text other : List Char} {c : Char}

theorem of_absent (absent : ¬ word <:+: text) : Isolated word text :=
  fun before after same => absurd ⟨before, after, same.symm⟩ absent

theorem self (word : List Char) : Isolated word word := by
  intro before after same
  have lengths := congrArg List.length same
  rw [List.length_append, List.length_append] at lengths
  obtain rfl : before = [] := List.length_eq_zero_iff.mp (by omega)
  obtain rfl : after = [] := List.length_eq_zero_iff.mp (by omega)
  exact ⟨rfl, rfl⟩

theorem append_cons (first : Isolated word text) (second : Isolated word other) (some_word : word ≠ [])
    (apart : c ∉ word) (no_word : Unicode.isWord c = false) : Isolated word (text ++ c :: other) := by
  intro before after same
  rw [List.append_assoc] at same
  rcases List.append_eq_append_iff.mp same with ⟨left, rfl, inside⟩ | ⟨right, rfl, inside⟩
  · cases left with
    -- The word would begin with the character between the texts.
    | nil =>
      obtain ⟨d, rest, rfl⟩ := List.exists_cons_of_ne_nil some_word
      obtain ⟨rfl, -⟩ := List.cons.inj inside
      exact absurd List.mem_cons_self apart
    | cons d left =>
      obtain ⟨rfl, rfl⟩ := List.cons.inj inside
      have alone := second left after (by simp)
      refine ⟨?_, alone.2⟩
      rw [List.getLast?_append, List.getLast?_cons]
      cases last : left.getLast? with
      | none => simpa using no_word
      | some d => simpa [last] using alone.1
  · rcases List.append_eq_append_iff.mp inside with ⟨more, rfl, behind⟩ | ⟨more, rfl, behind⟩
    · have alone := first before more (by simp)
      refine ⟨alone.1, ?_⟩
      rw [behind]
      cases more with
      | nil => simpa using no_word
      | cons d more => exact alone.2
    · cases more with
      | nil =>
        have alone := first before [] (by simp)
        obtain rfl : c :: other = after := behind
        exact ⟨alone.1, by simpa using no_word⟩
      -- The word would end behind the character between the texts.
      | cons d more =>
        obtain ⟨rfl, -⟩ := List.cons.inj behind
        exact absurd (by simp) apart

theorem intercalate {texts : List (List Char)} (each : ∀ text ∈ texts, Isolated word text) (some_word : word ≠ [])
    (apart : c ∉ word) (no_word : Unicode.isWord c = false) : Isolated word ([c].intercalate texts) := by
  induction texts with
  | nil => exact of_absent fun occurs => some_word (List.infix_nil.mp occurs)
  | cons text others ih =>
    rw [List.forall_mem_cons] at each
    cases others with
    | nil => simpa using each.1
    | cons next others =>
      rw [List.intercalate_cons_cons]
      simpa using append_cons each.1 (ih each.2) some_word apart no_word

end Isolated

theorem Place.skip_length_append (first rest : List Char) :
    Place.skip ⟨none, first ++ rest⟩ first.length = ⟨first.getLast?, rest⟩ := by
  cases first with
  | nil => rfl
  | cons c first => exact Place.skip_append_length none rest (by simp)

theorem Isolated.apart_at {word text : List Char} (isolated : Isolated word text) {start : Nat}
    (inside : start ≤ text.length) (begins : word <+: text.drop start) :
    (Place.skip ⟨none, text⟩ start).previous.any Unicode.isWord = false ∧
      ((text.drop start).drop word.length).head?.any Unicode.isWord = false := by
  obtain ⟨after, same⟩ := begins
  have whole : text = text.take start ++ word ++ after := by
    rw [List.append_assoc, same, List.take_append_drop]
  have there : Place.skip ⟨none, text⟩ start = ⟨(text.take start).getLast?, word ++ after⟩ := by
    have length : (text.take start).length = start := List.length_take_of_le inside
    conv_lhs => rw [whole, List.append_assoc]
    rw [← Place.skip_length_append, length]
  rw [there, ← same, List.drop_left]
  exact isolated _ _ whole

/-- An expression that matches a word where it stands apart finds a word that always stands apart. -/
theorem Isolated.finds {regex : Regex} {word text : List Char} (isolated : Isolated word text)
    (matches_apart : ∀ place : Place, word <+: place.rest → place.previous.any Unicode.isWord = false →
      (place.rest.drop word.length).head?.any Unicode.isWord = false → ∃ length, regex.MatchesAt place length) :
    regex.Finds word ⟨none, text⟩ := by
  intro start inside begins
  obtain ⟨before, behind⟩ := isolated.apart_at inside begins
  rw [← Place.rest_skip ⟨none, text⟩] at begins behind
  exact matches_apart _ begins before behind

end LlmTelemetry

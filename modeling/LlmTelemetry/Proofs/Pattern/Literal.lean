import LlmTelemetry.Pattern.Parser
import LlmTelemetry.Proofs.Pattern.Occurrences
/-!
# Texts as patterns

A text with a backslash before each character that has a meaning in patterns matches itself and nothing else, and
it finds every occurrence of the text. So where its matches are replaced by something that shares no character with
it, the text does not occur any more.
-/

namespace LlmTelemetry

theorem CharClass.contains_single {c d : Char} : (CharClass.single c).contains d = true ↔ d = c := by
  rw [CharClass.single, CharClass.contains, Bool.and_eq_true, decide_eq_true_eq, decide_eq_true_eq]
  constructor
  · exact fun bounds => Char.le_antisymm bounds.2 bounds.1
  · rintro rfl
    exact ⟨Char.le_refl d, Char.le_refl d⟩

namespace Regex

/-- The expression that matches a text as it stands. -/
def literal (text : List Char) : Regex :=
  inOrder (text.map (character {}))

theorem takes_character {c : Char} {before behind : Place} :
    (character {} c).Takes before behind ↔ [c] <+: before.rest ∧ behind = before.skip 1 := by
  obtain ⟨previous, rest⟩ := before
  constructor
  · rintro ⟨d, others, rfl, contained, rfl⟩
    obtain rfl := CharClass.contains_single.mp contained
    exact ⟨⟨others, rfl⟩, rfl⟩
  · rintro ⟨⟨others, rfl⟩, rfl⟩
    exact ⟨c, others, rfl, CharClass.contains_single.mpr rfl, rfl⟩

theorem takes_literal {text : List Char} {before behind : Place} :
    (literal text).Takes before behind ↔ text <+: before.rest ∧ behind = before.skip text.length := by
  induction text generalizing before with
  | nil => simp [literal, inOrder, Takes, eq_comm]
  | cons c text ih =>
    cases text with
    | nil => exact takes_character
    | cons d text =>
      have parts : (literal (c :: d :: text)).Takes before behind ↔
          ∃ between, (character {} c).Takes before between ∧
            (literal (d :: text)).Takes between behind := Iff.rfl
      rw [parts]
      simp only [takes_character, ih]
      obtain ⟨previous, _ | ⟨e, rest⟩⟩ := before
      · simp
      · constructor
        · rintro ⟨between, ⟨same, rfl⟩, follows, rfl⟩
          obtain ⟨rfl, -⟩ := List.cons_prefix_cons.mp same
          exact ⟨List.cons_prefix_cons.mpr ⟨rfl, follows⟩, rfl⟩
        · rintro ⟨same, rfl⟩
          obtain ⟨rfl, follows⟩ := List.cons_prefix_cons.mp same
          exact ⟨_, ⟨⟨rest, rfl⟩, rfl⟩, follows, rfl⟩

theorem matchesAt_literal {text : List Char} {place : Place} {length : Nat} :
    (literal text).MatchesAt place length ↔ text <+: place.rest ∧ length = text.length := by
  rw [MatchesAt, takes_literal]
  constructor
  · rintro ⟨short, follows, same⟩
    have rests := congrArg (List.length ∘ Place.rest) same
    have shorter := follows.length_le
    simp only [Function.comp_apply, Place.rest_skip, List.length_drop] at rests
    exact ⟨follows, by omega⟩
  · rintro ⟨follows, rfl⟩
    exact ⟨follows.length_le, follows, rfl⟩

theorem takesSome_literal {text : List Char} (some_text : text ≠ []) : (literal text).TakesSome := by
  intro place matched
  have none_left := (matchesAt_literal.mp matched).2
  exact some_text (List.length_eq_zero_iff.mp none_left.symm)

/-! ## No occurrence is left -/

theorem finds_literal (text : List Char) (place : Place) : (literal text).Finds text place := by
  intro start _ begins
  rw [← Place.rest_skip] at begins
  exact ⟨text.length, matchesAt_literal.mpr ⟨begins, rfl⟩⟩

/-- Where a text is replaced, it does not occur any more. -/
theorem not_infix_replaceAll_literal {text : List Char} {replacement : String} (some_text : text ≠ [])
    (some_replacement : replacement.toList ≠ []) (apart : ∀ c ∈ replacement.toList, c ∉ text)
    (within : String) : ¬ text <:+: ((literal text).replaceAll replacement within).toList :=
  not_infix_replaceAll (takesSome_literal some_text) (finds_literal text _) some_text some_replacement apart

end Regex

/-! ## Reading a text with backslashes -/

namespace Pattern

def specials : List Char :=
  ['\\', '.', '+', '*', '?', '(', ')', '|', '[', ']', '\x7b', '\x7d', '^', '$', '#', '&', '-', '~']

/-- A text with a backslash before each character that has a meaning in patterns. -/
def escaped (text : List Char) : List Char :=
  text.flatMap fun c => if c ∈ specials then ['\\', c] else [c]

def literal (text : String) : Pattern :=
  ⟨String.ofList (escaped text.toList), Regex.literal text.toList⟩

end Pattern

namespace Regex

variable {c : Char} {rest : List Char} {flags : Flags}

theorem token?_special (special : c ∈ Pattern.specials) :
    token? flags ('\\' :: c :: rest) = some (.part (character flags c), rest) := by
  simp only [Pattern.specials, List.mem_cons, List.not_mem_nil, or_false] at special
  rcases special with rfl | rfl | rfl | rfl | rfl | rfl | rfl | rfl | rfl | rfl | rfl | rfl | rfl |
    rfl | rfl | rfl | rfl | rfl <;> rfl

theorem token?_plain (plain : c ∉ Pattern.specials) :
    token? flags (c :: rest) = some (.part (character flags c), rest) := by
  unfold token?
  split <;> simp_all [Pattern.specials]

theorem read?_part {fuel : Nat} {builder : Builder} {part : Regex} {others : List Char}
    (read : token? builder.group.flags (c :: rest) = some (.part part, others)) :
    builder.read? (fuel + 1) (c :: rest) = (builder.push part).read? fuel others := by
  rw [Builder.read?, read]
  · rfl
  · simp

theorem read?_escaped (text : List Char) {fuel : Nat} (builder : Builder)
    (enough : (Pattern.escaped text).length ≤ fuel) :
    builder.read? fuel (Pattern.escaped text) =
      some { builder with group := { builder.group with
        parts := (text.map (character builder.group.flags)).reverse ++ builder.group.parts } } := by
  induction text generalizing fuel builder with
  | nil => cases fuel <;> rfl
  | cons c text ih =>
    have token : ∃ first others, Pattern.escaped (c :: text) = first :: others ∧
        token? builder.group.flags (first :: others) =
          some (.part (character builder.group.flags c), Pattern.escaped text) ∧
        (Pattern.escaped text).length ≤ others.length := by
      by_cases special : c ∈ Pattern.specials
      · refine ⟨'\\', c :: Pattern.escaped text, ?_, token?_special special, by simp⟩
        simp [Pattern.escaped, special]
      · refine ⟨c, Pattern.escaped text, ?_, token?_plain special, by simp⟩
        simp [Pattern.escaped, special]
    obtain ⟨first, others, same, read, short⟩ := token
    rw [same, List.length_cons] at enough
    obtain ⟨left, rfl⟩ := Nat.exists_eq_add_of_lt (Nat.lt_of_succ_le enough)
    rw [same, read?_part read, ih _ (by omega)]
    simp [Builder.push, Group.push]

end Regex

/-- The text with backslashes reads as the pattern. -/
theorem Pattern.parse?_literal (text : String) :
    parse? (literal text).text = some (literal text) := by
  have read := Regex.read?_escaped text.toList { group := { flags := {} } } (Nat.le_refl _)
  have length : (literal text).text.length = (escaped text.toList).length := by
    simp [literal]
  have list : (literal text).text.toList = escaped text.toList := by
    simp [literal]
  rw [parse?, Regex.parse?, length, list, read]
  simp [Regex.Builder.finish?, Regex.Group.close, Regex.Group.body, Regex.Group.current, literal,
    Regex.literal]

end LlmTelemetry

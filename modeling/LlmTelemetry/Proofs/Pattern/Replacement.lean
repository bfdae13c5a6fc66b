import LlmTelemetry.Pattern.Search
import LlmTelemetry.Proofs.Pattern.Leftmost
/-!
# What replacing matches leaves

A text in which the matches of an expression are replaced is made of the gaps between them, in which no
match begins, and of the replacement in the place of each match. This is told for expressions that do not
match nothing, as all expressions do that describe a secret.
-/

namespace LlmTelemetry

namespace Regex

/-- Every match has a character. -/
def TakesSome (regex : Regex) : Prop :=
  ∀ place, ¬ regex.MatchesAt place 0

/-- The text from a place on, when the matches are replaced from left to right. -/
inductive Replaced (regex : Regex) (replacement : List Char) : Place → List Char → Prop
  | clean {place : Place}
    (none : ∀ start ≤ place.rest.length, ∀ length, ¬ regex.MatchesAt (place.skip start) length) :
    Replaced regex replacement place place.rest
  | replace {place : Place} {start length : Nat} {out : List Char}
    (first : ∀ earlier < start, ∀ length, ¬ regex.MatchesAt (place.skip earlier) length)
    (inside : start ≤ place.rest.length) (matched : regex.MatchesAt (place.skip start) length)
    (others : Replaced regex replacement (place.skip (start + length)) out) :
    Replaced regex replacement place (place.rest.take start ++ replacement ++ out)

end Regex

namespace Program

variable {program : Program} {replacement : List Char}

theorem replaceFrom_inside (place : Place) {inside : Nat} (short : inside ≤ place.rest.length) :
    program.replaceFrom replacement place.previous inside none true place.rest =
      program.replaceFrom replacement (place.skip inside).previous 0 none true
        (place.skip inside).rest := by
  induction inside generalizing place with
  | zero => rfl
  | succ inside ih =>
    obtain ⟨previous, _ | ⟨c, rest⟩⟩ := place
    · simp at short
    · rw [replaceFrom, Place.skip_cons]
      exact ih ⟨some c, rest⟩ (by simpa using short)

theorem replaceFrom_known (place : Place) (touching : Bool) {start length : Nat}
    (short : start + (length + 1) ≤ place.rest.length) :
    program.replaceFrom replacement place.previous 0 (some ⟨start, length + 1⟩) touching place.rest =
      place.rest.take start ++ replacement ++
        program.replaceFrom replacement (place.skip (start + (length + 1))).previous 0 none true
          (place.skip (start + (length + 1))).rest := by
  induction start generalizing place touching with
  | zero =>
    obtain ⟨previous, _ | ⟨c, rest⟩⟩ := place
    · simp at short
    · simp only [replaceFrom, Option.some_or, List.take_zero, List.nil_append, Nat.zero_add,
        Place.skip_cons]
      rw [replaceFrom_inside ⟨some c, rest⟩ (by simpa using short)]
  | succ start ih =>
    obtain ⟨previous, _ | ⟨c, rest⟩⟩ := place
    · simp at short
    · have shorter : start + (length + 1) ≤ rest.length := by
        rw [List.length_cons] at short
        omega
      have kept := ih ⟨some c, rest⟩ false shorter
      rw [show start + 1 + (length + 1) = start + (length + 1) + 1 by omega, Place.skip_cons]
      simp only [replaceFrom, Option.some_or, List.take_succ_cons, List.cons_append]
      exact congrArg (c :: ·) kept

theorem replaced_replaceFrom {regex : Regex} (some_taken : regex.TakesSome) (place : Place)
    (touching : Bool) :
    regex.Replaced replacement place
      (regex.program.replaceFrom replacement place.previous 0 none touching place.rest) := by
  -- On the length of the rest: each match has a character, so less is left behind it.
  induction size : place.rest.length using Nat.strong_induction_on generalizing place touching with
  | _ size ih =>
    cases found : regex.program.find? place.previous place.rest with
    | none =>
      have nowhere : ∀ start ≤ place.rest.length, ∀ length,
          ¬ regex.MatchesAt (place.skip start) length := by
        intro start inside length given
        obtain ⟨first, taken, found_first, -⟩ := find?_earliest inside given
        rw [found] at found_first
        contradiction
      have same : regex.program.replaceFrom replacement place.previous 0 none touching place.rest =
          place.rest := by
        obtain ⟨previous, _ | ⟨c, rest⟩⟩ := place
        · simp [replaceFrom, found]
        · simp [replaceFrom, found]
      rw [same]
      exact .clean nowhere
    | some span =>
      obtain ⟨start, length⟩ := span
      obtain ⟨inside, matched⟩ := matchesAt_of_find? found
      cases length with
      | zero => exact absurd matched (some_taken _)
      | succ length =>
        have short : start + (length + 1) ≤ place.rest.length := by
          have ends := matched.1
          rw [Place.rest_skip, List.length_drop] at ends
          omega
        have same : regex.program.replaceFrom replacement place.previous 0 none touching place.rest =
            regex.program.replaceFrom replacement place.previous 0 (some ⟨start, length + 1⟩) touching
              place.rest := by
          obtain ⟨previous, _ | ⟨c, rest⟩⟩ := place
          · simp at short
          · simp only [replaceFrom, Option.none_or, Option.some_or, found]
        rw [same, replaceFrom_known place touching short]
        refine .replace ?_ inside matched (ih _ ?_ _ true rfl)
        · intro earlier before taken given
          obtain ⟨first, taken, found_first, early⟩ := find?_earliest (by omega) given
          rw [found] at found_first
          cases found_first
          omega
        · rw [Place.rest_skip, List.length_drop]
          omega

end Program

namespace Regex

theorem replaced_replaceAll {regex : Regex} (some_taken : regex.TakesSome)
    (replacement text : String) :
    regex.Replaced replacement.toList ⟨none, text.toList⟩
      (regex.replaceAll replacement text).toList := by
  rw [replaceAll, String.toList_ofList]
  exact Program.replaced_replaceFrom some_taken ⟨none, text.toList⟩ false

end Regex

end LlmTelemetry

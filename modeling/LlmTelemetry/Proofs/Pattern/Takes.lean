import LlmTelemetry.Pattern.Regex
import Mathlib.Logic.Function.Iterate
import Mathlib.Tactic.Common
/-!
# What regular expressions take

An expression takes the characters between two places of a text. This says which stretches of a text match
it, and leaves open which of them a search prefers, so greedy and lazy repetitions take the same.
-/

namespace LlmTelemetry

/-- So many steps, one after the other. -/
inductive Chain {α : Type} (step : α → α → Prop) : (count : Nat) → α → α → Prop
  | done (a : α) : Chain step 0 a a
  | step {count : Nat} {a b c : α} (first : step a b) (others : Chain step count b c) :
    Chain step (count + 1) a c

namespace Chain

variable {α : Type} {step : α → α → Prop}

theorem single {a b : α} (first : step a b) : Chain step 1 a b :=
  .step first (.done b)

theorem trans {first second : Nat} {a b c : α} (chain : Chain step first a b)
    (next : Chain step second b c) : Chain step (first + second) a c := by
  induction chain with
  | done a => rwa [Nat.zero_add]
  | @step count _ _ _ first _ ih =>
    rw [show count + 1 + second = count + second + 1 by omega]
    exact .step first (ih next)

theorem split {first second : Nat} {a c : α} (chain : Chain step (first + second) a c) :
    ∃ b, Chain step first a b ∧ Chain step second b c := by
  induction first generalizing a with
  | zero => exact ⟨a, .done a, by rwa [Nat.zero_add] at chain⟩
  | succ first ih =>
    rw [show first + 1 + second = first + second + 1 by omega] at chain
    obtain _ | ⟨next, others⟩ := chain
    obtain ⟨b, before, behind⟩ := ih others
    exact ⟨b, .step next before, behind⟩

end Chain

namespace Place

def next : Place → Place
  | ⟨_, c :: rest⟩ => ⟨some c, rest⟩
  | ⟨previous, []⟩ => ⟨previous, []⟩

def skip (place : Place) (count : Nat) : Place :=
  next^[count] place

@[simp] theorem skip_zero (place : Place) : place.skip 0 = place := rfl

theorem skip_succ (place : Place) (count : Nat) :
    place.skip (count + 1) = (place.skip count).next :=
  Function.iterate_succ_apply' next count place

@[simp] theorem skip_cons (previous : Option Char) (c : Char) (rest : List Char) (count : Nat) :
    skip ⟨previous, c :: rest⟩ (count + 1) = skip ⟨some c, rest⟩ count := rfl

theorem skip_skip (place : Place) (first second : Nat) :
    (place.skip first).skip second = place.skip (first + second) := by
  rw [Nat.add_comm]
  exact (Function.iterate_add_apply next second first place).symm

theorem rest_next (place : Place) : place.next.rest = place.rest.tail := by
  obtain ⟨previous, rest⟩ := place
  cases rest <;> rfl

@[simp] theorem rest_skip (place : Place) (count : Nat) :
    (place.skip count).rest = place.rest.drop count := by
  induction count with
  | zero => rfl
  | succ count ih => rw [skip_succ, rest_next, ih, List.tail_drop]

end Place

namespace Regex

/-- How often a part may be repeated. A bound below the least number has no effect. -/
def MayRepeat (least : Nat) (most : Option Nat) (count : Nat) : Prop :=
  least ≤ count ∧ ∀ bound ∈ most, count ≤ max least bound

/-- The expression matches what stands between two places. -/
def Takes : Regex → Place → Place → Prop
  | .empty, before, behind => before = behind
  | .one cls, before, behind =>
    ∃ c rest, before.rest = c :: rest ∧ cls.contains c ∧ behind = ⟨some c, rest⟩
  | .assertion condition, before, behind => condition.holds before ∧ before = behind
  | .sequence first second, before, behind =>
    ∃ between, first.Takes before between ∧ second.Takes between behind
  | .either first second, before, behind => first.Takes before behind ∨ second.Takes before behind
  | .repeated body least most _, before, behind =>
    ∃ count, MayRepeat least most count ∧ Chain body.Takes count before behind
  | .group _ body, before, behind => body.Takes before behind

/-- What an expression takes are the next characters of the text. -/
theorem Takes.exists_skip {regex : Regex} {before behind : Place} (takes : regex.Takes before behind) :
    ∃ count ≤ before.rest.length, behind = before.skip count := by
  induction regex generalizing before behind with
  | empty => exact ⟨0, Nat.zero_le _, takes.symm⟩
  | one cls =>
    obtain ⟨previous, rest⟩ := before
    obtain ⟨c, rest, rfl, -, rfl⟩ := takes
    exact ⟨1, by simp, rfl⟩
  | assertion condition => exact ⟨0, Nat.zero_le _, takes.2.symm⟩
  | sequence first second ihFirst ihSecond =>
    obtain ⟨between, first, second⟩ := takes
    obtain ⟨count, short, rfl⟩ := ihFirst first
    obtain ⟨more, shorter, rfl⟩ := ihSecond second
    rw [Place.rest_skip, List.length_drop] at shorter
    exact ⟨count + more, by omega, Place.skip_skip before count more⟩
  | either first second ihFirst ihSecond =>
    obtain first | second := takes
    · exact ihFirst first
    · exact ihSecond second
  | repeated body least most greedy ih =>
    obtain ⟨times, -, chain⟩ := takes
    induction chain with
    | done place => exact ⟨0, Nat.zero_le _, rfl⟩
    | step first _ ihOthers =>
      obtain ⟨count, short, rfl⟩ := ih first
      obtain ⟨more, shorter, rfl⟩ := ihOthers
      rw [Place.rest_skip, List.length_drop] at shorter
      exact ⟨count + more, by omega, Place.skip_skip _ count more⟩
  | group number body ih => exact ih takes

/-- The expression matches so many characters at a place. -/
def MatchesAt (regex : Regex) (place : Place) (length : Nat) : Prop :=
  length ≤ place.rest.length ∧ regex.Takes place (place.skip length)

end Regex

end LlmTelemetry

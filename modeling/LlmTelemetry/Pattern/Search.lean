import LlmTelemetry.Pattern.Program
/-!
# Replacing matches

The matches of an expression are replaced from left to right. A match of nothing counts only where no
match has just ended.
-/

namespace LlmTelemetry

namespace Program

/-- Replace the matches in `rest`. The first `inside` characters of `rest` belong to a match that was
replaced already, `next` is the next match when it is known, and `touching` tells whether a match ended
where `rest` begins. -/
def replaceFrom (program : Program) (replacement : List Char) :
    (previous : Option Char) → (inside : Nat) → (next : Option Span) → (touching : Bool) →
      (rest : List Char) → List Char
  | _, _ + 1, _, _, [] => []
  | _, inside + 1, _, _, c :: rest =>
    replaceFrom program replacement (some c) inside none true rest
  | previous, 0, next, touching, [] =>
    if (next.or (program.find? previous [])).isSome && !touching then replacement else []
  | previous, 0, next, touching, c :: rest =>
    match next.or (program.find? previous (c :: rest)) with
    | none => c :: rest
    | some ⟨start + 1, length⟩ =>
      c :: replaceFrom program replacement (some c) 0 (some ⟨start, length⟩) false rest
    | some ⟨0, 0⟩ =>
      (if touching then [] else replacement)
        ++ c :: replaceFrom program replacement (some c) 0 none false rest
    | some ⟨0, length + 1⟩ =>
      replacement ++ replaceFrom program replacement (some c) length none true rest

end Program

namespace Regex

/-- Whether there is a match anywhere. -/
def isIn (regex : Regex) (text : String) : Bool :=
  (regex.program.find? none text.toList).isSome

/-- Replace every match. -/
def replaceAll (regex : Regex) (replacement text : String) : String :=
  String.ofList (regex.program.replaceFrom replacement.toList none 0 none false text.toList)

end Regex

end LlmTelemetry

import LlmTelemetry.Proofs.Pattern.Gaps
import LlmTelemetry.Redaction.Basic
import Mathlib.Data.List.Induction
/-!
# Nothing is left to be masked

Patterns are applied one after the other, and each pass changes what stands around the texts that the passes before
it have left. Masking is complete when no pass makes a match of its own pattern or of one that was applied before:
then what a pass has removed stays removed. A pass may well make matches of a pattern that is still to come.

For the patterns of personal data this can be read off from their expressions. Only the pattern for email addresses
ends without a word boundary, and it comes first.
-/

namespace LlmTelemetry

namespace Redaction

/-- Whether no pattern makes matches of its own or of an earlier one. -/
def Ordered (patterns : List Pattern) : Prop :=
  (∀ pattern ∈ patterns, Regex.makesNo redactedText.toList pattern.regex pattern.regex = true) ∧
    patterns.Pairwise fun earlier later =>
      Regex.makesNo redactedText.toList later.regex earlier.regex = true

theorem redactedText_ne_nil : redactedText.toList ≠ [] := by decide

theorem takesSome_of_makesNo {replacement : List Char} {scrubbed regex : Regex}
    (inert : Regex.makesNo replacement scrubbed regex = true) : regex.TakesSome := by
  intro place matched
  rw [Regex.makesNo, Bool.and_eq_true] at inert
  obtain ⟨taken, same, c, among, -⟩ := matched.2.some_taken inert.2
  have none_taken : taken = [] := List.self_eq_append_left.mp same
  rw [none_taken] at among
  contradiction

theorem absent_replaceAll {scrubbed regex : Regex} {text : String}
    (own : Regex.makesNo redactedText.toList scrubbed scrubbed = true)
    (inert : Regex.makesNo redactedText.toList scrubbed regex = true)
    (was : regex = scrubbed ∨ regex.Absent ⟨none, text.toList⟩) :
    regex.Absent ⟨none, (scrubbed.replaceAll redactedText text).toList⟩ := by
  have replaced := Regex.replaced_replaceAll (takesSome_of_makesNo own) redactedText text
  exact replaced.absent inert redactedText_ne_nil was (.inl rfl)

theorem absent_maskText (redaction : Redaction) (ordered : Ordered redaction.patterns) (text : String) :
    ∀ pattern ∈ redaction.patterns, pattern.regex.Absent ⟨none, (redaction.maskText text).toList⟩ := by
  unfold maskText
  generalize redaction.patterns = patterns at ordered
  induction patterns using List.reverseRecOn with
  | nil => simp
  | append_singleton patterns last ih =>
    obtain ⟨own, others⟩ := ordered
    obtain ⟨others, -, pairs⟩ := List.pairwise_append.mp others
    have ownLast := own last (by simp)
    have earlier := ih ⟨fun pattern among => own pattern (List.mem_append_left _ among), others⟩
    rw [List.foldl_append]
    intro pattern among
    rcases List.mem_append.mp among with among | among
    · have inert := pairs pattern among last (List.mem_singleton_self last)
      exact absent_replaceAll ownLast inert (.inr (earlier pattern among))
    · obtain rfl := List.mem_singleton.mp among
      exact absent_replaceAll ownLast ownLast (.inl rfl)

theorem maskText_of_absent (redaction : Redaction) (ordered : Ordered redaction.patterns) {text : String}
    (absent : ∀ pattern ∈ redaction.patterns, pattern.regex.Absent ⟨none, text.toList⟩) :
    redaction.maskText text = text := by
  have same : ∀ pattern ∈ redaction.patterns, pattern.regex.replaceAll redactedText text = text := by
    intro pattern among
    have some_taken := takesSome_of_makesNo (ordered.1 pattern among)
    exact Regex.replaceAll_of_absent some_taken (absent pattern among) redactedText
  unfold maskText
  generalize redaction.patterns = patterns at same
  induction patterns with
  | nil => rfl
  | cons pattern others ih =>
    rw [List.foldl_cons, same pattern List.mem_cons_self]
    exact ih fun other among => same other (List.mem_cons_of_mem _ among)

theorem scrubText_of_no_filter (redaction : Redaction) (no_filter : redaction.filter = none) (text : String) :
    redaction.scrubText text = .ok (redaction.maskText text) := by
  rw [scrubText, no_filter]

end Redaction

namespace Sensitive

theorem patterns_ordered : Redaction.Ordered patterns := by
  constructor <;> decide

/-- After one pass of the four patterns, no match of any of them begins anywhere in what is left, and a second
pass changes nothing. -/
theorem scrubText_leaves_none (blackout : Bool) (text : String) :
    let redaction : Redaction := { blackout := blackout, patterns := patterns, filter := none }
    redaction.patterns = [email, socialSecurity, card, phone] ∧
      ∃ scrubbed, redaction.scrubText text = .ok scrubbed ∧
        email.regex.Absent ⟨none, scrubbed.toList⟩ ∧ socialSecurity.regex.Absent ⟨none, scrubbed.toList⟩ ∧
        card.regex.Absent ⟨none, scrubbed.toList⟩ ∧ phone.regex.Absent ⟨none, scrubbed.toList⟩ ∧
        redaction.scrubText scrubbed = .ok scrubbed := by
  intro redaction
  have absent : ∀ pattern ∈ [email, socialSecurity, card, phone],
      pattern.regex.Absent ⟨none, (redaction.maskText text).toList⟩ :=
    redaction.absent_maskText patterns_ordered text
  have again : redaction.scrubText (redaction.maskText text) = .ok (redaction.maskText text) := by
    rw [redaction.scrubText_of_no_filter rfl, redaction.maskText_of_absent patterns_ordered absent]
  obtain ⟨noEmail, noNumber, noCard, noPhone, -⟩ := by simpa only [List.forall_mem_cons] using absent
  exact ⟨rfl, redaction.maskText text, redaction.scrubText_of_no_filter rfl text, noEmail, noNumber, noCard, noPhone,
    again⟩

/-- The end of an email address makes the beginning of a number a word boundary, so the next pass finds it. -/
theorem scrubText_of_attached_number :
    let redaction : Redaction := { patterns := patterns }
    redaction.scrubText "a@b.co123-45-6789" = .ok "[REDACTED][REDACTED]" ∧
      email.regex.Absent ⟨none, "[REDACTED][REDACTED]".toList⟩ ∧
      socialSecurity.regex.Absent ⟨none, "[REDACTED][REDACTED]".toList⟩ ∧
      redaction.scrubText "[REDACTED][REDACTED]" = .ok "[REDACTED][REDACTED]" := by
  intro redaction
  obtain ⟨-, scrubbed, masked, noEmail, noNumber, -, -, again⟩ := scrubText_leaves_none false "a@b.co123-45-6789"
  have known : redaction.maskText "a@b.co123-45-6789" = "[REDACTED][REDACTED]" := by decide +kernel
  have same := (redaction.scrubText_of_no_filter rfl "a@b.co123-45-6789").symm.trans masked
  rw [known] at same
  cases same
  exact ⟨masked, noEmail, noNumber, again⟩

end Sensitive

end LlmTelemetry

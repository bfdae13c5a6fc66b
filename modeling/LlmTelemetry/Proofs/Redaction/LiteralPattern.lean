import LlmTelemetry.Proofs.Pattern.Literal
import LlmTelemetry.Proofs.Redaction.Coverage
/-!
# A text as the only pattern

With a text as the only pattern, the text is in no string that redaction covers, however deep the string is.
The keys of objects are sent as the record has them, so a key can still hold the text.
-/

namespace LlmTelemetry

namespace Redaction

variable {redaction : Redaction} {pattern : Pattern}

theorem scrubsBy_of_pattern (one : redaction.patterns = [pattern]) (plain : redaction.filter = none) :
    redaction.ScrubsBy (pattern.regex.replaceAll redactedText) := by
  intro text
  rw [scrubText, plain, maskText, one]
  rfl

end Redaction

namespace CallRecord

/-- The text that is the only pattern occurs in no string of the events, and the keys are those of the
record. -/
theorem literal_pattern_hides {text : String} (some_text : text ≠ "")
    (apart : ∀ c ∈ redactedText.toList, c ∉ text.toList) {redaction : Redaction}
    (shown : redaction.blackout = false) {pattern : Pattern} (one : redaction.patterns = [pattern])
    (literal : pattern.regex = .literal text.toList) (plain : redaction.filter = none)
    (record : CallRecord) (labels : EventLabels) :
    ∃ call response, record.events redaction labels = .ok ⟨[call, response]⟩ ∧
      ∀ part : CoveredPart,
        (∀ value, part.ofEvents? call response = some value →
          ∀ string ∈ value.strings, ¬ text.toList <:+: string.toList) ∧
        (part.ofEvents? call response).map Json.keys = (part.ofRecord? record).map Json.keys := by
  have scrubs := Redaction.scrubsBy_of_pattern one plain
  rw [literal] at scrubs
  obtain ⟨call, response, sent, covered⟩ := events_cover scrubs shown record labels
  refine ⟨call, response, sent, fun part => ?_⟩
  rw [covered part]
  constructor
  · intro value found string member
    obtain ⟨original, -, rfl⟩ := Option.map_eq_some_iff.mp found
    rw [Json.strings_mapStrings] at member
    obtain ⟨before, -, rfl⟩ := List.mem_map.mp member
    have some_list : text.toList ≠ [] := by simpa using some_text
    exact Regex.not_infix_replaceAll_literal some_list (by decide) apart before
  · rw [Option.map_map]
    congr 1
    funext value
    exact Json.keys_mapStrings _ value

/-- A secret in a message, in a nested parameter and in the arguments of a tool. -/
theorem literal_pattern_hides_nested :
    ∃ (record : CallRecord) (redaction : Redaction) (labels : EventLabels) (call response : Event),
      redaction.patterns = [Pattern.literal "pa$$"] ∧
        Pattern.parse? "pa\\$\\$" = some (Pattern.literal "pa$$") ∧
        record.events redaction labels = .ok ⟨[call, response]⟩ ∧
        (∀ value, CoveredPart.parameters.ofEvents? call response = some value →
          ∀ string ∈ value.strings, ¬ "pa$$".toList <:+: string.toList) := by
  let record : CallRecord := { CallRecord.blank "openai" "gpt-4o" with
    messages := [.ofText "user" "my pa$$ is pa$$"]
    parameters := some (.object [("stop", .array [.string "pa$$", .object [("a", .string "xpa$$y")]])])
    toolCalls := some [⟨"1", "login", .array [.string "pa$$"]⟩] }
  let redaction : Redaction := { patterns := [Pattern.literal "pa$$"] }
  have some_text : "pa$$" ≠ "" := by decide
  have apart : ∀ c ∈ redactedText.toList, c ∉ "pa$$".toList := by simp [redactedText]
  have shown : redaction.blackout = false := rfl
  have one : redaction.patterns = [Pattern.literal "pa$$"] := rfl
  obtain ⟨call, response, sent, parts⟩ := literal_pattern_hides some_text apart shown one rfl rfl record
    ⟨"s", "a", ⟨"c", "t"⟩, .automatic⟩
  exact ⟨record, redaction, _, call, response, one, Pattern.parse?_literal "pa$$", sent,
    (parts .parameters).1⟩

/-- A key that holds the text is sent. -/
theorem literal_pattern_keeps_keys :
    ∃ (text key : String) (redaction : Redaction) (record : CallRecord) (labels : EventLabels)
      (call response : Event) (value : Json),
      text ≠ "" ∧ (∀ c ∈ redactedText.toList, c ∉ text.toList) ∧ redaction.blackout = false ∧
        redaction.patterns = [Pattern.literal text] ∧ redaction.filter = none ∧
        record.events redaction labels = .ok ⟨[call, response]⟩ ∧
        CoveredPart.parameters.ofEvents? call response = some value ∧
        key ∈ value.keys ∧ text.toList <:+: key.toList := by
  let redaction : Redaction := { patterns := [Pattern.literal "secret"] }
  let record : CallRecord := { CallRecord.blank "openai" "gpt-4o" with
    parameters := some (.object [("secret", .bool true)]) }
  have scrubs : redaction.ScrubsBy _ := Redaction.scrubsBy_of_pattern rfl rfl
  obtain ⟨call, response, sent, covered⟩ :=
    events_cover scrubs rfl record ⟨"s", "a", ⟨"c", "t"⟩, .automatic⟩
  exact ⟨"secret", "secret", redaction, record, _, call, response, .object [("secret", .bool true)],
    by decide, by simp [redactedText], rfl, rfl, rfl, sent, covered .parameters, List.mem_singleton_self _,
    List.infix_rfl⟩

end CallRecord

end LlmTelemetry

import LlmTelemetry.Event.Pair
import LlmTelemetry.Proofs.Json.Strings
import Mathlib.Tactic.Common
/-!
# When redaction aborts

The filter of the application may abort on a string. Then no event of the record is built, whichever string it is:
one in a message or in the prompt, or one deep in the arguments of a tool, which blackout hands to the filter as
well. It is these strings that decide, and nothing else of the record.
-/

namespace LlmTelemetry

namespace Ending

variable {ε α β : Type} {ending : Except ε α}

/-- The computation gives no value. -/
def Fails (ending : Except ε α) : Prop :=
  ∃ reason, ending = .error reason

@[simp] theorem not_fails_ok (value : α) : ¬ Fails (.ok value : Except ε α) := by
  rintro ⟨reason, failed⟩
  cases failed

@[simp] theorem not_fails_pure (value : α) : ¬ Fails (pure value : Except ε α) :=
  not_fails_ok value

@[simp] theorem fails_map {change : α → β} : Fails (ending.map change) ↔ Fails ending := by
  simp only [Fails, map_eq_error]

/-- Whether the second computation fails must not depend on the first. -/
theorem fails_bind {next : α → Except ε β} {later : Prop} (same : ∀ value, Fails (next value) ↔ later) :
    Fails (ending >>= next) ↔ Fails ending ∨ later := by
  cases ending with
  | error reason => exact ⟨fun _ => .inl ⟨reason, rfl⟩, fun _ => ⟨reason, rfl⟩⟩
  | ok value => exact (same value).trans (by simp)

theorem fails_bind_pure {change : α → β} : Fails (ending >>= fun value => pure (change value)) ↔ Fails ending :=
  (fails_bind fun _ => iff_false_intro (not_fails_pure _)).trans (iff_of_eq (or_false _))

theorem fails_mapM {step : α → Except ε β} {items : List α} :
    Fails (items.mapM step) ↔ ∃ item ∈ items, Fails (step item) := by
  induction items with
  | nil => simp
  | cons item rest ih =>
    have others (value : β) : Fails (do let values ← rest.mapM step; return value :: values) ↔
        ∃ item ∈ rest, Fails (step item) := by
      rw [fails_bind_pure, ih]
    rw [List.mapM_cons, fails_bind others]
    simp only [List.mem_cons, exists_eq_or_imp]

end Ending

open Ending (Fails not_fails_ok fails_map fails_bind fails_bind_pure fails_mapM)

namespace Redaction

variable {redaction : Redaction}

mutual

theorem scrub_fails : (value : Json) →
    (Fails (redaction.scrub value) ↔ ∃ text ∈ value.strings, Fails (redaction.scrubText text))
  | .string text => by simp [scrub, Json.strings]
  | .array items => by rw [scrub, fails_map, scrubItems_fails items, Json.strings]
  | .object fields => by rw [scrub, fails_map, scrubFields_fails fields, Json.strings]
  | .null => by simp [scrub, Json.strings]
  | .bool _ => by simp [scrub, Json.strings]
  | .number _ => by simp [scrub, Json.strings]

theorem scrubItems_fails : (items : List Json) →
    (Fails (redaction.scrubItems items) ↔
      ∃ text ∈ Json.stringsOfItems items, Fails (redaction.scrubText text))
  | [] => by simp [scrubItems, Json.stringsOfItems]
  | item :: rest => by
    have others (value : Json) : Fails (do let values ← redaction.scrubItems rest; return value :: values) ↔
        ∃ text ∈ Json.stringsOfItems rest, Fails (redaction.scrubText text) := by
      rw [fails_bind_pure, scrubItems_fails rest]
    rw [scrubItems, fails_bind others, scrub_fails item, Json.stringsOfItems]
    simp only [List.mem_append, or_and_right, exists_or]

theorem scrubFields_fails : (fields : List (String × Json)) →
    (Fails (redaction.scrubFields fields) ↔
      ∃ text ∈ Json.stringsOfFields fields, Fails (redaction.scrubText text))
  | [] => by simp [scrubFields, Json.stringsOfFields]
  | (key, value) :: rest => by
    have others (value : Json) :
        Fails (do let values ← redaction.scrubFields rest; return (key, value) :: values) ↔
          ∃ text ∈ Json.stringsOfFields rest, Fails (redaction.scrubText text) := by
      rw [fails_bind_pure, scrubFields_fails rest]
    rw [scrubFields, fails_bind others, scrub_fails value, Json.stringsOfFields]
    simp only [List.mem_append, or_and_right, exists_or]

end

/-- Without patterns and filter nothing aborts. -/
theorem not_fails_of_no_filters (nothing : ¬ redaction.hasFilters = true) (text : String) :
    ¬ Fails (redaction.scrubText text) := by
  have unfiltered : redaction.filter = none := by
    rw [hasFilters, Bool.or_eq_true, not_or, Option.not_isSome_iff_eq_none] at nothing
    exact nothing.2
  rw [scrubText, unfiltered]
  exact not_fails_ok _

theorem structuredField_fails (value : Json) :
    Fails (redaction.structuredField value) ↔ ∃ text ∈ value.strings, Fails (redaction.scrubText text) := by
  rw [structuredField]
  split
  · exact scrub_fails value
  · rename_i nothing
    simp [not_fails_of_no_filters nothing]

theorem whenPresent_fails {α β : Type} {redact : α → Except Panic β} {value : Option α} :
    Fails (whenPresent redact value) ↔ ∃ content ∈ value, Fails (redact content) := by
  cases value <;> simp [whenPresent]

theorem textField_fails (text : String) :
    Fails (redaction.textField text) ↔ redaction.blackout = false ∧ Fails (redaction.scrubText text) := by
  rw [textField]
  split
  · rename_i blackout
    simp [blackout]
  · rename_i shown
    rw [Bool.not_eq_true] at shown
    split
    · simp [shown]
    · rename_i nothing
      simp [not_fails_of_no_filters nothing]

theorem message_fails (message : Message) :
    Fails (redaction.message message) ↔
      redaction.blackout = false ∧ ∃ text ∈ message.content.strings, Fails (redaction.scrubText text) := by
  rw [Redaction.message, fails_map, contentField]
  split
  · rename_i blackout
    simp [blackout]
  · rename_i shown
    rw [Bool.not_eq_true] at shown
    simp [shown, structuredField_fails]

theorem completion_fails (text : Option String) :
    Fails (redaction.completion text) ↔
      redaction.blackout = false ∧ ∃ content ∈ text, Fails (redaction.scrubText content) := by
  rw [completion]
  split
  · rename_i blackout
    simp [blackout]
  · rename_i shown
    rw [Bool.not_eq_true] at shown
    simp [shown, whenPresent_fails, textField_fails]

end Redaction

namespace CallRecord

/-- The strings of a record that are masked and filtered: under blackout those of the parameters and of the tool
calls, and otherwise also those that people wrote or read. -/
def scrubbed (record : CallRecord) (blackout : Bool) : List String :=
  (if blackout then []
    else record.messages.flatMap (fun message => message.content.strings) ++ record.systemPrompt.toList ++
      record.completion.toList) ++
    (record.parameters.toList ++ record.toolCallsValue.toList).flatMap Json.strings

variable (record : CallRecord) (redaction : Redaction)

theorem callPayload_fails (callId : String) :
    Fails (record.callPayload redaction callId) ↔
      (∃ message ∈ record.messages, Fails (redaction.message message)) ∨
        (∃ text ∈ record.systemPrompt, Fails (redaction.textField text)) ∨
          ∃ value ∈ record.parameters, Fails (redaction.structuredField value) := by
  rw [callPayload, fails_bind fun messages => fails_bind fun systemPrompt => fails_bind_pure, fails_mapM,
    Redaction.whenPresent_fails, Redaction.whenPresent_fails]

theorem responsePayload_fails (callId : String) :
    Fails (record.responsePayload redaction callId) ↔
      Fails (redaction.completion record.completion) ∨
        ∃ value ∈ record.toolCallsValue, Fails (redaction.structuredField value) := by
  rw [responsePayload, fails_bind fun completion => fails_bind_pure, Redaction.whenPresent_fails]

/-- The events of a record are not built just when the filter aborts on one of its strings. -/
theorem events_fail_iff (labels : EventLabels) :
    Fails (record.events redaction labels) ↔
      ∃ text ∈ record.scrubbed redaction.blackout, Fails (redaction.scrubText text) := by
  rw [events, fails_bind fun call => fails_bind_pure, callPayload_fails, responsePayload_fails]
  simp only [Redaction.message_fails, Redaction.textField_fails, Redaction.structuredField_fails,
    Redaction.completion_fails]
  cases redaction.blackout with
  | true =>
    simp only [scrubbed, Option.mem_def, if_true, List.nil_append, List.mem_append, List.mem_flatMap,
      Option.mem_toList]
    grind
  | false =>
    simp only [scrubbed, Option.mem_def, Bool.false_eq_true, if_false, List.mem_append, List.mem_flatMap,
      Option.mem_toList]
    grind

end CallRecord

end LlmTelemetry

import LlmTelemetry.Proofs.Event.PayloadFields
/-!
# Blackout

Under blackout the events of a call tell nothing of what people wrote and read. Two records that agree in
everything else have the same events, with any patterns and any filter, and both payloads are marked.

The payloads are written down here as functions of what may be told (`callPayload_of_blackout` and
`responsePayload_of_blackout`), and no text of the record occurs on the right side of either equation. What
can still go wrong is that the filter aborts on a string of the parameters or of the tool calls, which
blackout leaves to it.
-/

namespace LlmTelemetry

/-- Two records that differ at most in texts: in the contents of messages, in the system prompt and in the
completion, which one of them may lack. -/
structure CallRecord.AgreeApartFromTexts (first second : CallRecord) : Prop where
  provider : first.provider = second.provider
  model : first.model = second.model
  roles : first.messages.map Message.role = second.messages.map Message.role
  systemPrompt : first.systemPrompt.isSome = second.systemPrompt.isSome
  toolCalls : first.toolCalls = second.toolCalls
  finishReason : first.finishReason = second.finishReason
  usage : first.usage = second.usage
  costUsd : first.costUsd = second.costUsd
  latencyMs : first.latencyMs = second.latencyMs
  parameters : first.parameters = second.parameters

namespace Redaction

variable {redaction : Redaction}

/-- The filter aborts on some text. -/
def FilterAborts (redaction : Redaction) (reason : Panic) : Prop :=
  ∃ filter text, redaction.filter = some filter ∧ filter text = .error reason

theorem scrubText_error {text : String} {reason : Panic}
    (failed : redaction.scrubText text = .error reason) : redaction.FilterAborts reason := by
  unfold scrubText at failed
  split at failed
  · rename_i filter present
    exact ⟨filter, _, present, failed⟩
  · contradiction

mutual

/-- Nothing but the filter aborts, however deep the string is that it aborts on. -/
theorem scrub_error {reason : Panic} :
    (value : Json) → redaction.scrub value = .error reason → redaction.FilterAborts reason
  | .string text, failed => by
    rw [scrub, Ending.map_eq_error] at failed
    exact scrubText_error failed
  | .array items, failed => by
    rw [scrub, Ending.map_eq_error] at failed
    exact scrubItems_error items failed
  | .object fields, failed => by
    rw [scrub, Ending.map_eq_error] at failed
    exact scrubFields_error fields failed
  | .null, failed => by simp [scrub] at failed
  | .bool _, failed => by simp [scrub] at failed
  | .number _, failed => by simp [scrub] at failed

theorem scrubItems_error {reason : Panic} :
    (items : List Json) → redaction.scrubItems items = .error reason → redaction.FilterAborts reason
  | [], failed => by simp [scrubItems] at failed
  | item :: rest, failed => by
    rw [scrubItems, Ending.bind_eq_error] at failed
    obtain first | ⟨_, -, failed⟩ := failed
    · exact scrub_error item first
    · obtain others | ⟨_, -, failed⟩ := Ending.bind_eq_error.1 failed
      · exact scrubItems_error rest others
      · contradiction

theorem scrubFields_error {reason : Panic} :
    (fields : List (String × Json)) → redaction.scrubFields fields = .error reason →
      redaction.FilterAborts reason
  | [], failed => by simp [scrubFields] at failed
  | (key, value) :: rest, failed => by
    rw [scrubFields, Ending.bind_eq_error] at failed
    obtain first | ⟨_, -, failed⟩ := failed
    · exact scrub_error value first
    · obtain others | ⟨_, -, failed⟩ := Ending.bind_eq_error.1 failed
      · exact scrubFields_error rest others
      · contradiction

end

theorem structuredField_error {value : Json} {reason : Panic}
    (failed : redaction.structuredField value = .error reason) : redaction.FilterAborts reason := by
  unfold structuredField at failed
  split at failed
  · exact scrub_error value failed
  · contradiction

theorem whenPresent_error {α β : Type} {redact : α → Except Panic β} {value : Option α}
    {reason : Panic} (failed : whenPresent redact value = .error reason) :
    ∃ content, redact content = .error reason := by
  cases value with
  | none => simp [whenPresent] at failed
  | some content => exact ⟨content, Ending.map_eq_error.1 failed⟩

/-! ## The fields under blackout -/

variable (blackout : redaction.blackout = true)
include blackout

theorem textField_of_blackout (text : String) : redaction.textField text = .ok redactedText := by
  rw [textField, if_pos blackout]

theorem completion_of_blackout (text : Option String) :
    redaction.completion text = .ok (some redactedText) := by
  rw [completion, if_pos blackout]

theorem message_of_blackout (message : Message) :
    redaction.message message = .ok (.ofText message.role redactedText) := by
  simp [Redaction.message, contentField, blackout, Except.map, Message.ofText]

theorem messages_of_blackout (messages : List Message) :
    messages.mapM redaction.message =
      .ok ((messages.map Message.role).map (Message.ofText · redactedText)) := by
  induction messages with
  | nil => rfl
  | cons message rest ih =>
    rw [List.mapM_cons, message_of_blackout blackout, ih]
    rfl

theorem whenPresent_textField_of_blackout (text : Option String) :
    whenPresent redaction.textField text = .ok (if text.isSome then some redactedText else none) := by
  cases text with
  | none => rfl
  | some text =>
    rw [whenPresent, textField_of_blackout blackout]
    rfl

end Redaction

/-! ## The payloads under blackout -/

namespace CallRecord

variable {redaction : Redaction} (blackout : redaction.blackout = true)
include blackout

theorem callPayload_of_blackout (record : CallRecord) (callId : String) :
    record.callPayload redaction callId = (Redaction.whenPresent redaction.structuredField
      record.parameters).map fun parameters => {
        callId := callId
        provider := record.provider
        model := record.model
        messages := (record.messages.map Message.role).map (Message.ofText · redactedText)
        systemPrompt := if record.systemPrompt.isSome then some redactedText else none
        parameters := parameters
        redacted := true } := by
  rw [callPayload, Redaction.messages_of_blackout blackout,
    Redaction.whenPresent_textField_of_blackout blackout, blackout]
  rfl

theorem responsePayload_of_blackout (record : CallRecord) (callId : String) :
    record.responsePayload redaction callId = (Redaction.whenPresent redaction.structuredField
      record.toolCallsValue).map fun toolCalls => {
        callId := callId
        provider := record.provider
        model := record.model
        completion := some redactedText
        finishReason := record.finishReason
        usage := record.usage
        costUsd := record.costUsd
        latencyMs := record.latencyMs
        toolCalls := toolCalls
        redacted := true } := by
  rw [responsePayload, Redaction.completion_of_blackout blackout, blackout]
  rfl

theorem events_eq_of_blackout {first second : CallRecord} (agree : first.AgreeApartFromTexts second)
    (labels : EventLabels) : first.events redaction labels = second.events redaction labels := by
  simp only [events, callPayload_of_blackout blackout, responsePayload_of_blackout blackout,
    toolCallsValue]
  rw [agree.provider, agree.model, agree.roles, agree.systemPrompt, agree.toolCalls,
    agree.finishReason, agree.usage, agree.costUsd, agree.latencyMs, agree.parameters]

theorem events_of_blackout (record : CallRecord) (labels : EventLabels) :
    (∃ call response, record.events redaction labels = .ok ⟨[call, response]⟩ ∧
      call.payload.field? "redacted" = some (.bool true) ∧
        response.payload.field? "redacted" = some (.bool true)) ∨
      ∃ reason, record.events redaction labels = .error reason ∧ redaction.FilterAborts reason := by
  have calls := callPayload_of_blackout blackout record labels.stamp.callId
  have answers := responsePayload_of_blackout blackout record labels.stamp.callId
  cases called : record.callPayload redaction labels.stamp.callId with
  | error reason =>
    refine .inr ⟨reason, events_eq_error (.inl called), ?_⟩
    obtain ⟨value, failed⟩ := Redaction.whenPresent_error (Ending.map_eq_error.1 (calls ▸ called))
    exact Redaction.structuredField_error failed
  | ok call =>
    cases answered : record.responsePayload redaction labels.stamp.callId with
    | error reason =>
      refine .inr ⟨reason, events_eq_error (.inr ⟨call, called, answered⟩), ?_⟩
      obtain ⟨value, failed⟩ := Redaction.whenPresent_error (Ending.map_eq_error.1 (answers ▸ answered))
      exact Redaction.structuredField_error failed
    | ok response =>
      refine .inl ⟨_, _, events_eq_ok called answered, ?_, ?_⟩
      · obtain ⟨_, -, rfl⟩ := Ending.map_eq_ok.1 (calls ▸ called)
        exact CallPayload.field?_redacted _
      · obtain ⟨_, -, rfl⟩ := Ending.map_eq_ok.1 (answers ▸ answered)
        exact ResponsePayload.field?_redacted _

/-- Two records that agree apart from texts have the same events under blackout, with any patterns and any
filter. The events are there, and both payloads are marked, unless the filter itself aborts. -/
theorem blackout_hides_texts {first second : CallRecord} (agree : first.AgreeApartFromTexts second)
    (labels : EventLabels) :
    first.events redaction labels = second.events redaction labels ∧
      ((∃ call response, first.events redaction labels = .ok ⟨[call, response]⟩ ∧
        call.payload.field? "redacted" = some (.bool true) ∧
          response.payload.field? "redacted" = some (.bool true)) ∨
        ∃ reason, first.events redaction labels = .error reason ∧ redaction.FilterAborts reason) :=
  ⟨events_eq_of_blackout blackout agree labels, events_of_blackout blackout first labels⟩

omit blackout in
theorem blackout_hides_texts_and_completion :
    ∃ (redaction : Redaction) (first second : CallRecord) (labels : EventLabels),
      redaction.blackout = true ∧ redaction.hasFilters = true ∧ first.AgreeApartFromTexts second ∧
        first.completion.isSome ≠ second.completion.isSome ∧
          first.events redaction labels = second.events redaction labels := by
  let blank := CallRecord.blank "openai" "gpt-4o"
  let first : CallRecord := { blank with
    messages := [.ofText "user" "hello"]
    systemPrompt := some "be kind"
    completion := some "hello to you"
    parameters := some (.string "123-45-6789") }
  let second : CallRecord := { first with
    messages := [⟨"user", .array [.string "goodbye"]⟩]
    systemPrompt := some "be brief"
    completion := none }
  let redaction : Redaction :=
    { blackout := true, patterns := [Sensitive.socialSecurity], filter := some fun text => .ok text }
  have agree : first.AgreeApartFromTexts second := by constructor <;> rfl
  exact ⟨redaction, first, second, ⟨"s", "a", ⟨"c", "t"⟩, .explicit⟩, rfl, rfl, agree, by decide,
    (blackout_hides_texts rfl agree _).1⟩

end CallRecord

end LlmTelemetry

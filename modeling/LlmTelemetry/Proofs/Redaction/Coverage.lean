import LlmTelemetry.Proofs.Event.PayloadFields
import LlmTelemetry.Proofs.Json.Strings
/-!
# What redaction covers

Without blackout redaction changes every string of the texts and values in the events in the same way, and
nothing else of them. A part of the events is looked up in the payloads as they are sent, and compared with
the part of the record that it comes from.
-/

namespace LlmTelemetry

namespace Redaction

/-- Scrubbing does not abort, and its result is given by a function. -/
def ScrubsBy (redaction : Redaction) (change : String → String) : Prop :=
  ∀ text, redaction.scrubText text = .ok (change text)

variable {redaction : Redaction} {change : String → String}

mutual

theorem scrub_eq_mapStrings (scrubs : redaction.ScrubsBy change) :
    (value : Json) → redaction.scrub value = .ok (value.mapStrings change)
  | .string text => by
    rw [scrub, scrubs text]
    rfl
  | .array items => by
    rw [scrub, scrubItems_eq_mapItems scrubs items]
    rfl
  | .object fields => by
    rw [scrub, scrubFields_eq_mapFields scrubs fields]
    rfl
  | .null => rfl
  | .bool _ => rfl
  | .number _ => rfl

theorem scrubItems_eq_mapItems (scrubs : redaction.ScrubsBy change) :
    (items : List Json) → redaction.scrubItems items = .ok (Json.mapItems change items)
  | [] => rfl
  | item :: rest => by
    rw [scrubItems, scrub_eq_mapStrings scrubs item, scrubItems_eq_mapItems scrubs rest]
    rfl

theorem scrubFields_eq_mapFields (scrubs : redaction.ScrubsBy change) :
    (fields : List (String × Json)) → redaction.scrubFields fields = .ok (Json.mapFields change fields)
  | [] => rfl
  | (key, value) :: rest => by
    rw [scrubFields, scrub_eq_mapStrings scrubs value, scrubFields_eq_mapFields scrubs rest]
    rfl

end

section

variable (scrubs : redaction.ScrubsBy change)
include scrubs

theorem same_of_no_filters (nothing : ¬ redaction.hasFilters = true) (text : String) :
    change text = text := by
  rw [hasFilters, Bool.or_eq_true, not_or, Bool.not_eq_true', Bool.not_eq_false,
    List.isEmpty_iff, Option.not_isSome_iff_eq_none] at nothing
  have scrubbed := scrubs text
  rw [scrubText, nothing.2, maskText, nothing.1] at scrubbed
  exact (Except.ok.inj scrubbed).symm

theorem structuredField_eq (value : Json) :
    redaction.structuredField value = .ok (value.mapStrings change) := by
  rw [structuredField]
  split
  · exact scrub_eq_mapStrings scrubs value
  · rename_i nothing
    rw [Json.mapStrings_of_same (same_of_no_filters scrubs nothing)]

theorem whenPresent_structuredField_eq (value : Option Json) :
    whenPresent redaction.structuredField value = .ok (value.map (Json.mapStrings change)) := by
  cases value with
  | none => rfl
  | some value =>
    rw [whenPresent, structuredField_eq scrubs]
    rfl

variable (shown : redaction.blackout = false)
include shown

theorem textField_eq (text : String) : redaction.textField text = .ok (change text) := by
  rw [textField, shown, if_neg Bool.false_ne_true]
  split
  · exact scrubs text
  · rename_i nothing
    rw [same_of_no_filters scrubs nothing]

theorem whenPresent_textField_eq (text : Option String) :
    whenPresent redaction.textField text = .ok (text.map change) := by
  cases text with
  | none => rfl
  | some text =>
    rw [whenPresent, textField_eq scrubs shown]
    rfl

theorem message_eq (message : Message) :
    redaction.message message = .ok ⟨message.role, message.content.mapStrings change⟩ := by
  rw [Redaction.message, contentField, shown, if_neg Bool.false_ne_true,
    structuredField_eq scrubs]
  rfl

theorem messages_eq (messages : List Message) :
    messages.mapM redaction.message =
      .ok (messages.map fun message => ⟨message.role, message.content.mapStrings change⟩) := by
  induction messages with
  | nil => rfl
  | cons message rest ih =>
    rw [List.mapM_cons, message_eq scrubs shown, ih]
    rfl

theorem completion_eq (text : Option String) : redaction.completion text = .ok (text.map change) := by
  rw [completion, shown, if_neg Bool.false_ne_true]
  exact whenPresent_textField_eq scrubs shown text

end

end Redaction

/-! ## The payloads -/

namespace CallRecord

variable {redaction : Redaction} {change : String → String} (scrubs : redaction.ScrubsBy change)
  (shown : redaction.blackout = false)
include scrubs shown

theorem callPayload_eq (record : CallRecord) (callId : String) :
    record.callPayload redaction callId = .ok {
      callId := callId
      provider := record.provider
      model := record.model
      messages := record.messages.map fun message =>
        ⟨message.role, message.content.mapStrings change⟩
      systemPrompt := record.systemPrompt.map change
      parameters := record.parameters.map (Json.mapStrings change)
      redacted := false } := by
  rw [callPayload, Redaction.messages_eq scrubs shown,
    Redaction.whenPresent_textField_eq scrubs shown,
    Redaction.whenPresent_structuredField_eq scrubs, shown]
  rfl

theorem responsePayload_eq (record : CallRecord) (callId : String) :
    record.responsePayload redaction callId = .ok {
      callId := callId
      provider := record.provider
      model := record.model
      completion := record.completion.map change
      finishReason := record.finishReason
      usage := record.usage
      costUsd := record.costUsd
      latencyMs := record.latencyMs
      toolCalls := record.toolCallsValue.map (Json.mapStrings change)
      redacted := false } := by
  rw [responsePayload, Redaction.completion_eq scrubs shown,
    Redaction.whenPresent_structuredField_eq scrubs, shown]
  rfl

end CallRecord

/-! ## The parts that redaction covers -/

/-- A part of a call that redaction covers. -/
inductive CoveredPart where
  | content (index : Nat)
  | systemPrompt
  | completion
  | parameters
  | arguments (index : Nat)

namespace CoveredPart

def ofRecord? (record : CallRecord) : CoveredPart → Option Json
  | .content index => record.messages[index]?.map Message.content
  | .systemPrompt => record.systemPrompt.map .string
  | .completion => some (.ofOption .string record.completion)
  | .parameters => record.parameters
  | .arguments index => (record.toolCalls.bind (·[index]?)).map ToolCall.arguments

/-- A field of an item of a list in a payload. -/
def itemField? (list : String) (index : Nat) (field : String) (payload : Json) : Option Json :=
  (((payload.field? list).bind Json.asArray?).bind (·[index]?)).bind (Json.field? field)

def ofEvents? (call response : Event) : CoveredPart → Option Json
  | .content index => itemField? "messages" index "content" call.payload
  | .systemPrompt => call.payload.field? "systemPrompt"
  | .completion => response.payload.field? "completion"
  | .parameters => call.payload.field? "parameters"
  | .arguments index => itemField? "toolCalls" index "arguments" response.payload

end CoveredPart

theorem Message.field?_content (message : Message) :
    message.encode.field? "content" = some message.content := by
  simp [encode, KeyedList.find?]

theorem ToolCall.field?_arguments (call : ToolCall) :
    call.encode.field? "arguments" = some call.arguments := by
  simp [encode, KeyedList.find?]

/-- The events are there, and every part in them is the part of the record with its strings changed. -/
theorem CallRecord.events_cover {redaction : Redaction} {change : String → String}
    (scrubs : redaction.ScrubsBy change) (shown : redaction.blackout = false)
    (record : CallRecord) (labels : EventLabels) :
    ∃ call response, record.events redaction labels = .ok ⟨[call, response]⟩ ∧
      ∀ part : CoveredPart,
        part.ofEvents? call response = (part.ofRecord? record).map (Json.mapStrings change) := by
  refine ⟨_, _, events_eq_ok (callPayload_eq scrubs shown record _)
    (responsePayload_eq scrubs shown record _), fun part => ?_⟩
  cases part with
  | content index =>
    simp only [CoveredPart.ofEvents?, CoveredPart.itemField?, EventLabels.event,
      CallPayload.field?_messages, CoveredPart.ofRecord?, Option.bind_some, Json.asArray?,
      List.getElem?_map]
    cases record.messages[index]? with
    | none => rfl
    | some message => exact Message.field?_content _
  | systemPrompt =>
    simp only [CoveredPart.ofEvents?, EventLabels.event, CallPayload.field?_systemPrompt,
      CoveredPart.ofRecord?]
    cases record.systemPrompt <;> rfl
  | completion =>
    simp only [CoveredPart.ofEvents?, EventLabels.event, ResponsePayload.field?_completion,
      CoveredPart.ofRecord?]
    cases record.completion <;> rfl
  | parameters =>
    exact CallPayload.field?_parameters _
  | arguments index =>
    simp only [CoveredPart.ofEvents?, CoveredPart.itemField?, EventLabels.event,
      ResponsePayload.field?_toolCalls, CoveredPart.ofRecord?, CallRecord.toolCallsValue]
    cases record.toolCalls with
    | none => rfl
    | some calls =>
      simp only [Option.map_some, Option.bind_some, Json.asArray?_mapStrings]
      rw [Json.asArray?]
      simp only [Option.map_some, Option.bind_some, List.getElem?_map]
      cases calls[index]? with
      | none => rfl
      | some call =>
        simp only [Option.map_some, Option.bind_some, Json.field?_mapStrings,
          ToolCall.field?_arguments]

end LlmTelemetry

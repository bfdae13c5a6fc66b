import LlmTelemetry.Event.Pair
import LlmTelemetry.Proofs.Json.Fields
/-!
# The fields of a payload

What stands under each key of the payloads that the two events of a call carry.
-/

namespace LlmTelemetry

@[simp] theorem find?_optionalField {α : Type} (key other : String) (encode : α → Json)
    (value : Option α) :
    KeyedList.find? other (optionalField key encode value).reverse =
      if key = other then value.map encode else none := by
  cases value <;> simp [optionalField, KeyedList.find?]

@[simp] theorem find?_redactedField (key : String) (redacted : Bool) :
    KeyedList.find? key (redactedField redacted).reverse =
      if redacted ∧ key = "redacted" then some (.bool true) else none := by
  cases redacted <;> simp [redactedField, KeyedList.find?, eq_comm]

namespace CallPayload

variable (payload : CallPayload)

theorem field?_redacted : payload.encode.field? "redacted" =
    if payload.redacted then some (.bool true) else none := by
  simp [encode, KeyedList.find?_append, KeyedList.find?]

theorem field?_messages :
    payload.encode.field? "messages" = some (.array (payload.messages.map Message.encode)) := by
  simp [encode, KeyedList.find?_append, KeyedList.find?]

theorem field?_systemPrompt :
    payload.encode.field? "systemPrompt" = payload.systemPrompt.map .string := by
  simp [encode, KeyedList.find?_append, KeyedList.find?]

theorem field?_parameters : payload.encode.field? "parameters" = payload.parameters := by
  simp [encode, KeyedList.find?_append, KeyedList.find?]

end CallPayload

namespace ResponsePayload

variable (payload : ResponsePayload)

theorem field?_redacted : payload.encode.field? "redacted" =
    if payload.redacted then some (.bool true) else none := by
  simp [encode, KeyedList.find?_append, KeyedList.find?]

theorem field?_completion :
    payload.encode.field? "completion" = some (.ofOption .string payload.completion) := by
  simp [encode, KeyedList.find?_append, KeyedList.find?]

theorem field?_toolCalls : payload.encode.field? "toolCalls" = payload.toolCalls := by
  simp [encode, KeyedList.find?_append, KeyedList.find?]

end ResponsePayload

/-! ## The events -/

namespace CallRecord

variable {record : CallRecord} {redaction : Redaction} {labels : EventLabels}

theorem events_eq_ok {call : CallPayload} {response : ResponsePayload}
    (called : record.callPayload redaction labels.stamp.callId = .ok call)
    (answered : record.responsePayload redaction labels.stamp.callId = .ok response) :
    record.events redaction labels =
      .ok ⟨[labels.event .llmCall call.encode, labels.event .llmResponse response.encode]⟩ := by
  rw [events, called, answered]
  rfl

theorem events_eq_error {reason : Panic}
    (failed : record.callPayload redaction labels.stamp.callId = .error reason ∨
      ∃ call, record.callPayload redaction labels.stamp.callId = .ok call ∧
        record.responsePayload redaction labels.stamp.callId = .error reason) :
    record.events redaction labels = .error reason := by
  obtain called | ⟨call, called, answered⟩ := failed
  · rw [events, called]
    rfl
  · rw [events, called, answered]
    rfl

end CallRecord

end LlmTelemetry

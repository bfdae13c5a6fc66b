import LlmTelemetry.Event.Basic
import LlmTelemetry.Redaction.Basic
import LlmTelemetry.Wire.Models
/-!
# The two events of a call

A captured call becomes two events that share the identifier of the call and a timestamp: what was asked,
then what was answered. Redaction applies to the texts and values in the payloads; the record itself stays
as it is. Under blackout the completion counts as a text even when there is none, so that the events do
not tell whether the model wrote something.
-/

namespace LlmTelemetry

/-- What is new in every call that is sent. -/
structure Stamp where
  callId : String
  timestamp : String
deriving DecidableEq

/-- What the events of a call carry beyond the record. -/
structure EventLabels where
  sessionId : String
  agentId : String
  stamp : Stamp
  source : EventSource
deriving DecidableEq

/-- What was asked of the model. -/
structure CallPayload where
  callId : String
  provider : String
  model : String
  messages : List Message
  systemPrompt : Option String
  parameters : Option Json
  redacted : Bool

/-- What the model answered. -/
structure ResponsePayload where
  callId : String
  provider : String
  model : String
  completion : Option String
  finishReason : String
  usage : TokenUsage
  costUsd : Float
  latencyMs : Float
  toolCalls : Option Json
  redacted : Bool

/-- A field of a payload that is left out when it is absent. -/
def optionalField {α : Type} (key : String) (encode : α → Json) (value : Option α) :
    List (String × Json) :=
  (value.map fun content => (key, encode content)).toList

/-- The mark of a payload under blackout. -/
def redactedField (redacted : Bool) : List (String × Json) :=
  if redacted then [("redacted", .bool true)] else []

def CallPayload.encode (payload : CallPayload) : Json :=
  .record
    ([("callId", Json.string payload.callId),
      ("provider", .string payload.provider),
      ("model", .string payload.model),
      ("messages", .array (payload.messages.map Message.encode))]
      ++ optionalField "systemPrompt" .string payload.systemPrompt
      ++ optionalField "parameters" id payload.parameters
      ++ redactedField payload.redacted)

def ResponsePayload.encode (payload : ResponsePayload) : Json :=
  .record
    ([("callId", Json.string payload.callId),
      ("provider", .string payload.provider),
      ("model", .string payload.model),
      ("completion", .ofOption .string payload.completion),
      ("finishReason", .string payload.finishReason),
      ("usage", payload.usage.encode),
      ("costUsd", .ofFloat payload.costUsd),
      ("latencyMs", .ofFloat payload.latencyMs)]
      ++ optionalField "toolCalls" id payload.toolCalls
      ++ redactedField payload.redacted)

namespace Redaction

/-- Redact a value that may be absent. -/
def whenPresent {α β : Type} (redact : α → Except Panic β) : Option α → Except Panic (Option β)
  | none => .ok none
  | some value => (redact value).map some

def message (redaction : Redaction) (message : Message) : Except Panic Message :=
  (redaction.contentField message.content).map fun content => ⟨message.role, content⟩

def completion (redaction : Redaction) (text : Option String) : Except Panic (Option String) :=
  if redaction.blackout then .ok (some redactedText) else whenPresent redaction.textField text

end Redaction

namespace CallRecord

/-- The tool calls as one value. -/
def toolCallsValue (record : CallRecord) : Option Json :=
  record.toolCalls.map fun calls => .array (calls.map ToolCall.encode)

def callPayload (record : CallRecord) (redaction : Redaction) (callId : String) :
    Except Panic CallPayload := do
  let messages ← record.messages.mapM redaction.message
  let systemPrompt ← Redaction.whenPresent redaction.textField record.systemPrompt
  let parameters ← Redaction.whenPresent redaction.structuredField record.parameters
  return {
    callId := callId
    provider := record.provider
    model := record.model
    messages := messages
    systemPrompt := systemPrompt
    parameters := parameters
    redacted := redaction.blackout }

def responsePayload (record : CallRecord) (redaction : Redaction) (callId : String) :
    Except Panic ResponsePayload := do
  let completion ← redaction.completion record.completion
  let toolCalls ← Redaction.whenPresent redaction.structuredField record.toolCallsValue
  return {
    callId := callId
    provider := record.provider
    model := record.model
    completion := completion
    finishReason := record.finishReason
    usage := record.usage
    costUsd := record.costUsd
    latencyMs := record.latencyMs
    toolCalls := toolCalls
    redacted := redaction.blackout }

end CallRecord

def EventLabels.event (labels : EventLabels) (kind : EventKind) (payload : Json) : Event where
  sessionId := labels.sessionId
  agentId := labels.agentId
  kind := kind
  severity := .info
  payload := payload
  metadata := labels.source.metadata
  timestamp := labels.stamp.timestamp

def CallRecord.events (record : CallRecord) (redaction : Redaction) (labels : EventLabels) :
    Except Panic EventBatch := do
  let call ← record.callPayload redaction labels.stamp.callId
  let response ← record.responsePayload redaction labels.stamp.callId
  return ⟨[labels.event .llmCall call.encode, labels.event .llmResponse response.encode]⟩

end LlmTelemetry

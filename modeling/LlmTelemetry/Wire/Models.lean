import LlmTelemetry.Wire.Decoder
import LlmTelemetry.Record
import LlmTelemetry.Event.Basic
import LlmTelemetry.Api.Stored
import LlmTelemetry.Config.Basic
/-!
# The models on the wire

How each record type is written as JSON and read back. Keys are in camel case, those of the settings in
snake case. An absent optional field is written as `null`, and the thinking tokens are left out.
-/

namespace LlmTelemetry

namespace Message

def encode (message : Message) : Json :=
  .record [("role", .string message.role), ("content", message.content)]

def decode : Decode Message :=
  (Shape.build Message.mk
    |>.field (.required "role" .string)
    |>.field (.required "content" .any)).decode "Message"

end Message

namespace ToolCall

def encode (call : ToolCall) : Json :=
  .record [("id", .string call.id), ("name", .string call.name), ("arguments", call.arguments)]

def decode : Decode ToolCall :=
  (Shape.build ToolCall.mk
    |>.field (.required "id" .string)
    |>.field (.required "name" .string)
    |>.field (.required "arguments" .any)).decode "ToolCall"

end ToolCall

namespace TokenUsage

def encode (usage : TokenUsage) : Json :=
  .record
    ([("inputTokens", Json.ofUInt64 usage.inputTokens),
      ("outputTokens", .ofUInt64 usage.outputTokens),
      ("totalTokens", .ofUInt64 usage.totalTokens)]
      ++ (usage.thinkingTokens.map fun count => ("thinkingTokens", Json.ofUInt64 count)).toList)

def decode : Decode TokenUsage :=
  (Shape.build TokenUsage.mk
    |>.field (.required "inputTokens" .uint64)
    |>.field (.required "outputTokens" .uint64)
    |>.field (.required "totalTokens" .uint64)
    |>.field (.optional "thinkingTokens" .uint64)).decode "TokenUsage"

end TokenUsage

namespace CallRecord

def encode (record : CallRecord) : Json :=
  .record
    [("provider", .string record.provider),
      ("model", .string record.model),
      ("messages", .array (record.messages.map Message.encode)),
      ("systemPrompt", .ofOption .string record.systemPrompt),
      ("completion", .ofOption .string record.completion),
      ("toolCalls", .ofOption (fun calls => .array (calls.map ToolCall.encode)) record.toolCalls),
      ("finishReason", .string record.finishReason),
      ("usage", record.usage.encode),
      ("costUsd", .ofFloat record.costUsd),
      ("latencyMs", .ofFloat record.latencyMs),
      ("parameters", .ofOption id record.parameters)]

def decode : Decode CallRecord :=
  (Shape.build CallRecord.mk
    |>.field (.required "provider" .string)
    |>.field (.required "model" .string)
    |>.field (.required "messages" (.list Message.decode))
    |>.field (.optional "systemPrompt" .string)
    |>.field (.optional "completion" .string)
    |>.field (.optional "toolCalls" (.list ToolCall.decode))
    |>.field (.required "finishReason" .string)
    |>.field (.required "usage" TokenUsage.decode)
    |>.field (.required "costUsd" .float)
    |>.field (.required "latencyMs" .float)
    |>.field (.optional "parameters" .any)).decode "CapturedCallRecord"

end CallRecord

namespace EventKind

def name : EventKind → String
  | .llmCall => "llm_call"
  | .llmResponse => "llm_response"

def decode : Decode EventKind :=
  .variant [("llm_call", .llmCall), ("llm_response", .llmResponse)]

end EventKind

namespace Severity

def name : Severity → String
  | .debug => "debug"
  | .info => "info"
  | .warn => "warn"
  | .error => "error"

def decode : Decode Severity :=
  .variant [("debug", .debug), ("info", .info), ("warn", .warn), ("error", .error)]

end Severity

namespace Event

def encode (event : Event) : Json :=
  .record
    [("sessionId", .string event.sessionId),
      ("agentId", .string event.agentId),
      ("eventType", .string event.kind.name),
      ("severity", .string event.severity.name),
      ("payload", event.payload),
      ("metadata", event.metadata),
      ("timestamp", .string event.timestamp)]

def decode : Decode Event :=
  (Shape.build Event.mk
    |>.field (.required "sessionId" .string)
    |>.field (.required "agentId" .string)
    |>.field (.required "eventType" EventKind.decode)
    |>.field (.required "severity" Severity.decode)
    |>.field (.required "payload" .any)
    |>.field (.required "metadata" .any)
    |>.field (.required "timestamp" .string)).decode "Event"

end Event

namespace EventBatch

def encode (batch : EventBatch) : Json :=
  .record [("events", .array (batch.events.map Event.encode))]

def decode : Decode EventBatch :=
  (Shape.build EventBatch.mk
    |>.field (.required "events" (.list Event.decode))).decode "EventBatch"

end EventBatch

namespace StoredEvent

def encode (event : StoredEvent) : Json :=
  .record
    [("id", .string event.id),
      ("timestamp", .string event.timestamp),
      ("sessionId", .string event.sessionId),
      ("agentId", .string event.agentId),
      ("eventType", .string event.kind),
      ("severity", .string event.severity),
      ("payload", event.payload),
      ("metadata", event.metadata),
      ("prevHash", .ofOption .string event.previousHash),
      ("hash", .string event.hash)]

def decode : Decode StoredEvent :=
  (Shape.build StoredEvent.mk
    |>.field (.required "id" .string)
    |>.field (.required "timestamp" .string)
    |>.field (.required "sessionId" .string)
    |>.field (.required "agentId" .string)
    |>.field (.required "eventType" .string)
    |>.field (.required "severity" .string)
    |>.field (.defaulted "payload" .any .null)
    |>.field (.defaulted "metadata" .any .null)
    |>.field (.optional "prevHash" .string)
    |>.field (.defaulted "hash" .string "")).decode "StoredEvent"

end StoredEvent

namespace EventQueryResult

def encode (result : EventQueryResult) : Json :=
  .record
    [("events", .array (result.events.map StoredEvent.encode)),
      ("total", .ofUInt64 result.total),
      ("hasMore", .bool result.hasMore)]

def decode : Decode EventQueryResult :=
  (Shape.build EventQueryResult.mk
    |>.field (.required "events" (.list StoredEvent.decode))
    |>.field (.required "total" .uint64)
    |>.field (.defaulted "hasMore" .bool false)).decode "EventQueryResult"

end EventQueryResult

namespace SessionSummary

def encode (session : SessionSummary) : Json :=
  .record
    [("id", .string session.id),
      ("agentId", .string session.agentId),
      ("agentName", .ofOption .string session.agentName),
      ("startedAt", .string session.startedAt),
      ("endedAt", .ofOption .string session.endedAt),
      ("status", .string session.status),
      ("eventCount", .ofUInt64 session.eventCount),
      ("toolCallCount", .ofUInt64 session.toolCallCount),
      ("errorCount", .ofUInt64 session.errorCount),
      ("totalCostUsd", .ofFloat session.totalCostUsd),
      ("llmCallCount", .ofUInt64 session.llmCallCount),
      ("totalInputTokens", .ofUInt64 session.totalInputTokens),
      ("totalOutputTokens", .ofUInt64 session.totalOutputTokens),
      ("tags", .array (session.tags.map .string))]

def decode : Decode SessionSummary :=
  (Shape.build SessionSummary.mk
    |>.field (.required "id" .string)
    |>.field (.required "agentId" .string)
    |>.field (.optional "agentName" .string)
    |>.field (.required "startedAt" .string)
    |>.field (.optional "endedAt" .string)
    |>.field (.required "status" .string)
    |>.field (.defaulted "eventCount" .uint64 0)
    |>.field (.defaulted "toolCallCount" .uint64 0)
    |>.field (.defaulted "errorCount" .uint64 0)
    |>.field (.defaulted "totalCostUsd" .float 0.0)
    |>.field (.defaulted "llmCallCount" .uint64 0)
    |>.field (.defaulted "totalInputTokens" .uint64 0)
    |>.field (.defaulted "totalOutputTokens" .uint64 0)
    |>.field (.defaulted "tags" (.list .string) [])).decode "Session"

end SessionSummary

namespace SessionQueryResult

def encode (result : SessionQueryResult) : Json :=
  .record
    [("sessions", .array (result.sessions.map SessionSummary.encode)),
      ("total", .ofUInt64 result.total),
      ("hasMore", .bool result.hasMore)]

def decode : Decode SessionQueryResult :=
  (Shape.build SessionQueryResult.mk
    |>.field (.required "sessions" (.list SessionSummary.decode))
    |>.field (.required "total" .uint64)
    |>.field (.defaulted "hasMore" .bool false)).decode "SessionQueryResult"

end SessionQueryResult

namespace Timeline

def encode (timeline : Timeline) : Json :=
  .record
    [("events", .array (timeline.events.map StoredEvent.encode)),
      ("chainValid", .bool timeline.chainIsValid)]

def decode : Decode Timeline :=
  (Shape.build Timeline.mk
    |>.field (.required "events" (.list StoredEvent.decode))
    |>.field (.required "chainValid" .bool)).decode "TimelineResult"

end Timeline

namespace Health

def encode (health : Health) : Json :=
  .record [("status", .string health.status), ("version", .string health.version)]

def decode : Decode Health :=
  (Shape.build Health.mk
    |>.field (.required "status" .string)
    |>.field (.required "version" .string)).decode "HealthResult"

end Health

namespace LoggedCall

def encode (logged : LoggedCall) : Json :=
  .record [("callId", .string logged.callId)]

def decode : Decode LoggedCall :=
  (Shape.build LoggedCall.mk
    |>.field (.required "callId" .string)).decode "LogLlmCallResult"

end LoggedCall

namespace Settings

def encode (settings : Settings) : Json :=
  .record
    [("enabled", .bool settings.enabled),
      ("server_url", .ofOption .string settings.serverUrl),
      ("api_key", .ofOption .string settings.apiKey),
      ("agent_id", .string settings.agentId),
      ("cloud", .bool settings.cloud),
      ("redact", .bool settings.redact),
      ("sync_mode", .bool settings.syncMode),
      ("integrations",
        .ofOption (fun names => .array (names.map .string)) settings.integrations)]

def decode : Decode Settings :=
  (Shape.build Settings.mk
    |>.field (.defaulted "enabled" .bool true)
    |>.field (.nullable "server_url" .string)
    |>.field (.nullable "api_key" .string)
    |>.field (.defaulted "agent_id" .string "default")
    |>.field (.defaulted "cloud" .bool false)
    |>.field (.defaulted "redact" .bool false)
    |>.field (.defaulted "sync_mode" .bool false)
    |>.field (.nullable "integrations" (.list .string))).decode "AgentLensConfig"

end Settings

end LlmTelemetry

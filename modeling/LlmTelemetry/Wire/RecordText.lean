import LlmTelemetry.Json.Outline
import LlmTelemetry.Wire.Models
/-!
# Call records as text

A record that is kept in a file. Fields of other names may hold anything, and a field of a record, a
message, a tool call or the usage may be given only once.
-/

namespace LlmTelemetry

/-- The outline of a record whose fields hold anything. -/
def Outline.flat (names : List String) : Outline :=
  .record (names.map fun name => (name, .anything))

def Message.outline : Outline := .flat ["role", "content"]

def ToolCall.outline : Outline := .flat ["id", "name", "arguments"]

def TokenUsage.outline : Outline :=
  .flat ["inputTokens", "outputTokens", "totalTokens", "thinkingTokens"]

def CallRecord.outline : Outline :=
  .record
    [("provider", .anything),
      ("model", .anything),
      ("messages", .items Message.outline),
      ("systemPrompt", .anything),
      ("completion", .anything),
      ("toolCalls", .items ToolCall.outline),
      ("finishReason", .anything),
      ("usage", TokenUsage.outline),
      ("costUsd", .anything),
      ("latencyMs", .anything),
      ("parameters", .anything)]

/-- Read a record from JSON text. -/
def CallRecord.parse? (text : String) : Option CallRecord :=
  (CallRecord.outline.read? text).bind fun value => (CallRecord.decode value).toOption

end LlmTelemetry

import LlmTelemetry.Json.Basic
/-!
# Call records

Everything kept of one call of a language model.
-/

namespace LlmTelemetry

/-- One message of the conversation that was sent. -/
structure Message where
  role : String
  /-- Plain text or a list of parts. -/
  content : Json

def Message.ofText (role text : String) : Message :=
  ⟨role, .string text⟩

structure ToolCall where
  id : String
  name : String
  arguments : Json

structure TokenUsage where
  inputTokens : UInt64
  outputTokens : UInt64
  totalTokens : UInt64
  thinkingTokens : Option UInt64
deriving DecidableEq

def TokenUsage.none : TokenUsage := ⟨0, 0, 0, Option.none⟩

structure CallRecord where
  provider : String
  model : String
  messages : List Message
  systemPrompt : Option String
  completion : Option String
  toolCalls : Option (List ToolCall)
  finishReason : String
  usage : TokenUsage
  costUsd : Float
  latencyMs : Float
  parameters : Option Json

/-- A record without content, usage or cost. -/
def CallRecord.blank (provider model : String) : CallRecord where
  provider := provider
  model := model
  messages := []
  systemPrompt := none
  completion := none
  toolCalls := none
  finishReason := "unknown"
  usage := .none
  costUsd := 0.0
  latencyMs := 0.0
  parameters := none

end LlmTelemetry

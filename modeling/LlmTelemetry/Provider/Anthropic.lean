import LlmTelemetry.Provider.Basic
/-!
# Anthropic messages

The content of a response is a list of blocks: its text blocks give the completion and its `tool_use`
blocks the tool calls. The system prompt is an argument of its own.
-/

namespace LlmTelemetry.Provider.Anthropic

def providerName : String := "anthropic"

def moduleName : String := "anthropic.resources.messages"

def targets : List PatchTarget :=
  [⟨moduleName, some "Messages", "create", false⟩,
    ⟨moduleName, some "AsyncMessages", "create", true⟩]

def parameterKeys : List String :=
  ["temperature", "max_tokens", "top_p", "top_k", "stop_sequences"]

/-- A part of a content: the text of a text part, and the JSON text of any other. -/
def partText (part : Json) : String :=
  if part.stringField? "type" = some "text" then textOrEmpty part "text" else part.text

/-- The text of a content: a string as it is, the texts of a list of parts joined by blanks. -/
def contentText : Option Json → String
  | some (.string text) => text
  | some (.array parts) => String.intercalate " " (parts.map partText)
  | some .null => ""
  | none => ""
  | some other => other.text

def systemText : Json → String
  | .string text => text
  | other => textOrEmpty other "text"

def systemPrompt : Option Json → Option String
  | none => none
  | some .null => none
  | some (.string text) => some text
  | some (.array blocks) => some (String.intercalate " " (blocks.map systemText))
  | some other => some other.text

/-- The blocks of one type. -/
def ofType (type : String) (blocks : List Json) : List Json :=
  blocks.filter fun block => block.stringField? "type" = some type

/-- The texts of the text blocks, a line each. -/
def completion (blocks : List Json) : Option String :=
  match ofType "text" blocks with
  | [] => none
  | texts => some (String.intercalate "\n" (texts.map fun block => textOrEmpty block "text"))

def toolCall (block : Json) : ToolCall where
  id := textOrEmpty block "id"
  name := textOrEmpty block "name"
  arguments := (block.field? "input").getD .null

/-- The tool calls among the blocks; none when there are none. -/
def toolCalls (blocks : List Json) : Option (List ToolCall) :=
  match ofType "tool_use" blocks with
  | [] => none
  | calls => some (calls.map toolCall)

/-- The sum, or the largest number when it is beyond. -/
def saturatedSum (a b : UInt64) : UInt64 :=
  (min (a.toNat + b.toNat) (UInt64.size - 1)).toUInt64

def usage (counts : Json) : TokenUsage :=
  let inputTokens := count counts "input_tokens"
  let outputTokens := count counts "output_tokens"
  ⟨inputTokens, outputTokens, saturatedSum inputTokens outputTokens, none⟩

def record (response args : Json) (blocks : List Json) (latencyMs : Float) : CallRecord where
  provider := providerName
  model := modelName response args
  messages := messages contentText args
  systemPrompt := systemPrompt (args.field? "system")
  completion := completion blocks
  toolCalls := toolCalls blocks
  finishReason := (response.stringField? "stop_reason").getD "unknown"
  usage := ((response.field? "usage").map usage).getD .none
  costUsd := 0.0
  latencyMs := latencyMs
  parameters := parameters parameterKeys args

def extract (response args : Json) (latencyMs : Float) : Except Unreadable Extraction :=
  match (response.field? "content").bind Json.asArray? with
  | some blocks => .ok (priced (record response args blocks latencyMs))
  | none => .error .missingBlocks

theorem extract_eq_ok {response args : Json} {latencyMs : Float} {extraction : Extraction} :
    extract response args latencyMs = .ok extraction ↔
      ∃ blocks, (response.field? "content").bind Json.asArray? = some blocks ∧
        priced (record response args blocks latencyMs) = extraction := by
  rw [extract]
  cases (response.field? "content").bind Json.asArray? with
  | some blocks => simp
  | none => simp

end LlmTelemetry.Provider.Anthropic

namespace LlmTelemetry

def Provider.anthropic : Provider :=
  ⟨Provider.Anthropic.providerName, Provider.Anthropic.targets, Provider.Anthropic.extract⟩

end LlmTelemetry

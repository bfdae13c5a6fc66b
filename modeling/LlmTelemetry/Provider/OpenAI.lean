import LlmTelemetry.Provider.Basic
/-!
# OpenAI chat completions

The first choice of the response gives the completion, the finish reason and the tool calls. System
messages stay among the messages, and the last one is the system prompt as well.
-/

namespace LlmTelemetry.Provider.OpenAI

def providerName : String := "openai"

def moduleName : String := "openai.resources.chat.completions"

def targets : List PatchTarget :=
  [⟨moduleName, some "Completions", "create", false⟩,
    ⟨moduleName, some "AsyncCompletions", "create", true⟩]

def parameterKeys : List String :=
  ["temperature", "max_tokens", "top_p", "stop", "frequency_penalty", "presence_penalty"]

/-- The text of a content: a string as it is, the texts of a list of parts joined by blanks. -/
def contentText : Option Json → String
  | some (.string text) => text
  | some (.array parts) => String.intercalate " " (parts.map fun part => textOrEmpty part "text")
  | some .null => ""
  | none => ""
  | some other => other.text

/-- The text of the last system message. -/
def systemPrompt (messages : List Message) : Option String :=
  (messages.reverse.find? fun message => message.role = "system").bind fun message =>
    message.content.asString?

def toolCall (call : Json) : ToolCall :=
  let function := call.field? "function"
  { id := textOrEmpty call "id"
    name := (function.bind (·.stringField? "name")).getD ""
    arguments := (function.bind (·.field? "arguments")).getD .null }

/-- The tool calls of a message; none when the list is empty. -/
def toolCalls (message : Json) : Option (List ToolCall) :=
  match (message.field? "tool_calls").bind Json.asArray? with
  | some (first :: rest) => some ((first :: rest).map toolCall)
  | _ => none

def usage (counts : Json) : TokenUsage where
  inputTokens := count counts "prompt_tokens"
  outputTokens := count counts "completion_tokens"
  totalTokens := count counts "total_tokens"
  thinkingTokens :=
    (((counts.field? "completion_tokens_details").bind (·.field? "reasoning_tokens")).bind
      Json.asUInt64?).filter (· > 0)

def firstChoice? (response : Json) : Option Json :=
  ((response.field? "choices").bind Json.asArray?).bind List.head?

/-- What the first choice says, put into the record. -/
def withChoice (record : CallRecord) (choice : Json) : CallRecord :=
  let message := (choice.field? "message").getD .null
  { record with
    completion := message.stringField? "content"
    finishReason := (choice.stringField? "finish_reason").getD "unknown"
    toolCalls := toolCalls message }

def record (response args : Json) (latencyMs : Float) : CallRecord :=
  let messages := messages contentText args
  let asked : CallRecord :=
    { CallRecord.blank providerName (modelName response args) with
      messages := messages
      systemPrompt := systemPrompt messages
      parameters := parameters parameterKeys args
      latencyMs := latencyMs }
  let answered := match firstChoice? response with
    | some choice => withChoice asked choice
    | none => asked
  match response.field? "usage" with
  | some counts => { answered with usage := usage counts }
  | none => answered

/-- The record, field by field. -/
theorem record_eq (response args : Json) (latencyMs : Float) :
    record response args latencyMs =
      { provider := providerName
        model := modelName response args
        messages := messages contentText args
        systemPrompt := systemPrompt (messages contentText args)
        completion := (firstChoice? response).bind fun choice =>
          ((choice.field? "message").getD .null).stringField? "content"
        toolCalls := (firstChoice? response).bind fun choice => toolCalls ((choice.field? "message").getD .null)
        finishReason := ((firstChoice? response).bind (·.stringField? "finish_reason")).getD "unknown"
        usage := ((response.field? "usage").map usage).getD .none
        costUsd := 0.0
        latencyMs := latencyMs
        parameters := parameters parameterKeys args } := by
  simp only [record]
  cases firstChoice? response <;> cases response.field? "usage" <;> rfl

def extract (response args : Json) (latencyMs : Float) : Except Unreadable Extraction :=
  if response.isObject then .ok (priced (record response args latencyMs))
  else .error .notAnObject

theorem extract_eq_ok {response args : Json} {latencyMs : Float} {extraction : Extraction} :
    extract response args latencyMs = .ok extraction ↔
      response.isObject ∧ priced (record response args latencyMs) = extraction := by
  rw [extract]
  cases response.isObject with
  | true => simp
  | false => simp

end LlmTelemetry.Provider.OpenAI

namespace LlmTelemetry

def Provider.openai : Provider :=
  ⟨Provider.OpenAI.providerName, Provider.OpenAI.targets, Provider.OpenAI.extract⟩

end LlmTelemetry

import LlmTelemetry.Provider.Anthropic
import LlmTelemetry.Provider.OpenAI
import LlmTelemetry.Session.Capture
import Mathlib.Data.List.Basic
/-!
# The arguments that a provider looks at

Of the arguments of a call a provider looks at the model, the messages and the parameters that it lists, and
Anthropic looks at the system prompt as well. Two calls that differ in nothing else have the same record, and so the
same is sent for both: keys, headers and the names of users leave no trace.
-/

namespace LlmTelemetry

/-- The same is found in both values under each of the keys. -/
def Json.AgreeOn (keys : List String) (first second : Json) : Prop :=
  ∀ key ∈ keys, first.field? key = second.field? key

theorem Json.AgreeOn.mono {keys more : List String} {first second : Json} (agree : Json.AgreeOn more first second)
    (among : keys ⊆ more) : Json.AgreeOn keys first second :=
  fun key here => agree key (among here)

namespace Provider

variable {args other : Json}

theorem modelName_congr (response : Json) (same : args.field? "model" = other.field? "model") :
    modelName response args = modelName response other := by
  have asked : args.stringField? "model" = other.stringField? "model" := by
    rw [Json.stringField?, Json.stringField?, same]
  rw [modelName, modelName, asked]

theorem messages_congr (contentText : Option Json → String)
    (same : args.field? "messages" = other.field? "messages") :
    messages contentText args = messages contentText other := by
  rw [messages, messages, same]

theorem parameters_congr {keys : List String} (agree : Json.AgreeOn keys args other) :
    parameters keys args = parameters keys other := by
  refine congrArg (fun present => if present.isEmpty then none else some (Json.record present))
    (List.filterMap_congr fun key among => ?_)
  rw [agree key among]

/-- The keys of the arguments that are looked at for a chat completion. -/
def OpenAI.argumentKeys : List String :=
  "model" :: "messages" :: OpenAI.parameterKeys

/-- The keys of the arguments that are looked at for messages with blocks. -/
def Anthropic.argumentKeys : List String :=
  "model" :: "messages" :: "system" :: Anthropic.parameterKeys

theorem OpenAI.extract_congr (agree : Json.AgreeOn OpenAI.argumentKeys args other) (response : Json)
    (latencyMs : Float) : OpenAI.extract response args latencyMs = OpenAI.extract response other latencyMs := by
  have model := modelName_congr response (agree "model" (by decide))
  have messages := messages_congr OpenAI.contentText (agree "messages" (by decide))
  have parameters := parameters_congr (agree.mono (by decide : OpenAI.parameterKeys ⊆ OpenAI.argumentKeys))
  rw [OpenAI.extract, OpenAI.extract, OpenAI.record, OpenAI.record, model, messages, parameters]

theorem Anthropic.extract_congr (agree : Json.AgreeOn Anthropic.argumentKeys args other) (response : Json)
    (latencyMs : Float) : Anthropic.extract response args latencyMs = Anthropic.extract response other latencyMs := by
  have model := modelName_congr response (agree "model" (by decide))
  have messages := messages_congr Anthropic.contentText (agree "messages" (by decide))
  have system := agree "system" (by decide)
  have parameters := parameters_congr (agree.mono (by decide : Anthropic.parameterKeys ⊆ Anthropic.argumentKeys))
  have record (blocks : List Json) :
      Anthropic.record response args blocks latencyMs = Anthropic.record response other blocks latencyMs := by
    rw [Anthropic.record, Anthropic.record, model, messages, system, parameters]
  simp only [Anthropic.extract, record]

/-- Calls with the one or the other arguments are the same to everything behind the provider: the record or the
refusal, the events under any redaction, what a capture leaves in the world with the queue of its sender, and so a
whole call of a wrapper, when the handler inside answers both the same. -/
structure TellsNotApart (provider : Provider) (args other : Json) : Prop where
  extract : ∀ response latencyMs, provider.extract response args latencyMs = provider.extract response other latencyMs
  events : ∀ response latencyMs redaction labels,
    (provider.extract response args latencyMs).map (fun extraction => extraction.record.events redaction labels) =
      (provider.extract response other latencyMs).map fun extraction => extraction.record.events redaction labels
  capture : ∀ {σ ν : Type} (world : World σ ν) session response latencyMs,
    world.capture provider.interceptor session response args latencyMs =
      world.capture provider.interceptor session response other latencyMs
  call : ∀ {σ ν : Type} (world : World σ ν) id inner, asksForStream args = asksForStream other →
    inner.call args world = inner.call other world →
      (Handler.wrapper id provider.interceptor inner).call args world =
        (Handler.wrapper id provider.interceptor inner).call other world

theorem tellsNotApart {provider : Provider} (same : ∀ response latencyMs,
    provider.extract response args latencyMs = provider.extract response other latencyMs) :
    provider.TellsNotApart args other := by
  have capture {σ ν : Type} (world : World σ ν) session response latencyMs :
      world.capture provider.interceptor session response args latencyMs =
        world.capture provider.interceptor session response other latencyMs := by
    simp only [World.capture, interceptor, same]
  refine ⟨same, fun response latencyMs redaction labels => ?_, capture, fun world id inner streams answers => ?_⟩
  · rw [same]
  · have treatment : world.treatment provider.interceptor args = world.treatment provider.interceptor other := by
      simp only [World.treatment, interceptor, streams]
    simp only [Handler.call, treatment, answers, capture]

/-- Calls whose arguments agree on the model, the messages, the listed parameters and, for Anthropic, the system
prompt are told apart by nothing that is kept or sent of them. -/
theorem unlisted_arguments_unseen (args other : Json) :
    (Json.AgreeOn OpenAI.argumentKeys args other → Provider.openai.TellsNotApart args other) ∧
      (Json.AgreeOn Anthropic.argumentKeys args other → Provider.anthropic.TellsNotApart args other) :=
  ⟨fun agree => tellsNotApart (OpenAI.extract_congr agree),
    fun agree => tellsNotApart (Anthropic.extract_congr agree)⟩

/-- The arguments of a call for the holder of a secret. -/
def askedWith (secret : String) : Json :=
  .object [("api_key", .string secret), ("max_tokens", .ofUInt64 5), ("messages", .array [.string "hi"]),
    ("model", .string "m"), ("system", .string "be brief"), ("user", .object [(secret, .null)])]

theorem unlisted_arguments_unseen_of_secret :
    (askedWith "first").field? "api_key" ≠ (askedWith "second").field? "api_key" ∧
      Provider.openai.TellsNotApart (askedWith "first") (askedWith "second") ∧
        Provider.anthropic.TellsNotApart (askedWith "first") (askedWith "second") := by
  obtain ⟨openai, anthropic⟩ := unlisted_arguments_unseen (askedWith "first") (askedWith "second")
  refine ⟨by simp [askedWith, Json.field?, KeyedList.find?], openai ?_, anthropic ?_⟩
  · simp [Json.AgreeOn, OpenAI.argumentKeys, OpenAI.parameterKeys, askedWith, Json.field?, KeyedList.find?]
  · simp [Json.AgreeOn, Anthropic.argumentKeys, Anthropic.parameterKeys, askedWith, Json.field?, KeyedList.find?]

end Provider

end LlmTelemetry

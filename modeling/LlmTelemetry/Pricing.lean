/-!
# Prices

Prices are US dollars for a million tokens. A dated model name such as `gpt-4o-2024-08-06` has the
price of the longest entry that it starts with. Models that run locally are free.
-/

namespace LlmTelemetry.Pricing

structure Price where
  name : String
  input : Float
  output : Float

def openai : List Price :=
  [⟨"gpt-4o-mini", 0.15, 0.6⟩, ⟨"gpt-4o", 2.5, 10.0⟩, ⟨"gpt-4-turbo", 10.0, 30.0⟩,
    ⟨"gpt-4", 30.0, 60.0⟩, ⟨"gpt-3.5-turbo", 0.5, 1.5⟩, ⟨"o1-mini", 3.0, 12.0⟩,
    ⟨"o1", 15.0, 60.0⟩, ⟨"o3-mini", 1.1, 4.4⟩]

def anthropic : List Price :=
  [⟨"claude-3-5-sonnet", 3.0, 15.0⟩, ⟨"claude-3-5-haiku", 0.8, 4.0⟩, ⟨"claude-3-opus", 15.0, 75.0⟩,
    ⟨"claude-3-sonnet", 3.0, 15.0⟩, ⟨"claude-3-haiku", 0.25, 1.25⟩, ⟨"claude-sonnet-4", 3.0, 15.0⟩,
    ⟨"claude-opus-4", 15.0, 75.0⟩]

def mistral : List Price :=
  [⟨"mistral-tiny", 0.25, 0.25⟩, ⟨"mistral-small", 1.0, 3.0⟩, ⟨"mistral-medium", 2.7, 8.1⟩,
    ⟨"mistral-large", 4.0, 12.0⟩, ⟨"open-mistral-7b", 0.25, 0.25⟩, ⟨"open-mixtral-8x7b", 0.7, 0.7⟩,
    ⟨"open-mixtral-8x22b", 2.0, 6.0⟩, ⟨"codestral", 1.0, 3.0⟩]

def cohere : List Price :=
  [⟨"command-r-plus", 3.0, 15.0⟩, ⟨"command-r", 0.5, 1.5⟩, ⟨"command-light", 0.3, 0.6⟩,
    ⟨"command", 1.0, 2.0⟩]

def table? (provider : String) : Option (List Price) :=
  if provider = "openai" then some openai
  else if provider = "anthropic" then some anthropic
  else if provider = "mistral" then some mistral
  else if provider = "cohere" then some cohere
  else none

def Price.covers (price : Price) (model : String) : Bool :=
  price.name.toList.isPrefixOf model.toList

/-- The longer named of two entries, the second one when they are equally long. -/
def Price.longer (first : Option Price) (second : Price) : Option Price :=
  match first with
  | none => some second
  | some price => if price.name.length > second.name.length then some price else some second

/-- The longest entry that the model's name starts with. -/
def best? (prices : List Price) (model : String) : Option Price :=
  (prices.filter (·.covers model)).foldl Price.longer none

def Price.cost (price : Price) (inputTokens outputTokens : UInt64) : Float :=
  (inputTokens.toFloat * price.input + outputTokens.toFloat * price.output) / 1000000.0

/-- Why a call has no price. -/
inductive Unpriced where
  | provider (name : String)
  | model (name provider : String)
deriving DecidableEq

/-- The provider whose models run locally. -/
def localProvider : String := "ollama"

def cost (provider model : String) (inputTokens outputTokens : UInt64) : Except Unpriced Float :=
  if provider = localProvider then .ok 0.0
  else
    match table? provider with
    | none => .error (.provider provider)
    | some prices =>
      match best? prices model with
      | none => .error (.model model provider)
      | some price => .ok (price.cost inputTokens outputTokens)

/-- What a call cost, when there is a price for it. -/
def cost? (provider model : String) (inputTokens outputTokens : UInt64) : Option Float :=
  (cost provider model inputTokens outputTokens).toOption

end LlmTelemetry.Pricing

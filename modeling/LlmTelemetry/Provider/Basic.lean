import LlmTelemetry.Json.Printer
import LlmTelemetry.Pricing
import LlmTelemetry.Record
/-!
# Providers

A provider knows where its calls are made and how to read the arguments and the response of one. What it
reads becomes a call record, together with a note when the call could not be priced. Of the arguments it
looks at the model, the messages and the parameters that it lists, and at nothing else.
-/

namespace LlmTelemetry

structure PatchTarget where
  moduleName : String
  className : Option String
  member : String
  isAsync : Bool
deriving DecidableEq

/-- The dotted name of a target. Targets of different parts may share it. -/
def PatchTarget.key (target : PatchTarget) : String :=
  match target.className with
  | some className => target.moduleName ++ "." ++ className ++ "." ++ target.member
  | none => target.moduleName ++ "." ++ target.member

/-- Whether the arguments ask for a streamed response. -/
def asksForStream (args : Json) : Bool :=
  ((args.field? "stream").bind Json.asBool?).getD false

/-- A record read from a call. -/
structure Extraction where
  record : CallRecord
  /-- Why the call has no price. -/
  unpriced : Option Pricing.Unpriced

/-- Why a response could not be read. -/
inductive Unreadable where
  | notAnObject
  | missingBlocks
deriving DecidableEq

def Unreadable.text : Unreadable → String
  | .notAnObject => "unexpected OpenAI response: expected an object"
  | .missingBlocks => "unexpected Anthropic response: missing content blocks"

structure Provider where
  name : String
  targets : List PatchTarget
  /-- Read the response and the arguments of a call that took so many milliseconds. -/
  extract : (response args : Json) → (latencyMs : Float) → Except Unreadable Extraction

namespace Provider

/-- The nonnegative integer in a field, zero when there is none. -/
def count (value : Json) (key : String) : UInt64 :=
  ((value.field? key).bind Json.asUInt64?).getD 0

/-- The string in a field, empty when there is none. -/
def textOrEmpty (value : Json) (key : String) : String :=
  (value.stringField? key).getD ""

/-- The arguments under the listed keys, without those that are `null`. -/
def parameters (keys : List String) (args : Json) : Option Json :=
  let present := keys.filterMap fun key =>
    match args.field? key with
    | none => none
    | some .null => none
    | some value => some (key, value)
  if present.isEmpty then none else some (.record present)

/-- The model that the response names, or else the one that was asked for. -/
def modelName (response args : Json) : String :=
  match response.stringField? "model" with
  | some name =>
    if name.isEmpty then (args.stringField? "model").getD "unknown" else name
  | none => (args.stringField? "model").getD "unknown"

/-- The messages among the arguments, each with its text read by `contentText`. -/
def messages (contentText : Option Json → String) (args : Json) : List Message :=
  (((args.field? "messages").bind Json.asArray?).getD []).map fun message =>
    .ofText ((message.stringField? "role").getD "user") (contentText (message.field? "content"))

def priced (record : CallRecord) : Extraction :=
  match Pricing.cost record.provider record.model record.usage.inputTokens
      record.usage.outputTokens with
  | .ok cost => ⟨{ record with costUsd := cost }, none⟩
  | .error reason => ⟨{ record with costUsd := 0.0 }, some reason⟩

theorem record_priced (record : CallRecord) : (priced record).record =
    { record with
      costUsd := (Pricing.cost? record.provider record.model record.usage.inputTokens
        record.usage.outputTokens).getD 0.0 } := by
  rw [priced, Pricing.cost?]
  split <;> rename_i known <;> rw [known] <;> rfl

end Provider

end LlmTelemetry

import LlmTelemetry.Json.Basic
/-!
# Events

What is posted to the collector: batches of events, each with a kind, a severity and a payload.
-/

namespace LlmTelemetry

inductive EventKind where
  | llmCall
  | llmResponse
deriving DecidableEq

inductive Severity where
  | debug
  | info
  | warn
  | error
deriving DecidableEq

/-- Whether a call was captured by an installed wrapper or logged by hand. -/
inductive EventSource where
  | automatic
  | explicit
deriving DecidableEq

/-- What the metadata of an event tell of its source. -/
def EventSource.metadata : EventSource → Json
  | .automatic => .record [("source", .string "auto-instrumentation")]
  | .explicit => .record []

structure Event where
  sessionId : String
  agentId : String
  kind : EventKind
  severity : Severity
  payload : Json
  metadata : Json
  /-- A time in UTC, written as in ISO 8601. -/
  timestamp : String

structure EventBatch where
  events : List Event

end LlmTelemetry

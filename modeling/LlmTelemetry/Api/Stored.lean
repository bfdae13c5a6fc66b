import LlmTelemetry.Json.Basic
/-!
# What the collector answers

Stored events and sessions as the collector gives them back.
-/

namespace LlmTelemetry

/-- An event as the collector keeps it, with its place in the hash chain. -/
structure StoredEvent where
  id : String
  timestamp : String
  sessionId : String
  agentId : String
  /-- Any text: the collector also keeps kinds of events that are never sent from here. -/
  kind : String
  severity : String
  payload : Json
  metadata : Json
  previousHash : Option String
  hash : String

structure EventQueryResult where
  events : List StoredEvent
  total : UInt64
  hasMore : Bool

structure SessionSummary where
  id : String
  agentId : String
  agentName : Option String
  startedAt : String
  endedAt : Option String
  status : String
  eventCount : UInt64
  toolCallCount : UInt64
  errorCount : UInt64
  totalCostUsd : Float
  llmCallCount : UInt64
  totalInputTokens : UInt64
  totalOutputTokens : UInt64
  tags : List String
deriving DecidableEq

structure SessionQueryResult where
  sessions : List SessionSummary
  total : UInt64
  hasMore : Bool
deriving DecidableEq

/-- The events of a session in order, and whether their hash chain holds. -/
structure Timeline where
  events : List StoredEvent
  chainIsValid : Bool

structure Health where
  status : String
  version : String
deriving DecidableEq

structure LoggedCall where
  callId : String
deriving DecidableEq

end LlmTelemetry

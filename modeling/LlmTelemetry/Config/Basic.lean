/-!
# Settings

The settings of the program. `Settings` holds a value for every key; how they come together from files and
the environment is told in `LlmTelemetry.Config.Load`.
-/

namespace LlmTelemetry

structure Settings where
  enabled : Bool := true
  serverUrl : Option String := none
  apiKey : Option String := none
  agentId : String := "default"
  /-- Send to the hosted collector. -/
  cloud : Bool := false
  /-- Replace all message content. -/
  redact : Bool := false
  /-- Deliver on the calling thread. -/
  syncMode : Bool := false
  /-- The providers to instrument, all of them when absent. -/
  integrations : Option (List String) := none
deriving DecidableEq

end LlmTelemetry

import LlmTelemetry.Config.Basic
import LlmTelemetry.Redaction.Basic
/-!
# Options of a session
-/

namespace LlmTelemetry

/-- The providers to instrument when a session begins. -/
inductive Integrations where
  /-- All that are registered. -/
  | auto
  | only (names : List String)
  | disabled
deriving DecidableEq

structure SessionOptions where
  serverUrl : Option String := none
  apiKey : Option String := none
  agentId : String := "default"
  /-- A new identifier is made when there is none. -/
  sessionId : Option String := none
  cloud : Bool := false
  redact : Bool := false
  patterns : List Pattern := []
  filter : Option TextFilter := none
  syncMode : Bool := false
  integrations : Integrations := .auto

def SessionOptions.ofSettings (settings : Settings) : SessionOptions where
  serverUrl := settings.serverUrl
  apiKey := settings.apiKey
  agentId := settings.agentId
  cloud := settings.cloud
  redact := settings.redact
  syncMode := settings.syncMode
  integrations :=
    match settings.integrations with
    | some names => .only names
    | none => .auto

end LlmTelemetry

import LlmTelemetry.Config.Basic
import LlmTelemetry.Toml.Document
/-!
# Layers of settings

A configuration file sets some of the keys. It is a TOML document with a table for the settings; keys of
other names are ignored, and a value of the wrong type makes the whole file count as malformed. Instead of
the table there may be an array of the values in the order of the keys, or a date, which sets no key.
-/

namespace LlmTelemetry

/-- The keys that one file sets. -/
structure Layer where
  enabled : Option Bool := none
  serverUrl : Option String := none
  apiKey : Option String := none
  agentId : Option String := none
  cloud : Option Bool := none
  redact : Option Bool := none
  syncMode : Option Bool := none
  integrations : Option (List String) := none
deriving DecidableEq

namespace Layer

/-- A truth value, or nothing when the key is absent; none when the value is of another type. -/
def bool? : Option Toml → Option (Option Bool)
  | none => some none
  | some (.boolean value) => some (some value)
  | some _ => none

def string? : Option Toml → Option (Option String)
  | none => some none
  | some (.string value) => some (some value)
  | some _ => none

def text? : Toml → Option String
  | .string value => some value
  | _ => none

def strings? : Option Toml → Option (Option (List String))
  | none => some none
  | some (.array items) => (items.mapM text?).map some
  | some _ => none

def keys : List String :=
  ["enabled", "server_url", "api_key", "agent_id", "cloud", "redact", "sync_mode", "integrations"]

/-- The layer whose values are found by key. -/
def ofLookup? (find : String → Option Toml) : Option Layer := do
  let enabled ← bool? (find "enabled")
  let serverUrl ← string? (find "server_url")
  let apiKey ← string? (find "api_key")
  let agentId ← string? (find "agent_id")
  let cloud ← bool? (find "cloud")
  let redact ← bool? (find "redact")
  let syncMode ← bool? (find "sync_mode")
  let integrations ← strings? (find "integrations")
  return { enabled, serverUrl, apiKey, agentId, cloud, redact, syncMode, integrations }

/-- The layer that the table of the settings, or what is in its place, stands for. -/
def ofSection? : Toml → Option Layer
  | .table _ entries => ofLookup? fun key => KeyedList.find? key entries
  | .array items => ofLookup? fun key => KeyedList.find? key (keys.zip items)
  | .tables elements => ofLookup? fun key => KeyedList.find? key (keys.zip elements)
  | .datetime _ => some {}
  | _ => none

/-- The key of the table with the settings. -/
def sectionName : String := "agentlens"

def parse? (text : String) : Option Layer :=
  match Toml.parse? text with
  | some (.table _ entries) =>
    match KeyedList.find? sectionName entries with
    | some content => ofSection? content
    | none => some {}
  | _ => none

/-- The settings with the keys that the layer sets. -/
def applyTo (layer : Layer) (settings : Settings) : Settings where
  enabled := layer.enabled.getD settings.enabled
  serverUrl := layer.serverUrl.or settings.serverUrl
  apiKey := layer.apiKey.or settings.apiKey
  agentId := layer.agentId.getD settings.agentId
  cloud := layer.cloud.getD settings.cloud
  redact := layer.redact.getD settings.redact
  syncMode := layer.syncMode.getD settings.syncMode
  integrations := layer.integrations.or settings.integrations

end Layer

end LlmTelemetry

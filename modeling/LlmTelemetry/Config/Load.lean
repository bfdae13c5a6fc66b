import LlmTelemetry.Config.Environment
import LlmTelemetry.Config.Layer
import LlmTelemetry.Text.Utf8
/-!
# Loading settings

The settings start from their defaults. The file of the user comes over them, then the file of the
project, then its local file, and then the environment. A file that is there but can not be used counts as
absent and is told in a warning.
-/

namespace LlmTelemetry

/-- What is found in the place of a file. -/
inductive FileContent where
  | absent
  /-- Something that can not be read as a file. -/
  | unreadable
  | bytes (content : List UInt8)
deriving DecidableEq

def FileContent.text? : FileContent → Option String
  | .bytes content => Utf8.decode? content
  | _ => none

structure ConfigFiles where
  user : FileContent := .absent
  project : FileContent := .absent
  /-- The file of the project that is not shared. -/
  localOnly : FileContent := .absent
deriving DecidableEq

inductive FileFault where
  | unreadable
  | malformed
deriving DecidableEq

def FileFault.text : FileFault → String
  | .unreadable => "Failed to read config"
  | .malformed => "Failed to parse config"

structure ConfigWarning where
  file : String
  fault : FileFault
deriving DecidableEq

def ConfigWarning.text (warning : ConfigWarning) : String :=
  "AgentLens: ignoring " ++ warning.file ++ ": " ++ warning.fault.text

/-- The keys that a file sets; none of them when there is no file. -/
def FileContent.layer (content : FileContent) : Except FileFault Layer :=
  match content with
  | .absent => .ok {}
  | _ =>
    match content.text? with
    | none => .error .unreadable
    | some text =>
      match Layer.parse? text with
      | none => .error .malformed
      | some layer => .ok layer

/-- Settings on the way, with the warnings so far. -/
structure Loading where
  settings : Settings := {}
  warnings : List ConfigWarning := []

def Loading.addFile (loading : Loading) (name : String) (content : FileContent) : Loading :=
  match content.layer with
  | .ok layer => { loading with settings := layer.applyTo loading.settings }
  | .error fault => { loading with warnings := loading.warnings ++ [⟨name, fault⟩] }

/-- Put the environment over the settings. It can turn capturing off and blackout on, but not the other
way round. -/
def Environment.applyTo (environment : Environment) (settings : Settings) : Settings :=
  { settings with
    enabled := settings.enabled && !environment.turnsOff
    agentId := (Environment.value? environment.agentId).getD settings.agentId
    redact := settings.redact || Environment.isSet environment.redact }

/-- The settings of a project in the given directory, and the files that were ignored. -/
def Settings.load (environment : Environment) (directory : String) (files : ConfigFiles) : Loading :=
  let loading := (({} : Loading).addFile "user config" files.user)
    |>.addFile (directory ++ "/.agentlens/config.toml") files.project
    |>.addFile (directory ++ "/.agentlens/config.local.toml") files.localOnly
  { loading with settings := environment.applyTo loading.settings }

namespace Settings

def url (settings : Settings) (environment : Environment) : String :=
  resolveUrl environment settings.serverUrl settings.cloud

def key (settings : Settings) (environment : Environment) : Option String :=
  resolveApiKey environment settings.apiKey

end Settings

end LlmTelemetry

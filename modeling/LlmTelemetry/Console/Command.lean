import LlmTelemetry.Config.Load
import LlmTelemetry.Console.Paint
import LlmTelemetry.Console.Table
import LlmTelemetry.Delivery.Client
import LlmTelemetry.Http.Endpoint
import LlmTelemetry.Wire.RecordText
/-!
# Commands

The three commands of the program: show the settings, ask whether the collector is well, and log a call
that is kept in a file. A command ends with the text that it prints or with the reason why it failed.
-/

namespace LlmTelemetry

/-- What the commands work with. -/
structure Workplace where
  environment : Environment := {}
  /-- The directory of the project. -/
  directory : String := "."
  files : ConfigFiles := {}

def Workplace.settings (workplace : Workplace) : Settings :=
  (Settings.load workplace.environment workplace.directory workplace.files).settings

inductive CommandError where
  | unreadableFile (file : String)
  | malformedRecord (file : String)
  | unhealthyServer (url : String) (cause : ApiError)
  | unloggedCall (cause : ApiError)
  | aborted (message : String)

namespace CommandError

def message : CommandError → String
  | .unreadableFile file => "Failed to read " ++ file
  | .malformedRecord file => "Failed to parse LLM call record: " ++ file
  | .unhealthyServer url _ => "AgentLens server at " ++ url ++ " is not reachable"
  | .unloggedCall _ => "Failed to log LLM call"
  | .aborted message => message

/-- The error of the collector below it. -/
def cause? : CommandError → Option ApiError
  | .unhealthyServer _ cause => some cause
  | .unloggedCall cause => some cause
  | _ => none

/-- The messages from the outermost one inwards. -/
def messages (error : CommandError) : List String :=
  error.message :: (error.cause?.map ApiError.text).toList

end CommandError

abbrev CommandResult := Except CommandError String

namespace Command

/-! ## Showing the settings -/

def flagText (value : Bool) : String :=
  if value then "true" else "false"

def keyText (key : Option String) : String :=
  match key with
  | some key => maskKey key
  | none => "not set"

def integrationsText : Option (List String) → String
  | some [] => "none"
  | some names => String.intercalate ", " names
  | none => "all"

/-- The settings, a row each. -/
def settingsRows (settings : Settings) (environment : Environment) : List Table.Row :=
  [["Enabled", flagText settings.enabled],
    ["Server URL", settings.url environment],
    ["API key", keyText (settings.key environment)],
    ["Agent ID", settings.agentId],
    ["Redact", flagText settings.redact],
    ["Sync mode", flagText settings.syncMode],
    ["Integrations", integrationsText settings.integrations]]

def config (workplace : Workplace) : String :=
  let title := Paint.bold (Paint.inColour .brightCyan "AgentLens Configuration")
  let rows := settingsRows workplace.settings workplace.environment
  "\n" ++ Paint.inColour .brightCyan "▸" ++ " " ++ title ++ "\n\n" ++ Table.text rows ++ "\n\n"

/-! ## Talking to the collector -/

def successLine (subject detail : String) : String :=
  Paint.inColour .brightGreen "✓" ++ " " ++ Paint.bold (Paint.inColour .green subject) ++ " "
    ++ Paint.inColour .brightWhite detail ++ "\n"

/-- The address of the collector, the given one first. -/
def serverUrl (workplace : Workplace) (given : Option String) : String :=
  given.getD (workplace.settings.url workplace.environment)

def client {ν : Type} (workplace : Workplace) (url : String) (network : Network ν) : Client ν where
  transport :=
    (Endpoint.ofUrl url (workplace.settings.key workplace.environment)).transport network

/-- The end of a command that talked to the collector. -/
def conclude {α : Type} (result : Ending ApiError α) (describe : α → String)
    (failure : ApiError → CommandError) : CommandResult :=
  match result with
  | .ok value => .ok (describe value)
  | .error (.error reason) => .error (failure reason)
  | .error (.panic message) => .error (.aborted message)

def health {ν : Type} (workplace : Workplace) (given : Option String) (network : Network ν)
    (state : ν) : CommandResult × ν :=
  let url := serverUrl workplace given
  let run := (client workplace url network).health state
  let describe := fun (health : Health) =>
    successLine "AgentLens server" url
      ++ "   status:  " ++ health.status ++ "\n"
      ++ "   version: " ++ health.version ++ "\n"
  (conclude run.result describe (.unhealthyServer url), run.network)

structure LogOptions where
  session : Option String := none
  agent : Option String := none
  redact : Bool := false

def readRecord (file : String) (content : FileContent) : Except CommandError CallRecord :=
  match content.text? with
  | none => .error (.unreadableFile file)
  | some text =>
    match CallRecord.parse? text with
    | none => .error (.malformedRecord file)
    | some record => .ok record

/-- Log the call in a file. A session that is not given is a new one. -/
def logCall {ν : Type} (workplace : Workplace) (file : String) (content : FileContent)
    (options : LogOptions) (newSession : String) (stamp : Stamp) (network : Network ν) (state : ν) :
    CommandResult × ν :=
  match readRecord file content with
  | .error reason => (.error reason, state)
  | .ok record =>
    let settings := workplace.settings
    let session := options.session.getD newSession
    let run := (client workplace (serverUrl workplace none) network).log session
      (options.agent.getD settings.agentId) record (options.redact || settings.redact) stamp state
    let describe := fun (logged : LoggedCall) =>
      successLine "Logged call" logged.callId
        ++ "   session: " ++ session ++ "\n"
        ++ "   model:   " ++ record.provider ++ "/" ++ record.model ++ "\n"
    (conclude run.result describe .unloggedCall, run.network)

end Command

end LlmTelemetry

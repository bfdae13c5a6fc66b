import LlmTelemetry.Console.Program
import LlmTelemetry.Text.Identifier
import LlmTelemetry.Text.Timestamp
import Std.Time
/-!
# The command line

Reads the environment and the files that the program looks at and prints what it says. No network comes
with the program: on its own, every request to a collector ends as a failure to connect.
-/

namespace LlmTelemetry.Main

/-- What is found under a path. -/
def findFile (path : String) : IO FileContent := do
  try
    let content ← IO.FS.readBinFile path
    return .bytes content.toList
  catch error =>
    match error with
    | .noFileOrDirectory .. => return .absent
    | _ => return .unreadable

def readEnvironment : IO Environment := do
  return {
    serverUrl := ← IO.getEnv "AGENTLENS_SERVER_URL"
    apiKey := ← IO.getEnv "AGENTLENS_API_KEY"
    agentId := ← IO.getEnv "AGENTLENS_AGENT_ID"
    redact := ← IO.getEnv "AGENTLENS_REDACT"
    disabled := ← IO.getEnv "AGENTLENS_DISABLED"
    doNotTrack := ← IO.getEnv "DO_NOT_TRACK" }

def readConfigFiles : IO ConfigFiles := do
  let user ← match ← IO.getEnv "HOME" with
    | some home => findFile (home ++ "/.agentlens/config.toml")
    | none => pure .absent
  return {
    user := user
    project := ← findFile "./.agentlens/config.toml"
    localOnly := ← findFile "./.agentlens/config.local.toml" }

def newIdentifier : IO String := do
  let bytes ← IO.getRandomBytes 16
  return Identifier.ofBytes (bytes.toList.map UInt8.toNat)

def currentTime : IO String := do
  let now ← Std.Time.Timestamp.now
  return Timestamp.ofMilliseconds now.toMillisecondsSinceUnixEpoch.val.toNat

/-- The files that the arguments may name, with what is found there. -/
def readArguments (arguments : List String) : IO (String → FileContent) := do
  let found ← arguments.mapM fun name => return (name, ← findFile name)
  return fun name => (KeyedList.find? name found).getD .absent

/-- One run of the program. -/
def run (arguments : List String) : IO UInt32 := do
  let workplace : Workplace := {
    environment := ← readEnvironment
    files := ← readConfigFiles }
  for warning in (Settings.load workplace.environment workplace.directory workplace.files).warnings do
    IO.eprintln ("WARN " ++ warning.text)
  let file ← readArguments arguments
  let supplies : Program.Supplies := {
    session := ← newIdentifier
    stamp := ⟨← newIdentifier, ← currentTime⟩ }
  let (ended, ()) := Program.run arguments workplace file supplies (Network.unreachable Unit) ()
  IO.print ended.output
  IO.eprint ended.errors
  return ended.code.toUInt32

end LlmTelemetry.Main

def main (arguments : List String) : IO UInt32 :=
  LlmTelemetry.Main.run arguments

import LlmTelemetry.Console.Arguments
import LlmTelemetry.Console.Command
/-!
# The program

One run of the program: its arguments decide on a command, and the command's end on the exit code. The code
is 0 after success, 1 when the command failed and 2 when the arguments made no sense.
-/

namespace LlmTelemetry.Program

structure Exit where
  code : Nat
  output : String := ""
  errors : String := ""
deriving DecidableEq

def versionText : String := "agentlens 0.8.0\n"

def usageText : String :=
  "Usage: agentlens <COMMAND>\n\nCommands:\n"
    ++ "  health    Check that the collector is reachable\n"
    ++ "  config    Show the resolved configuration\n"
    ++ "  log-call  Deliver a recorded LLM call (JSON) to the collector\n"

def failureText (error : CommandError) : String :=
  let causes := (error.cause?.map fun cause => "\n\nCaused by:\n    " ++ cause.text).getD ""
  "Error: " ++ error.message ++ causes ++ "\n"

def exitOf : CommandResult → Exit
  | .ok output => { code := 0, output := output }
  | .error error => { code := 1, errors := failureText error }

/-- The end of a run without a command. -/
def refuse : Arguments.Refusal → Exit
  | .version => { code := 0, output := versionText }
  | .help => { code := 0, output := usageText }
  | .usage => { code := 2, errors := usageText }

/-- What a run brings along: a new identifier for a session and one for a call. -/
structure Supplies where
  session : String
  stamp : Stamp

/-- Run the program, with a way to look at files. -/
def run {ν : Type} (arguments : List String) (workplace : Workplace) (file : String → FileContent)
    (supplies : Supplies) (network : Network ν) (state : ν) : Exit × ν :=
  match Arguments.parse arguments with
  | .error refusal => (refuse refusal, state)
  | .ok .config => (exitOf (.ok (Command.config workplace)), state)
  | .ok (.health serverUrl) =>
    let (result, state) := Command.health workplace serverUrl network state
    (exitOf result, state)
  | .ok (.logCall name session agent redact) =>
    let (result, state) :=
      Command.logCall workplace name (file name) { session, agent, redact } supplies.session
        supplies.stamp network state
    (exitOf result, state)

end LlmTelemetry.Program

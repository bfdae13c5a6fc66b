/-!
# Arguments of the program

The program has three commands with options of their own. An option may be written with its value in one
argument or in two, and after a double hyphen no argument is an option. The arguments are taken from left
to right, and the first one that can not be taken decides.
-/

namespace LlmTelemetry.Arguments

/-- What the arguments ask for. -/
inductive Invocation where
  | config
  | health (serverUrl : Option String)
  | logCall (file : String) (session agent : Option String) (redact : Bool)
deriving DecidableEq

/-- Why there is nothing to do. -/
inductive Refusal where
  | version
  | help
  /-- The arguments make no sense. -/
  | usage
deriving DecidableEq

structure ValueOption (σ : Type) where
  name : String
  /-- Take the value, unless the option was given before. -/
  take : String → σ → Option σ

structure Grammar (σ : Type) where
  values : List (ValueOption σ)
  /-- An option without a value, which may be given once. -/
  flags : List (String × (σ → Option σ))
  /-- Take an argument that is no option. -/
  positional : String → σ → Option σ

/-- The name and the value of an option in one argument. -/
def splitOption (argument : String) : String × Option String :=
  let name := argument.toList.takeWhile (· != '=')
  match argument.toList.dropWhile (· != '=') with
  | _ :: value => (String.ofList name, some (String.ofList value))
  | [] => (argument, none)

/-- Whether an argument looks like an option. A single hyphen does not. -/
def isOption (argument : String) : Bool :=
  match argument.toList with
  | '-' :: _ :: _ => true
  | _ => false

def asksForHelp (argument : String) : Bool :=
  argument = "--help" || argument.startsWith "-h"

namespace Grammar

variable {σ : Type} (grammar : Grammar σ)

/-- Take arguments none of which is an option. -/
def takePositionals : List String → σ → Except Refusal σ
  | [], state => .ok state
  | argument :: rest, state =>
    match grammar.positional argument state with
    | some state => takePositionals rest state
    | none => .error .usage

def take : List String → σ → Except Refusal σ
  | [], state => .ok state
  | argument :: rest, state =>
    if argument = "--" then grammar.takePositionals rest state
    else if isOption argument then
      let (name, value) := splitOption argument
      match grammar.values.find? (·.name = name), value with
      | some option, some value =>
        match option.take value state with
        | some state => take rest state
        | none => .error .usage
      | some option, none =>
        match rest with
        | value :: rest =>
          if isOption value then .error .usage
          else
            match option.take value state with
            | some state => take rest state
            | none => .error .usage
        | [] => .error .usage
      | none, value =>
        match grammar.flags.find? (·.1 = name), value with
        | some (_, set), none =>
          match set state with
          | some state => take rest state
          | none => .error .usage
        | _, _ => .error (if asksForHelp argument then .help else .usage)
    else
      match grammar.positional argument state with
      | some state => take rest state
      | none => .error .usage

end Grammar

/-- A field that may be set once. -/
def once {α : Type} (value : α) : Option α → Option (Option α)
  | none => some (some value)
  | some _ => none

def healthGrammar : Grammar (Option String) where
  values := [⟨"--server-url", fun value state => once value state⟩]
  flags := []
  positional := fun _ _ => none

structure LogArguments where
  file : Option String := none
  session : Option String := none
  agent : Option String := none
  redact : Bool := false

/-- The file has to have a name. -/
def logGrammar : Grammar LogArguments where
  values :=
    [⟨"--session", fun value state => (once value state.session).map ({ state with session := · })⟩,
      ⟨"--agent", fun value state => (once value state.agent).map ({ state with agent := · })⟩]
  flags := [("--redact", fun state => if state.redact then none else some { state with redact := true })]
  positional := fun value state =>
    if value.isEmpty then none else (once value state.file).map ({ state with file := · })

def configGrammar : Grammar Unit := ⟨[], [], fun _ _ => none⟩

def commandNames : List String := ["health", "config", "log-call", "help"]

def parseCommand (name : String) (rest : List String) : Except Refusal Invocation :=
  if name = "config" then (configGrammar.take rest ()).map fun _ => .config
  else if name = "health" then (healthGrammar.take rest none).map .health
  else if name = "log-call" then do
    let arguments ← logGrammar.take rest {}
    match arguments.file with
    | some file => return .logCall file arguments.session arguments.agent arguments.redact
    | none => .error .usage
  else if name = "help" then
    match rest with
    | [] => .error .help
    | [topic] => .error (if commandNames.contains topic then .help else .usage)
    | _ => .error .usage
  else .error .usage

def asksForVersion (argument : String) : Bool :=
  argument = "--version" || argument.startsWith "-V"

def parse : List String → Except Refusal Invocation
  | [] => .error .usage
  | first :: rest =>
    if asksForVersion first then .error .version
    else if asksForHelp first then .error .help
    else parseCommand first rest

end LlmTelemetry.Arguments

import LlmTelemetry.Unicode.Space
/-!
# The environment

The variables that the settings depend on. A value of white space only counts as absent, except for
`doNotTrack`, of which only the presence counts.
-/

namespace LlmTelemetry

structure Environment where
  serverUrl : Option String := none
  apiKey : Option String := none
  agentId : Option String := none
  redact : Option String := none
  disabled : Option String := none
  doNotTrack : Option String := none
deriving DecidableEq

namespace Environment

/-- The value of a variable, unless it is blank. -/
def value? (found : Option String) : Option String :=
  found.filter fun value => !(Unicode.trim value).isEmpty

/-- Whether the value of a variable says yes. -/
def isSet (found : Option String) : Bool :=
  (value? found).any fun value =>
    ["1", "true", "yes"].contains (Unicode.trim value).toLower

/-- Whether the environment turns capturing off. -/
def turnsOff (environment : Environment) : Bool :=
  isSet environment.disabled || environment.doNotTrack.isSome

end Environment

def localServerUrl : String := "http://localhost:3400"

def cloudServerUrl : String := "https://api.agentlens.ai"

/-- The address of the collector: the given one, or else the hosted one if asked for, or else the one that
the environment names. -/
def resolveUrl (environment : Environment) (given : Option String) (cloud : Bool) : String :=
  match given.filter fun url => !url.isEmpty with
  | some url => url
  | none =>
    if cloud then cloudServerUrl
    else (Environment.value? environment.serverUrl).getD localServerUrl

/-- The key to the collector: the given one, or else the one in the environment. -/
def resolveApiKey (environment : Environment) (given : Option String) : Option String :=
  match given.filter fun key => !key.isEmpty with
  | some key => some key
  | none => Environment.value? environment.apiKey

/-- A key with all but its last four characters hidden. -/
def maskKey (key : String) : String :=
  let characters := key.toList
  if characters.length ≤ 4 then "****"
  else "****" ++ String.ofList (characters.drop (characters.length - 4))

end LlmTelemetry

import LlmTelemetry.Pricing
/-!
# Notices

What instrumentation tells about itself. Nothing of it ever reaches the callers of the instrumented code.
-/

namespace LlmTelemetry

/-- Why something was not found at a call site. -/
inductive ResolveError where
  | module (name : String)
  | cls (moduleName className : String)
  | member (owner name : String)
  /-- The handler is asynchronous where a synchronous one was expected, or the other way round. -/
  | kind (owner name : String) (expectedAsync : Bool)
deriving DecidableEq

namespace ResolveError

def kindText (isAsync : Bool) : String :=
  if isAsync then "async" else "sync"

def text : ResolveError → String
  | .module name => "module '" ++ name ++ "' is not registered"
  | .cls moduleName className =>
    "class '" ++ className ++ "' not found in module '" ++ moduleName ++ "'"
  | .member owner name => "attribute '" ++ name ++ "' not found on '" ++ owner ++ "'"
  | .kind owner name expectedAsync =>
    "'" ++ owner ++ "." ++ name ++ "' is " ++ kindText (!expectedAsync) ++ ", expected "
      ++ kindText expectedAsync

end ResolveError

inductive Notice where
  | unpriced (reason : Pricing.Unpriced)
  | skipped (target : String) (reason : ResolveError)
  | instrumented (provider : String) (callSites : Nat)
  | uninstrumented (provider : String)
  | captureFailed (provider reason : String)
  | capturePanicked (provider : String)
  | unknownProvider (name : String)
  | providerActivated (name : String)
  | providerUnavailable (name reason : String)
  | activationPanicked (name : String)
  | alreadyInitialized
  | disabled
  | sessionStarted (session url : String) (providers : List String)
  | eventsPending
  | sessionEnded (session : String)
deriving DecidableEq

namespace Notice

inductive Level where
  | debug
  | info
  | warn
deriving DecidableEq

def level : Notice → Level
  | .unpriced _ => .debug
  | .skipped _ _ => .debug
  | .instrumented _ _ => .info
  | .uninstrumented _ => .info
  | .captureFailed _ _ => .debug
  | .capturePanicked _ => .debug
  | .unknownProvider _ => .warn
  | .providerActivated _ => .info
  | .providerUnavailable _ _ => .debug
  | .activationPanicked _ => .debug
  | .alreadyInitialized => .warn
  | .disabled => .info
  | .sessionStarted _ _ _ => .info
  | .eventsPending => .warn
  | .sessionEnded _ => .info

def Level.name : Level → String
  | .debug => "DEBUG"
  | .info => "INFO"
  | .warn => "WARN"

def text : Notice → String
  | .unpriced (.provider name) => "AgentLens pricing: unknown provider '" ++ name ++ "'"
  | .unpriced (.model name provider) =>
    "AgentLens pricing: unknown model '" ++ name ++ "' for provider '" ++ provider ++ "'"
  | .skipped target reason => "AgentLens: skipping " ++ target ++ ": " ++ reason.text
  | .instrumented provider callSites =>
    "AgentLens: instrumented " ++ provider ++ " (" ++ toString callSites ++ " call sites)"
  | .uninstrumented provider => "AgentLens: uninstrumented " ++ provider
  | .captureFailed provider reason =>
    "AgentLens: failed to capture " ++ provider ++ " call: " ++ reason
  | .capturePanicked provider => "AgentLens: capture panicked for " ++ provider ++ " call"
  | .unknownProvider name => "AgentLens: unknown provider '" ++ name ++ "'"
  | .providerActivated name => "AgentLens: " ++ name ++ " instrumented"
  | .providerUnavailable name reason =>
    "AgentLens: " ++ name ++ " unavailable, skipping: " ++ reason
  | .activationPanicked name => "AgentLens: instrumenting " ++ name ++ " panicked"
  | .alreadyInitialized =>
    "AgentLens: already initialized; call shutdown() before re-initializing"
  | .disabled => "AgentLens: disabled by configuration"
  | .sessionStarted session url providers =>
    "AgentLens: session " ++ session ++ " started against " ++ url ++ " (providers: ["
      ++ String.intercalate ", " providers ++ "])"
  | .eventsPending => "AgentLens: events still pending after 5s"
  | .sessionEnded session => "AgentLens: session " ++ session ++ " shut down"

end Notice

end LlmTelemetry

import LlmTelemetry.Fault
import LlmTelemetry.Instrument.Task
import LlmTelemetry.Provider.Basic
/-!
# Handlers and interceptors

A handler is code that answers calls. The application gives handlers that answer at once or by a task; both
act on the state `σ` of the application. A wrapper is a handler around another one, made for an
interceptor. Every handler has an identity of its own.
-/

namespace LlmTelemetry

/-- How the calls of one provider are read. -/
structure Interceptor (σ : Type) where
  provider : String
  targets : Except Panic (List PatchTarget)
  /-- Whether the arguments ask for a streamed response. -/
  isStreaming : Json → Except Panic Bool
  /-- Read the response and the arguments of a call that took so many milliseconds. -/
  extract : (response args : Json) → (latencyMs : Float) → σ → Ending String Extraction × σ

/-- The interceptor of a provider. -/
def Provider.interceptor {σ : Type} (provider : Provider) : Interceptor σ where
  provider := provider.name
  targets := .ok provider.targets
  isStreaming := fun args => .ok (asksForStream args)
  extract := fun response args latencyMs state =>
    match provider.extract response args latencyMs with
    | .ok extraction => (.ok extraction, state)
    | .error reason => (.error (.error reason.text), state)

/-- Code that answers calls. -/
inductive Handler (σ : Type) where
  | sync (id : Nat) (body : Json → σ → Ending String Json × σ)
  | async (id : Nat) (body : Json → Task σ (Ending String Json))
  /-- A wrapper around the handler `inner`, of the same kind. -/
  | wrapper (id : Nat) (interceptor : Interceptor σ) (inner : Handler σ)

namespace Handler

variable {σ : Type}

def isAsync : Handler σ → Bool
  | .sync _ _ => false
  | .async _ _ => true
  | .wrapper _ _ inner => inner.isAsync

/-- What tells two handlers apart. -/
inductive Identity where
  | given (id : Nat)
  | wrapper (id : Nat)
deriving DecidableEq

def identity : Handler σ → Identity
  | .sync id _ => .given id
  | .async id _ => .given id
  | .wrapper id _ _ => .wrapper id

/-- The handler inside all wrappers. -/
def innermost : Handler σ → Handler σ
  | .wrapper _ _ inner => inner.innermost
  | other => other

end Handler

end LlmTelemetry

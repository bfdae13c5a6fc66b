import LlmTelemetry.Config.Load
import LlmTelemetry.Http.Endpoint
import LlmTelemetry.Instrument.Registry
import LlmTelemetry.Session.Capture
import LlmTelemetry.Session.Options
/-!
# The life of a session

At most one session is active. To begin one starts a sender and activates providers; to end it delivers what
is left, stops the sender and takes all wrappers back. To begin a session while one is active changes
nothing.
-/

namespace LlmTelemetry

/-- The whole state of a program with capturing built in. -/
structure Runtime (σ ν : Type) where
  world : World σ ν
  sites : CallSites σ := {}
  registry : Registry σ := {}

/-- Why a call through a call site gave no value. -/
inductive CallError where
  | unresolved (reason : ResolveError)
  /-- The error that the handler returned. -/
  | failed (message : String)
deriving DecidableEq

/-- The end of a handler's call, as the caller sees it. -/
def CallError.ofHandler : Ending String Json → Ending CallError Json
  | .ok value => .ok value
  | .error (.error message) => .error (.error (.failed message))
  | .error (.panic message) => .error (.panic message)

namespace Runtime

variable {σ ν : Type}

/-! ## Calls -/

/-- Call what is installed at a call site. -/
def call (runtime : Runtime σ ν) (site : CallSite) (args : Json) :
    Ending CallError Json × Runtime σ ν :=
  match runtime.sites.handlerOfKind site false with
  | .error reason => (.error (.error (.unresolved reason)), runtime)
  | .ok handler =>
    let (ending, world) := handler.call args runtime.world
    (CallError.ofHandler ending, { runtime with world := world })

/-- Call what is installed at a call site and await its task. -/
def callAsync (runtime : Runtime σ ν) (site : CallSite) (args : Json) :
    Ending CallError Json × Runtime σ ν :=
  match runtime.sites.handlerOfKind site true with
  | .error reason => (.error (.error (.unresolved reason)), runtime)
  | .ok handler =>
    let (ending, world) := (handler.task args).await runtime.world
    (CallError.ofHandler ending, { runtime with world := world })

/-! ## Providers -/

/-- Activate providers, and tell which of those asked for are active. -/
def activate (runtime : Runtime σ ν) (names : Option (List String)) :
    List String × Runtime σ ν :=
  let done := runtime.registry.activate names runtime.sites
  (done.activated,
    { world := runtime.world.tell done.notices, sites := done.sites, registry := done.registry })

def deactivate (runtime : Runtime σ ν) (names : Option (List String)) : Runtime σ ν :=
  let done := runtime.registry.deactivate names runtime.sites
  { world := runtime.world.tell done.notices, sites := done.sites, registry := done.value }

/-- The providers that a new session activates. -/
def activateFor (runtime : Runtime σ ν) : Integrations → List String × Runtime σ ν
  | .auto => runtime.activate none
  | .only names => runtime.activate (some names)
  | .disabled => ([], runtime)

/-! ## Sessions -/

def sessionId? (runtime : Runtime σ ν) : Option String :=
  runtime.world.session.map fun session => session.snapshot.sessionId

/-- The identifier of a new session: the one asked for, unless it is empty. -/
def chooseSessionId (options : SessionOptions) (fresh : String) : String :=
  (options.sessionId.filter fun id => !id.isEmpty).getD fresh

def snapshotOf (network : Network ν) (environment : Environment) (options : SessionOptions)
    (sessionId : String) : Snapshot ν where
  client :=
    { transport :=
        (Endpoint.ofUrl (resolveUrl environment options.serverUrl options.cloud)
          (resolveApiKey environment options.apiKey)).transport network }
  agentId := options.agentId
  sessionId := sessionId
  redaction := ⟨options.redact, options.patterns, options.filter⟩

/-- Make a session active, with a sender of its own that is started. -/
def install (runtime : Runtime σ ν) (snapshot : Snapshot ν) (synchronous : Bool) : Runtime σ ν :=
  let world := runtime.world
  { runtime with
    world :=
      { world with
        senders := world.senders ++ [(Sender.new synchronous).start]
        session := some ⟨snapshot, world.senders.length⟩ } }

/-- Begin a session, with the given identifier if a new one is needed. Gives the identifier of the session
that is active then. -/
def init (runtime : Runtime σ ν) (network : Network ν) (environment : Environment)
    (options : SessionOptions) (fresh : String) : String × Runtime σ ν :=
  match runtime.sessionId? with
  | some sessionId =>
    (sessionId, { runtime with world := runtime.world.tell [.alreadyInitialized] })
  | none =>
    let sessionId := chooseSessionId options fresh
    let url := resolveUrl environment options.serverUrl options.cloud
    let started :=
      runtime.install (snapshotOf network environment options sessionId) options.syncMode
    let (providers, ready) := started.activateFor options.integrations
    (sessionId,
      { ready with world := ready.world.tell [.sessionStarted sessionId url providers] })

/-- Begin a session as the settings say, unless they say not to. -/
def initFromSettings (runtime : Runtime σ ν) (network : Network ν) (environment : Environment)
    (settings : Settings) (fresh : String) : Option String × Runtime σ ν :=
  if settings.enabled then
    let (sessionId, runtime) :=
      runtime.init network environment (.ofSettings settings) fresh
    (some sessionId, runtime)
  else (none, { runtime with world := runtime.world.tell [.disabled] })

/-- Deliver what the sender of a session holds and stop it. -/
def settle (world : World σ ν) (session : ActiveSession ν) : World σ ν :=
  match world.senders[session.sender]? with
  | none => world
  | some sender =>
    let (drained, sender, outbox) := sender.flush world.outbox
    let (sender, outbox) := sender.stop outbox
    let world :=
      { world with senders := world.senders.set session.sender sender, outbox := outbox }
    if drained then world else world.tell [.eventsPending]

/-- End the active session, if there is one. -/
def shutdown (runtime : Runtime σ ν) : Runtime σ ν :=
  match runtime.world.session with
  | none => runtime
  | some session =>
    let settled := { runtime with world := settle runtime.world session }
    let bare := settled.deactivate none
    let world := { bare.world with session := none }
    { bare with world := world.tell [.sessionEnded session.snapshot.sessionId] }

end Runtime

end LlmTelemetry

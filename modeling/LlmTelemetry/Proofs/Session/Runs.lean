import LlmTelemetry.Proofs.Instrument.RegistryRuns
import LlmTelemetry.Session.Lifecycle
/-!
# Sessions that follow each other

A program begins and ends sessions in any order, makes calls, and writes to the directory of call sites while
no session is active. `written` is the directory as these writes alone have made it. At any time the directory
of the program is this one with the wrappers of the active providers around some of its handlers, and providers
are active in a session only. So when a session ends, the directory is as the host has written it.
-/

namespace LlmTelemetry

variable {σ ν : Type}

/-! ## What a call leaves alone -/

theorem World.capture_session (world : World σ ν) (interceptor : Interceptor σ) (session : ActiveSession ν)
    (response args : Json) (latencyMs : Float) :
    (world.capture interceptor session response args latencyMs).session = world.session := by
  unfold capture
  dsimp only
  split
  · unfold send withSender
    split <;> rfl
  · rfl
  · rfl

namespace Handler

/-- The steps of a task of the application, on end, in the world. -/
theorem await_hostTask (task : Task σ (Ending String Json)) (world : World σ ν) :
    (hostTask task).await world = ((task.await world.host).1, world.setHost (task.await world.host).2) := by
  induction task generalizing world with
  | done ending => rfl
  | step effect next ih => exact ih world.host (world.setHost (effect world.host))

/-- Awaiting the task of a call, when nothing happens between its steps, is making the call. -/
theorem await_task (handler : Handler σ) (args : Json) (world : World σ ν) :
    (handler.task args).await world = handler.call args world := by
  induction handler generalizing world with
  | sync id body => exact Task.await_once _ world
  | async id body => rfl
  | wrapper number interceptor inner ih =>
    rw [task, Task.await, call]
    dsimp only [id]
    cases world.treatment interceptor args with
    | passThrough => exact ih world
    | abort message => rfl
    | capture session =>
      rw [Task.await_andThen, ih]
      cases inner.call args world with
      | mk ending after => cases ending <;> rfl

theorem call_session (handler : Handler σ) (args : Json) (world : World σ ν) :
    (handler.call args world).2.session = world.session := by
  induction handler generalizing world with
  | sync id body => rfl
  | async id body =>
    rw [call, await_hostTask]
    rfl
  | wrapper id interceptor inner ih =>
    rw [call]
    cases world.treatment interceptor args with
    | passThrough => exact ih world
    | abort message => rfl
    | capture session =>
      have inside := ih world
      cases called : inner.call args world with
      | mk ending after =>
        rw [called] at inside
        cases ending with
        | error fault => exact inside
        | ok response => exact (World.capture_session ..).trans inside

end Handler

namespace Runtime

/-! ## Steps -/

/-- What happens next in a program. -/
inductive Act (σ ν : Type) where
  | init (network : Network ν) (environment : Environment) (options : SessionOptions) (fresh : String)
  | shutdown
  | write (write : HostWrite σ)
  | call (isAsync : Bool) (site : CallSite) (args : Json)
  /-- The worker of a sender takes and delivers so many items. -/
  | work (number count : Nat)

def Act.write? : Act σ ν → Option (HostWrite σ)
  | .write change => some change
  | _ => none

def after (runtime : Runtime σ ν) : Act σ ν → Runtime σ ν
  | .init network environment options fresh => (runtime.init network environment options fresh).2
  | .shutdown => runtime.shutdown
  | .write write => { runtime with sites := write.apply runtime.sites }
  | .call isAsync site args =>
    if isAsync then (runtime.callAsync site args).2 else (runtime.call site args).2
  | .work number count =>
    { runtime with world := runtime.world.withSender number fun sender outbox => sender.work count outbox }

/-- The host writes to the directory while no session is active. -/
def Permits (runtime : Runtime σ ν) : Act σ ν → Prop
  | .write _ => runtime.world.session = none
  | _ => True

/-- What a program comes to, with what happened on the way. -/
inductive Reached (start : Runtime σ ν) : List (Act σ ν) → Runtime σ ν → Prop
  | start : Reached start [] start
  | step {acts : List (Act σ ν)} {runtime : Runtime σ ν} (reached : Reached start acts runtime)
    (act : Act σ ν) (permitted : runtime.Permits act) : Reached start (acts ++ [act]) (runtime.after act)

/-- A program with the providers that are known from the start, before anything has happened. -/
def fresh (host : σ) (clock : σ → Float) (outbox : Outbox ν) : Runtime σ ν :=
  { world := { host, clock, outbox }, registry := .builtin }

/-- The directory as the host alone has made it. -/
def written (acts : List (Act σ ν)) : CallSites σ :=
  (acts.filterMap Act.write?).foldl HostWrite.apply {}

theorem written_append (acts : List (Act σ ν)) (act : Act σ ν) :
    written (acts ++ [act]) = act.write?.toList.foldl HostWrite.apply (written acts) := by
  rw [written, written, List.filterMap_append, List.foldl_append]
  cases act <;> rfl

/-- A call changes the world only. -/
theorem after_call (runtime : Runtime σ ν) (isAsync : Bool) (site : CallSite) (args : Json) :
    runtime.after (.call isAsync site args) =
      match runtime.sites.handlerOfKind site isAsync with
      | .error _ => runtime
      | .ok handler => { runtime with world := (handler.call args runtime.world).2 } := by
  cases isAsync with
  | false =>
    show (runtime.call site args).2 = _
    unfold call
    cases runtime.sites.handlerOfKind site false <;> rfl
  | true =>
    show (runtime.callAsync site args).2 = _
    unfold callAsync
    cases runtime.sites.handlerOfKind site true with
    | error reason => rfl
    | ok handler =>
      simp only [Handler.await_task]

end Runtime

/-! ## The directory -/

namespace CallSites

/-- Two directories that lead to the same tables, with the same handlers in them. -/
structure Same (sites given : CallSites σ) : Prop where
  names : sites.names = given.names
  modules : sites.modules = given.modules
  entries : ∀ table member, sites.get? table member = given.get? table member

variable {sites given : CallSites σ}

theorem ensureTable_same (names : sites.names = given.names) (modules : sites.modules = given.modules)
    (moduleName : String) (className : Option String) :
    (sites.ensureTable moduleName className).1 = (given.ensureTable moduleName className).1 ∧
      (sites.ensureTable moduleName className).2.names = (given.ensureTable moduleName className).2.names ∧
      (sites.ensureTable moduleName className).2.modules =
        (given.ensureTable moduleName className).2.modules := by
  unfold ensureTable ensureModule
  dsimp only [newTable]
  rw [names, modules]
  cases KeyedList.find? moduleName given.modules with
  | none =>
    cases className with
    | none => exact ⟨rfl, rfl, rfl⟩
    | some className => exact ⟨rfl, rfl, rfl⟩
  | some entry =>
    cases className with
    | none => exact ⟨rfl, names, modules⟩
    | some className =>
      dsimp only
      rw [names, modules]
      cases KeyedList.find? className entry.classes with
      | none => exact ⟨rfl, rfl, rfl⟩
      | some table => exact ⟨rfl, names, modules⟩

theorem Same.apply (same : Same sites given) (write : HostWrite σ) :
    Same (write.apply sites) (write.apply given) := by
  cases write with
  | newTable name => exact ⟨congrArg (· ++ [name]) same.names, same.modules, same.entries⟩
  | unregister moduleName =>
    exact ⟨same.names, congrArg (KeyedList.erase moduleName) same.modules, same.entries⟩
  | set table member handler =>
    refine ⟨same.names, same.modules, fun other name => ?_⟩
    simp only [HostWrite.apply, get?_set, same.entries]
  | register moduleName className member handler =>
    obtain ⟨table, names, modules⟩ := ensureTable_same same.names same.modules moduleName className
    refine ⟨names, modules, fun other name => ?_⟩
    simp only [HostWrite.apply, get?_register, table, same.entries]

end CallSites

/-! ## The providers -/

theorem KeyedList.mem_of_mem_erase {α : Type} {key : String} {entries : KeyedList String α}
    {entry : String × α} (among : entry ∈ erase key entries) : entry ∈ entries ∧ entry.1 ≠ key := by
  induction entries with
  | nil => cases among
  | cons first rest ih =>
    obtain ⟨k, v⟩ := first
    rw [erase] at among
    split at among
    · exact (ih among).imp_left (List.mem_cons_of_mem _)
    · rename_i other
      obtain rfl | among := List.mem_cons.mp among
      · exact ⟨List.mem_cons_self, other⟩
      · exact (ih among).imp_left (List.mem_cons_of_mem _)

namespace Registry

theorem deactivateOne_active (state : Patched σ (Registry σ)) (name : String) :
    (deactivateOne state name).value.active = KeyedList.erase name state.value.active := by
  unfold deactivateOne
  cases found : KeyedList.find? name state.value.active with
  | none =>
    have absent : name ∉ KeyedList.keys state.value.active := by
      rw [← KeyedList.contains_eq_true, KeyedList.contains, found]
      simp
    exact (KeyedList.erase_of_not_mem absent).symm
  | some manager => rfl

theorem mem_active_of_deactivated {names : List String} {state : Patched σ (Registry σ)}
    {entry : String × Manager σ} (among : entry ∈ (names.foldl deactivateOne state).value.active) :
    entry ∈ state.value.active ∧ entry.1 ∉ names := by
  induction names generalizing state with
  | nil => exact ⟨among, List.not_mem_nil⟩
  | cons name rest ih =>
    obtain ⟨among, later⟩ := ih among
    rw [deactivateOne_active] at among
    obtain ⟨among, here⟩ := KeyedList.mem_of_mem_erase among
    exact ⟨among, List.mem_cons.not.mpr (not_or.mpr ⟨here, later⟩)⟩

/-- To deactivate all providers that are active leaves none. -/
theorem deactivate_none (registry : Registry σ) (sites : CallSites σ) :
    (registry.deactivate none sites).value.active = [] := by
  apply List.eq_nil_iff_forall_not_mem.mpr
  intro entry among
  obtain ⟨active, unnamed⟩ := mem_active_of_deactivated among
  exact unnamed (List.mem_map_of_mem active)

end Registry

/-- What the registry does leaves the tables that there are. -/
theorem Rooted.names_after {first board : Board σ} (rooted : Rooted first board) (call : RegistryCall) :
    (board.after call).sites.names = board.sites.names := by
  cases call with
  | activate names =>
    let motive : Registry.Activation σ → Prop := fun state =>
      Rooted first ⟨state.registry, state.sites⟩ ∧ state.sites.names = board.sites.names
    have start : motive ⟨board.registry, board.sites, [], []⟩ := ⟨rooted, rfl⟩
    refine (List.foldlRecOn _ _ start fun state kept name _ => ⟨kept.1.activateOne name, ?_⟩).2
    obtain ⟨-, sites⟩ | ⟨_, _, _, _, -, -, -, -, -, wraps⟩ := Registry.activateOne_cases kept.1.sound name
    · rw [sites]
      exact kept.2
    · exact wraps.names.trans kept.2
  | deactivate names =>
    let motive : Patched σ (Registry σ) → Prop := fun state =>
      Rooted first ⟨state.value, state.sites⟩ ∧ state.sites.names = board.sites.names
    have start : motive ⟨board.registry, board.sites, []⟩ := ⟨rooted, rfl⟩
    refine (List.foldlRecOn _ _ start fun state kept name _ => ⟨kept.1.deactivateOne name, ?_⟩).2
    obtain same | ⟨manager, found, -, sites⟩ := Registry.deactivateOne_cases state name
    · rw [same]
      exact kept.2
    · rw [sites, kept.1.uninstrument found, CallSites.restoreAll_names]
      exact kept.2

/-- With no provider active, the directory is the one that the calls of the registry began with. -/
theorem Layered.get?_of_idle {first board : Board σ} (layered : Layered first board)
    (idle : board.registry.active = []) (table : TableId) (member : String) :
    board.sites.get? table member = first.sites.get? table member := by
  obtain ⟨chain, all, stacked⟩ := layered table member
  rw [idle] at all
  rw [all.eq_nil] at stacked
  generalize board.sites.get? table member = handler at stacked ⊢
  cases stacked with
  | ground => rfl

/-! ## Sessions -/

/-- The world but for what was told. -/
def World.silent (world : World σ ν) : World σ ν :=
  { world with notices := [] }

/-- The call of the registry with which a session begins. -/
def Integrations.calls : Integrations → List RegistryCall
  | .auto => [.activate none]
  | .only names => [.activate (some names)]
  | .disabled => []

namespace Runtime

def board (runtime : Runtime σ ν) : Board σ :=
  ⟨runtime.registry, runtime.sites⟩

theorem activateFor_board (runtime : Runtime σ ν) (integrations : Integrations) :
    (runtime.activateFor integrations).2.board = integrations.calls.foldl Board.after runtime.board := by
  cases integrations <;> rfl

theorem activateFor_world (runtime : Runtime σ ν) (integrations : Integrations) :
    (runtime.activateFor integrations).2.world.silent = runtime.world.silent := by
  cases integrations <;> rfl

section Init

variable {runtime : Runtime σ ν} (network : Network ν) (environment : Environment)
  (options : SessionOptions) (fresh : String)

/-- To begin a session while one is active does nothing but tell so. -/
theorem init_of_session {session : ActiveSession ν} (active : runtime.world.session = some session) :
    runtime.init network environment options fresh =
      (session.snapshot.sessionId, { runtime with world := runtime.world.tell [.alreadyInitialized] }) := by
  simp only [init, sessionId?, active, Option.map_some]

/-- What the beginning of a session does. -/
theorem init_of_idle (idle : runtime.world.session = none) :
    let sessionId := chooseSessionId options fresh
    let begun := runtime.init network environment options fresh
    begun.1 = sessionId ∧ begun.2.board = options.integrations.calls.foldl Board.after runtime.board ∧
      begun.2.world.silent =
        (runtime.install (snapshotOf network environment options sessionId)
          options.syncMode).world.silent := by
  intro sessionId begun
  have inactive : runtime.sessionId? = none := by rw [sessionId?, idle, Option.map_none]
  let installed := runtime.install (snapshotOf network environment options sessionId) options.syncMode
  have board := installed.activateFor_board options.integrations
  have world := installed.activateFor_world options.integrations
  unfold begun init
  rw [inactive]
  exact ⟨rfl, board, world⟩

end Init

theorem shutdown_of_idle {runtime : Runtime σ ν} (idle : runtime.world.session = none) :
    runtime.shutdown = runtime := by
  simp only [shutdown, idle]

/-- What the end of a session does. -/
theorem shutdown_of_session {runtime : Runtime σ ν} {session : ActiveSession ν}
    (active : runtime.world.session = some session) :
    runtime.shutdown.board = runtime.board.after (.deactivate none) ∧
      runtime.shutdown.world.silent =
        { settle runtime.world session with session := none }.silent := by
  simp only [shutdown, active]
  exact ⟨rfl, rfl⟩

/-- How a program stands whose host has made the directory `given`. -/
structure Orderly (given : CallSites σ) (runtime : Runtime σ ν) : Prop where
  sound : given.Sound
  names : runtime.sites.names = given.names
  rooted : Rooted ⟨.builtin, given⟩ runtime.board
  layered : Layered ⟨.builtin, given⟩ runtime.board
  idle : runtime.world.session = none → runtime.registry.active = []

namespace Orderly

variable {given : CallSites σ} {runtime next : Runtime σ ν}

theorem start (host : σ) (clock : σ → Float) (outbox : Outbox ν) :
    Orderly {} (fresh host clock outbox) where
  sound := .empty
  names := rfl
  rooted := ⟨.empty, rfl, rfl, List.nodup_nil, fun _ none => (nomatch none), fun _ _ => rfl⟩
  layered _ _ := ⟨[], .nil, .ground⟩
  idle _ := rfl

/-- Calls of the registry, at a time when no session is active only if no provider is. -/
theorem through (orderly : Orderly given runtime) (calls : List RegistryCall)
    (board : next.board = calls.foldl Board.after runtime.board)
    (idle : next.world.session = none → next.registry.active = []) : Orderly given next := by
  let motive : Board σ → Prop := fun board =>
    (Rooted ⟨.builtin, given⟩ board ∧ Layered ⟨.builtin, given⟩ board) ∧ board.sites.names = given.names
  have start : motive runtime.board := ⟨⟨orderly.rooted, orderly.layered⟩, orderly.names⟩
  have run : motive (calls.foldl Board.after runtime.board) := by
    refine List.foldlRecOn calls _ start fun board kept call _ => ?_
    obtain ⟨⟨rooted, layered⟩, names⟩ := kept
    -- The providers have no target in common, so whoever is taken back is outermost.
    have nested : board.Nested [call] := Registry.builtin_apart.nested orderly.sound rooted layered
    exact ⟨⟨rooted.after call, layered.after rooted nested.1⟩, (rooted.names_after call).trans names⟩
  rw [← board] at run
  exact ⟨orderly.sound, run.2, run.1.1, run.1.2, idle⟩

theorem same_of_idle (orderly : Orderly given runtime) (idle : runtime.registry.active = []) :
    runtime.sites.Same given where
  names := orderly.names
  modules := orderly.rooted.modules
  entries := orderly.layered.get?_of_idle idle

theorem of_same (sound : given.Sound) (same : next.sites.Same given) (known : next.sites.Sound)
    (factories : next.registry.factories = Registry.builtin.factories) (idle : next.registry.active = []) :
    Orderly given next where
  sound := sound
  names := same.names
  rooted := by
    refine ⟨known, factories, same.modules, ?_, ?_, ?_⟩
    · rw [board, idle]
      exact List.nodup_nil
    · rw [board, idle]
      exact fun _ none => nomatch none
    · exact fun table member => congrArg _ (same.entries table member)
  layered table member := by
    refine ⟨[], ?_, ?_⟩
    · rw [board, idle]
      exact .nil
    · rw [board, same.entries]
      exact .ground
  idle _ := idle

theorem init (orderly : Orderly given runtime) (network : Network ν) (environment : Environment)
    (options : SessionOptions) (fresh : String) :
    Orderly given (runtime.init network environment options fresh).2 := by
  cases active : runtime.world.session with
  | some session =>
    rw [init_of_session network environment options fresh active]
    exact orderly.through [] rfl orderly.idle
  | none =>
    obtain ⟨-, board, world⟩ := init_of_idle network environment options fresh active
    refine orderly.through options.integrations.calls board fun idle => ?_
    have begun : (runtime.init network environment options fresh).2.world.session.isSome = true :=
      congrArg (fun world => world.session.isSome) world
    rw [idle] at begun
    contradiction

theorem shutdown (orderly : Orderly given runtime) :
    Orderly given runtime.shutdown ∧ runtime.shutdown.world.session = none ∧
      runtime.shutdown.registry.active = [] := by
  cases active : runtime.world.session with
  | none =>
    rw [shutdown_of_idle active]
    exact ⟨orderly, active, orderly.idle active⟩
  | some session =>
    obtain ⟨board, world⟩ := shutdown_of_session active
    have bare : runtime.shutdown.registry.active = [] := by
      rw [show runtime.shutdown.registry = _ from congrArg Board.registry board]
      exact Registry.deactivate_none runtime.registry runtime.sites
    exact ⟨orderly.through [.deactivate none] board fun _ => bare, congrArg World.session world, bare⟩

theorem write (orderly : Orderly given runtime) (idle : runtime.world.session = none)
    (write : HostWrite σ) :
    Orderly (write.apply given) { runtime with sites := write.apply runtime.sites } := by
  have bare := orderly.idle idle
  exact .of_same (write.apply_sound orderly.sound) ((orderly.same_of_idle bare).apply write)
    (write.apply_sound orderly.rooted.sound) orderly.rooted.factories bare

theorem call (orderly : Orderly given runtime) (isAsync : Bool) (site : CallSite) (args : Json) :
    Orderly given (runtime.after (.call isAsync site args)) := by
  rw [after_call]
  cases runtime.sites.handlerOfKind site isAsync with
  | error reason => exact orderly
  | ok handler =>
    refine orderly.through [] rfl fun idle => orderly.idle ?_
    rwa [Handler.call_session] at idle

theorem work (orderly : Orderly given runtime) (number count : Nat) :
    Orderly given (runtime.after (.work number count)) := by
  refine orderly.through [] rfl fun idle => orderly.idle ?_
  revert idle
  unfold after World.withSender
  dsimp only
  split <;> exact fun idle => idle

theorem after (orderly : Orderly given runtime) (act : Act σ ν) (permitted : runtime.Permits act) :
    Orderly (act.write?.toList.foldl HostWrite.apply given) (runtime.after act) := by
  cases act with
  | init network environment options fresh => exact orderly.init network environment options fresh
  | shutdown => exact orderly.shutdown.1
  | write write => exact orderly.write permitted write
  | call isAsync site args => exact orderly.call isAsync site args
  | work number count => exact orderly.work number count

end Orderly

theorem Reached.orderly {host : σ} {clock : σ → Float} {outbox : Outbox ν} {acts : List (Act σ ν)}
    {runtime : Runtime σ ν} (reached : Reached (fresh host clock outbox) acts runtime) :
    Orderly (written acts) runtime := by
  induction reached with
  | start => exact .start host clock outbox
  | step _ act permitted ih =>
    rw [written_append]
    exact ih.after act permitted

/-- At any time: to begin a session while one is active gives the identifier of that session, and leaves it, its
sender, the providers and the directory as they are. Some provider is active in a session only. Whenever no
session is active, and so after every end of a session, no provider is active and the directory is as the host
has written it, with the very handlers that it has put there. To end a session when there is none changes
nothing. -/
theorem Reached.session_lifecycle {host : σ} {clock : σ → Float} {outbox : Outbox ν}
    {acts : List (Act σ ν)} {runtime : Runtime σ ν}
    (reached : Reached (fresh host clock outbox) acts runtime) :
    (∀ session, runtime.world.session = some session → ∀ network environment options id,
      let again := runtime.init network environment options id
      again.1 = session.snapshot.sessionId ∧ again.2.world.session = some session ∧
        again.2.world.senders = runtime.world.senders ∧ again.2.world.outbox = runtime.world.outbox ∧
          again.2.registry = runtime.registry ∧ again.2.sites = runtime.sites) ∧
      (runtime.registry.active ≠ [] → runtime.world.session.isSome = true) ∧
      (runtime.world.session = none → runtime.sites.Same (written acts)) ∧
      (runtime.shutdown.world.session = none ∧ runtime.shutdown.registry.active = [] ∧
        runtime.shutdown.sites.Same (written acts)) ∧
      (runtime.world.session = none → runtime.shutdown = runtime) := by
  have orderly := reached.orderly
  obtain ⟨settled, ended, bare⟩ := orderly.shutdown
  refine ⟨?_, ?_, fun idle => orderly.same_of_idle (orderly.idle idle), ⟨ended, bare, settled.same_of_idle bare⟩,
    shutdown_of_idle⟩
  · intro session active network environment options id
    rw [init_of_session network environment options id active]
    exact ⟨rfl, active, rfl, rfl, rfl, rfl⟩
  · intro some
    rw [Option.isSome_iff_ne_none]
    exact fun idle => some (orderly.idle idle)

/-- The host registers a handler, a session wraps it, and the end of the session gives it back. -/
theorem session_lifecycle_over_one_site :
    ∃ acts runtime, Reached (fresh () (fun _ => 0) { network := (), stamps := fun _ => ⟨"c", "t"⟩ }) acts
        runtime ∧
      runtime.world.session.isSome = true ∧ runtime.registry.active ≠ [] ∧
        runtime.sites.get? 1 "create" ≠ some (Managed.echo 1) ∧
          runtime.shutdown.sites.get? 1 "create" = some (Managed.echo 1) := by
  have reached : Reached (fresh () (fun _ => 0) { network := (), stamps := fun _ => ⟨"c", "t"⟩ }) [] _ := .start
  have reached := reached.step (.write
    (.register Provider.OpenAI.moduleName (some "Completions") "create" (Managed.echo 1))) rfl
  have reached := reached.step (.init (.unreachable Unit) {} { sessionId := some "s" } "fresh") trivial
  obtain ⟨-, -, -, ⟨-, -, same⟩, -⟩ := reached.session_lifecycle
  refine ⟨_, _, reached, rfl, ?_, ?_, ?_⟩
  · nofun
  · nofun
  · exact (same.entries 1 "create").trans rfl

end Runtime

end LlmTelemetry

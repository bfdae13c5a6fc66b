import LlmTelemetry.Proofs.Delivery.Dispatch
import LlmTelemetry.Proofs.Instrument.Targets
import LlmTelemetry.Proofs.Session.Runs
import LlmTelemetry.Proofs.Session.Wrappers
/-!
# The course of a program

The same acts are followed twice: by the program, with its registry, its wrappers and its senders, and by a
`Course` that has none of these. A course knows the directory that the host has written, the active session, and
the names of providers that this session was to activate. From them it tells which calls hand over a record, and
to whom: those that begin in a session, go through a call site that an active provider aims at, ask for no stream,
give a value, and have a response that the provider can read.

The program stays in step with its course (`Runtime.Follows`), one act at a time.
-/

namespace LlmTelemetry

variable {σ ν : Type}

/-! ## One call -/

namespace Handler

/-- A handler of the application, with no wrapper around it. -/
def Plain (handler : Handler σ) : Prop :=
  handler.interceptors = []

/-- What the application answers. -/
def answer : Handler σ → Json → σ → Ending String Json × σ
  | .sync _ body, args, host => body args host
  | .async _ body, args, host => (body args).await host
  | .wrapper _ _ inner, args, host => inner.answer args host

theorem call_of_plain {handler : Handler σ} (plain : handler.Plain) (args : Json) (world : World σ ν) :
    handler.call args world =
      ((handler.answer args world.host).1, world.setHost (handler.answer args world.host).2) := by
  cases handler with
  | sync id body => rfl
  | async id body => exact await_hostTask (body args) world
  | wrapper id interceptor inner => exact absurd plain (List.cons_ne_nil _ _)

end Handler

namespace World

/-- The senders of a world, with the network. -/
def dispatch (world : World σ ν) : Dispatch ν :=
  ⟨world.senders, world.outbox⟩

def setDispatch (dispatch : Dispatch ν) (world : World σ ν) : World σ ν :=
  { world with senders := dispatch.senders, outbox := dispatch.outbox }

theorem withSender_eq (world : World σ ν) (number : Nat)
    (change : Sender ν → Outbox ν → Sender ν × Outbox ν) :
    world.withSender number change = world.setDispatch (world.dispatch.change number change) := by
  unfold withSender Dispatch.change dispatch
  dsimp only
  cases world.senders[number]? <;> rfl

end World

/-- What a provider can read from a call is handed to the sender of the session. -/
def Job.ofResponse (provider : Provider) (session : ActiveSession ν) (args response : Json)
    (latencyMs : Float) : List (Job ν) :=
  match provider.extract response args latencyMs with
  | .ok extraction => [.hand session.sender ⟨session.snapshot, extraction.record⟩]
  | .error _ => []

/-- What is done to the senders for a call that a provider is to capture, that began in a session, and that ended
so. -/
def Job.ofCall (provider : Option Provider) (session : Option (ActiveSession ν)) (args : Json)
    (ending : Ending String Json) (latencyMs : Float) : List (Job ν) :=
  match provider, session, asksForStream args, ending with
  | some provider, some session, false, .ok response => ofResponse provider session args response latencyMs
  | _, _, _, _ => []

/-- The handler in the wrapper of a provider, if there is one. -/
def Handler.under (original : Handler σ) (id : Nat) : Option Provider → Handler σ
  | none => original
  | some provider => .wrapper id provider.interceptor original

theorem Handler.isAsync_under (original : Handler σ) (id : Nat) (provider : Option Provider) :
    (original.under id provider).isAsync = original.isAsync := by
  cases provider <;> rfl

theorem World.capture_silent (world : World σ ν) (provider : Provider) (session : ActiveSession ν)
    (args response : Json) (latencyMs : Float) :
    (world.capture provider.interceptor session response args latencyMs).silent =
      (world.setDispatch
        ((Job.ofResponse provider session args response latencyMs).foldl Dispatch.perform
          world.dispatch)).silent := by
  unfold capture Provider.interceptor Job.ofResponse
  dsimp only
  cases provider.extract response args latencyMs with
  | error reason => rfl
  | ok extraction =>
    dsimp only
    rw [send, withSender_eq]
    rfl

theorem World.treatment_interceptor (world : World σ ν) (provider : Provider) (args : Json) :
    world.treatment provider.interceptor args =
      match world.session, asksForStream args with
      | some session, false => .capture session
      | _, _ => .passThrough := by
  have asked : (provider.interceptor : Interceptor σ).isStreaming args = .ok (asksForStream args) := rfl
  rw [treatment, asked]
  cases world.session with
  | none => rfl
  | some session => cases asksForStream args <;> rfl

/-- To the host a call is what its own handler does, and to the senders what the provider makes of it. -/
theorem Handler.call_under {original : Handler σ} (plain : original.Plain) (id : Nat)
    (provider : Option Provider) (args : Json) (world : World σ ν) :
    let (ending, host) := original.answer args world.host
    ((original.under id provider).call args world).2.silent =
      ((world.setHost host).setDispatch
        ((Job.ofCall provider world.session args ending (world.clock host - world.now)).foldl
          Dispatch.perform world.dispatch)).silent := by
  have called := call_of_plain plain args world
  cases answered : original.answer args world.host with
  | mk ending host =>
    rw [answered] at called
    cases provider with
    | none =>
      rw [under, called]
      rfl
    | some provider =>
      rw [under, call, World.treatment_interceptor, called]
      unfold Job.ofCall
      cases world.session with
      | none => rfl
      | some session =>
        cases asksForStream args with
        | true => rfl
        | false =>
          cases ending with
          | error fault => rfl
          | ok response => exact World.capture_silent _ provider session args response _

theorem Dispatch.Tidy.ofCall {first : Outbox ν} {handed : List (Capture ν)}
    {session : Option (ActiveSession ν)} {dispatch : Dispatch ν}
    (tidy : Tidy first handed (session.map (·.sender)) dispatch) (provider : Option Provider) (args : Json)
    (ending : Ending String Json) (latencyMs : Float) :
    let jobs := Job.ofCall provider session args ending latencyMs
    (jobs.foldl perform dispatch).senders.length = dispatch.senders.length ∧
      Tidy first (handed ++ jobs.filterMap Job.capture?) (session.map (·.sender))
        (jobs.foldl perform dispatch) := by
  have idle : Tidy first (handed ++ []) (session.map (·.sender)) dispatch := by
    rwa [List.append_nil]
  unfold Job.ofCall Job.ofResponse
  dsimp only
  split
  · split
    · refine ⟨?_, tidy.hand _⟩
      rw [List.foldl_cons, List.foldl_nil]
      exact length_change
    · exact ⟨rfl, idle⟩
  · exact ⟨rfl, idle⟩

/-! ## The course of a program -/

/-- The names that are asked for when a session begins. -/
def Integrations.names : Integrations → List String
  | .auto => Provider.builtin.map (·.1.name)
  | .only names => names
  | .disabled => []

/-- What a program has come to, as far as it can be told without wrappers. -/
structure Course (σ ν : Type) where
  host : σ
  /-- The directory as the host has written it. -/
  given : CallSites σ := {}
  session : Option (ActiveSession ν) := none
  /-- How many sessions were begun. -/
  begun : Nat := 0
  /-- The names of providers that the active session asked for. -/
  asked : List String := []
  /-- What was done to the senders. -/
  jobs : List (Job ν) := []

namespace Course

/-- The providers that are active: those asked for whose modules are there. -/
def active (course : Course σ ν) : List (Provider × String) :=
  Provider.builtin.filter (Registry.selected course.given course.asked)

/-- The active provider that has the call site among its targets. -/
def provider? (course : Course σ ν) (site : CallSite) : Option Provider :=
  (course.active.find? fun entry => course.given.aims entry.1 site).map Prod.fst

/-- The records that were handed over, in order. -/
def handed (course : Course σ ν) : List (Capture ν) :=
  course.jobs.filterMap Job.capture?

def dispatch (course : Course σ ν) (outbox : Outbox ν) : Dispatch ν :=
  course.jobs.foldl Dispatch.perform { outbox := outbox }

/-- A call of a handler of the application through a call site. -/
def call (course : Course σ ν) (clock : σ → Float) (site : CallSite) (handler : Handler σ) (args : Json) :
    Course σ ν :=
  let (ending, host) := handler.answer args course.host
  let latencyMs := clock host - clock course.host
  { course with
    host := host
    jobs := course.jobs ++ Job.ofCall (course.provider? site) course.session args ending latencyMs }

def after (clock : σ → Float) (course : Course σ ν) : Runtime.Act σ ν → Course σ ν
  | .init network environment options fresh =>
    match course.session with
    | some _ => course
    | none =>
      let sessionId := Runtime.chooseSessionId options fresh
      { course with
        session := some ⟨Runtime.snapshotOf network environment options sessionId, course.begun⟩
        begun := course.begun + 1
        asked := options.integrations.names
        jobs := course.jobs ++ [.start options.syncMode] }
  | .shutdown =>
    match course.session with
    | none => course
    | some session =>
      { course with session := none, asked := [], jobs := course.jobs ++ [.settle session.sender] }
  | .write write => { course with given := write.apply course.given }
  | .call isAsync site args =>
    match course.given.handlerOfKind site isAsync with
    | .error _ => course
    | .ok handler => course.call clock site handler args
  | .work number count => { course with jobs := course.jobs ++ [.work number count] }

/-- The course of a program from its beginning. -/
def along (clock : σ → Float) (host : σ) (acts : List (Runtime.Act σ ν)) : Course σ ν :=
  acts.foldl (after clock) { host := host }

variable {course next : Course σ ν} {more : List (Job ν)}

theorem dispatch_of_jobs (jobs : next.jobs = course.jobs ++ more) (outbox : Outbox ν) :
    next.dispatch outbox = more.foldl Dispatch.perform (course.dispatch outbox) := by
  rw [dispatch, jobs, List.foldl_append, dispatch]

theorem handed_of_jobs (jobs : next.jobs = course.jobs ++ more) :
    next.handed = course.handed ++ more.filterMap Job.capture? := by
  rw [handed, jobs, List.filterMap_append, handed]

theorem along_append (clock : σ → Float) (host : σ) (acts : List (Runtime.Act σ ν))
    (act : Runtime.Act σ ν) : along clock host (acts ++ [act]) = (along clock host acts).after clock act := by
  rw [along, List.foldl_append, along]
  rfl

/-- A provider that captures at a call site was chosen when the session began, and aims there. -/
theorem provider?_eq_some {site : CallSite} {provider : Provider}
    (found : course.provider? site = some provider) :
    ∃ entry ∈ Provider.builtin, Registry.selected course.given course.asked entry = true ∧
      course.given.aims entry.1 site = true ∧ entry.1 = provider := by
  obtain ⟨entry, first, rfl⟩ := Option.map_eq_some_iff.mp found
  obtain ⟨known, chosen⟩ := List.mem_filter.mp (List.mem_of_find?_eq_some first)
  have aims := List.find?_some first
  exact ⟨entry, known, chosen, aims, rfl⟩

theorem provider?_eq_none {site : CallSite} (missing : course.provider? site = none) :
    ∀ entry ∈ Provider.builtin, Registry.selected course.given course.asked entry = true →
      course.given.aims entry.1 site = false := by
  intro entry known chosen
  have active : entry ∈ course.active := List.mem_filter.mpr ⟨known, chosen⟩
  have none_found := List.find?_eq_none.mp (Option.map_eq_none_iff.mp missing) entry active
  simpa using none_found

end Course

/-! ## The program follows its course -/

theorem Registry.Serves.begin {given : CallSites σ} {board : Board σ} (serves : Serves given [] board)
    (sound : given.Sound) (rooted : Rooted ⟨.builtin, given⟩ board) (integrations : Integrations) :
    Serves given integrations.names (integrations.calls.foldl Board.after board) := by
  cases integrations with
  | auto => exact serves.activate sound rooted none
  | only names => exact serves.activate sound rooted (some names)
  | disabled => exact serves

namespace Runtime

theorem settle_silent (world : World σ ν) (session : ActiveSession ν) :
    (settle world session).silent =
      (world.setDispatch (world.dispatch.perform (.settle session.sender))).silent := by
  unfold settle Dispatch.perform Dispatch.change World.dispatch
  dsimp only
  cases world.senders[session.sender]? with
  | none => rfl
  | some sender =>
    dsimp only
    split <;> rfl

/-- The handlers that the host writes are its own. -/
def Act.Plain : Act σ ν → Prop
  | .write change => ∀ handler, change.handler? = some handler → handler.Plain
  | _ => True

/-- A program is where its course says. -/
structure Follows (clock : σ → Float) (outbox : Outbox ν) (course : Course σ ν) (runtime : Runtime σ ν) :
    Prop where
  orderly : Orderly course.given runtime
  serves : Registry.Serves course.given course.asked runtime.board
  plain : ∀ table member handler, course.given.get? table member = some handler → handler.Plain
  idle : course.session = none → course.asked = []
  clock : runtime.world.clock = clock
  host : runtime.world.host = course.host
  session : runtime.world.session = course.session
  dispatch : runtime.world.dispatch = course.dispatch outbox
  begun : (course.dispatch outbox).senders.length = course.begun
  tidy : Dispatch.Tidy outbox course.handed (course.session.map (·.sender)) (course.dispatch outbox)

namespace Follows

variable {clock : σ → Float} {outbox : Outbox ν} {course : Course σ ν} {runtime : Runtime σ ν}

theorem start (host : σ) (clock : σ → Float) (outbox : Outbox ν) :
    Follows clock outbox { host := host } (fresh host clock outbox) where
  orderly := .start host clock outbox
  serves := .nothing rfl fun _ _ => rfl
  plain _ _ _ found := nomatch found
  idle _ := rfl
  clock := rfl
  host := rfl
  session := rfl
  dispatch := rfl
  begun := rfl
  tidy := .nothing outbox

/-- What is at a call site: nothing, or the handler of the host under the provider that captures there. -/
theorem installed (follows : Follows clock outbox course runtime) (site : CallSite) :
    (course.given.get? site.table site.member = none ∧
      runtime.sites.get? site.table site.member = none) ∨
    ∃ id original, course.given.get? site.table site.member = some original ∧
      runtime.sites.get? site.table site.member = some (original.under id (course.provider? site)) := by
  cases captured : course.provider? site with
  | none =>
    have same := follows.serves.bare site (Course.provider?_eq_none captured)
    rw [show runtime.sites.get? site.table site.member = _ from same]
    cases course.given.get? site.table site.member with
    | none => exact .inl ⟨rfl, rfl⟩
    | some original => exact .inr ⟨0, original, rfl, rfl⟩
  | some provider =>
    obtain ⟨entry, known, chosen, aims, rfl⟩ := Course.provider?_eq_some captured
    obtain ⟨id, original, found, wrapped⟩ := follows.serves.wrapped entry known chosen site aims
    exact .inr ⟨id, original, found, wrapped⟩

/-- The handlers that a call finds, by the directory of the host and by that of the program. -/
theorem handlers (follows : Follows clock outbox course runtime) (isAsync : Bool) (site : CallSite) :
    (∃ reason reason', course.given.handlerOfKind site isAsync = .error reason ∧
      runtime.sites.handlerOfKind site isAsync = .error reason') ∨
    ∃ id original, course.given.handlerOfKind site isAsync = .ok original ∧ original.Plain ∧
      runtime.sites.handlerOfKind site isAsync = .ok (original.under id (course.provider? site)) := by
  obtain ⟨missing, missing'⟩ | ⟨id, original, found, wrapped⟩ := follows.installed site
  · obtain ⟨reason, given⟩ := course.given.handlerOfKind_eq_error site isAsync (by simp [missing])
    obtain ⟨reason', own⟩ := runtime.sites.handlerOfKind_eq_error site isAsync (by simp [missing'])
    exact .inl ⟨reason, reason', given, own⟩
  · have same := original.isAsync_under id (course.provider? site)
    by_cases kind : original.isAsync = isAsync
    · exact .inr ⟨id, original, CallSites.handlerOfKind_eq_ok.mpr ⟨found, kind⟩,
        follows.plain _ _ _ found, CallSites.handlerOfKind_eq_ok.mpr ⟨wrapped, same.trans kind⟩⟩
    · obtain ⟨reason, given⟩ := course.given.handlerOfKind_eq_error site isAsync (by simp [found, kind])
      obtain ⟨reason', own⟩ :=
        runtime.sites.handlerOfKind_eq_error site isAsync (by simp [wrapped, same, kind])
      exact .inl ⟨reason, reason', given, own⟩

/-- The host computes and jobs are done, while the directory and the session stay. -/
theorem move (follows : Follows clock outbox course runtime) {host : σ} {more : List (Job ν)}
    {after : Runtime σ ν} (orderly : Orderly course.given after) (board : after.board = runtime.board)
    (world : after.world.silent = ((runtime.world.setHost host).setDispatch
      (more.foldl Dispatch.perform runtime.world.dispatch)).silent)
    (length : (more.foldl Dispatch.perform (course.dispatch outbox)).senders.length =
      (course.dispatch outbox).senders.length)
    (tidy : Dispatch.Tidy outbox (course.handed ++ more.filterMap Job.capture?)
      (course.session.map (·.sender)) (more.foldl Dispatch.perform (course.dispatch outbox))) :
    Follows clock outbox { course with host := host, jobs := course.jobs ++ more } after := by
  let next : Course σ ν := { course with host := host, jobs := course.jobs ++ more }
  have jobs : next.jobs = course.jobs ++ more := rfl
  refine ⟨orderly, ?_, follows.plain, follows.idle, ?_, ?_, ?_, ?_, ?_, ?_⟩
  · rw [board]
    exact follows.serves
  · exact (congrArg World.clock world).trans follows.clock
  · exact congrArg World.host world
  · exact (congrArg World.session world).trans follows.session
  · rw [Course.dispatch_of_jobs jobs, ← follows.dispatch]
    exact congrArg World.dispatch world
  · rw [Course.dispatch_of_jobs jobs, length]
    exact follows.begun
  · rw [Course.dispatch_of_jobs jobs, Course.handed_of_jobs jobs]
    exact tidy

theorem work (follows : Follows clock outbox course runtime) (number count : Nat) :
    Follows clock outbox (course.after clock (.work number count)) (runtime.after (.work number count)) := by
  refine follows.move (follows.orderly.work number count) rfl ?_ Dispatch.length_change ?_
  · rw [after, World.withSender_eq, ← follows.host]
    rfl
  · rw [show [Job.work number count].filterMap Job.capture? = [] from rfl, List.append_nil]
    exact follows.tidy.work number count

theorem call (follows : Follows clock outbox course runtime) (isAsync : Bool) (site : CallSite) (args : Json) :
    Follows clock outbox (course.after clock (.call isAsync site args))
      (runtime.after (.call isAsync site args)) := by
  have orderly := follows.orderly.call isAsync site args
  rw [after_call] at orderly ⊢
  rw [Course.after]
  obtain ⟨reason, reason', found, found'⟩ | ⟨id, original, found, plain, found'⟩ :=
    follows.handlers isAsync site
  · rw [found, found']
    exact follows
  · rw [found'] at orderly
    rw [found, found']
    have called := Handler.call_under plain id (course.provider? site) args runtime.world
    dsimp only at called orderly ⊢
    rw [World.now, follows.clock, follows.host, follows.session] at called
    obtain ⟨length, tidy⟩ := follows.tidy.ofCall (course.provider? site) args
      (original.answer args course.host).1
      (clock (original.answer args course.host).2 - clock course.host)
    exact follows.move orderly rfl called length tidy

theorem write (follows : Follows clock outbox course runtime) {change : HostWrite σ}
    (plain : ∀ handler, change.handler? = some handler → handler.Plain)
    (idle : runtime.world.session = none) :
    Follows clock outbox (course.after clock (.write change)) (runtime.after (.write change)) := by
  have inactive := follows.orderly.idle idle
  have orderly := follows.orderly.write idle change
  have unasked := follows.idle (follows.session.symm.trans idle)
  refine { follows with orderly, serves := ?_, plain := ?_ }
  · rw [Course.after, unasked]
    exact .nothing inactive (orderly.same_of_idle inactive).entries
  · intro table member handler found
    obtain before | ⟨written, -⟩ := change.get?_apply course.given table member
    · exact follows.plain table member handler (before.symm.trans found)
    · exact plain handler (written.symm.trans found)

theorem init (follows : Follows clock outbox course runtime) (network : Network ν) (environment : Environment)
    (options : SessionOptions) (fresh : String) :
    Follows clock outbox (course.after clock (.init network environment options fresh))
      (runtime.after (.init network environment options fresh)) := by
  have orderly := follows.orderly.init network environment options fresh
  rw [Runtime.after, Course.after]
  cases active : course.session with
  | some session =>
    rw [init_of_session network environment options fresh (follows.session.trans active)] at orderly ⊢
    exact { follows with orderly }
  | none =>
    obtain ⟨-, board, world⟩ :=
      init_of_idle network environment options fresh (follows.session.trans active)
    have serves := follows.serves
    have tidy := follows.tidy
    -- The number of the new sender is that of the senders so far, and the course counts these as well.
    have number : runtime.world.senders.length = course.begun :=
      (congrArg (fun dispatch => dispatch.senders.length) follows.dispatch).trans follows.begun
    rw [follows.idle active] at serves
    rw [active] at tidy
    have begun (session : ActiveSession ν) (idle : some session = none) :
        options.integrations.names = [] := absurd idle (Option.some_ne_none _)
    refine ⟨orderly, ?_, follows.plain, begun _, ?_, ?_, ?_, ?_, ?_, ?_⟩
    · rw [board]
      exact serves.begin follows.orderly.sound follows.orderly.rooted options.integrations
    · exact (congrArg World.clock world).trans follows.clock
    · exact (congrArg World.host world).trans follows.host
    · rw [← number]
      exact congrArg World.session world
    · rw [Course.dispatch_of_jobs rfl, ← follows.dispatch]
      exact congrArg World.dispatch world
    · rw [Course.dispatch_of_jobs rfl, ← follows.begun]
      exact List.length_append
    · rw [Course.dispatch_of_jobs rfl, Course.handed_of_jobs rfl, ← follows.begun]
      exact (List.append_nil _).symm ▸ tidy.start options.syncMode

theorem shutdown (follows : Follows clock outbox course runtime) :
    Follows clock outbox (course.after clock .shutdown) (runtime.after .shutdown) := by
  obtain ⟨orderly, ended, inactive⟩ := follows.orderly.shutdown
  rw [Runtime.after, Course.after]
  cases active : course.session with
  | none =>
    rw [shutdown_of_idle (follows.session.trans active)]
    exact follows
  | some session =>
    obtain ⟨-, world⟩ := shutdown_of_session (follows.session.trans active)
    have settled := settle_silent runtime.world session
    have tidy := follows.tidy
    rw [active] at tidy
    refine ⟨orderly, ?_, follows.plain, fun _ => rfl, ?_, ?_, ended, ?_, ?_, ?_⟩
    · exact .nothing inactive (orderly.same_of_idle inactive).entries
    · exact (congrArg World.clock world).trans ((congrArg World.clock settled).trans follows.clock)
    · exact (congrArg World.host world).trans ((congrArg World.host settled).trans follows.host)
    · rw [Course.dispatch_of_jobs rfl, ← follows.dispatch]
      exact (congrArg World.dispatch world).trans (congrArg World.dispatch settled)
    · rw [Course.dispatch_of_jobs rfl, ← follows.begun, List.foldl_cons, List.foldl_nil]
      exact Dispatch.length_change
    · rw [Course.dispatch_of_jobs rfl, Course.handed_of_jobs rfl]
      exact (List.append_nil _).symm ▸ tidy.settle

theorem after (follows : Follows clock outbox course runtime) {act : Act σ ν} (permitted : runtime.Permits act)
    (plain : act.Plain) : Follows clock outbox (course.after clock act) (runtime.after act) := by
  cases act with
  | init network environment options fresh => exact follows.init network environment options fresh
  | shutdown => exact follows.shutdown
  | write change => exact follows.write plain permitted
  | call isAsync site args => exact follows.call isAsync site args
  | work number count => exact follows.work number count

end Follows

theorem Reached.follows {host : σ} {clock : σ → Float} {outbox : Outbox ν} {acts : List (Act σ ν)}
    {runtime : Runtime σ ν} (reached : Reached (fresh host clock outbox) acts runtime)
    (plain : ∀ act ∈ acts, act.Plain) : Follows clock outbox (Course.along clock host acts) runtime := by
  induction reached with
  | start => exact .start host clock outbox
  | step _ act permitted ih =>
    rw [Course.along_append]
    have before := ih fun earlier among => plain earlier (List.mem_append_left _ among)
    exact before.after permitted (plain act (List.mem_append_right _ List.mem_cons_self))

end Runtime

end LlmTelemetry

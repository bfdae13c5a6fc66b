import LlmTelemetry.Proofs.Delivery.Retries
import LlmTelemetry.Proofs.Event.PayloadFields
import LlmTelemetry.Proofs.Session.Captures
/-!
# What a program hands over

A record that is handed over comes of one call, and carries the settings of the session in which this call began.
Which session that is can be read off the acts alone: an `init` begins one when none is active, and a `shutdown` ends
it (`Opening.active`). The number of a record among those that were handed over tells the call that it comes of
(`Course.HandsOver`), and the options of the `init` tell what goes out for it: both events of the record, with the
identifier, the agent and the redaction of the session (`Opening.Posts`).
-/

namespace LlmTelemetry

variable {σ ν : Type}

/-! ## How a session was begun -/

/-- The options that a session was begun with. -/
structure Opening where
  options : SessionOptions
  /-- The identifier for a session that does not ask for one. -/
  fresh : String

namespace Opening

/-- The identifier that the session asks for, unless it is empty. -/
def sessionId (opening : Opening) : String :=
  match opening.options.sessionId with
  | some id => if id = "" then opening.fresh else id
  | none => opening.fresh

def redaction (opening : Opening) : Redaction where
  blackout := opening.options.redact
  patterns := opening.options.patterns
  filter := opening.options.filter

/-- What the events of a call in the session carry beyond the record. -/
def labels (opening : Opening) (stamp : Stamp) : EventLabels where
  sessionId := opening.sessionId
  agentId := opening.options.agentId
  stamp := stamp
  source := .automatic

/-- How the session was begun that is active after an act. -/
def after (current : Option Opening) : Runtime.Act σ ν → Option Opening
  | .init _ _ options fresh => current.or (some ⟨options, fresh⟩)
  | .shutdown => none
  | .write _ | .call _ _ _ | .work _ _ => current

/-- How the session was begun that is active after all of the acts. -/
def active (acts : List (Runtime.Act σ ν)) : Option Opening :=
  acts.foldl after none

theorem active_append (acts : List (Runtime.Act σ ν)) (act : Runtime.Act σ ν) :
    active (acts ++ [act]) = after (active acts) act := by
  rw [active, List.foldl_append, active]
  rfl

/-- The snapshot has the settings that the session was begun with. -/
structure Governs (opening : Opening) (snapshot : Snapshot ν) : Prop where
  sessionId : snapshot.sessionId = opening.sessionId
  agentId : snapshot.agentId = opening.options.agentId
  redaction : snapshot.redaction = opening.redaction

/-- The attempts for a record of the session. All of them post its two events, which carry the identifier and the
agent of the session. There are none if the redaction aborts, and else there is one at least. -/
inductive Posts (opening : Opening) (record : CallRecord) (stamp : Stamp) : List Attempt → Prop
  | withheld {reason : Panic} (aborts : record.events opening.redaction (opening.labels stamp) = .error reason) :
    Posts opening record stamp []
  | posted {call response : Event} {attempts : List Attempt}
    (built : record.events opening.redaction (opening.labels stamp) = .ok ⟨[call, response]⟩)
    (kinds : call.kind = .llmCall ∧ response.kind = .llmResponse)
    (labelled : ∀ event ∈ [call, response],
      event.sessionId = opening.sessionId ∧ event.agentId = opening.options.agentId)
    (made : attempts ≠ [])
    (alike : ∀ attempt ∈ attempts, attempt.request =
      { method := "POST", path := "/api/events", body := some (EventBatch.encode ⟨[call, response]⟩) }) :
    Posts opening record stamp attempts

theorem governs_snapshotOf (network : Network ν) (environment : Environment) (options : SessionOptions)
    (fresh : String) :
    Governs ⟨options, fresh⟩
      (Runtime.snapshotOf network environment options (Runtime.chooseSessionId options fresh)) where
  sessionId := by
    show Runtime.chooseSessionId options fresh = _
    rw [Runtime.chooseSessionId, Opening.sessionId]
    cases options.sessionId with
    | none => rfl
    | some id => by_cases empty : id = "" <;> simp [Option.filter, empty]
  agentId := rfl
  redaction := rfl

variable {opening : Opening} {snapshot : Snapshot ν}

theorem Governs.posts (governs : opening.Governs snapshot) (record : CallRecord) (stamp : Stamp) (network : ν) :
    opening.Posts record stamp (snapshot.deliver record stamp network).attempts := by
  have same : snapshot.events record stamp = record.events opening.redaction (opening.labels stamp) := by
    rw [Snapshot.events, governs.sessionId, governs.agentId, governs.redaction, labels]
  rw [Snapshot.deliver, same]
  cases called : record.callPayload opening.redaction (opening.labels stamp).stamp.callId with
  | error reason =>
    have aborts := CallRecord.events_eq_error (.inl called)
    rw [aborts]
    exact .withheld aborts
  | ok call =>
    cases answered : record.responsePayload opening.redaction (opening.labels stamp).stamp.callId with
    | error reason =>
      have aborts := CallRecord.events_eq_error (.inr ⟨call, called, answered⟩)
      rw [aborts]
      exact .withheld aborts
    | ok response =>
      have built := CallRecord.events_eq_ok called answered
      rw [built]
      dsimp only [Client.post]
      obtain ⟨delays, attempts⟩ := snapshot.client.exists_attempts (Client.postRequest ⟨_⟩) network
      refine .posted built ⟨rfl, rfl⟩ ?_ ?_ fun attempt among => ?_
      · simp [EventLabels.event, labels]
      · rw [attempts]
        exact List.cons_ne_nil _ _
      · rw [attempts, List.mem_cons] at among
        rcases among with rfl | later
        · rfl
        · obtain ⟨delay, -, rfl⟩ := List.mem_map.mp later
          rfl

end Opening

/-! ## Which call a record comes of -/

/-- A job is left by a call only if a record can be read from what it gives. -/
theorem Job.ofCall_eq_nil_or (provider? : Option Provider) (session? : Option (ActiveSession ν)) (args : Json)
    (ending : Ending String Json) (latencyMs : Float) :
    Job.ofCall provider? session? args ending latencyMs = [] ∨
      asksForStream args = false ∧ ∃ provider session response extraction, provider? = some provider ∧
        session? = some session ∧ ending = .ok response ∧
          provider.extract response args latencyMs = .ok extraction := by
  rw [Job.ofCall.eq_def]
  split
  · rename_i provider session response unstreamed
    cases read : provider.extract response args latencyMs with
    | error reason =>
      left
      rw [Job.ofResponse, read]
    | ok extraction => exact .inr ⟨unstreamed, provider, session, response, extraction, rfl, rfl, rfl, read⟩
  · exact .inl rfl

namespace Course

/-- A call after which the record is handed over: it begins in the session, goes through a target of an active
provider, asks for no stream, gives a value, and the provider reads the record from it. -/
structure Captures (clock : σ → Float) (course : Course σ ν) (isAsync : Bool) (site : CallSite) (args : Json)
    (session : ActiveSession ν) (record : CallRecord) : Prop where
  active : course.session = some session
  unstreamed : asksForStream args = false
  read : ∃ handler provider response extraction, course.given.handlerOfKind site isAsync = .ok handler ∧
    course.provider? site = some provider ∧ (handler.answer args course.host).1 = .ok response ∧
      provider.extract response args (clock (handler.answer args course.host).2 - clock course.host) =
        .ok extraction ∧ extraction.record = record

/-- The record is the one with this number among all that were handed over. It comes of a call that began in a
session with this opening. -/
inductive HandsOver (clock : σ → Float) (host : σ) :
    List (Runtime.Act σ ν) → (number : Nat) → Capture ν → Opening → Prop
  | call {before later : List (Runtime.Act σ ν)} {isAsync : Bool} {site : CallSite} {args : Json}
    {session : ActiveSession ν} {record : CallRecord} {opening : Opening}
    (captures : (along clock host before).Captures clock isAsync site args session record)
    (opened : Opening.active before = some opening) :
    HandsOver clock host (before ++ .call isAsync site args :: later) (along clock host before).handed.length
      ⟨session.snapshot, record⟩ opening

variable {clock : σ → Float} {host : σ} {course : Course σ ν} {acts : List (Runtime.Act σ ν)}

theorem handed_after_call {isAsync : Bool} {site : CallSite} {args : Json} {session : ActiveSession ν}
    {record : CallRecord} (captures : course.Captures clock isAsync site args session record) :
    (course.after clock (.call isAsync site args)).handed = course.handed ++ [⟨session.snapshot, record⟩] := by
  obtain ⟨active, unstreamed, handler, provider, response, extraction, found, aims, answered, read, rfl⟩ := captures
  simp [after, found, call, handed, Job.ofCall, Job.ofResponse, active, unstreamed, aims, answered, read,
    Job.capture?]

/-- An act hands over nothing, unless it is a call that is captured. -/
theorem handed_after (clock : σ → Float) (course : Course σ ν) (act : Runtime.Act σ ν) :
    (course.after clock act).handed = course.handed ∨
      ∃ isAsync site args session record, act = .call isAsync site args ∧
        course.Captures clock isAsync site args session record := by
  cases act with
  | init network environment options fresh =>
    left
    cases active : course.session <;> simp [after, active, handed, Job.capture?]
  | shutdown =>
    left
    cases active : course.session <;> simp [after, active, handed, Job.capture?]
  | write change => exact .inl rfl
  | work number count => simp [after, handed, Job.capture?]
  | call isAsync site args =>
    cases found : course.given.handlerOfKind site isAsync with
    | error reason => simp [after, found]
    | ok handler =>
      obtain idle | ⟨unstreamed, provider, session, response, extraction, aims, active, answered, read⟩ :=
        Job.ofCall_eq_nil_or (course.provider? site) course.session args (handler.answer args course.host).1
          (clock (handler.answer args course.host).2 - clock course.host)
      · simp [after, found, call, handed, idle]
      · exact .inr ⟨isAsync, site, args, session, extraction.record, rfl, active, unstreamed, handler, provider,
          response, extraction, found, aims, answered, read, rfl⟩

/-- What was handed over stays so, whatever the program does later. -/
theorem handed_append (clock : σ → Float) (host : σ) (acts later : List (Runtime.Act σ ν)) :
    (along clock host acts).handed <+: (along clock host (acts ++ later)).handed := by
  induction later using List.reverseRecOn with
  | nil => rw [List.append_nil]
  | append_singleton later act ih =>
    rw [← List.append_assoc, along_append]
    obtain same | ⟨isAsync, site, args, session, record, rfl, captures⟩ :=
      handed_after clock (along clock host (acts ++ later)) act
    · rwa [same]
    · rw [handed_after_call captures]
      exact ih.trans (List.prefix_append _ _)

theorem governs_session_after {opening : Option Opening}
    (governed : Option.Rel (fun session opening => opening.Governs session.snapshot) course.session opening)
    (act : Runtime.Act σ ν) :
    Option.Rel (fun session opening => opening.Governs session.snapshot) (course.after clock act).session
      (Opening.after opening act) := by
  cases act with
  | init network environment options fresh =>
    rw [after]
    cases active : course.session with
    | none =>
      rw [active] at governed
      cases governed
      exact .some (Opening.governs_snapshotOf network environment options fresh)
    | some session =>
      rw [active] at governed
      cases governed with
      | some governs =>
        rw [active]
        exact .some governs
  | shutdown =>
    rw [after]
    cases active : course.session with
    | none =>
      rw [active]
      exact .none
    | some session => exact .none
  | write change => exact governed
  | call isAsync site args =>
    rw [after]
    cases course.given.handlerOfKind site isAsync with
    | error reason => exact governed
    | ok handler => exact governed
  | work number count => exact governed

/-- The settings of the active session are those that it was begun with. -/
theorem governs_session (clock : σ → Float) (host : σ) (acts : List (Runtime.Act σ ν)) :
    Option.Rel (fun session opening => opening.Governs session.snapshot) (along clock host acts).session
      (Opening.active acts) := by
  induction acts using List.reverseRecOn with
  | nil => exact .none
  | append_singleton acts act ih =>
    rw [along_append, Opening.active_append]
    exact governs_session_after ih act

/-- A captured call begins in the session that is active by then, under its settings. -/
theorem Captures.opened {isAsync : Bool} {site : CallSite} {args : Json} {session : ActiveSession ν}
    {record : CallRecord} (captures : (along clock host acts).Captures clock isAsync site args session record) :
    ∃ opening, Opening.active acts = some opening ∧ opening.Governs session.snapshot := by
  have governed := governs_session clock host acts
  rw [captures.active] at governed
  revert governed
  cases Opening.active acts with
  | none => nofun
  | some opening =>
    rintro ⟨governs⟩
    exact ⟨opening, rfl, governs⟩

theorem HandsOver.governs {number : Nat} {capture : Capture ν} {opening : Opening}
    (origin : HandsOver clock host acts number capture opening) : opening.Governs capture.snapshot := by
  cases origin with
  | call captures opened =>
    obtain ⟨opening, known, governs⟩ := captures.opened
    cases opened.symm.trans known
    exact governs

theorem HandsOver.append {number : Nat} {capture : Capture ν} {opening : Opening}
    (origin : HandsOver clock host acts number capture opening) (more : List (Runtime.Act σ ν)) :
    HandsOver clock host (acts ++ more) number capture opening := by
  cases origin with
  | call captures opened =>
    rw [List.append_assoc]
    exact .call captures opened

/-- The number of a record tells the call that it comes of, and every captured call has one. -/
theorem getElem?_handed {number : Nat} {capture : Capture ν} :
    (along clock host acts).handed[number]? = some capture ↔
      ∃ opening, HandsOver clock host acts number capture opening := by
  constructor
  · intro found
    induction acts using List.reverseRecOn with
    | nil => cases found
    | append_singleton acts act ih =>
      rw [along_append] at found
      obtain same | ⟨isAsync, site, args, session, record, rfl, captures⟩ :=
        handed_after clock (along clock host acts) act
      · rw [same] at found
        obtain ⟨opening, origin⟩ := ih found
        exact ⟨opening, origin.append [act]⟩
      · rw [handed_after_call captures] at found
        by_cases earlier : number < (along clock host acts).handed.length
        · rw [List.getElem?_append_left earlier] at found
          obtain ⟨opening, origin⟩ := ih found
          exact ⟨opening, origin.append _⟩
        · obtain ⟨here, rfl⟩ : number = (along clock host acts).handed.length ∧
              ⟨session.snapshot, record⟩ = capture := by
            rw [List.getElem?_append_right (not_lt.mp earlier), List.getElem?_singleton] at found
            split at found
            · exact ⟨by omega, Option.some.inj found⟩
            · cases found
          obtain ⟨opening, opened, -⟩ := captures.opened
          exact ⟨opening, here ▸ .call captures opened⟩
  · rintro ⟨opening, origin⟩
    cases origin with
    | @call before later isAsync site args session record opening captures opened =>
      have grown := handed_append clock host (before ++ [.call isAsync site args]) later
      rw [along_append, handed_after_call captures, List.append_assoc] at grown
      obtain ⟨rest, same⟩ := grown
      show (along clock host (before ++ ([.call isAsync site args] ++ later))).handed[_]? = _
      rw [← same, List.append_assoc, List.getElem?_append_right le_rfl, Nat.sub_self]
      rfl

end Course

/-! ## What goes out -/

/-- Records that are delivered one after the other have each their share of the attempts. -/
theorem Outbox.exists_shares {stamps : Nat → Stamp} {base : Nat} {posts : Capture ν × Nat → List Attempt → Prop}
    (captures : List (Capture ν)) (outbox : Outbox ν) {start : Nat} (stamped : outbox.stamps = stamps)
    (begun : outbox.begun = base + start)
    (each : ∀ sent ∈ captures.zipIdx start, ∀ network,
      posts sent (sent.1.snapshot.deliver sent.1.record (stamps (base + sent.2)) network).attempts) :
    ∃ shares : List (List Attempt),
      (captures.foldl Outbox.deliver outbox).attempts = outbox.attempts ++ shares.flatten ∧
        List.Forall₂ posts (captures.zipIdx start) shares := by
  induction captures generalizing outbox start with
  | nil => exact ⟨[], (List.append_nil _).symm, .nil⟩
  | cons capture rest ih =>
    rw [List.zipIdx_cons, List.forall_mem_cons] at each
    obtain ⟨here, others⟩ := each
    have next : (outbox.deliver capture).begun = base + (start + 1) := by
      rw [← Nat.add_assoc, ← begun]
      rfl
    obtain ⟨shares, attempts, posted⟩ := ih (outbox.deliver capture) stamped next others
    have share := here outbox.network
    rw [← begun, ← stamped] at share
    refine ⟨_ :: shares, ?_, .cons share posted⟩
    rw [List.foldl_cons, attempts, List.flatten_cons, ← List.append_assoc]
    rfl

/-- Whose events a request posts, with the completions that they show. -/
def Request.posted (request : Request) : List (Option String × Option String × Option String) :=
  match request.body.bind (Json.field? "events") with
  | some (.array events) => events.map fun event =>
      (event.stringField? "sessionId", event.stringField? "agentId",
        (event.field? "payload").bind (Json.stringField? "completion"))
  | _ => []

namespace Runtime

/-- The records that the senders of a program were handed are those of its course: one for every call that begins
in a session, through a target of an active provider, asks for no stream, gives a value, and can be read, in the
order of the calls, each to the sender of the session in which its call began and with the identifier, the agent
and the redaction that this session was begun with. The network sees these records in this order and no others,
each by attempts that post its two events under these settings; what it has not seen yet waits in the sender of
the active session. -/
theorem Reached.hands_over_exactly {host : σ} {clock : σ → Float} {outbox : Outbox ν}
    {acts : List (Act σ ν)} {runtime : Runtime σ ν}
    (reached : Reached (fresh host clock outbox) acts runtime) (plain : ∀ act ∈ acts, act.Plain) :
    let course := Course.along clock host acts
    runtime.world.host = course.host ∧ runtime.world.session = course.session ∧
      (∀ entry ∈ Provider.builtin,
        (KeyedList.contains entry.1.name runtime.registry.active = true ↔ entry ∈ course.active)) ∧
      runtime.world.dispatch = course.jobs.foldl Dispatch.perform { outbox := outbox } ∧
      (∀ number capture, course.handed[number]? = some capture ↔
        ∃ opening, Course.HandsOver clock host acts number capture opening) ∧
      (∀ number capture opening, Course.HandsOver clock host acts number capture opening →
        opening.Governs capture.snapshot) ∧
      ∃ delivered queued shares, course.handed = delivered ++ queued ∧
        runtime.world.dispatch.Holds (course.session.map (·.sender)) queued ∧
        runtime.world.outbox = delivered.foldl Outbox.deliver outbox ∧
        runtime.world.outbox.attempts = outbox.attempts ++ List.flatten shares ∧
        List.Forall₂ (fun sent share => ∃ opening, Course.HandsOver clock host acts sent.2 sent.1 opening ∧
          opening.Posts sent.1.record (outbox.stamps (outbox.begun + sent.2)) share) delivered.zipIdx shares := by
  have follows := reached.follows plain
  refine ⟨follows.host, follows.session, fun entry known => ?_, follows.dispatch,
    fun _ _ => Course.getElem?_handed, fun _ _ _ origin => origin.governs, ?_⟩
  · have served := follows.serves.active entry known
    rw [show KeyedList.contains entry.1.name runtime.registry.active = _ from served, Course.active,
      List.mem_filter, and_iff_right known]
  · obtain ⟨delivered, queued, split, seen, held⟩ := follows.tidy.delivers
    rw [← follows.dispatch] at seen held
    let posts (sent : Capture ν × Nat) (share : List Attempt) : Prop :=
      ∃ opening, Course.HandsOver clock host acts sent.2 sent.1 opening ∧
        opening.Posts sent.1.record (outbox.stamps (outbox.begun + sent.2)) share
    have each : ∀ sent ∈ delivered.zipIdx, ∀ network, posts sent
        (sent.1.snapshot.deliver sent.1.record (outbox.stamps (outbox.begun + sent.2)) network).attempts := by
      intro sent among network
      have found := List.mk_mem_zipIdx_iff_getElem?.mp among
      have handed : (Course.along clock host acts).handed[sent.2]? = some sent.1 := by
        rw [split, List.getElem?_append_left (List.getElem?_eq_some_iff.mp found).1, found]
      obtain ⟨opening, origin⟩ := Course.getElem?_handed.mp handed
      exact ⟨opening, origin, origin.governs.posts sent.1.record _ network⟩
    obtain ⟨shares, attempts, posted⟩ :=
      Outbox.exists_shares delivered outbox rfl (Nat.add_zero _).symm each
    exact ⟨delivered, queued, shares, split, held, seen, (congrArg Outbox.attempts seen).trans attempts, posted⟩

/-- Two sessions, the first of them asynchronous and the second under blackout, with calls in them and around
them. -/
theorem hands_over_in_two_sessions :
    let outbox : Outbox Unit := { network := (), stamps := fun _ => ⟨"c", "t"⟩ }
    ∃ acts runtime, Reached (fresh () (fun _ => 0) outbox) acts runtime ∧ (∀ act ∈ acts, act.Plain) ∧
      let handed := (Course.along (fun _ => 0) () acts).handed
      (handed.map fun capture =>
          (capture.snapshot.sessionId, capture.snapshot.agentId, capture.snapshot.redaction.blackout)) =
        [("first", "one", false), ("second", "two", true)] ∧
      runtime.world.outbox = handed.foldl Outbox.deliver outbox ∧
      (runtime.world.outbox.attempts.map fun attempt => attempt.request.posted) =
        [[(some "first", some "one", none), (some "first", some "one", none)],
          [(some "second", some "two", none), (some "second", some "two", some "[REDACTED]")]] := by
  intro outbox
  let register : Act Unit Unit :=
    .write (.register Provider.OpenAI.moduleName (some "Completions") "create" (Managed.echo 1))
  let first : Act Unit Unit :=
    .init (.unreachable Unit) {} { sessionId := some "first", agentId := "one" } "fresh"
  let second : Act Unit Unit :=
    .init (.unreachable Unit) {} { sessionId := some "", agentId := "two", redact := true, syncMode := true } "second"
  let create : Act Unit Unit := .call false ⟨1, "create"⟩ (.object [])
  let streamed : Act Unit Unit := .call false ⟨1, "create"⟩ (.object [("stream", .bool true)])
  let acts := [register, create, first, streamed, create, .shutdown, create, second, create, .shutdown]
  have plain : ∀ act ∈ acts, act.Plain := by
    simp [acts, Act.Plain, register, create, first, streamed, second, HostWrite.handler?, Managed.echo,
      Handler.Plain, Handler.interceptors]
  -- The state that is reached stays unnamed, since only its course is evaluated.
  obtain ⟨runtime, reached⟩ : ∃ runtime, Reached (fresh () (fun _ => 0) outbox) acts runtime := by
    have registered : Reached (fresh () (fun _ => 0) outbox) [register] _ := Reached.start.step _ rfl
    exact ⟨_, registered
      |>.step create trivial
      |>.step first trivial
      |>.step streamed trivial
      |>.step create trivial
      |>.step .shutdown trivial
      |>.step create trivial
      |>.step second trivial
      |>.step create trivial
      |>.step .shutdown trivial⟩
  obtain ⟨-, -, -, -, -, -, delivered, queued, shares, split, held, seen, -⟩ := reached.hands_over_exactly plain
  have ended : (Course.along (fun _ => 0) () acts).session = none := rfl
  rw [ended] at held
  rw [show queued = [] from held, List.append_nil] at split
  rw [← split] at seen
  refine ⟨acts, runtime, reached, plain, ?_, seen, ?_⟩
  · decide +kernel
  · rw [seen]
    decide +kernel

end Runtime

end LlmTelemetry

import LlmTelemetry.Delivery.Sender
import LlmTelemetry.Proofs.Delivery.Retries
import LlmTelemetry.Proofs.Delivery.Stamps
import LlmTelemetry.Proofs.Redaction.Aborts
/-!
# Calls logged by hand

A call can be logged by hand, or be handed to a synchronous sender like one that was captured. Both ways post the same
two events in the same attempts. The events differ in three places, which `Request.unlabelled` blanks: the identifier
of the call, the timestamp and the metadata.

What differs is how it ends. The sender swallows that. By hand one gets the identifier that the events carry, when the
last attempt was a success with a body that is blank or that the JSON reader accepts, and otherwise the failure of this
attempt. The reader refuses some texts that follow the grammar, and a policy may ask for a wait that is no duration, in
which case the call aborts after its last attempt.
-/

namespace LlmTelemetry

variable {ν : Type}

/-! ## Events without their labels -/

/-- An event without the identifier of its call, its timestamp and its metadata. -/
def Json.unlabelledEvent (event : Json) : Json :=
  event.unstampedEvent.mapField "metadata" fun _ => .null

namespace Request

/-- A request without the labels of the events in its body. -/
def unlabelled (request : Request) : Request :=
  { request with body := request.body.map (Json.mapField "events" (Json.mapEach Json.unlabelledEvent)) }

/-- The events in the body. -/
def events (request : Request) : List Json :=
  ((request.body.bind (Json.field? "events")).bind Json.asArray?).getD []

theorem events_postRequest (batch : EventBatch) :
    (Client.postRequest batch).events = batch.events.map Event.encode := by
  simp [Client.postRequest, events, EventBatch.encode, Json.asArray?, KeyedList.find?]

end Request

/-- The transport answers alike whatever the labels are. -/
def Transport.LabelBlind (transport : Transport ν) : Prop :=
  ∀ first second : Request, first.unlabelled = second.unlabelled →
    ∀ network, transport.attempt first network = transport.attempt second network

theorem Transport.Positional.labelBlind {transport : Transport ν} (positional : transport.Positional) :
    transport.LabelBlind :=
  fun first second _ => positional first second

/-- The event tells of this call, of this time and of this source. -/
structure Json.Labelled (labels : EventLabels) (event : Json) : Prop where
  callId : (event.field? "payload").bind (Json.field? "callId") = some (.string labels.stamp.callId)
  timestamp : event.field? "timestamp" = some (.string labels.stamp.timestamp)
  metadata : event.field? "metadata" = some labels.source.metadata

/-- The two events of a call with these payloads, but for their identifiers. -/
def EventLabels.pair (labels : EventLabels) (call : CallPayload) (response : ResponsePayload) : EventBatch :=
  ⟨[labels.event .llmCall (CallPayload.encode { call with callId := labels.stamp.callId }),
    labels.event .llmResponse (ResponsePayload.encode { response with callId := labels.stamp.callId })]⟩

namespace EventLabels

variable (labels : EventLabels) (call : CallPayload) (response : ResponsePayload)

theorem labelled_event {kind : EventKind} {payload : Json}
    (callId : payload.field? "callId" = some (.string labels.stamp.callId)) :
    (labels.event kind payload).encode.Labelled labels := by
  constructor
  · simpa [Event.encode, event, KeyedList.find?] using callId
  · simp [Event.encode, event, KeyedList.find?]
  · simp [Event.encode, event, KeyedList.find?]

theorem labelled_pair :
    (Client.postRequest (labels.pair call response)).events.length = 2 ∧
      ∀ event ∈ (Client.postRequest (labels.pair call response)).events, event.Labelled labels := by
  rw [Request.events_postRequest]
  refine ⟨rfl, ?_⟩
  simp only [pair, List.map_cons, List.map_nil, List.forall_mem_cons, List.not_mem_nil, false_implies, implies_true,
    and_true]
  constructor
  · apply labelled_event
    simp [CallPayload.encode, KeyedList.find?_append, KeyedList.find?]
  · apply labelled_event
    simp [ResponsePayload.encode, KeyedList.find?_append, KeyedList.find?]

theorem unlabelled_event (stamp : Stamp) (source : EventSource) (kind : EventKind) {payload payload' : Json}
    (same : payload.mapField "callId" (fun _ => .null) = payload'.mapField "callId" fun _ => .null) :
    (event { labels with stamp, source } kind payload).encode.unlabelledEvent =
      (labels.event kind payload').encode.unlabelledEvent := by
  simp [Json.unlabelledEvent, Json.unstampedEvent, Event.encode, Json.mapField_record, event, same]

theorem unlabelled_pair (stamp : Stamp) (source : EventSource) :
    (Client.postRequest (({ labels with stamp, source } : EventLabels).pair call response)).unlabelled =
      (Client.postRequest (labels.pair call response)).unlabelled := by
  have called := labels.unlabelled_event stamp source .llmCall
    ((call.unstamped_encode stamp.callId).trans (call.unstamped_encode labels.stamp.callId).symm)
  have answered := labels.unlabelled_event stamp source .llmResponse
    ((response.unstamped_encode stamp.callId).trans (response.unstamped_encode labels.stamp.callId).symm)
  simp only [Client.postRequest, Request.unlabelled, Option.map_some, EventBatch.encode, pair, Json.mapField_record,
    List.map_cons, List.map_nil, if_true, Json.mapEach]
  rw [called, answered]

end EventLabels

/-- Without patterns and filter a record has its two events, and the payloads do not depend on the labels. -/
theorem CallRecord.exists_payloads (record : CallRecord) (blackout : Bool) :
    ∃ call response, ∀ labels : EventLabels,
      record.events { blackout := blackout } labels = .ok (labels.pair call response) := by
  have nothing : ¬ Redaction.hasFilters { blackout := blackout } = true := by simp [Redaction.hasFilters]
  have builds (labels : EventLabels) : ¬ Ending.Fails (record.events { blackout := blackout } labels) := by
    rw [record.events_fail_iff]
    rintro ⟨text, -, fails⟩
    exact Redaction.not_fails_of_no_filters nothing text fails
  let labels : EventLabels := ⟨"", "", ⟨"", ""⟩, .explicit⟩
  cases called : record.callPayload { blackout := blackout } "" with
  | error reason => exact absurd ⟨reason, CallRecord.events_eq_error (.inl called)⟩ (builds labels)
  | ok call =>
    cases answered : record.responsePayload { blackout := blackout } "" with
    | error reason =>
      exact absurd ⟨reason, CallRecord.events_eq_error (.inr ⟨call, called, answered⟩)⟩ (builds labels)
    | ok response =>
      refine ⟨call, response, fun labels => CallRecord.events_eq_ok ?_ ?_⟩
      · rw [record.callPayload_restamp _ labels.stamp.callId "", called]
        rfl
      · rw [record.responsePayload_restamp _ labels.stamp.callId "", answered]
        rfl

/-! ## How a call ends -/

/-- The body is blank, or the JSON reader accepts it. -/
def Response.Readable (response : Response) : Prop :=
  Unicode.isBlank response.body = true ∨ (Json.parse? response.body).isSome = true

namespace Client

/-- The outcome is a success with a readable body. -/
def Accepted : Ending ApiError Response → Prop
  | .ok response => response.isSuccess = true ∧ response.Readable
  | .error _ => False

/-- What an outcome tells the caller that is no such success. -/
def failure : Ending ApiError Response → Fault ApiError
  | .error fault => fault
  | .ok response =>
    .error (if response.isSuccess then .api response.status "invalid JSON response" none else response.error)

variable {client : Client ν} {request : Request} {network : ν} {attempt : Nat}

/-- What the body of a success gives. -/
theorem parseBody_cases (response : Response) :
    response.Readable ∧ (∃ value, parseBody response = .ok value) ∨
      ¬ response.Readable ∧ parseBody response = .error (.api response.status "invalid JSON response" none) := by
  unfold Response.Readable parseBody
  split
  · rename_i blank
    exact .inl ⟨.inl blank, _, rfl⟩
  · rename_i filled
    cases Json.parse? response.body with
    | some value => exact .inl ⟨.inr rfl, _, rfl⟩
    | none => exact .inr ⟨by simp [filled], rfl⟩

/-- After a success the policy asks for no wait. -/
theorem decide?_of_success (policy : RetryPolicy) (attempt : Nat) {response : Response}
    (success : response.isSuccess = true) : policy.decide? attempt response.error = some .giveUp := by
  refine RetryPolicy.decide?_eq_giveUp.mpr (.inl ?_)
  rw [← Bool.not_eq_true, response.isRetryable_error, not_not]
  exact .inl success

/-- How a call ends with an attempt that is its last. -/
theorem conclude_cases (client : Client ν) (request : Request) (network : ν) (attempt : Nat) :
    let outcome := client.outcome request network attempt
    Accepted outcome ∧ client.decision request network attempt ≠ none ∧
        (∃ value, client.conclude attempt outcome = .ok value) ∨
      ¬ Accepted outcome ∧ client.decision request network attempt ≠ none ∧
        client.conclude attempt outcome = .error (failure outcome) ∨
      ¬ Accepted outcome ∧ client.decision request network attempt = none ∧
        client.conclude attempt outcome = .error (.panic unrepresentableWait) := by
  unfold decision
  cases client.outcome request network attempt with
  | error fault => exact .inr (.inl ⟨id, by simp, rfl⟩)
  | ok response =>
    simp only [conclude, failure]
    by_cases success : response.isSuccess = true
    · rw [if_pos success, if_pos success, decide?_of_success client.policy attempt success]
      obtain ⟨readable, value, parsed⟩ | ⟨unreadable, refused⟩ := parseBody_cases response
      · exact .inl ⟨⟨success, readable⟩, by simp, value, by rw [parsed]; rfl⟩
      · exact .inr (.inl ⟨fun accepted => unreadable accepted.2, by simp, by rw [refused]; rfl⟩)
    · rw [if_neg success, if_neg success]
      have failed : ¬ Accepted (.ok response) := fun accepted => success accepted.1
      cases client.policy.decide? attempt response.error with
      | none => exact .inr (.inr ⟨failed, rfl, rfl⟩)
      | some decision => exact .inr (.inl ⟨failed, by simp, rfl⟩)

/-- A call ends as its last attempt does. -/
theorem attemptFrom_concludes (client : Client ν) (request : Request) (network : ν) (left attempt : Nat)
    (wait : Duration) :
    ∃ more,
      (client.attemptFrom request left attempt wait (client.networkBefore request network attempt)).attempts.length =
          more + 1 ∧
        (client.attemptFrom request left attempt wait (client.networkBefore request network attempt)).result =
          client.conclude (attempt + more) (client.outcome request network (attempt + more)) := by
  induction left generalizing attempt wait with
  | zero => exact ⟨0, rfl, rfl⟩
  | succ left ih =>
    cases again : client.retryDelay? attempt (client.outcome request network attempt) with
    | none =>
      rw [attemptFrom_of_none again]
      exact ⟨0, rfl, rfl⟩
    | some delay =>
      rw [attemptFrom_of_some again]
      obtain ⟨more, length, result⟩ := ih (attempt + 1) delay
      refine ⟨more + 1, congrArg Nat.succ length, ?_⟩
      rwa [Nat.add_right_comm, Nat.add_assoc] at result

/-- How a call ends that gives a value of its own for whatever the collector answers. -/
theorem result_andThen {α : Type} {run : Run ν Json} {last : Nat}
    (concluded : run.result = client.conclude last (client.outcome request network last)) (value : α) :
    let outcome := client.outcome request network last
    let result := (run.andThen fun _ => .ok value).result
    (∀ answer, result = .ok answer ↔ answer = value ∧ Accepted outcome) ∧
      (¬ Accepted outcome → client.decision request network last ≠ none → result = .error (failure outcome)) ∧
      (client.decision request network last = none → result = .error (.panic unrepresentableWait)) := by
  have kept {fault : Fault ApiError} (ended : run.result = .error fault) :
      (run.andThen fun _ => .ok value).result = .error fault := by
    rw [Run.andThen, ended]
  obtain ⟨accepted, decided, body, ended⟩ | ⟨refused, decided, ended⟩ | ⟨refused, undecided, ended⟩ :=
    client.conclude_cases request network last
  · have given : (run.andThen fun _ => .ok value).result = .ok value := by
      rw [Run.andThen, concluded, ended]
    rw [given]
    refine ⟨fun answer => ?_, fun refused => absurd accepted refused, fun undecided => absurd undecided decided⟩
    simp [accepted, eq_comm]
  · have failed := kept (concluded.trans ended)
    rw [failed]
    refine ⟨fun answer => ?_, fun _ _ => rfl, fun undecided => absurd undecided decided⟩
    simp [refused]
  · have failed := kept (concluded.trans ended)
    rw [failed]
    refine ⟨fun answer => ?_, fun _ decided => absurd undecided decided, fun _ => rfl⟩
    simp [refused]

theorem log_eq (client : Client ν) {record : CallRecord} {redact : Bool} {sessionId agentId : String} {stamp : Stamp}
    {batch : EventBatch}
    (built : record.events { blackout := redact } ⟨sessionId, agentId, stamp, .explicit⟩ = .ok batch) (network : ν) :
    client.log sessionId agentId record redact stamp network =
      (client.post batch network).andThen fun _ => .ok ⟨stamp.callId⟩ := by
  rw [log, built]

end Client

/-- A call is logged by hand in the same attempts in which a synchronous sender delivers it, with the same waits between
them, and leaves the network as the sender does. The two requests are the same but for the labels of their two events,
which are those of the one way and of the other. By hand one gets exactly the identifier in both events if the last
attempt is a success with a readable body; otherwise the failure of the last attempt, unless the policy asks for a wait
after it that is no duration. -/
theorem Client.log_agrees_with_send {client : Client ν} (blind : client.transport.LabelBlind) (sender : Sender ν)
    (direct : sender.synchronous = true) (started : sender.phase ≠ .stopped) (sessionId agentId : String)
    (record : CallRecord) (redact : Bool) (stamp : Stamp) (outbox : Outbox ν) :
    let logged := client.log sessionId agentId record redact stamp outbox.network
    let snapshot : Snapshot ν := { client, agentId, sessionId }
    let sent := (sender.send ⟨snapshot.withBlackout redact, record⟩ outbox).2
    ∃ (byHand bySender : Request) (waits : List Duration) (last : Nat),
      logged.attempts = waits.map (⟨·, byHand⟩) ∧ sent.attempts = outbox.attempts ++ waits.map (⟨·, bySender⟩) ∧
      logged.network = sent.network ∧ byHand.unlabelled = bySender.unlabelled ∧
      byHand.events.length = 2 ∧
      (∀ event ∈ byHand.events, event.Labelled ⟨sessionId, agentId, stamp, .explicit⟩) ∧
      bySender.events.length = 2 ∧
      (∀ event ∈ bySender.events, event.Labelled ⟨sessionId, agentId, outbox.stamps outbox.begun, .automatic⟩) ∧
      waits.length = last + 1 ∧
      (∀ answer, logged.result = .ok answer ↔
        answer = ⟨stamp.callId⟩ ∧ Accepted (client.outcome byHand outbox.network last)) ∧
      (¬ Accepted (client.outcome byHand outbox.network last) → client.decision byHand outbox.network last ≠ none →
        logged.result = .error (failure (client.outcome byHand outbox.network last))) ∧
      (client.decision byHand outbox.network last = none → logged.result = .error (.panic unrepresentableWait)) := by
  intro logged snapshot sent
  obtain ⟨call, response, events⟩ := record.exists_payloads redact
  let byHand : EventLabels := ⟨sessionId, agentId, stamp, .explicit⟩
  let bySender : EventLabels := ⟨sessionId, agentId, outbox.stamps outbox.begun, .automatic⟩
  have logs : logged = (client.post (byHand.pair call response) outbox.network).andThen fun _ => .ok ⟨stamp.callId⟩ :=
    client.log_eq (events byHand) outbox.network
  have built : (snapshot.withBlackout redact).events record bySender.stamp = .ok (bySender.pair call response) :=
    events bySender
  have delivers : (snapshot.withBlackout redact).deliver record bySender.stamp outbox.network =
      client.post (bySender.pair call response) outbox.network := by
    rw [Snapshot.deliver, built]
    rfl
  have sends : sent = outbox.deliver ⟨snapshot.withBlackout redact, record⟩ := by
    simp [sent, Sender.send, started, direct]
  have alike := bySender.unlabelled_pair call response stamp .explicit
  obtain ⟨waits, here, there, -, network⟩ :=
    attemptFrom_of_answered (blind _ _ alike) client.policy.maxRetries.toNat 0 ⟨0⟩ outbox.network
  obtain ⟨last, length, result⟩ := client.attemptFrom_concludes (postRequest (byHand.pair call response))
    outbox.network client.policy.maxRetries.toNat 0 ⟨0⟩
  rw [Nat.zero_add] at result
  obtain ⟨two, labelled⟩ := byHand.labelled_pair call response
  obtain ⟨alsoTwo, alsoLabelled⟩ := bySender.labelled_pair call response
  refine ⟨postRequest (byHand.pair call response), postRequest (bySender.pair call response), waits, last, ?_, ?_, ?_,
    alike, two, labelled, alsoTwo, alsoLabelled, ?_, ?_⟩
  · rw [logs]
    exact here
  · rw [sends]
    refine congrArg (outbox.attempts ++ ·) ?_
    exact (congrArg Run.attempts delivers).trans there
  · rw [logs, sends]
    exact network.trans (congrArg Run.network delivers).symm
  · rw [← length, networkBefore, here, List.length_map]
  · rw [logs]
    exact result_andThen result (LoggedCall.mk stamp.callId)

namespace Client

/-- After a response with status 503 and then a success, the call has been posted twice either way. -/
theorem log_agrees_with_send_after_backpressure :
    let client : Client (List Response) := ⟨replaying, .standard⟩
    let outbox : Outbox (List Response) :=
      { network := [pushingBack, { status := 200 }], stamps := fun _ => ⟨"sent", "later"⟩ }
    let snapshot : Snapshot (List Response) := { client, agentId := "a", sessionId := "s" }
    let record := CallRecord.blank "openai" "m"
    let logged := client.log "s" "a" record true ⟨"logged", "now"⟩ outbox.network
    let sent := ((Sender.new true).start.send ⟨snapshot.withBlackout true, record⟩ outbox).2
    client.transport.LabelBlind ∧ (Sender.new true : Sender (List Response)).start.synchronous = true ∧
      (Sender.new true : Sender (List Response)).start.phase ≠ .stopped ∧ logged.attempts.length = 2 ∧
      ∃ (byHand bySender : Request) (waits : List Duration), waits.length = 2 ∧
        logged.attempts = waits.map (⟨·, byHand⟩) ∧ sent.attempts = waits.map (⟨·, bySender⟩) ∧
        byHand.unlabelled = bySender.unlabelled ∧
        ∀ event ∈ byHand.events, event.Labelled ⟨"s", "a", ⟨"logged", "now"⟩, .explicit⟩ := by
  intro client outbox snapshot record logged sent
  have positional : client.transport.Positional := fun _ _ _ => rfl
  have twice : logged.attempts.length = 2 := by decide +kernel
  obtain ⟨byHand, bySender, waits, last, here, there, -, alike, -, labelled, -⟩ :=
    log_agrees_with_send positional.labelBlind (Sender.new true).start rfl (by decide) "s" "a" record true
      ⟨"logged", "now"⟩ outbox
  refine ⟨positional.labelBlind, rfl, by decide, twice, byHand, bySender, waits, ?_, here, there, alike, labelled⟩
  rw [← twice, here, List.length_map]

/-- A success with a number that is too large for the reader, though it follows the grammar of JSON, fails a call that is
logged by hand. And when the longest of all durations is the base and the cap of the policy, the call aborts after a
response with status 503 and has no error. -/
theorem log_fails_after_success :
    let record := CallRecord.blank "openai" "m"
    let large : Response := { status := 200, body := "1e999" }
    let longest : Duration := ⟨18446744073709551615999999999⟩
    let standard : Client (List Response) := ⟨replaying, .standard⟩
    let boundless : Client (List Response) := ⟨replaying, ⟨1, longest, longest⟩⟩
    large.isSuccess = true ∧ (Document.parse? large.body).isSome = true ∧
      (standard.log "s" "a" record false ⟨"c", "t"⟩ [large]).attempts.length = 1 ∧
      (standard.log "s" "a" record false ⟨"c", "t"⟩ [large]).result =
        .error (.error (.api 200 "invalid JSON response" none)) ∧
      (boundless.log "s" "a" record false ⟨"c", "t"⟩ [pushingBack]).result = .error (.panic unrepresentableWait) := by
  intro record large longest standard boundless
  obtain ⟨call, answer, events⟩ := record.exists_payloads false
  have unreadable : Json.parse? large.body = none := by
    rw [← Option.isNone_iff_eq_none]
    decide +kernel
  have refuses : standard.conclude 0 (.ok large) = .error (.error (.api 200 "invalid JSON response" none)) := by
    have filled : Unicode.isBlank large.body = false := by decide
    simp [conclude, Response.isSuccess, parseBody, filled, unreadable, large, Except.mapError]
  have undecided : boundless.policy.decide? 0 pushingBack.error = none := by
    have unrepresentable : boundless.policy.backoff? 0 = none := by decide
    refine (RetryPolicy.decide?_of_backpressure (by decide)).trans ?_
    rw [unrepresentable]
    rfl
  have failed : pushingBack.isSuccess = false := rfl
  have stops : boundless.retryDelay? 0 (.ok pushingBack) = none := by simp [retryDelay?, failed, undecided]
  have aborts : boundless.conclude 0 (.ok pushingBack) = .error (.panic unrepresentableWait) := by
    simp [conclude, failed, undecided]
  have once (request : Request) : boundless.request request [pushingBack] =
      ⟨boundless.conclude 0 (.ok pushingBack), [⟨⟨0⟩, request⟩], []⟩ :=
    attemptFrom_of_none stops
  have logs (client : Client (List Response)) (network : List Response) :=
    client.log_eq (events ⟨"s", "a", ⟨"c", "t"⟩, .explicit⟩) network
  refine ⟨rfl, by decide +kernel, ?_, ?_, ?_⟩
  · rw [logs]
    rfl
  · rw [logs]
    show (Run.andThen ⟨standard.conclude 0 (.ok large), _, _⟩ _).result = _
    rw [refuses]
    rfl
  · rw [logs, post, once, aborts]
    rfl

end Client

end LlmTelemetry

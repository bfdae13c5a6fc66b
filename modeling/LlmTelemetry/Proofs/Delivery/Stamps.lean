import LlmTelemetry.Delivery.Snapshot
import LlmTelemetry.Proofs.Event.PayloadFields
/-!
# Deliveries up to their stamps

Two deliveries of one record post the same, but for the identifier of the call and the timestamp that are new
in each. `Request.unstamped` blanks these two places in the body of a request and nothing else. A transport
that answers alike whatever stands there takes both deliveries through the same attempts: the waits between
them depend on the answers only.
-/

namespace LlmTelemetry

namespace Json

/-- An event without the time at which it was made and the identifier of its call. -/
def unstampedEvent (event : Json) : Json :=
  (event.mapField "timestamp" fun _ => .null).mapField "payload"
    (mapField "callId" fun _ => .null)

end Json

namespace Request

/-- A request with the stamps in its body blanked. -/
def unstamped (request : Request) : Request :=
  { request with body := request.body.map (Json.mapField "events" (Json.mapEach Json.unstampedEvent)) }

end Request

def Attempt.unstamped (attempt : Attempt) : Attempt :=
  { attempt with request := attempt.request.unstamped }

/-- The transport does not look at stamps. -/
def Transport.Blind {ν : Type} (transport : Transport ν) : Prop :=
  ∀ first second : Request, first.unstamped = second.unstamped →
    ∀ network, transport.attempt first network = transport.attempt second network

/-- The transport does not look at requests at all: what it does is decided by its position. -/
def Transport.Positional {ν : Type} (transport : Transport ν) : Prop :=
  ∀ (first second : Request) network, transport.attempt first network = transport.attempt second network

theorem Transport.Positional.blind {ν : Type} {transport : Transport ν}
    (positional : transport.Positional) : transport.Blind :=
  fun first second _ => positional first second

/-! ## The events of a record -/

theorem CallPayload.unstamped_encode (payload : CallPayload) (callId : String) :
    (CallPayload.encode { payload with callId := callId }).mapField "callId" (fun _ => .null) =
      payload.encode.mapField "callId" fun _ => .null := by
  simp only [encode, Json.mapField_record, List.map_append, List.map_cons, if_true]

theorem ResponsePayload.unstamped_encode (payload : ResponsePayload) (callId : String) :
    (ResponsePayload.encode { payload with callId := callId }).mapField "callId" (fun _ => .null) =
      payload.encode.mapField "callId" fun _ => .null := by
  simp only [encode, Json.mapField_record, List.map_append, List.map_cons, if_true]

theorem EventLabels.unstamped_event (labels : EventLabels) (stamp : Stamp) (kind : EventKind)
    {payload payload' : Json}
    (same : payload.mapField "callId" (fun _ => .null) = payload'.mapField "callId" fun _ => .null) :
    (event { labels with stamp := stamp } kind payload).encode.unstampedEvent =
      (labels.event kind payload').encode.unstampedEvent := by
  simp [Json.unstampedEvent, Event.encode, Json.mapField_record, event, same]

namespace CallRecord

variable (record : CallRecord) (redaction : Redaction)

theorem callPayload_restamp (callId callId' : String) :
    record.callPayload redaction callId =
      (record.callPayload redaction callId').map fun payload => { payload with callId := callId } := by
  unfold callPayload
  cases record.messages.mapM redaction.message with
  | error reason => rfl
  | ok messages =>
    cases Redaction.whenPresent redaction.textField record.systemPrompt with
    | error reason => rfl
    | ok systemPrompt =>
      cases Redaction.whenPresent redaction.structuredField record.parameters <;> rfl

theorem responsePayload_restamp (callId callId' : String) :
    record.responsePayload redaction callId =
      (record.responsePayload redaction callId').map fun payload => { payload with callId := callId } := by
  unfold responsePayload
  cases redaction.completion record.completion with
  | error reason => rfl
  | ok completion =>
    cases Redaction.whenPresent redaction.structuredField record.toolCallsValue <;> rfl

end CallRecord

namespace Snapshot

variable {ν : Type} (snapshot : Snapshot ν) (record : CallRecord)

/-- Whether a record becomes events does not depend on the stamp, and the requests that post them are the same
but for it. -/
theorem events_unstamped (stamp stamp' : Stamp) :
    (snapshot.events record stamp).map (fun batch => (Client.postRequest batch).unstamped) =
      (snapshot.events record stamp').map fun batch => (Client.postRequest batch).unstamped := by
  unfold events CallRecord.events
  rw [record.callPayload_restamp _ stamp.callId stamp'.callId,
    record.responsePayload_restamp _ stamp.callId stamp'.callId]
  cases record.callPayload snapshot.redaction stamp'.callId with
  | error reason => rfl
  | ok call =>
    cases record.responsePayload snapshot.redaction stamp'.callId with
    | error reason => rfl
    | ok response =>
      let labels : EventLabels := ⟨snapshot.sessionId, snapshot.agentId, stamp', .automatic⟩
      have called := labels.unstamped_event stamp .llmCall (call.unstamped_encode stamp.callId)
      have answered := labels.unstamped_event stamp .llmResponse (response.unstamped_encode stamp.callId)
      refine congrArg Except.ok ?_
      simp only [Client.postRequest, Request.unstamped, Option.map_some, EventBatch.encode,
        Json.mapField_record, List.map_cons, List.map_nil, if_true, Json.mapEach]
      rw [called, answered]

end Snapshot

/-! ## The attempts -/

/-- Two runs made the same attempts but for the stamps, and left the network alike. -/
structure Run.Alike {ν α β : Type} (first : Run ν α) (second : Run ν β) : Prop where
  attempts : first.attempts.map Attempt.unstamped = second.attempts.map Attempt.unstamped
  network : first.network = second.network

namespace Client

variable {ν : Type} {client : Client ν} {first second : Request}

/-- Two requests that are answered alike are attempted alike. -/
theorem attemptFrom_of_answered
    (answered : ∀ network, client.transport.attempt first network = client.transport.attempt second network)
    (left attempt : Nat) (wait : Duration) (network : ν) :
    ∃ waits : List Duration,
      (client.attemptFrom first left attempt wait network).attempts = waits.map (⟨·, first⟩) ∧
        (client.attemptFrom second left attempt wait network).attempts = waits.map (⟨·, second⟩) ∧
        (client.attemptFrom first left attempt wait network).result =
          (client.attemptFrom second left attempt wait network).result ∧
        (client.attemptFrom first left attempt wait network).network =
          (client.attemptFrom second left attempt wait network).network := by
  induction left generalizing attempt wait network with
  | zero =>
    rw [attemptFrom, attemptFrom, answered]
    exact ⟨[wait], rfl, rfl, rfl, rfl⟩
  | succ left ih =>
    rw [attemptFrom, attemptFrom, answered]
    dsimp only
    cases client.retryDelay? attempt (client.transport.attempt second network).1 with
    | none => exact ⟨[wait], rfl, rfl, rfl, rfl⟩
    | some delay =>
      obtain ⟨waits, here, there, result, network⟩ :=
        ih (attempt + 1) delay (client.transport.attempt second network).2
      exact ⟨wait :: waits, congrArg (List.cons _) here, congrArg (List.cons _) there, result, network⟩

theorem attemptFrom_alike (blind : client.transport.Blind) (same : first.unstamped = second.unstamped)
    (left attempt : Nat) (wait : Duration) (network : ν) :
    (client.attemptFrom first left attempt wait network).Alike
      (client.attemptFrom second left attempt wait network) := by
  obtain ⟨waits, here, there, -, network⟩ :=
    attemptFrom_of_answered (blind first second same) left attempt wait network
  refine ⟨?_, network⟩
  rw [here, there, List.map_map, List.map_map]
  exact List.map_congr_left fun wait _ => congrArg (Attempt.mk wait) same

end Client

theorem Snapshot.deliver_alike {ν : Type} {snapshot : Snapshot ν}
    (blind : snapshot.client.transport.Blind) (record : CallRecord) (stamp stamp' : Stamp) (network : ν) :
    (snapshot.deliver record stamp network).Alike (snapshot.deliver record stamp' network) := by
  have same := snapshot.events_unstamped record stamp stamp'
  unfold Snapshot.deliver
  cases made : snapshot.events record stamp with
  | error reason =>
    rw [made] at same
    rw [Ending.map_eq_error.mp same.symm]
    exact ⟨rfl, rfl⟩
  | ok batch =>
    rw [made] at same
    obtain ⟨batch', made', posted⟩ := Ending.map_eq_ok.mp same.symm
    rw [made']
    exact Client.attemptFrom_alike blind posted.symm _ 0 ⟨0⟩ network

/-! ## One delivery after the other -/

/-- Two networks that have seen the same attempts but for the stamps. -/
structure Outbox.Alike {ν : Type} (first second : Outbox ν) : Prop where
  attempts : first.attempts.map Attempt.unstamped = second.attempts.map Attempt.unstamped
  network : first.network = second.network

namespace Outbox.Alike

variable {ν : Type} {first second : Outbox ν}

theorem deliver (alike : first.Alike second) {capture : Capture ν}
    (blind : capture.snapshot.client.transport.Blind) :
    (first.deliver capture).Alike (second.deliver capture) := by
  obtain ⟨attempts, network⟩ := capture.snapshot.deliver_alike blind capture.record
    (first.stamps first.begun) (second.stamps second.begun) first.network
  refine ⟨?_, ?_⟩
  · rw [Outbox.deliver, Outbox.deliver, ← alike.network, List.map_append, List.map_append,
      alike.attempts, attempts]
  · rw [Outbox.deliver, Outbox.deliver, ← alike.network, network]

theorem deliver_all (alike : first.Alike second) {captures : List (Capture ν)}
    (blind : ∀ capture ∈ captures, capture.snapshot.client.transport.Blind) :
    (captures.foldl Outbox.deliver first).Alike (captures.foldl Outbox.deliver second) := by
  induction captures generalizing first second with
  | nil => exact alike
  | cons capture rest ih =>
    obtain ⟨here, later⟩ := List.forall_mem_cons.mp blind
    exact ih (alike.deliver here) later

end Outbox.Alike

end LlmTelemetry

import LlmTelemetry.Proofs.Delivery.Flush
import LlmTelemetry.Proofs.Delivery.Modes
import LlmTelemetry.Proofs.Redaction.Aborts
/-!
# Deliveries do not affect each other

A transport may answer each record in its own way, as long as the answer depends on the record and on the number
of the attempt only: it may fail, abort, or give any status. Then the attempts of a record do not depend on what
else was sent. They are `Capture.posts`, a function of the record, of what is answered to it and of its stamp; and
what a sender does is these attempts for one record after the other. So to leave some records out leaves the
attempts of the others as they are.

A record whose redaction aborts has no attempts. And no record, whatever it does, ends the worker: it goes on until
nothing is pending.

How often a call was attempted is known to the network, if to anybody. That the network is in a state in which it
would answer the next attempt of a call as number `n` is told by a relation `seen`, which nothing is asked of but
that attempts count, each for its own call.
-/

namespace LlmTelemetry

variable {ν : Type}

/-! ## One record -/

namespace Client

/-- The waits before the attempts of a request, from number `attempt` on, when they are answered so. -/
def schedule (client : Client ν) (answer : Nat → Ending ApiError Response) :
    (left : Nat) → (attempt : Nat) → (wait : Duration) → List Duration
  | 0, _, wait => [wait]
  | left + 1, attempt, wait =>
    match client.retryDelay? attempt (answer attempt) with
    | none => [wait]
    | some delay => wait :: client.schedule answer left (attempt + 1) delay

/-- The waits before all attempts of a request. The first one is made at once. -/
def waits (client : Client ν) (answer : Nat → Ending ApiError Response) : List Duration :=
  client.schedule answer client.policy.maxRetries.toNat 0 ⟨0⟩

theorem waits_ne_nil (client : Client ν) (answer : Nat → Ending ApiError Response) :
    client.waits answer ≠ [] := by
  unfold waits
  cases client.policy.maxRetries.toNat with
  | zero => nofun
  | succ left =>
    rw [schedule]
    split <;> nofun

end Client

namespace Capture

/-- Attempt number `n` of the record is answered by `answer n`, and is counted for its own call only. -/
structure AnsweredBy (seen : ν → (callId : String) → Nat → Prop) (answer : Nat → Ending ApiError Response)
    (capture : Capture ν) : Prop where
  outcome : ∀ stamp batch, capture.snapshot.events capture.record stamp = .ok batch →
    ∀ network number, seen network stamp.callId number →
      (capture.snapshot.client.transport.attempt (Client.postRequest batch) network).1 = answer number
  counted : ∀ stamp batch, capture.snapshot.events capture.record stamp = .ok batch →
    ∀ network number, seen network stamp.callId number →
      seen (capture.snapshot.client.transport.attempt (Client.postRequest batch) network).2 stamp.callId
        (number + 1)
  spared : ∀ stamp batch, capture.snapshot.events capture.record stamp = .ok batch →
    ∀ network callId number, callId ≠ stamp.callId → seen network callId number →
      seen (capture.snapshot.client.transport.attempt (Client.postRequest batch) network).2 callId number

/-- The attempts to post a record whose attempts are answered so. There are none if redaction aborts. -/
def posts (capture : Capture ν) (answer : Nat → Ending ApiError Response) (stamp : Stamp) : List Attempt :=
  match capture.snapshot.events capture.record stamp with
  | .ok batch => (capture.snapshot.client.waits answer).map fun wait => ⟨wait, Client.postRequest batch⟩
  | .error _ => []

/-- The filter aborts on a string of the record that is handed to it. -/
def AbortsRedaction (capture : Capture ν) : Prop :=
  ∃ text ∈ capture.record.scrubbed capture.snapshot.redaction.blackout,
    Ending.Fails (capture.snapshot.redaction.scrubText text)

variable {seen : ν → String → Nat → Prop} {answer : Nat → Ending ApiError Response} {capture : Capture ν}

theorem abortsRedaction_iff (stamp : Stamp) :
    capture.AbortsRedaction ↔ Ending.Fails (capture.snapshot.events capture.record stamp) :=
  (CallRecord.events_fail_iff ..).symm

/-- A record is attempted unless its redaction aborts. -/
theorem posts_eq_nil_iff (stamp : Stamp) : capture.posts answer stamp = [] ↔ capture.AbortsRedaction := by
  rw [abortsRedaction_iff stamp, posts]
  cases capture.snapshot.events capture.record stamp with
  | error reason => exact ⟨fun _ => ⟨reason, rfl⟩, fun _ => rfl⟩
  | ok batch => simp [Client.waits_ne_nil]

/-- Whatever leaves the process of a record is its redacted events. -/
theorem request_of_mem_posts {attempt : Attempt} {stamp : Stamp} (made : attempt ∈ capture.posts answer stamp) :
    ∃ batch, capture.snapshot.events capture.record stamp = .ok batch ∧
      attempt.request = Client.postRequest batch := by
  unfold posts at made
  split at made
  · rename_i batch built
    obtain ⟨wait, -, rfl⟩ := List.mem_map.mp made
    exact ⟨batch, built, rfl⟩
  · cases made

/-- The stamp is all that differs between two deliveries of a record. -/
theorem posts_unstamped (stamp stamp' : Stamp) :
    (capture.posts answer stamp).map Attempt.unstamped = (capture.posts answer stamp').map Attempt.unstamped := by
  have same := capture.snapshot.events_unstamped capture.record stamp stamp'
  unfold posts
  cases built : capture.snapshot.events capture.record stamp with
  | error reason =>
    rw [built] at same
    rw [Ending.map_eq_error.mp same.symm]
  | ok batch =>
    rw [built] at same
    obtain ⟨batch', built', posted⟩ := Ending.map_eq_ok.mp same.symm
    rw [built']
    simp only [List.map_map]
    exact List.map_congr_left fun wait _ => congrArg (Attempt.mk wait) posted.symm

namespace AnsweredBy

variable {stamp : Stamp} {batch : EventBatch} (answered : capture.AnsweredBy seen answer)
  (built : capture.snapshot.events capture.record stamp = .ok batch)
include answered built

theorem attemptFrom (left attempt : Nat) (wait : Duration) {network : ν}
    (reached : seen network stamp.callId attempt) :
    (capture.snapshot.client.attemptFrom (Client.postRequest batch) left attempt wait network).attempts =
      (capture.snapshot.client.schedule answer left attempt wait).map
        fun wait => ⟨wait, Client.postRequest batch⟩ := by
  induction left generalizing attempt wait network with
  | zero => rfl
  | succ left ih =>
    rw [Client.attemptFrom, Client.schedule]
    dsimp only
    rw [answered.outcome stamp batch built network attempt reached]
    cases capture.snapshot.client.retryDelay? attempt (answer attempt) with
    | none => rfl
    | some delay =>
      have later := ih (attempt + 1) delay (answered.counted stamp batch built network attempt reached)
      exact congrArg (List.cons _) later

/-- The calls of other records are not counted. -/
theorem attemptFrom_spares (left attempt : Nat) (wait : Duration) {network : ν} {callId : String} {number : Nat}
    (other : callId ≠ stamp.callId) (before : seen network callId number) :
    seen (capture.snapshot.client.attemptFrom (Client.postRequest batch) left attempt wait network).network callId
      number := by
  induction left generalizing attempt wait network with
  | zero => exact answered.spared stamp batch built network callId number other before
  | succ left ih =>
    have once := answered.spared stamp batch built network callId number other before
    rw [Client.attemptFrom]
    dsimp only
    split
    · exact once
    · exact ih _ _ once

end AnsweredBy

end Capture

/-! ## A network that counts -/

/-- The identifier of the call whose events the request posts. -/
def Request.callId? (request : Request) : Option String := do
  let events ← request.body.bind (Json.field? "events")
  let first ← events.asArray?.bind List.head?
  (first.field? "payload").bind (Json.stringField? "callId")

theorem Snapshot.callId?_postRequest {snapshot : Snapshot ν} {record : CallRecord} {stamp : Stamp} {batch : EventBatch}
    (built : snapshot.events record stamp = .ok batch) :
    (Client.postRequest batch).callId? = some stamp.callId := by
  unfold events CallRecord.events at built
  cases called : record.callPayload snapshot.redaction stamp.callId with
  | error reason =>
    rw [called] at built
    cases built
  | ok call =>
    have stamped := record.callPayload_restamp snapshot.redaction stamp.callId stamp.callId
    rw [called] at stamped built
    have same : call.callId = stamp.callId := congrArg CallPayload.callId (Except.ok.inj stamped)
    cases answered : record.responsePayload snapshot.redaction stamp.callId with
    | error reason =>
      rw [answered] at built
      cases built
    | ok response =>
      rw [answered] at built
      cases built
      simp [Request.callId?, Client.postRequest, EventBatch.encode, Event.encode, EventLabels.event, CallPayload.encode,
        KeyedList.find?, KeyedList.find?_append, Json.asArray?, Json.stringField?, Json.asString?, same]

/-- The network counts the attempts of each call and answers by their number. -/
def Transport.counting (answer : Nat → Ending ApiError Response) : Transport (String → Nat) where
  attempt request network :=
    let callId := request.callId?.getD ""
    (answer (network callId), Function.update network callId (network callId + 1))

theorem Capture.answeredBy_of_counting {capture : Capture (String → Nat)} {answer : Nat → Ending ApiError Response}
    (transport : capture.snapshot.client.transport = .counting answer) :
    capture.AnsweredBy (fun network callId number => network callId = number) answer := by
  refine ⟨?_, ?_, ?_⟩
  · rintro stamp batch built network number rfl
    simp [transport, Transport.counting, Snapshot.callId?_postRequest built]
  · rintro stamp batch built network number rfl
    simp [transport, Transport.counting, Snapshot.callId?_postRequest built]
  · rintro stamp batch built network callId number other rfl
    simp [transport, Transport.counting, Snapshot.callId?_postRequest built, other]

/-! ## One record after the other -/

namespace Outbox

/-- The network has seen none of the calls that are to come. -/
def Unseen (seen : ν → String → Nat → Prop) (outbox : Outbox ν) : Prop :=
  ∀ number, outbox.begun ≤ number → seen outbox.network (outbox.stamps number).callId 0

variable {seen : ν → String → Nat → Prop} {answer : Capture ν → Nat → Ending ApiError Response}
  {outbox : Outbox ν}

theorem attempts_deliver {capture : Capture ν} (answered : capture.AnsweredBy seen (answer capture))
    (unseen : outbox.Unseen seen) :
    (outbox.deliver capture).attempts =
      outbox.attempts ++ capture.posts (answer capture) (outbox.stamps outbox.begun) := by
  refine congrArg (outbox.attempts ++ ·) ?_
  unfold Snapshot.deliver Capture.posts
  cases built : capture.snapshot.events capture.record (outbox.stamps outbox.begun) with
  | error reason => rfl
  | ok batch => exact answered.attemptFrom built _ 0 ⟨0⟩ (unseen _ le_rfl)

theorem Unseen.deliver {capture : Capture ν} (unseen : outbox.Unseen seen)
    (distinct : Function.Injective fun number => (outbox.stamps number).callId)
    (answered : capture.AnsweredBy seen (answer capture)) : (outbox.deliver capture).Unseen seen := by
  intro number later
  have before := unseen number (Nat.le_of_succ_le later)
  have other : (outbox.stamps number).callId ≠ (outbox.stamps outbox.begun).callId :=
    fun same => Nat.ne_of_gt later (distinct same)
  show seen (capture.snapshot.deliver capture.record (outbox.stamps outbox.begun) outbox.network).network _ _
  unfold Snapshot.deliver
  cases built : capture.snapshot.events capture.record (outbox.stamps outbox.begun) with
  | error reason => exact before
  | ok batch => exact answered.attemptFrom_spares built _ 0 ⟨0⟩ other before

theorem attempts_deliver_all {captures : List (Capture ν)} (unseen : outbox.Unseen seen)
    (distinct : Function.Injective fun number => (outbox.stamps number).callId)
    (answered : ∀ capture ∈ captures, capture.AnsweredBy seen (answer capture)) :
    (captures.foldl Outbox.deliver outbox).attempts =
      outbox.attempts ++ (captures.zipIdx outbox.begun).flatMap fun sent =>
        sent.1.posts (answer sent.1) (outbox.stamps sent.2) := by
  induction captures generalizing outbox with
  | nil => exact (List.append_nil _).symm
  | cons capture rest ih =>
    obtain ⟨here, others⟩ := List.forall_mem_cons.mp answered
    -- The first delivery leaves the calls of the others unseen, so they begin as in a fresh network.
    rw [List.foldl_cons, ih (unseen.deliver distinct here) distinct others, attempts_deliver here unseen,
      List.zipIdx_cons, List.flatMap_cons, List.append_assoc]
    rfl

end Outbox

/-! ## The worker goes on -/

namespace SharedSender

variable {ι : Type} [DecidableEq ι]

/-- How far the worker is from having nothing to do. -/
def toDo (shared : SharedSender ι ν) : Nat :=
  3 * shared.sender.queue.length +
    match shared.sender.worker with
    | .delivering _ => 2
    | .settling => 1
    | _ => 0

/-- The worker can make its steps, one after the other, until it finds the queue empty or leaves. No caller has a
part in that. -/
def ComesToRest (shared : SharedSender ι ν) : Prop :=
  ∃ next, Run shared next ∧ next.callers = shared.callers ∧ next.accepted = shared.accepted ∧
    next.countLock = none ∧
      (next.sender.worker = .exited ∨ next.sender.worker = .idle ∧ next.sender.queue = [])

theorem ComesToRest.of_step {shared next : SharedSender ι ν} (step : Step shared next)
    (callers : next.callers = shared.callers) (accepted : next.accepted = shared.accepted)
    (later : next.ComesToRest) : shared.ComesToRest := by
  obtain ⟨rest, run, callers', accepted', ended⟩ := later
  exact ⟨rest, ((Run.refl shared).step step).trans run, callers'.trans callers, accepted'.trans accepted, ended⟩

theorem comesToRest {shared : SharedSender ι ν} (unlocked : shared.countLock = none)
    (present : shared.sender.worker ≠ .absent) : shared.ComesToRest := by
  -- The induction is on what is left to do: every step takes the worker nearer to rest, whatever it delivers.
  induction left : shared.toDo using Nat.strong_induction_on generalizing shared with
  | _ left ih =>
    subst left
    have goOn {next : SharedSender ι ν} (still : next.countLock = none) (there : next.sender.worker ≠ .absent)
        (less : next.toDo < shared.toDo) : next.ComesToRest := ih _ less still there rfl
    cases worker : shared.sender.worker with
    | absent => exact absurd worker present
    | exited => exact ⟨shared, .refl shared, rfl, rfl, unlocked, .inl worker⟩
    | delivering capture =>
      have delivered := Sender.deliver_of_delivering worker shared.outbox
      refine .of_step (.deliver capture worker) rfl rfl (goOn unlocked ?_ ?_)
      · simp [deliver, delivered]
      · simp [toDo, deliver, delivered, worker]
    | settling =>
      have finished := Sender.finish_of_settling worker
      refine .of_step (.finish worker unlocked) rfl rfl (goOn unlocked ?_ ?_)
      · simp [finish, finished]
      · simp [toDo, finish, finished, worker]
    | idle =>
      cases queue : shared.sender.queue with
      | nil => exact ⟨shared, .refl shared, rfl, rfl, unlocked, .inr ⟨worker, queue⟩⟩
      | cons item rest =>
        refine .of_step (.receive worker) rfl rfl (goOn unlocked ?_ ?_)
        · cases item <;> simp [receive, Sender.receive, worker, queue]
        · cases item with
          | deliver capture =>
            simp [toDo, receive, Sender.receive, worker, queue]
            omega
          | stop => simp [toDo, receive, Sender.receive, worker, queue]

/-- From wherever an asynchronous sender is, its worker comes to have delivered all that was accepted, and then
nothing is pending. -/
theorem exists_run_to_delivered {outbox : Outbox ν} {shared : SharedSender ι ν}
    (run : Run (new false outbox) shared) (unlocked : shared.countLock = none)
    (present : shared.sender.worker ≠ .absent) :
    ∃ next, Run shared next ∧ next.callers = shared.callers ∧ next.accepted = shared.accepted ∧
      next.delivered = shared.accepted ∧ next.sender.pending = 0 ∧
        next.outbox = shared.accepted.foldl Outbox.deliver outbox := by
  obtain ⟨next, later, callers, accepted, still, rests⟩ := comesToRest unlocked present
  have whole := run.trans later
  obtain ⟨orderly, lossless⟩ := whole.invariant (orderly_new outbox) (lossless_new outbox)
  have counted := (whole.counted (orderly_new outbox) (counted_new outbox)).2
  have empty : next.onTheWay = 0 := by
    obtain exited | ⟨idle, queue⟩ := rests
    · simp [onTheWay, Sender.queued, (lossless.exited exited).1, exited, Worker.unfinished]
    · simp [onTheWay, Sender.queued, queue, idle, Worker.unfinished]
  have delivered := (lossless.delivered_of_onTheWay empty).trans accepted
  refine ⟨next, later, callers, accepted, delivered, (counted.exact still).trans empty, ?_⟩
  rw [lossless.network, delivered]

/-- Up to the stamps, the attempts for a list of records are those for each of them. -/
theorem unstamped_shares {answer : Capture ν → Nat → Ending ApiError Response} (stamps : Nat → Stamp)
    (sent : List (Capture ν × Nat)) :
    (sent.flatMap fun one => one.1.posts (answer one.1) (stamps one.2)).map Attempt.unstamped =
      (sent.map Prod.fst).flatMap fun capture =>
        (capture.posts (answer capture) ⟨"", ""⟩).map Attempt.unstamped := by
  rw [List.map_flatMap, List.flatMap_map]
  exact List.flatMap_congr fun one _ => one.1.posts_unstamped _ _

/-- What a sender attempts for a record depends on this record only, whatever the others do. In either mode the
attempts of a sender that is done are the shares of the records that were sent, one after the other. The share of a
record is empty just when its redaction aborts, and otherwise posts its redacted events. With only some of the
records sent, in either mode again, the attempts are the shares of these, up to the stamps. No record keeps the
worker from delivering all others that were accepted, so that nothing stays pending, nor a synchronous send from
returning. -/
theorem deliveries_isolated [Nonempty ι] {seen : ν → String → Nat → Prop}
    {answer : Capture ν → Nat → Ending ApiError Response} {network : ν} {stamps : Nat → Stamp}
    {synchronous : Bool} {calls : List (Call ν)} {shared : SharedSender ι ν}
    (unseen : ∀ callId, seen network callId 0)
    (distinct : Function.Injective fun number => (stamps number).callId)
    (trace : Trace (new synchronous { network, stamps }) calls shared)
    (finished : Finished synchronous calls shared)
    (answered : ∀ capture ∈ Call.sends calls, capture.AnsweredBy seen (answer capture)) :
    let sent := (Call.sends calls).zipIdx
    let share : Capture ν × Nat → List Attempt := fun one => one.1.posts (answer one.1) (stamps one.2)
    shared.outbox.attempts = sent.flatMap share ∧
      (∀ one, share one = [] ↔ one.1.AbortsRedaction) ∧
      (∀ one, ∀ attempt ∈ share one, ∃ batch,
        one.1.snapshot.events one.1.record (stamps one.2) = .ok batch ∧
          attempt.request = Client.postRequest batch) ∧
      (∀ kept : List (Capture ν × Nat), kept.Sublist sent →
        ∀ (synchronous' : Bool) (stamps' : Nat → Stamp) calls' (shared' : SharedSender ι ν),
        (Function.Injective fun number => (stamps' number).callId) →
          Trace (new synchronous' { network, stamps := stamps' }) calls' shared' →
            Finished synchronous' calls' shared' → Call.sends calls' = kept.map Prod.fst →
              shared'.outbox.attempts.map Attempt.unstamped = (kept.flatMap share).map Attempt.unstamped) ∧
      (∀ outbox (reached : SharedSender ι ν), Run (new false outbox) reached → reached.countLock = none →
        reached.sender.worker ≠ .absent →
          ∃ next, Run reached next ∧ next.callers = reached.callers ∧ next.accepted = reached.accepted ∧
            next.delivered = reached.accepted ∧ next.sender.pending = 0 ∧
              next.outbox = reached.accepted.foldl Outbox.deliver outbox) ∧
      ∀ (reached : SharedSender ι ν) caller capture, reached.sender.synchronous = true →
        reached.callers caller = .sending capture →
          ∃ next, Step reached next ∧ next.callers caller = .outside ∧ next.sender = reached.sender := by
  intro sent share
  refine ⟨?_, fun one => Capture.posts_eq_nil_iff _, fun one attempt made => Capture.request_of_mem_posts made,
    ?_, fun outbox reached => exists_run_to_delivered, ?_⟩
  · rw [trace.delivered_of_finished finished]
    exact Outbox.attempts_deliver_all (fun number _ => unseen _) distinct answered
  · intro kept among synchronous' stamps' calls' shared' distinct' trace' finished' same
    have answered' : ∀ capture ∈ Call.sends calls', capture.AnsweredBy seen (answer capture) := by
      intro capture member
      rw [same] at member
      obtain ⟨one, known, rfl⟩ := List.mem_map.mp member
      exact answered one.1 (List.fst_mem_of_mem_zipIdx (among.subset known))
    have attempts : shared'.outbox.attempts = (Call.sends calls').zipIdx.flatMap fun one =>
        one.1.posts (answer one.1) (stamps' one.2) := by
      rw [trace'.delivered_of_finished finished']
      exact Outbox.attempts_deliver_all (fun number _ => unseen _) distinct' answered'
    rw [attempts, unstamped_shares, unstamped_shares, List.zipIdx_map_fst, same]
  · intro reached caller capture mode place
    exact ⟨_, .sendInline caller capture place mode, Function.update_self .., rfl⟩

/-- Calls with identifiers of different lengths. -/
def numbered (timestamp : String) (number : Nat) : Stamp :=
  ⟨String.ofList (List.replicate number 'c'), timestamp⟩

theorem numbered_distinct (timestamp : String) :
    Function.Injective fun number => (numbered timestamp number).callId := by
  intro first second same
  have lengths := congrArg List.length (String.ofList_injective same)
  simpa using lengths

/-- Under blackout a filter aborts on a parameter, then the transport aborts, and then a call takes two attempts. A
sender that is sent only the last of these records makes the same two attempts. -/
theorem deliveries_isolated_from_two_failures :
    ∃ (first second third : Capture (String → Nat)) (calls calls' : List (Call (String → Nat)))
      (direct behind : SharedSender Unit (String → Nat)),
      Trace (new true { network := fun _ => 0, stamps := numbered "t" }) calls direct ∧
        Trace (new false { network := fun _ => 0, stamps := numbered "u" }) calls' behind ∧
        Call.sends calls = [first, second, third] ∧ Call.sends calls' = [third] ∧
        first.AbortsRedaction ∧ direct.outbox.attempts.length = 3 ∧ behind.sender.worker = .exited ∧
        behind.outbox.attempts.map Attempt.unstamped = (direct.outbox.attempts.drop 1).map Attempt.unstamped := by
  let snapshot (answer : Nat → Ending ApiError Response) : Snapshot (String → Nat) :=
    { client := ⟨.counting answer, .standard⟩, agentId := "a", sessionId := "s" }
  let succeeds : Nat → Ending ApiError Response := fun _ => .ok { status := 200 }
  let explodes : Nat → Ending ApiError Response := fun _ => .error (.panic "transport exploded")
  let recovers : Nat → Ending ApiError Response := fun n => .ok { status := if n = 0 then 503 else 200 }
  let redaction : Redaction := { blackout := true, filter := some fun _ => .error ⟨"filter exploded"⟩ }
  let first : Capture (String → Nat) :=
    ⟨{ snapshot succeeds with redaction }, { CallRecord.blank "openai" "first" with parameters := some (.string "") }⟩
  let second : Capture (String → Nat) := ⟨snapshot explodes, .blank "openai" "second"⟩
  let third : Capture (String → Nat) := ⟨snapshot recovers, .blank "openai" "third"⟩
  let answer : Capture (String → Nat) → Nat → Ending ApiError Response := fun capture =>
    if capture.record.model = "first" then succeeds
    else if capture.record.model = "second" then explodes else recovers
  have answered : ∀ capture ∈ [first, second, third],
      capture.AnsweredBy (fun network callId number => network callId = number) (answer capture) := by
    simp only [List.forall_mem_cons, List.not_mem_nil, false_implies, implies_true, and_true]
    exact ⟨Capture.answeredBy_of_counting rfl, Capture.answeredBy_of_counting rfl,
      Capture.answeredBy_of_counting rfl⟩
  have aborts : first.AbortsRedaction := ⟨"", by decide, ⟨"filter exploded"⟩, rfl⟩
  have direct := (Trace.nil : Trace (new true { network := fun _ => 0, stamps := numbered "t" } :
      SharedSender Unit (String → Nat)) [] _)
    |>.call () (.send first) (fun _ => rfl) (.beginSend () first ⟨rfl, rfl⟩)
    |>.inside (.sendInline () first rfl rfl) (fun _ _ => rfl)
    |>.call () (.send second) (fun _ => rfl) (.beginSend () second ⟨rfl, rfl⟩)
    |>.inside (.sendInline () second rfl rfl) (fun _ _ => rfl)
    |>.call () (.send third) (fun _ => rfl) (.beginSend () third ⟨rfl, rfl⟩)
    |>.inside (.sendInline () third rfl rfl) (fun _ _ => rfl)
  have behind := (Trace.nil : Trace (new false { network := fun _ => 0, stamps := numbered "u" } :
      SharedSender Unit (String → Nat)) [] _)
    |>.call () .start (fun _ => rfl) (.beginStart () ⟨rfl, rfl⟩ rfl)
    |>.inside (.launch () rfl) (fun _ => nofun)
    |>.inside (.run () rfl) (fun _ _ => rfl)
    |>.call () (.send third) (fun _ => rfl) (.beginSend () third ⟨rfl, rfl⟩)
    |>.inside (.enqueue () third rfl rfl rfl) (fun _ => nofun)
    |>.inside (.countSent () rfl) (fun _ _ => rfl)
    |>.inside (.receive rfl) (fun _ => id)
    |>.inside (.deliver third rfl) (fun _ => id)
    |>.inside (.finish rfl rfl) (fun _ => id)
    |>.call () .stop (fun _ => rfl) (.beginStop () ⟨rfl, rfl⟩ rfl)
    |>.inside (.halt () rfl rfl) (fun _ => nofun)
    |>.inside (.close () rfl) (fun _ => nofun)
    |>.inside (.receive rfl) (fun _ => id)
    |>.inside (.endStop () rfl) (fun _ _ => rfl)
  have polite : Call.Polite ([.start, .send third] ++ .stop :: []) := Call.polite_of_stop (by simp) rfl
  obtain ⟨attempts, empty, -, kept, -, -⟩ :=
    deliveries_isolated (fun _ => rfl) (numbered_distinct "t") direct (fun _ => rfl) answered
  have nothing : first.posts (answer first) (numbered "t" 0) = [] := (empty (first, 0)).mpr aborts
  have once : (second.posts (answer second) (numbered "t" 1)).length = 1 := rfl
  have twice : (third.posts (answer third) (numbered "t" 2)).length = 2 := by decide +kernel
  have made : _ = second.posts (answer second) (numbered "t" 1) ++ (third.posts (answer third) (numbered "t" 2) ++ []) :=
    attempts.trans (congrArg (· ++ _) nothing)
  have others : [(third, 2)].Sublist [(first, 0), (second, 1), (third, 2)] := by simp
  have alike := kept [(third, 2)] others false (numbered "u") _ _ (numbered_distinct "u") behind ⟨polite, rfl⟩ rfl
  refine ⟨first, second, third, _, _, _, _, direct, behind, rfl, rfl, aborts, ?_, rfl, ?_⟩
  · rw [made, List.append_nil, List.length_append, once, twice]
  · rw [alike, made, List.drop_left' once]
    rfl

end SharedSender

end LlmTelemetry

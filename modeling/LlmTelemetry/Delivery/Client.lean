import LlmTelemetry.Api.Retry
import LlmTelemetry.Delivery.Transport
import LlmTelemetry.Event.Pair
import LlmTelemetry.Unicode.Space
/-!
# The client

A call of the client is one request, made in as many attempts as the retry policy allows. Every attempt
carries the same request. A transport that fails ends the call at once, and so does any response that is
a success or may not be retried. `Run` tells how a call ended and which attempts it made.
-/

namespace LlmTelemetry

structure Attempt where
  /-- What the timer before the attempt was set to. -/
  wait : Duration
  request : Request

structure Run (ν : Type) (α : Type) where
  result : Ending ApiError α
  attempts : List Attempt
  network : ν

namespace Run

variable {ν α β : Type}

/-- A call that makes no attempt. -/
def immediate (result : Ending ApiError α) (network : ν) : Run ν α :=
  ⟨result, [], network⟩

/-- Go on with the value, without further attempts. -/
def andThen (run : Run ν α) (next : α → Except ApiError β) : Run ν β where
  result :=
    match run.result with
    | .ok value =>
      match next value with
      | .ok result => .ok result
      | .error reason => .error (.error reason)
    | .error fault => .error fault
  attempts := run.attempts
  network := run.network

/-- Put an attempt in front. -/
def after (first : Attempt) (run : Run ν α) : Run ν α :=
  { run with attempts := first :: run.attempts }

end Run

/-- The error that a response stands for that is no success. -/
def Response.error (response : Response) : ApiError :=
  .ofResponse response.status response.body response.retryAfter

/-- The value in the body of a successful response. A blank body stands for `null`. -/
def parseBody (response : Response) : Except ApiError Json :=
  if Unicode.isBlank response.body then .ok .null
  else
    match Json.parse? response.body with
    | some value => .ok value
    | none => .error (.api response.status "invalid JSON response" none)

/-- Read the model that the collector answered with. -/
def decodeAnswer {α : Type} (what : String) (decode : Decode α) (value : Json) :
    Except ApiError α :=
  match decode value with
  | .ok model => .ok model
  | .error reason =>
    .error (.api 200 ("unexpected " ++ what ++ " response: " ++ reason.text) none)

structure Client (ν : Type) where
  transport : Transport ν
  policy : RetryPolicy := .standard

namespace Client

variable {ν : Type}

/-- Why a call aborts whose wait is too long to be a duration. -/
def unrepresentableWait : String :=
  "cannot convert float seconds to Duration: value is either too big or NaN"

/-- How a call ends whose last attempt is number `attempt` and has the outcome. -/
def conclude (client : Client ν) (attempt : Nat) : Ending ApiError Response → Ending ApiError Json
  | .error fault => .error fault
  | .ok response =>
    if response.isSuccess then (parseBody response).mapError .error
    else
      match client.policy.decide? attempt response.error with
      | none => .error (.panic unrepresentableWait)
      | some _ => .error (.error response.error)

/-- The wait before the next attempt, when there is to be one after such an outcome. -/
def retryDelay? (client : Client ν) (attempt : Nat) : Ending ApiError Response → Option Duration
  | .error _ => none
  | .ok response =>
    if response.isSuccess then none
    else
      match client.policy.decide? attempt response.error with
      | some (.retryAfter delay) => some delay
      | _ => none

/-- Make the attempts from number `attempt` on, after a wait, with at most `left` retries. -/
def attemptFrom (client : Client ν) (request : Request) :
    (left : Nat) → (attempt : Nat) → (wait : Duration) → ν → Run ν Json
  | 0, attempt, wait, network =>
    let (outcome, network) := client.transport.attempt request network
    ⟨client.conclude attempt outcome, [⟨wait, request⟩], network⟩
  | left + 1, attempt, wait, network =>
    let (outcome, network) := client.transport.attempt request network
    match client.retryDelay? attempt outcome with
    | none => ⟨client.conclude attempt outcome, [⟨wait, request⟩], network⟩
    | some delay =>
      (attemptFrom client request left (attempt + 1) delay network).after ⟨wait, request⟩

def request (client : Client ν) (request : Request) (network : ν) : Run ν Json :=
  client.attemptFrom request client.policy.maxRetries.toNat 0 ⟨0⟩ network

def eventsPath : String := "/api/events"

def healthPath : String := "/api/health"

def sessionsPath : String := "/api/sessions"

/-- The request that posts a batch of events. -/
def postRequest (batch : EventBatch) : Request :=
  { method := "POST", path := eventsPath, body := some batch.encode }

def post (client : Client ν) (batch : EventBatch) (network : ν) : Run ν Json :=
  client.request (postRequest batch) network

/-- Post the events of a call by hand, with or without blackout. -/
def log (client : Client ν) (sessionId agentId : String) (record : CallRecord) (redact : Bool)
    (stamp : Stamp) (network : ν) : Run ν LoggedCall :=
  match record.events { blackout := redact } ⟨sessionId, agentId, stamp, .explicit⟩ with
  | .ok batch => (client.post batch network).andThen fun _ => .ok ⟨stamp.callId⟩
  | .error reason => .immediate (.error (.panic reason.message)) network

def fetch {α : Type} (client : Client ν) (request : Request) (what : String) (decode : Decode α)
    (network : ν) : Run ν α :=
  (client.request request network).andThen (decodeAnswer what decode)

def getRequest (path : String) (params : Params) : Request :=
  { method := "GET", path := path, params := params }

def eventRequest (id : String) : Request := getRequest (eventsPath ++ "/" ++ id) []

def sessionRequest (id : String) : Request := getRequest (sessionsPath ++ "/" ++ id) []

def timelineRequest (id : String) : Request :=
  getRequest (sessionsPath ++ "/" ++ id ++ "/timeline") []

/-- Ask whether the collector is well. Credentials are not sent. -/
def health (client : Client ν) (network : ν) : Run ν Health :=
  client.fetch { getRequest healthPath [] with anonymous := true } "health" Health.decode network

def queryEvents (client : Client ν) (query : EventQuery) (network : ν) : Run ν EventQueryResult :=
  client.fetch (getRequest eventsPath query.params) "event query" EventQueryResult.decode network

def event (client : Client ν) (id : String) (network : ν) : Run ν StoredEvent :=
  client.fetch (eventRequest id) "event" StoredEvent.decode network

def querySessions (client : Client ν) (query : SessionQuery) (network : ν) :
    Run ν SessionQueryResult :=
  client.fetch (getRequest sessionsPath query.params) "session query" SessionQueryResult.decode
    network

def session (client : Client ν) (id : String) (network : ν) : Run ν SessionSummary :=
  client.fetch (sessionRequest id) "session" SessionSummary.decode network

/-- Fetch the events of a session and whether their hash chain holds. -/
def timeline (client : Client ν) (id : String) (network : ν) : Run ν Timeline :=
  client.fetch (timelineRequest id) "timeline" Timeline.decode network

end Client

end LlmTelemetry

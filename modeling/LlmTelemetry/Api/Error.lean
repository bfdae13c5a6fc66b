import LlmTelemetry.Json.Document
import LlmTelemetry.Json.Printer
/-!
# Errors of the collector

`ApiError.ofResponse` classifies a response that is no success by its status. When the body is a JSON
object its `error` field gives the message and its `details` field the details; otherwise the message
is the body itself, or the status when the body is empty.
-/

namespace LlmTelemetry

/-- Why a request failed. -/
inductive ApiError where
  | authentication (message : String)
  | quotaExceeded (message : String)
  /-- Carries the number of seconds that the collector asks to wait. -/
  | rateLimited (message : String) (retryAfter : Option Float)
  | backpressure (message : String)
  | validation (message : String) (details : Option Json)
  | notFound (message : String)
  /-- The collector could not be reached. -/
  | connection (message : String)
  | api (status : Nat) (message : String) (details : Option Json)

namespace ApiError

/-- The status that the error stands for, zero when there was no response. -/
def status : ApiError → Nat
  | .authentication _ => 401
  | .quotaExceeded _ => 402
  | .rateLimited _ _ => 429
  | .backpressure _ => 503
  | .validation _ _ => 400
  | .notFound _ => 404
  | .connection _ => 0
  | .api status _ _ => status

/-- The message without the words that name the kind of error. -/
def message : ApiError → String
  | .authentication message => message
  | .quotaExceeded message => message
  | .rateLimited message _ => message
  | .backpressure message => message
  | .validation message _ => message
  | .notFound message => message
  | .connection message => message
  | .api _ message _ => message

/-- A stable code for programs. -/
def code : ApiError → String
  | .authentication _ => "AUTHENTICATION_ERROR"
  | .quotaExceeded _ => "QUOTA_EXCEEDED"
  | .rateLimited _ _ => "RATE_LIMIT"
  | .backpressure _ => "BACKPRESSURE"
  | .validation _ _ => "VALIDATION_ERROR"
  | .notFound _ => "NOT_FOUND"
  | .connection _ => "CONNECTION_ERROR"
  | .api _ _ _ => "API_ERROR"

def isRetryable : ApiError → Bool
  | .rateLimited _ _ => true
  | .backpressure _ => true
  | _ => false

/-- What the collector tells about the error, beyond the message. -/
def details : ApiError → Option Json
  | .validation _ details => details
  | .api _ _ details => details
  | _ => none

def retryAfter : ApiError → Option Float
  | .rateLimited _ retryAfter => retryAfter
  | _ => none

/-- The text shown to people. -/
def text : ApiError → String
  | .authentication message => "authentication failed: " ++ message
  | .quotaExceeded message => "quota exceeded: " ++ message
  | .rateLimited message _ => "rate limited: " ++ message
  | .backpressure message => "server applying backpressure: " ++ message
  | .validation message _ => "validation failed: " ++ message
  | .notFound message => "not found: " ++ message
  | .connection message => "connection failed: " ++ message
  | .api status message _ => "API error (HTTP " ++ toString status ++ "): " ++ message

/-- The message of a response whose body names none. -/
def fallbackMessage (status : Nat) (body : String) : String :=
  if body.isEmpty then "HTTP " ++ toString status else body

def bodyParts (status : Nat) (body : String) : String × Option Json :=
  match Json.parse? body with
  | some (.object fields) =>
    let message := match KeyedList.find? "error" fields with
      | none => fallbackMessage status body
      | some .null => fallbackMessage status body
      | some (.string value) => if value.isEmpty then fallbackMessage status body else value
      | some value => value.text
    let details := match KeyedList.find? "details" fields with
      | some .null => none
      | other => other
    (message, details)
  | _ => (fallbackMessage status body, none)

/-- The error that a response stands for. -/
def ofResponse (status : Nat) (body : String) (retryAfter : Option Float) : ApiError :=
  let (message, details) := bodyParts status body
  if status = 401 then .authentication message
  else if status = 402 then .quotaExceeded message
  else if status = 429 then .rateLimited message retryAfter
  else if status = 503 then .backpressure message
  else if status = 400 then .validation message details
  else if status = 404 then .notFound message
  else .api status message details

end ApiError

end LlmTelemetry

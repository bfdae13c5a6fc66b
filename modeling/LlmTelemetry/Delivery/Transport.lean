import LlmTelemetry.Api.Error
import LlmTelemetry.Api.Query
import LlmTelemetry.Fault
/-!
# Transports

A transport performs one attempt of a request. It answers with a response of any status, or fails
because the collector could not be reached, or aborts. What it does may depend on everything it did
before, so an attempt takes the state of the network and gives back the next one.
-/

namespace LlmTelemetry

structure Request where
  method : String
  path : String
  params : Params := []
  body : Option Json := none
  /-- Whether the request is sent without credentials. -/
  anonymous : Bool := false

structure Response where
  status : Nat
  /-- The number of seconds that the collector asks to wait. -/
  retryAfter : Option Float := none
  body : String := ""

def Response.isSuccess (response : Response) : Bool :=
  200 ≤ response.status && response.status < 300

/-- One attempt of a request, on a network in state `ν`. -/
structure Transport (ν : Type) where
  attempt : Request → ν → Ending ApiError Response × ν

end LlmTelemetry

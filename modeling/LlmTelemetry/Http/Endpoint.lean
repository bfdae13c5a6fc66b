import LlmTelemetry.Decimal.Reader
import LlmTelemetry.Delivery.Transport
import LlmTelemetry.Http.Form
import LlmTelemetry.Unicode.Space
/-!
# The collector over HTTP

An endpoint is the address of a collector with the key to it. It is a transport on any network that
carries single exchanges: a request is written with its headers and query string, and the response is
read back with its `Retry-After` header, when that is a number. An exchange that the network does not
carry is a failure to connect.
-/

namespace LlmTelemetry

structure WireRequest where
  method : String
  url : String
  query : Option String
  authorization : Option String
  accept : String
  contentType : Option String
  body : Option Json

structure WireResponse where
  status : Nat
  /-- The values of the `Retry-After` headers. -/
  retryAfter : List (List UInt8)
  body : List UInt8

/-- A network carries a request to a server, or does not reach it. -/
structure Network (ν : Type) where
  exchange : WireRequest → ν → Option WireResponse × ν

/-- The network on which no server can be reached. -/
def Network.unreachable (ν : Type) : Network ν where
  exchange := fun _ network => (none, network)

/-- The address of a collector, and the key to it. -/
structure Endpoint where
  baseUrl : String
  apiKey : Option String
deriving DecidableEq

namespace Endpoint

/-- Slashes at the end of the address and an empty key do not count. -/
def ofUrl (url : String) (apiKey : Option String) : Endpoint where
  baseUrl := String.ofList (url.toList.reverse.dropWhile (· == '/')).reverse
  apiKey := apiKey.filter fun key => !key.isEmpty

def authorization (endpoint : Endpoint) (request : Request) : Option String :=
  if request.anonymous then none else endpoint.apiKey.map fun key => "Bearer " ++ key

/-- Whether a text can be the value of a header: no control characters but tabs. -/
def isHeaderValue (text : String) : Bool :=
  (Utf8.encode text).all fun byte => byte.toNat == 9 || (byte.toNat ≥ 32 && byte.toNat != 127)

/-- The request on the wire, unless its headers can not be written. -/
def wireRequest? (endpoint : Endpoint) (request : Request) : Option WireRequest :=
  let authorization := endpoint.authorization request
  if authorization.all isHeaderValue then
    some {
      method := request.method
      url := endpoint.baseUrl ++ request.path
      query := if request.params.isEmpty then none else some (Form.encode request.params)
      authorization := authorization
      accept := "application/json"
      contentType := request.body.map fun _ => "application/json"
      body := request.body }
  else none

/-- The number of seconds in a `Retry-After` header. -/
def readRetryAfter (values : List (List UInt8)) : Option Float :=
  values.head?.bind fun value =>
    if value.all fun byte => byte.toNat == 9 || (byte.toNat ≥ 32 && byte.toNat < 127) then
      Decimal.parse? (Unicode.trim (Utf8.decodeLossy value))
    else none

def readResponse (response : WireResponse) : Response where
  status := response.status
  retryAfter := readRetryAfter response.retryAfter
  body := Utf8.decodeLossy response.body

def unreachable (endpoint : Endpoint) : ApiError :=
  .connection ("failed to connect to AgentLens at " ++ endpoint.baseUrl)

def transport {ν : Type} (endpoint : Endpoint) (network : Network ν) : Transport ν where
  attempt := fun request state =>
    match endpoint.wireRequest? request with
    | none => (.error (.error endpoint.unreachable), state)
    | some request =>
      match network.exchange request state with
      | (some response, state) => (.ok (readResponse response), state)
      | (none, state) => (.error (.error endpoint.unreachable), state)

end Endpoint

end LlmTelemetry

import Checkout.Http.Error
import Checkout.Http.MediaType
import Checkout.Order.Json
import Checkout.Saga.Metrics
import Checkout.TraceContext

/-!
# The service over HTTP

Three resources: the health of the service, its counters, and the placement of orders.  A request is
either answered at once or asks for a placement, whose result is then the answer.  Pages of every
origin may use the service.
-/

set_option autoImplicit false

namespace Checkout.Http

/-- What the service does with a request. -/
inductive Action where
  | respond (response : Response)
  | place (request : OrderRequest) (trace : Option TraceContext) (timeout : Nat)

inductive Resource where
  | health
  | metrics
  | placeOrder
deriving DecidableEq

namespace Resource

def ofPath? : String → Option Resource
  | "/health" => some .health
  | "/metrics" => some .metrics
  | "/place_order" => some .placeOrder
  | _ => none

def methods : Resource → List String
  | .health => ["GET", "HEAD"]
  | .metrics => ["GET", "HEAD"]
  | .placeOrder => ["POST"]

def allow (resource : Resource) : String :=
  ",".intercalate resource.methods

end Resource

def timeoutHeader : String := "x-request-timeout-ms"

def bodyLimit : Nat := 2097152

inductive Rejection where
  | contentType
  | length
  | body (fault : Json.Fault)
deriving DecidableEq

def Rejection.message : Rejection → String
  | .contentType => "Expected request with `Content-Type: application/json`"
  | .length => "Failed to buffer the request body: length limit exceeded"
  | .body .malformed => "Failed to parse the request body as JSON"
  | .body .mismatched => "Failed to deserialize the JSON body into the target type"

namespace Service

def declaresJson (request : Request) : Bool :=
  match (request.header? "content-type").bind MediaType.parse? with
  | some media => media.isJson
  | none => false

def readOrderRequest (request : Request) : Except Rejection OrderRequest :=
  if declaresJson request then
    if request.body.length ≤ bodyLimit then
      (Json.decodeBytes OrderRequest.ofJson request.body).mapError .body
    else .error .length
  else .error .contentType

def validate (order : OrderRequest) : Except ApiError OrderRequest :=
  if Text.isBlankText order.userId then .error (.badRequest "user_id must not be empty")
  else if isCurrencyCode order.currency then .ok order
  else .error (.badRequest ("invalid user_currency " ++ Text.quoted order.currency))

/-- The smaller of the configured timeout and the one that the request asks for. -/
def timeout (configured : Nat) (request : Request) : Nat :=
  match request.header? timeoutHeader with
  | none => configured
  | some value =>
    match Text.readNatural (Nat.pow 2 64) (Text.trimList value.toList) with
    | .ok wanted => min wanted configured
    | .error _ => configured

def placeOrder (configured : Nat) (request : Request) : Except ApiError Action := do
  let order ← (readOrderRequest request).mapError fun rejection => .badRequest rejection.message
  let order ← validate order
  pure (.place order (TraceContext.extract? request.header?) (timeout configured request))

def placed : Except CheckoutError Order → Response
  | .ok order => .ofJson 200 (.record [("order", order.toJson)])
  | .error error => (ApiError.checkout error).response

inductive Health where
  | serving
  | notServing
deriving DecidableEq

def Health.all : List Health :=
  [.serving, .notServing]

def Health.name : Health → String
  | .serving => "SERVING"
  | .notServing => "NOT_SERVING"

/-- The service answers health checks only while it serves. -/
def health : Response :=
  .ofJson 200 (.record [("status", .ofString Health.serving.name)])

/-- The counters; a service without counters exposes nothing. -/
def metrics (counters : Option Metrics) : Response :=
  ⟨200, [("content-type", "text/plain; version=0.0.4; charset=utf-8")],
    .lines ((counters.map Metrics.exposition).getD [])⟩

def sharedHeaders : List (String × String) :=
  [("access-control-allow-origin", "*"),
    ("vary", "origin, access-control-request-method, access-control-request-headers")]

def withHeaders (headers : List (String × String)) (response : Response) : Response :=
  { response with headers := headers ++ response.headers }

def allowHeaders (resource : Option Resource) : List (String × String) :=
  match resource with
  | some resource => [("allow", resource.allow)]
  | none => []

def preflight (resource : Option Resource) : Response :=
  ⟨200, [("access-control-allow-headers", "*"), ("access-control-allow-methods", "*")]
    ++ allowHeaders resource, .none⟩

/-- What the service does for a resource, before the shared headers are added. -/
def serve (counters : Option Metrics) (configured : Nat) (request : Request) :
    Resource → Action
  | .health => .respond health
  | .metrics => .respond (metrics counters)
  | .placeOrder =>
    match placeOrder configured request with
    | .ok action => action
    | .error error => .respond error.response

/-- What the service does with a request, before the shared headers are added. -/
def route (counters : Option Metrics) (configured : Nat) (request : Request) : Action :=
  let resource := Resource.ofPath? request.path
  if request.method = "OPTIONS" then .respond (preflight resource)
  else
    match resource with
    | none => .respond ⟨404, [], .none⟩
    | some resource =>
      if request.method ∈ resource.methods then serve counters configured request resource
      else .respond ⟨405, allowHeaders (some resource), .none⟩

/-- Completes a response: the shared headers are added, and a response to `HEAD` has no content. -/
def complete (request : Request) (response : Response) : Response :=
  withHeaders sharedHeaders
    (if request.method = "HEAD" then { response with content := .none } else response)

end Service

end Checkout.Http

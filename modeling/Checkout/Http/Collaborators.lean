import Checkout.Config
import Checkout.Http.Client
import Checkout.Http.Service

/-!
# Collaborators over HTTP

The requests behind the calls of a placement and behind the questions for flags, and the answers that
are read from their responses.  With the addresses of a configuration they make up a backend.
-/

set_option autoImplicit false

namespace Checkout.Http

def readCart : Json.Decoder (List CartItem) := fun json => do
  match ← Json.slots ["items"] json with
  | [items] => Json.optional [] (Json.decodeList CartItem.ofJson) items
  | _ => .error .mismatched

def readField {α : Type} (name : String) (decoder : Json.Decoder α) : Json.Decoder α := fun json => do
  match ← Json.slots [name] json with
  | [value] => Json.required decoder value
  | _ => .error .mismatched

def shippingContent (address : Address) (items : List CartItem) : Json :=
  .record [("address", address.toJson), ("items", .array (items.map CartItem.toJson))]

def exchangeOf : (call : Call) → Exchange call.Reply
  | .getCart user => .get ["carts", user] readCart
  | .emptyCart user => .delete ["carts", user]
  | .getProduct product => .get ["products", product.text] Product.ofJson
  | .convert amount code =>
    .post ["convert"] (.record [("from", amount.toJson), ("to_code", .ofString code)]) Money.ofJson
  | .getQuote address items =>
    .post ["get_quote"] (shippingContent address items) (readField "cost_usd" Money.ofJson)
  | .shipOrder address items =>
    .post ["ship_order"] (shippingContent address items)
      (readField "tracking_id" Json.decodeString)
  | .charge _ amount card =>
    .post ["charge"] (.record [("amount", amount.toJson), ("credit_card", card.toJson)])
      (readField "transaction_id" Json.decodeString)
  | .sendConfirmation email order =>
    .tell ["send_order_confirmation"] (.record [("email", .ofString email), ("order", order.toJson)])

def unreachableAddress : String := "http://badAddress:50051"

def addressOf (config : Config) : Call → String
  | .getCart _ => config.cart
  | .emptyCart _ => config.cart
  | .getProduct _ => config.catalog
  | .convert _ _ => config.currency
  | .getQuote _ _ => config.shipping
  | .shipOrder _ _ => config.shipping
  | .charge .primary _ _ => config.payment
  | .charge .unreachable _ _ => unreachableAddress
  | .sendConfirmation _ _ => config.email

/-! ## Flags -/

def flagDepth : Nat := 126

/-- The exchange behind a question for a flag.  Any value is read; its kind is checked later. -/
def flagExchange (flag : String) : Exchange Json :=
  .post ["ofrep", "v1", "evaluate", "flags", flag] (.record [("context", .record [])])
    (readField "value" (Json.decodePlain flagDepth))

def flagValue? : (kind : FlagKind) → Json → Option kind.Value
  | .boolean, .bool value => some value
  | .integer, .number numeral => numeral.toInt?.filter fitsInt64
  | _, _ => none

def flagError (flag : String) : ServiceError → FlagError
  | .status 404 _ => .notFound flag
  | .invalidResponse reason => .malformed reason
  | error => .unavailable error.message

def flagAnswer (kind : FlagKind) (flag : String) (answer : Except ServiceError Json) :
    Except FlagError kind.Value :=
  match answer with
  | .error error => .error (flagError flag error)
  | .ok json =>
    match flagValue? kind json with
    | some value => .ok value
    | none => .error (.typeMismatch flag kind)

def askFlag {σ : Type} (around : Surroundings σ) (base : String) (caller : Caller) (kind : FlagKind)
    (flag : String) (world : σ) : Reaction σ (Except FlagError kind.Value) :=
  let reaction := perform around base (flagExchange flag) caller world
  ⟨reaction.received, reaction.hangsUp, reaction.delay, fun world =>
    let (answer, world) := reaction.answer world
    (flagAnswer kind flag answer, world)⟩

/-! ## The backend -/

def backend {σ : Type} (around : Surroundings σ) (config : Config) : Backend σ where
  call caller call world :=
    perform around (addressOf config call) (exchangeOf call) caller world
  flag caller kind flag world :=
    match config.flagBackend with
    | some base => askFlag around base caller kind flag world
    | none => .immediate world fun world => (.error (.notFound flag), world)
  orderId world :=
    let (digits, world) := around.digits world
    (.ok (OrderId.ofRandom digits), world)
  span := around.span
  send := around.send

/-- The answer of a service to a request, and what happened meanwhile; no answer if a placement never
ends. -/
def serve {σ : Type} (backend : Backend σ) (saga : Saga) (counters : Option Metrics)
    (configured : Nat) (fresh : TraceContext) (request : Request) (now : Instant) (world : σ) :
    Option (Result σ Response) :=
  match Service.route counters configured request with
  | .respond response =>
    some ⟨Service.complete request response, ⟨now, .unbounded, world⟩, []⟩
  | .place order trace timeout =>
    let trace := trace.getD fresh
    match (saga.place trace order).run backend trace ⟨now, ⟨none, some (now + timeout)⟩, world⟩ with
    | none => none
    | some result =>
      some ⟨Service.complete request (Service.placed result.value), result.machine, result.trail⟩

end Checkout.Http

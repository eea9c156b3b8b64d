import Checkout.Publish.Publication

/-!
# Placing an order

A placement reads the user's cart, prices its lines and the shipping in the user's currency, charges
the total, ships the cart, and then finishes as well as it can: it empties the cart, mails a
confirmation and publishes the order.  A failure up to and including the shipment aborts it; nothing
is tried twice and nothing is undone.  What fails after the shipment is reported and has no effect on
the answer.
-/

set_option autoImplicit false

namespace Checkout

structure Saga where
  publisher : Option Publisher
  flagsEnabled : Bool
deriving DecidableEq

namespace Saga

def describe (saga : Saga) : String :=
  Describe.partialRecord "CheckoutSaga" [("publishes_events", Describe.bool saga.publisher.isSome)]

/-- The failure of a cart with a line that no order can carry. -/
def badQuantity (item : CartItem) : ServiceError :=
  .invalidResponse
    ("product " ++ item.productId.text ++ " has quantity " ++ Text.natural item.quantity.toNat)

def priceItem (code : String) (item : CartItem) : Attempt OrderItem := do
  let product ← Attempt.call (.getProduct item.productId) (.pricingUnavailable item.productId)
  let cost ← Attempt.call (.convert product.price code) (.pricingUnavailable item.productId)
  pure ⟨item, cost⟩

def priceItems (code : String) : List CartItem → Attempt (List OrderItem)
  | [] => pure []
  | item :: rest => do
    let line ← priceItem code item
    let lines ← priceItems code rest
    pure (line :: lines)

/-- Reads the user's cart, all of whose quantities must be valid. -/
def readCart (user : String) : Attempt (List CartItem) := do
  let items ← Attempt.call (.getCart user) .cartUnavailable
  match items.find? fun item => ! decide item.HasValidQuantity with
  | some item => throw (.cartUnavailable (badQuantity item))
  | none => pure items

/-- The cost of shipping a cart, in the user's currency. -/
def quoteShipping (code : String) (address : Address) (items : List CartItem) : Attempt Money := do
  let quote ← Attempt.call (.getQuote address items) .shippingUnavailable
  Attempt.call (.convert quote code) .shippingUnavailable

def prepare (user code : String) (address : Address) : Attempt Preparation := do
  let items ← readCart user
  let lines ← priceItems code items
  let shippingCost ← quoteShipping code address items
  Attempt.note (.prepared lines.length shippingCost)
  pure ⟨lines, items, shippingCost⟩

/-- The endpoint to charge: the unreachable one exactly while the flag for it is on. -/
def chooseEndpoint (saga : Saga) : Program Endpoint := do
  let unreachable ← Program.flag saga.flagsEnabled .boolean Flags.paymentUnreachable
  if unreachable then
    Program.note .paymentDiverted
    pure .unreachable
  else pure .primary

def charge (saga : Saga) (total : Money) (card : Card) : Attempt String := do
  let endpoint ← Attempt.perform saga.chooseEndpoint
  let transaction ← Attempt.call (.charge endpoint total card) .paymentDeclined
  Attempt.note (.charged transaction)
  pure transaction

def ship (address : Address) (items : List CartItem) : Attempt String := do
  let tracking ← Attempt.call (.shipOrder address items) .shippingFailed
  Attempt.note (.shipped tracking)
  pure tracking

/-- Empties the user's cart; a failure is reported and dropped. -/
def resetCart (user : String) : Program Unit := do
  let answer ← Program.query (.call (.emptyCart user))
  match answer with
  | .ok _ => pure ()
  | .error error => Program.note (.cartKept user error)

/-- Mails the confirmation; a failure is reported and dropped. -/
def notify (email : String) (order : Order) : Program Unit := do
  let answer ← Program.query (.call (.sendConfirmation email order))
  match answer with
  | .ok _ => Program.note (.confirmed email order.id)
  | .error error => Program.note (.unconfirmed email order.id error)

def publish (saga : Saga) (trace : TraceContext) (order : Order) : Program Unit :=
  match saga.publisher with
  | none => pure ()
  | some publisher => do
    let _ ← publisher.publish saga.flagsEnabled trace order
    pure ()

/-- Ships what has been paid for; a failure is reported together with the charge. -/
def shipPaid (order : OrderId) (transaction : String) (total : Money) (address : Address)
    (items : List CartItem) : Attempt String :=
  ExceptT.mk do
    let answer ← ship address items
    match answer with
    | .ok tracking => pure (.ok tracking)
    | .error error =>
      Program.note (.paidUnshipped order transaction total error)
      pure (.error error)

def finish (saga : Saga) (trace : TraceContext) (request : OrderRequest) (order : Order) :
    Program Unit := do
  Program.note (.moved .shipping .finalizing)
  resetCart request.userId
  notify request.email order
  saga.publish trace order
  Program.note (.moved .finalizing .done)

/-- The course of a placement between its first and its last report. -/
def execute (saga : Saga) (trace : TraceContext) (request : OrderRequest) : Attempt Order := do
  let id ← Attempt.orderId
  let preparation ← prepare request.userId request.currency request.address
  let total ← ExceptT.mk (pure ((preparation.total request.currency).mapError .invalidTotal))
  Attempt.note (.totalComputed total)
  Attempt.note (.moved .preparing .paying)
  let transaction ← saga.charge total request.card
  Attempt.note (.moved .paying .shipping)
  let tracking ← shipPaid id transaction total request.address preparation.cartItems
  let order : Order :=
    ⟨id, tracking, preparation.shippingCost, request.address, preparation.orderItems⟩
  Attempt.perform (saga.finish trace request order)
  pure order

def place (saga : Saga) (trace : TraceContext) (request : OrderRequest) :
    Program (Except CheckoutError Order) := do
  Program.note .placing
  let result ← saga.execute trace request
  match result with
  | .ok order => Program.note (.placed order)
  | .error error =>
    Program.note (.aborted error)
    Program.note (.moved error.failedState .aborted)
  pure result

end Saga

end Checkout

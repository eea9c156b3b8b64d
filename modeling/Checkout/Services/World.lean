import Checkout.Flags.Store
import Checkout.Publish.Producer
import Checkout.Saga.Run
import Checkout.Services.Tables
import Checkout.Services.Ledger

/-!
# A world in memory

All collaborators of a checkout kept in memory, as a backend for its programs.  Each service can be
made slow, can be told to fail, and can make the caller hang up.  Order ids come from a list.
-/

set_option autoImplicit false

namespace Checkout

inductive Operation where
  | readCart
  | resetCart
  | lookup
  | convert
  | quote
  | ship
  | charge
  | chargeUnreachable
  | confirm
  | evaluate
deriving DecidableEq

namespace Operation

def name : Operation → String
  | .readCart => "cart.get"
  | .resetCart => "cart.empty"
  | .lookup => "catalog"
  | .convert => "currency"
  | .quote => "shipping.quote"
  | .ship => "shipping.ship"
  | .charge => "payment"
  | .chargeUnreachable => "unreachable"
  | .confirm => "email"
  | .evaluate => "flags"

def all : List Operation :=
  [.readCart, .resetCart, .lookup, .convert, .quote, .ship, .charge, .chargeUnreachable, .confirm,
    .evaluate]

def ofName? (name : String) : Option Operation :=
  all.find? fun operation => operation.name == name

end Operation

def Call.operation : Call → Operation
  | .getCart _ => .readCart
  | .emptyCart _ => .resetCart
  | .getProduct _ => .lookup
  | .convert _ _ => .convert
  | .getQuote _ _ => .quote
  | .shipOrder _ _ => .ship
  | .charge .primary _ _ => .charge
  | .charge .unreachable _ _ => .chargeUnreachable
  | .sendConfirmation _ _ => .confirm

/-- The services; `retag` is the currency under which every conversion is answered, if that is not
the wanted one. -/
structure World where
  carts : CartStore
  catalog : Catalog
  exchange : Exchange
  shipments : Shipments
  payments : Payments
  unreachable : Payments
  mailbox : Mailbox
  flags : FlagStore
  producer : MemoryProducer
  ids : List (Except IdentityError OrderId)
  delays : Table Operation Nat
  hangsUpOn : Option Operation
  retag : Option String
  spans : Nat

namespace World

/-- Nothing has happened yet.  The unreachable payment service fails. -/
def start (price : Money) (ids : List (Except IdentityError OrderId)) : World where
  carts := .empty
  catalog := .empty
  exchange := .par
  shipments := .atPrice price
  payments := Ledger.empty
  unreachable := { Ledger.empty with fails := true }
  mailbox := .empty
  flags := .empty
  producer := .empty
  ids := ids
  delays := .empty
  hangsUpOn := none
  retag := none
  spans := 0

/-- Tells a service to fail, or to stop failing.  Flags are taken off line by themselves. -/
def setFailing (world : World) (fails : Bool) : Operation → World
  | .readCart => { world with carts.failsReads := fails }
  | .resetCart => { world with carts.failsResets := fails }
  | .lookup => { world with catalog.fails := fails }
  | .convert => { world with exchange.fails := fails }
  | .quote => { world with shipments.failsQuotes := fails }
  | .ship => { world with shipments.ledger.fails := fails }
  | .charge => { world with payments.fails := fails }
  | .chargeUnreachable => { world with unreachable.fails := fails }
  | .confirm => { world with mailbox.fails := fails }
  | .evaluate => { world with flags := world.flags.setOffline fails }

def setDelay (world : World) (operation : Operation) : Option Nat → World
  | some delay => { world with delays := world.delays.insert operation delay }
  | none => { world with delays := world.delays.erase operation }

def retagged (world : World) (answer : Except ServiceError Money) : Except ServiceError Money := do
  let money ← answer
  match world.retag with
  | none => pure money
  | some code => (money.retag code).mapError fun error => .rejected error.message

def answer (world : World) : (call : Call) → Except ServiceError call.Reply × World
  | .getCart user =>
    let (answer, carts) := world.carts.read user
    (answer, { world with carts })
  | .emptyCart user =>
    let (answer, carts) := world.carts.reset user
    (answer, { world with carts })
  | .getProduct product =>
    let (answer, catalog) := world.catalog.lookup product
    (answer, { world with catalog })
  | .convert amount code =>
    let (answer, exchange) := world.exchange.convert amount code
    (world.retagged answer, { world with exchange })
  | .getQuote _ _ =>
    let (answer, shipments) := world.shipments.quote
    (answer, { world with shipments })
  | .shipOrder _ items =>
    let (answer, shipments) := world.shipments.ship items
    (answer, { world with shipments })
  | .charge .primary amount _ =>
    let (answer, payments) := world.payments.charge amount
    (answer, { world with payments })
  | .charge .unreachable amount _ =>
    let (answer, unreachable) := world.unreachable.charge amount
    (answer, { world with unreachable })
  | .sendConfirmation email order =>
    let (answer, mailbox) := world.mailbox.confirm email order.id
    (answer, { world with mailbox })

def evaluate (world : World) (kind : FlagKind) (flag : String) :
    Except FlagError kind.Value × World :=
  let (answer, flags) := world.flags.evaluate kind flag
  (answer, { world with flags })

def react {α : Type} (world : World) (operation : Operation) (answer : World → α × World) :
    Reaction World α where
  received := world
  hangsUp := world.hangsUpOn == some operation
  delay := some ((world.delays.get? operation).getD 0)
  answer := answer

def nextId (world : World) : Except IdentityError OrderId × World :=
  match world.ids with
  | [] => (.error ⟨"no more ids"⟩, world)
  | id :: ids => (id, { world with ids })

def nextSpan (world : World) : SpanId × World :=
  (.nth world.spans, { world with spans := world.spans + 1 })

def send (envelope : Envelope) (world : World) : Delivery × World :=
  let (delivery, producer) := world.producer.send envelope
  (delivery, { world with producer })

def backend : Backend World where
  call _ call world := world.react call.operation fun world => world.answer call
  flag _ kind flag world := world.react .evaluate fun world => world.evaluate kind flag
  orderId := nextId
  span := nextSpan
  send := send

end World

end Checkout

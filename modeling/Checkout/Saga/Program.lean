import Checkout.Saga.Event

/-!
# Programs

What a placement does, apart from computing: it asks questions, one at a time, and each answer
decides how it goes on.  A program is the tree of all that it may do; nothing in it knows who answers.
Every program asks finitely many questions, whatever the answers are.
-/

set_option autoImplicit false

namespace Checkout

/-- The payment service proper, and the one that is charged while charges are diverted. -/
inductive Endpoint where
  | primary
  | unreachable
deriving DecidableEq

inductive Call where
  | getCart (user : String)
  | emptyCart (user : String)
  | getProduct (product : ProductId)
  | convert (amount : Money) (code : String)
  | getQuote (address : Address) (items : List CartItem)
  | shipOrder (address : Address) (items : List CartItem)
  | charge (endpoint : Endpoint) (amount : Money) (card : Card)
  | sendConfirmation (email : String) (order : Order)
deriving DecidableEq

abbrev Call.Reply : Call → Type
  | .getCart _ => List CartItem
  | .emptyCart _ => Unit
  | .getProduct _ => Product
  | .convert _ _ => Money
  | .getQuote _ _ => Money
  | .shipOrder _ _ => String
  | .charge _ _ _ => String
  | .sendConfirmation _ _ => Unit

inductive Query where
  | call (call : Call)
  | flag (kind : FlagKind) (name : String)
  | orderId
  | span
  | send (envelope : Envelope)
  | settle (delivery : Delivery) (limit : Nat)
  | note (event : Event)
deriving DecidableEq

/-- The answers to a question.  A delivery is settled by an outcome after some time. -/
abbrev Query.Answer : Query → Type
  | .call made => Except ServiceError made.Reply
  | .flag kind _ => Except FlagError kind.Value
  | .orderId => Except IdentityError OrderId
  | .span => SpanId
  | .send _ => Delivery
  | .settle _ _ => PublishOutcome × Nat
  | .note _ => Unit

inductive Program (α : Type) where
  | done (value : α)
  | ask (query : Query) (next : query.Answer → Program α)

namespace Program

def bind {α β : Type} : Program α → (α → Program β) → Program β
  | .done value, next => next value
  | .ask query rest, next => .ask query fun answer => (rest answer).bind next

instance : Monad Program where
  pure := .done
  bind := bind

def query (query : Query) : Program query.Answer :=
  .ask query .done

def note (event : Event) : Program Unit :=
  query (.note event)

/-- The value of a flag.  Without a backend, or if the backend fails, that is the default. -/
def flag (enabled : Bool) (kind : FlagKind) (name : String) : Program kind.Value :=
  if enabled then do
    let answer ← query (.flag kind name)
    match answer with
    | .ok value => pure value
    | .error error =>
      note (.flagDefaulted name error)
      pure kind.default
  else pure kind.default

end Program

abbrev Attempt (α : Type) : Type := ExceptT CheckoutError Program α

namespace Attempt

/-- Runs a part that cannot abort the placement. -/
def perform {α : Type} (program : Program α) : Attempt α :=
  ExceptT.lift program

def call (call : Call) (abort : ServiceError → CheckoutError) : Attempt call.Reply :=
  ExceptT.mk do
    let answer ← Program.query (.call call)
    pure (answer.mapError abort)

def orderId : Attempt OrderId :=
  ExceptT.mk do
    let answer ← Program.query .orderId
    pure (answer.mapError .identityGenerationFailed)

def note (event : Event) : Attempt Unit :=
  perform (Program.note event)

end Attempt

end Checkout

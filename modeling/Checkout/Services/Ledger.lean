import Checkout.Saga.Error

/-!
# Services that keep ledgers

A ledger enters values under names of its own: a heading and the next value of a counter of 32 bits,
with at least four digits.  Entries are never changed or removed.  A ledger also counts the attempts
to enter something, whether they succeed or not.

The payment service enters every charge and can be told to decline.  The shipping service quotes one
price for everything and enters every shipment.  The e-mail service keeps the recipient and the order
of every confirmation.
-/

set_option autoImplicit false

namespace Checkout

/-! ## Ledgers -/

structure Ledger (α : Type) where
  entries : List (String × α)
  lastId : UInt32
  attempts : Nat
  fails : Bool
deriving DecidableEq

namespace Ledger

variable {α : Type}

def empty : Ledger α := ⟨[], 0, 0, false⟩

def entryName (heading : String) (id : UInt32) : String :=
  heading ++ "-" ++ String.ofList (Text.padded 4 id.toNat)

/-- Enters a value, unless the ledger is told to fail, and returns its name. -/
def enter (ledger : Ledger α) (heading : String) (value : α) : Option String × Ledger α :=
  if ledger.fails then (none, { ledger with attempts := ledger.attempts + 1 })
  else
    let id := ledger.lastId + 1
    let name := entryName heading id
    (some name, { ledger with
      entries := ledger.entries ++ [(name, value)], lastId := id, attempts := ledger.attempts + 1 })

def find? (ledger : Ledger α) (name : String) : Option α :=
  ledger.entries.lookup name

def values (ledger : Ledger α) : List α :=
  ledger.entries.map Prod.snd

end Ledger

/-! ## Payments -/

abbrev Payments : Type := Ledger Money

namespace Payments

def heading : String := "PAY"

def charge (payments : Payments) (amount : Money) : Except ServiceError String × Payments :=
  match payments.enter heading amount with
  | (some transaction, payments) => (.ok transaction, payments)
  | (none, payments) => (.error (.rejected "payment declined"), payments)

def charged? (payments : Payments) (transaction : String) : Option Money :=
  payments.find? transaction

end Payments

/-! ## Shipments -/

structure Shipments where
  price : Money
  quotes : Nat
  failsQuotes : Bool
  ledger : Ledger (List CartItem)
deriving DecidableEq

namespace Shipments

def heading : String := "TRACK"

def atPrice (price : Money) : Shipments := ⟨price, 0, false, .empty⟩

def quote (shipments : Shipments) : Except ServiceError Money × Shipments :=
  (if shipments.failsQuotes then .error (.rejected "quote unavailable") else .ok shipments.price,
    { shipments with quotes := shipments.quotes + 1 })

def ship (shipments : Shipments) (items : List CartItem) :
    Except ServiceError String × Shipments :=
  match shipments.ledger.enter heading items with
  | (some tracking, ledger) => (.ok tracking, { shipments with ledger })
  | (none, ledger) => (.error (.rejected "shipping unavailable"), { shipments with ledger })

def shipped? (shipments : Shipments) (tracking : String) : Option (List CartItem) :=
  shipments.ledger.find? tracking

end Shipments

/-! ## Mail -/

structure Mailbox where
  sent : List (String × OrderId)
  attempts : Nat
  fails : Bool
deriving DecidableEq

namespace Mailbox

def empty : Mailbox := ⟨[], 0, false⟩

def confirm (mailbox : Mailbox) (email : String) (order : OrderId) :
    Except ServiceError Unit × Mailbox :=
  if mailbox.fails then
    (.error (.status 500 "mailer down"), { mailbox with attempts := mailbox.attempts + 1 })
  else
    (.ok (), { mailbox with
      sent := mailbox.sent ++ [(email, order)], attempts := mailbox.attempts + 1 })

end Mailbox

end Checkout

import Checkout.Saga.Error
import Checkout.Table

/-!
# Services that keep tables

A catalog that knows the products it was given, a store of every user's cart, and a currency exchange
with a table of rates: the nanos of a currency that one unit of the reference currency buys.  A
conversion multiplies by the target's rate, divides by the source's rate, and drops what is left below
one nano.  Each service counts the calls it gets and can be told to fail.
-/

set_option autoImplicit false

namespace Checkout

/-! ## Catalog -/

structure Catalog where
  products : Table ProductId Product
  lookups : Nat
  fails : Bool
deriving DecidableEq

namespace Catalog

def empty : Catalog := ⟨.empty, 0, false⟩

def add (catalog : Catalog) (product : Product) : Catalog :=
  { catalog with products := catalog.products.insert product.id product }

def answer (catalog : Catalog) (id : ProductId) : Except ServiceError Product :=
  if catalog.fails then .error (.transport "catalog unreachable")
  else
    match catalog.products.get? id with
    | some product => .ok product
    | none => .error (.rejected ("no product with id " ++ id.text))

def lookup (catalog : Catalog) (id : ProductId) : Except ServiceError Product × Catalog :=
  (catalog.answer id, { catalog with lookups := catalog.lookups + 1 })

end Catalog

/-! ## Carts -/

structure CartStore where
  carts : Table String (List CartItem)
  reads : Nat
  resets : Nat
  failsReads : Bool
  failsResets : Bool
deriving DecidableEq

namespace CartStore

def empty : CartStore := ⟨.empty, 0, 0, false, false⟩

/-- The cart of a user, which is empty if there is none. -/
def cart (store : CartStore) (user : String) : List CartItem :=
  (store.carts.get? user).getD []

def setCart (store : CartStore) (user : String) (items : List CartItem) : CartStore :=
  { store with carts := store.carts.insert user items }

def unreachable : ServiceError := .transport "cart store unreachable"

def read (store : CartStore) (user : String) : Except ServiceError (List CartItem) × CartStore :=
  (if store.failsReads then .error unreachable else .ok (store.cart user),
    { store with reads := store.reads + 1 })

def reset (store : CartStore) (user : String) : Except ServiceError Unit × CartStore :=
  if store.failsResets then (.error unreachable, { store with resets := store.resets + 1 })
  else (.ok (), { store with carts := store.carts.erase user, resets := store.resets + 1 })

end CartStore

/-! ## Currency exchange -/

structure Exchange where
  rates : Table String Int
  conversions : Nat
  fails : Bool
deriving DecidableEq

namespace Exchange

def par : Exchange := ⟨(Table.empty).insert "USD" nanosPerUnit, 0, false⟩

def setRate (exchange : Exchange) (code : String) (rate : Int) : Exchange :=
  { exchange with rates := exchange.rates.insert code rate }

def rate (exchange : Exchange) (code : String) : Except ServiceError Int :=
  match (exchange.rates.get? code).filter fun rate => decide (0 < rate) with
  | some rate => .ok rate
  | none => .error (.rejected ("unsupported currency " ++ code))

/-- The number that is left in 128 bits. -/
def wrapInt128 (i : Int) : Int :=
  i.bmod (Nat.pow 2 128)

def ofConverted (code : String) (amount : Int) : Except ServiceError Money :=
  if fitsInt64 (amount.tdiv nanosPerUnit) then
    (Money.make code (amount.tdiv nanosPerUnit) (amount.tmod nanosPerUnit)).mapError
      fun error => .rejected error.message
  else .error (.rejected "conversion overflow")

def answer (exchange : Exchange) (amount : Money) (code : String) : Except ServiceError Money := do
  if exchange.fails then throw (.transport "currency service unreachable")
  let sourceRate ← exchange.rate amount.currency.text
  let targetRate ← exchange.rate code
  ofConverted code ((wrapInt128 (amount.amount * targetRate)).tdiv sourceRate)

def convert (exchange : Exchange) (amount : Money) (code : String) :
    Except ServiceError Money × Exchange :=
  (exchange.answer amount code, { exchange with conversions := exchange.conversions + 1 })

end Exchange

end Checkout

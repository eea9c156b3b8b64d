import Checkout.Money.Basic
import Checkout.OrderId

/-!
# Carts and orders

The values one checkout handles: the cart and its products, where and how the user pays, the
priced lines, and the order that is returned and published.  Nothing here outlives its request.
-/

set_option autoImplicit false

namespace Checkout

structure ProductId where
  text : String
deriving DecidableEq

structure CartItem where
  productId : ProductId
  quantity : UInt32
deriving DecidableEq

/-- The largest quantity that a published order can carry. -/
def CartItem.maxQuantity : Nat := 2147483647

/-- Whether a line orders at least one unit and no more than a published order can carry. -/
def CartItem.HasValidQuantity (item : CartItem) : Prop :=
  1 ≤ item.quantity.toNat ∧ item.quantity.toNat ≤ CartItem.maxQuantity

instance (item : CartItem) : Decidable item.HasValidQuantity :=
  inferInstanceAs (Decidable (_ ∧ _))

/-- A catalog entry; the price is in the catalog's own currency. -/
structure Product where
  id : ProductId
  name : String
  price : Money
deriving DecidableEq

structure Address where
  street : String
  city : String
  state : String
  country : String
  zipCode : Int32
deriving DecidableEq

def Address.blank : Address := ⟨"", "", "", "", 0⟩

structure Card where
  number : String
  cvv : Int32
  expirationYear : Int32
  expirationMonth : Int32
deriving DecidableEq

structure OrderRequest where
  userId : String
  currency : String
  address : Address
  email : String
  card : Card
deriving DecidableEq

/-- A cart line with the cost of one unit in the user's currency. -/
structure OrderItem where
  item : CartItem
  cost : Money
deriving DecidableEq

def OrderItem.lineTotal (line : OrderItem) : Except MoneyError Money :=
  line.cost.multiply line.item.quantity.toNat

/-- All that is gathered before the charge: the priced lines, the cart they come from, and the
cost of shipping in the user's currency. -/
structure Preparation where
  orderItems : List OrderItem
  cartItems : List CartItem
  shippingCost : Money
deriving DecidableEq

namespace Preparation

/-- Adds the totals of the lines to `total`, in order. -/
def addLines (total : Money) : List OrderItem → Except MoneyError Money
  | [] => .ok total
  | line :: rest => do
    let lineTotal ← line.lineTotal
    let next ← total.sum lineTotal
    addLines next rest

/-- Shipping and all line totals, added up from zero in the currency `code`. -/
def total (preparation : Preparation) (code : String) : Except MoneyError Money := do
  let none ← Money.zero code
  let shipping ← none.sum preparation.shippingCost
  addLines shipping preparation.orderItems

end Preparation

structure Order where
  id : OrderId
  trackingId : String
  shippingCost : Money
  shippingAddress : Address
  items : List OrderItem
deriving DecidableEq

end Checkout

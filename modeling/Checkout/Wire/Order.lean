import Checkout.Order.Basic
import Checkout.Wire.Fields

/-!
# Orders on the message bus

The binary form of a published order.  The messages below hold what their fields can hold; an
order is made from one only if every amount, quantity and id in it is valid.
-/

set_option autoImplicit false

namespace Checkout.Wire

structure MoneyMessage where
  currencyCode : String
  units : Int
  nanos : Int
deriving DecidableEq

structure CartItemMessage where
  productId : String
  quantity : Int
deriving DecidableEq

structure OrderItemMessage where
  item : Option CartItemMessage
  cost : Option MoneyMessage
deriving DecidableEq

structure AddressMessage where
  street : String
  city : String
  state : String
  country : String
  zipCode : Int
deriving DecidableEq

structure OrderMessage where
  orderId : String
  trackingId : String
  shippingCost : Option MoneyMessage
  shippingAddress : Option AddressMessage
  items : List OrderItemMessage
deriving DecidableEq

def MoneyMessage.blank : MoneyMessage := ⟨"", 0, 0⟩
def CartItemMessage.blank : CartItemMessage := ⟨"", 0⟩
def OrderItemMessage.blank : OrderItemMessage := ⟨none, none⟩
def AddressMessage.blank : AddressMessage := ⟨"", "", "", "", 0⟩
def OrderMessage.blank : OrderMessage := ⟨"", "", none, none, []⟩

/-! ## Reading -/

def store {α μ : Type} (message field : String) (put : α → μ) :
    Except Failure (α × List UInt8) → Except Failure (μ × List UInt8)
  | .ok (value, rest) => .ok (put value, rest)
  | .error failure => .error (failure.within message field)

/-- Skips a field that a message does not know. -/
def pass {μ : Type} (depth tag : Nat) (wireType : WireType) (message : μ) (bytes : List UInt8) :
    Except Failure (μ × List UInt8) :=
  match skipField depth wireType tag bytes with
  | .ok rest => .ok (message, rest)
  | .error cause => .error (.bare cause)

def MoneyMessage.merge : Merge MoneyMessage := fun depth tag wireType message bytes =>
  match tag with
  | 1 => store "MoneyMessage" "currency_code" (fun text => { message with currencyCode := text })
      ((readText wireType bytes).mapError .bare)
  | 2 => store "MoneyMessage" "units" (fun units => { message with units })
      ((readSigned 64 wireType bytes).mapError .bare)
  | 3 => store "MoneyMessage" "nanos" (fun nanos => { message with nanos })
      ((readSigned 32 wireType bytes).mapError .bare)
  | _ => pass depth tag wireType message bytes

def CartItemMessage.merge : Merge CartItemMessage := fun depth tag wireType message bytes =>
  match tag with
  | 1 => store "CartItemMessage" "product_id" (fun text => { message with productId := text })
      ((readText wireType bytes).mapError .bare)
  | 2 => store "CartItemMessage" "quantity" (fun quantity => { message with quantity })
      ((readSigned 32 wireType bytes).mapError .bare)
  | _ => pass depth tag wireType message bytes

def OrderItemMessage.merge : Merge OrderItemMessage := fun depth tag wireType message bytes =>
  match tag with
  | 1 => store "OrderItemMessage" "item" (fun item => { message with item := some item })
      (mergeNested CartItemMessage.merge depth wireType (message.item.getD .blank) bytes)
  | 2 => store "OrderItemMessage" "cost" (fun cost => { message with cost := some cost })
      (mergeNested MoneyMessage.merge depth wireType (message.cost.getD .blank) bytes)
  | _ => pass depth tag wireType message bytes

def AddressMessage.merge : Merge AddressMessage := fun depth tag wireType message bytes =>
  match tag with
  | 1 => store "AddressMessage" "street_address" (fun street => { message with street })
      ((readText wireType bytes).mapError .bare)
  | 2 => store "AddressMessage" "city" (fun city => { message with city })
      ((readText wireType bytes).mapError .bare)
  | 3 => store "AddressMessage" "state" (fun state => { message with state })
      ((readText wireType bytes).mapError .bare)
  | 4 => store "AddressMessage" "country" (fun country => { message with country })
      ((readText wireType bytes).mapError .bare)
  | 5 => store "AddressMessage" "zip_code" (fun zipCode => { message with zipCode })
      ((readSigned 32 wireType bytes).mapError .bare)
  | _ => pass depth tag wireType message bytes

def OrderMessage.merge : Merge OrderMessage := fun depth tag wireType message bytes =>
  match tag with
  | 1 => store "OrderResultMessage" "order_id" (fun text => { message with orderId := text })
      ((readText wireType bytes).mapError .bare)
  | 2 => store "OrderResultMessage" "shipping_tracking_id"
      (fun text => { message with trackingId := text })
      ((readText wireType bytes).mapError .bare)
  | 3 => store "OrderResultMessage" "shipping_cost"
      (fun cost => { message with shippingCost := some cost })
      (mergeNested MoneyMessage.merge depth wireType (message.shippingCost.getD .blank) bytes)
  | 4 => store "OrderResultMessage" "shipping_address"
      (fun address => { message with shippingAddress := some address })
      (mergeNested AddressMessage.merge depth wireType
        (message.shippingAddress.getD .blank) bytes)
  | 5 => store "OrderResultMessage" "items"
      (fun item => { message with items := message.items ++ [item] })
      (mergeNested OrderItemMessage.merge depth wireType .blank bytes)
  | _ => pass depth tag wireType message bytes

/-! ## Writing -/

def MoneyMessage.encode (message : MoneyMessage) : List UInt8 :=
  textField 1 message.currencyCode ++ signedField 2 message.units ++ signedField 3 message.nanos

def CartItemMessage.encode (message : CartItemMessage) : List UInt8 :=
  textField 1 message.productId ++ signedField 2 message.quantity

def nestedField {μ : Type} (tag : Nat) (encode : μ → List UInt8) : Option μ → List UInt8
  | some message => delimitedField tag (encode message)
  | none => []

def OrderItemMessage.encode (message : OrderItemMessage) : List UInt8 :=
  nestedField 1 CartItemMessage.encode message.item
    ++ nestedField 2 MoneyMessage.encode message.cost

def AddressMessage.encode (message : AddressMessage) : List UInt8 :=
  textField 1 message.street ++ textField 2 message.city ++ textField 3 message.state
    ++ textField 4 message.country ++ signedField 5 message.zipCode

def OrderMessage.encode (message : OrderMessage) : List UInt8 :=
  textField 1 message.orderId ++ textField 2 message.trackingId
    ++ nestedField 3 MoneyMessage.encode message.shippingCost
    ++ nestedField 4 AddressMessage.encode message.shippingAddress
    ++ message.items.flatMap fun item => delimitedField 5 item.encode

/-! ## Orders -/

/-- A quantity that the binary form cannot carry. -/
structure EncodeError where
  productId : ProductId
  quantity : UInt32
deriving DecidableEq

def EncodeError.message (error : EncodeError) : String :=
  "quantity " ++ Text.natural error.quantity.toNat ++ " of product " ++ error.productId.text
    ++ " does not fit the wire format"

inductive DecodeError where
  | malformed (failure : Failure)
  | missingField (name : String)
  | invalidOrderId (text : String)
  | invalidQuantity (quantity : Int)
  | invalidMoney (error : MoneyError)
deriving DecidableEq

def DecodeError.message : DecodeError → String
  | .malformed failure => "protobuf decode error: " ++ failure.message
  | .missingField name => "missing field: " ++ name
  | .invalidOrderId text => "invalid order id: " ++ text
  | .invalidQuantity quantity => "invalid quantity " ++ Text.integer quantity
  | .invalidMoney error => "invalid money: " ++ error.message

def MoneyMessage.ofMoney (money : Money) : MoneyMessage :=
  ⟨money.currency.text, money.units, money.nanos⟩

def AddressMessage.ofAddress (address : Address) : AddressMessage :=
  ⟨address.street, address.city, address.state, address.country, address.zipCode.toInt⟩

def OrderItemMessage.ofLine (line : OrderItem) : Except EncodeError OrderItemMessage :=
  if line.item.quantity.toNat ≤ CartItem.maxQuantity then
    .ok ⟨some ⟨line.item.productId.text, line.item.quantity.toNat⟩,
      some (MoneyMessage.ofMoney line.cost)⟩
  else .error ⟨line.item.productId, line.item.quantity⟩

def OrderMessage.ofOrder (order : Order) : Except EncodeError OrderMessage := do
  let items ← order.items.mapM OrderItemMessage.ofLine
  pure ⟨order.id.text, order.trackingId, some (MoneyMessage.ofMoney order.shippingCost),
    some (AddressMessage.ofAddress order.shippingAddress), items⟩

def MoneyMessage.toMoney (message : MoneyMessage) : Except DecodeError Money :=
  (Money.make message.currencyCode message.units message.nanos).mapError .invalidMoney

def AddressMessage.toAddress (message : AddressMessage) : Address :=
  ⟨message.street, message.city, message.state, message.country, Int32.ofInt message.zipCode⟩

def present {α : Type} (name : String) : Option α → Except DecodeError α
  | some value => .ok value
  | none => .error (.missingField name)

def OrderItemMessage.toLine (message : OrderItemMessage) : Except DecodeError OrderItem := do
  let item ← present "items.item" message.item
  if item.quantity ≤ 0 then .error (.invalidQuantity item.quantity)
  else
    let cost ← present "items.cost" message.cost
    let cost ← cost.toMoney
    pure ⟨⟨⟨item.productId⟩, UInt32.ofNat item.quantity.toNat⟩, cost⟩

def OrderMessage.toOrder (message : OrderMessage) : Except DecodeError Order := do
  let id ← (OrderId.ofText message.orderId).mapError fun _ => .invalidOrderId message.orderId
  let cost ← present "shipping_cost" message.shippingCost
  let cost ← cost.toMoney
  let items ← message.items.mapM OrderItemMessage.toLine
  pure ⟨id, message.trackingId, cost, (message.shippingAddress.getD .blank).toAddress, items⟩

end Checkout.Wire

namespace Checkout

open Wire

def Order.encode (order : Order) : Except EncodeError (List UInt8) :=
  (OrderMessage.ofOrder order).map OrderMessage.encode

def Order.decode (bytes : List UInt8) : Except DecodeError Order := do
  let message ← (mergeAll OrderMessage.merge .blank bytes).mapError .malformed
  message.toOrder

end Checkout

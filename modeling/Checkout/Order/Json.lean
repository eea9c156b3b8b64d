import Checkout.Json.Decode
import Checkout.Json.Printer
import Checkout.Order.Basic

/-!
# Orders as JSON

The JSON form of every value of a checkout: how it is written and how it is read.  Money and order
ids are checked when they are read, so no value of these types is ever invalid.
-/

set_option autoImplicit false

namespace Checkout

open Json (Decoder Fault)

namespace Money

def toJson (money : Money) : Json :=
  .record [("currency_code", .ofString money.currency.text), ("units", .ofInt money.units),
    ("nanos", .ofInt money.nanos)]

def ofJson : Decoder Money := fun json => do
  match ← Json.slots ["currency_code", "units", "nanos"] json with
  | [code, units, nanos] =>
    let code ← Json.required Json.decodeString code
    let units ← Json.optional 0 Json.decodeInt64 units
    let nanos ← Json.optional 0 Json.decodeInt32 nanos
    (Money.make code units nanos.toInt).mapError fun _ => .mismatched
  | _ => .error .mismatched

end Money

namespace OrderId

def toJson (id : OrderId) : Json :=
  .ofString id.text

def ofJson : Decoder OrderId := fun json => do
  let text ← Json.decodeString json
  (OrderId.ofText text).mapError fun _ => .mismatched

end OrderId

namespace ProductId

def toJson (id : ProductId) : Json :=
  .ofString id.text

def ofJson : Decoder ProductId := fun json =>
  (Json.decodeString json).map ProductId.mk

end ProductId

namespace CartItem

def toJson (item : CartItem) : Json :=
  .record [("product_id", item.productId.toJson), ("quantity", .ofNat item.quantity.toNat)]

def ofJson : Decoder CartItem := fun json => do
  match ← Json.slots ["product_id", "quantity"] json with
  | [productId, quantity] =>
    let productId ← Json.required ProductId.ofJson productId
    let quantity ← Json.required Json.decodeUInt32 quantity
    pure ⟨productId, quantity⟩
  | _ => .error .mismatched

end CartItem

namespace Product

def toJson (product : Product) : Json :=
  .record [("id", product.id.toJson), ("name", .ofString product.name),
    ("price_usd", product.price.toJson)]

def ofJson : Decoder Product := fun json => do
  match ← Json.slots ["id", "name", "price_usd"] json with
  | [id, name, price] =>
    let id ← Json.required ProductId.ofJson id
    let name ← Json.optional "" Json.decodeString name
    let price ← Json.required Money.ofJson price
    pure ⟨id, name, price⟩
  | _ => .error .mismatched

end Product

namespace Address

def toJson (address : Address) : Json :=
  .record [("street_address", .ofString address.street), ("city", .ofString address.city),
    ("state", .ofString address.state), ("country", .ofString address.country),
    ("zip_code", .ofInt address.zipCode.toInt)]

def ofJson : Decoder Address := fun json => do
  match ← Json.slots ["street_address", "city", "state", "country", "zip_code"] json with
  | [street, city, state, country, zipCode] =>
    let street ← Json.required Json.decodeString street
    let city ← Json.required Json.decodeString city
    let state ← Json.required Json.decodeString state
    let country ← Json.required Json.decodeString country
    let zipCode ← Json.required Json.decodeInt32 zipCode
    pure ⟨street, city, state, country, zipCode⟩
  | _ => .error .mismatched

end Address

namespace Card

def toJson (card : Card) : Json :=
  .record [("credit_card_number", .ofString card.number),
    ("credit_card_cvv", .ofInt card.cvv.toInt),
    ("credit_card_expiration_year", .ofInt card.expirationYear.toInt),
    ("credit_card_expiration_month", .ofInt card.expirationMonth.toInt)]

def ofJson : Decoder Card := fun json => do
  match ← Json.slots ["credit_card_number", "credit_card_cvv", "credit_card_expiration_year",
      "credit_card_expiration_month"] json with
  | [number, cvv, year, month] =>
    let number ← Json.required Json.decodeString number
    let cvv ← Json.required Json.decodeInt32 cvv
    let year ← Json.required Json.decodeInt32 year
    let month ← Json.required Json.decodeInt32 month
    pure ⟨number, cvv, year, month⟩
  | _ => .error .mismatched

end Card

namespace OrderItem

def toJson (line : OrderItem) : Json :=
  .record [("item", line.item.toJson), ("cost", line.cost.toJson)]

def ofJson : Decoder OrderItem := fun json => do
  match ← Json.slots ["item", "cost"] json with
  | [item, cost] =>
    let item ← Json.required CartItem.ofJson item
    let cost ← Json.required Money.ofJson cost
    pure ⟨item, cost⟩
  | _ => .error .mismatched

end OrderItem

namespace Order

def toJson (order : Order) : Json :=
  .record [("order_id", order.id.toJson),
    ("shipping_tracking_id", .ofString order.trackingId),
    ("shipping_cost", order.shippingCost.toJson),
    ("shipping_address", order.shippingAddress.toJson),
    ("items", .array (order.items.map OrderItem.toJson))]

def ofJson : Decoder Order := fun json => do
  match ← Json.slots ["order_id", "shipping_tracking_id", "shipping_cost", "shipping_address",
      "items"] json with
  | [id, trackingId, shippingCost, shippingAddress, items] =>
    let id ← Json.required OrderId.ofJson id
    let trackingId ← Json.required Json.decodeString trackingId
    let shippingCost ← Json.required Money.ofJson shippingCost
    let shippingAddress ← Json.required Address.ofJson shippingAddress
    let items ← Json.required (Json.decodeList OrderItem.ofJson) items
    pure ⟨id, trackingId, shippingCost, shippingAddress, items⟩
  | _ => .error .mismatched

end Order

namespace OrderRequest

def toJson (request : OrderRequest) : Json :=
  .record [("user_id", .ofString request.userId), ("user_currency", .ofString request.currency),
    ("address", request.address.toJson), ("email", .ofString request.email),
    ("credit_card", request.card.toJson)]

def ofJson : Decoder OrderRequest := fun json => do
  match ← Json.slots ["user_id", "user_currency", "address", "email", "credit_card"] json with
  | [userId, currency, address, email, card] =>
    let userId ← Json.required Json.decodeString userId
    let currency ← Json.required Json.decodeString currency
    let address ← Json.required Address.ofJson address
    let email ← Json.required Json.decodeString email
    let card ← Json.required Card.ofJson card
    pure ⟨userId, currency, address, email, card⟩
  | _ => .error .mismatched

end OrderRequest

end Checkout

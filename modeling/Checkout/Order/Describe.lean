import Checkout.Order.Basic
import Checkout.Text.Fields

/-!
# Descriptions of values

Values as they appear in diagnostics: the name of the type, then the fields in order.  A card's
number and verification value never appear.
-/

set_option autoImplicit false

namespace Checkout.Describe

def record (name : String) (fields : List (String × String)) : String :=
  name ++ " \x7b " ++ ", ".intercalate (fields.map fun (field, value) => field ++ ": " ++ value)
    ++ " \x7d"

def partialRecord (name : String) (fields : List (String × String)) : String :=
  name ++ " \x7b " ++ String.join (fields.map fun (field, value) => field ++ ": " ++ value ++ ", ")
    ++ ".. \x7d"

def wrapped (name value : String) : String :=
  name ++ "(" ++ value ++ ")"

def bool (b : Bool) : String :=
  if b then "true" else "false"

/-- A length of time in milliseconds: in seconds if it is at least one, with as many places as it
needs. -/
def duration (milliseconds : Nat) : String :=
  if milliseconds = 0 then "0ns"
  else if milliseconds < 1000 then Text.natural milliseconds ++ "ms"
  else
    let places := Text.dropTrailing (· == '0') (Text.padded 3 (milliseconds % 1000))
    Text.natural (milliseconds / 1000)
      ++ (if places.isEmpty then "" else "." ++ String.ofList places) ++ "s"

end Checkout.Describe

namespace Checkout

open Describe Text

def Money.describe (money : Money) : String :=
  record "Money" [("currency_code", quoted money.currency.text),
    ("units", integer money.units), ("nanos", integer money.nanos)]

def ProductId.describe (id : ProductId) : String :=
  wrapped "ProductId" (quoted id.text)

def CartItem.describe (item : CartItem) : String :=
  record "CartItem" [("product_id", item.productId.describe),
    ("quantity", natural item.quantity.toNat)]

def Address.describe (address : Address) : String :=
  record "Address" [("street_address", quoted address.street), ("city", quoted address.city),
    ("state", quoted address.state), ("country", quoted address.country),
    ("zip_code", integer address.zipCode.toInt)]

def Card.redacted : String := quoted "<redacted>"

def Card.describe (card : Card) : String :=
  record "CreditCardInfo" [("credit_card_number", Card.redacted),
    ("credit_card_cvv", Card.redacted),
    ("credit_card_expiration_year", integer card.expirationYear.toInt),
    ("credit_card_expiration_month", integer card.expirationMonth.toInt)]

def OrderRequest.describe (request : OrderRequest) : String :=
  record "PlaceOrderRequest" [("user_id", quoted request.userId),
    ("user_currency", quoted request.currency), ("address", request.address.describe),
    ("email", quoted request.email), ("credit_card", request.card.describe)]

end Checkout

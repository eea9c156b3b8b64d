import Checkout.Http.Message
import Checkout.Publish.Delivery
import Checkout.Saga.Error

/-!
# Failures as responses

A request that cannot be served is answered with an object that holds the reason.  The status tells
whether the request was at fault, and if it was not, whether the card had been charged.
-/

set_option autoImplicit false

namespace Checkout.Http

inductive ApiError where
  | badRequest (reason : String)
  | checkout (error : CheckoutError)
deriving DecidableEq

namespace ApiError

def status : ApiError → Nat
  | .badRequest _ => 400
  | .checkout error => if error.isPostPayment then 503 else 500

def message : ApiError → String
  | .badRequest reason => reason
  | .checkout error => error.message

def content (error : ApiError) : Json :=
  .record [("error", .ofString error.message)]

end ApiError

def Response.ofJson (status : Nat) (content : Json) : Response :=
  ⟨status, [("content-type", "application/json")], .json content⟩

def ApiError.response (error : ApiError) : Response :=
  .ofJson error.status error.content

inductive StartupError where
  | httpClient (reason : String)
  | producer (error : ProducerError)
deriving DecidableEq

def StartupError.message : StartupError → String
  | .httpClient reason => "failed to build HTTP client: " ++ reason
  | .producer error => "failed to create Kafka producer: " ++ error.message

end Checkout.Http

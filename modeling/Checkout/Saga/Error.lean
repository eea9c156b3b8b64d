import Checkout.Context.Lifetime
import Checkout.Order.Basic
import Checkout.Saga.State

/-!
# Failures

Why a call to a collaborator gave no answer that can be used, and why a placement is aborted.  The
error of a placement tells in which state that happened, and so whether the card had been charged.
-/

set_option autoImplicit false

namespace Checkout

inductive ServiceError where
  /-- The request brought no response. -/
  | transport (reason : String)
  /-- The service answered with a status other than success. -/
  | status (code : Nat) (content : String)
  /-- The response could not be understood. -/
  | invalidResponse (reason : String)
  /-- The service refused the request. -/
  | rejected (reason : String)
  /-- The request was over before the call was. -/
  | context (error : ContextError)
deriving DecidableEq

def ServiceError.message : ServiceError → String
  | .transport reason => "transport error: " ++ reason
  | .status code content => "unexpected status " ++ Text.natural code ++ ": " ++ content
  | .invalidResponse reason => "invalid response: " ++ reason
  | .rejected reason => "rejected: " ++ reason
  | .context error => error.message

structure IdentityError where
  reason : String
deriving DecidableEq

def IdentityError.message (error : IdentityError) : String :=
  "order id generation failed: " ++ error.reason

inductive CheckoutError where
  | identityGenerationFailed (error : IdentityError)
  | cartUnavailable (source : ServiceError)
  | pricingUnavailable (product : ProductId) (source : ServiceError)
  | shippingUnavailable (source : ServiceError)
  | paymentDeclined (source : ServiceError)
  | shippingFailed (source : ServiceError)
  | invalidTotal (source : MoneyError)
deriving DecidableEq

namespace CheckoutError

/-- The text of the failure that lies behind the error. -/
def cause : CheckoutError → String
  | .identityGenerationFailed error => error.message
  | .cartUnavailable source => source.message
  | .pricingUnavailable _ source => source.message
  | .shippingUnavailable source => source.message
  | .paymentDeclined source => source.message
  | .shippingFailed source => source.message
  | .invalidTotal source => source.message

def heading : CheckoutError → String
  | .identityGenerationFailed _ => "failed to generate order id"
  | .cartUnavailable _ => "failed to get user cart during checkout"
  | .pricingUnavailable product _ => "failed to prepare order items for product " ++ product.text
  | .shippingUnavailable _ => "shipping quote failure"
  | .paymentDeclined _ => "failed to charge card"
  | .shippingFailed _ => "shipping error"
  | .invalidTotal _ => "failed to compute order total"

def message (error : CheckoutError) : String :=
  error.heading ++ ": " ++ error.cause

/-- The state in which the error aborts a placement. -/
def failedState : CheckoutError → SagaState
  | .paymentDeclined _ => .paying
  | .shippingFailed _ => .shipping
  | _ => .preparing

/-- Whether the card had been charged before the error. -/
def isPostPayment : CheckoutError → Bool
  | .shippingFailed _ => true
  | _ => false

end CheckoutError

end Checkout

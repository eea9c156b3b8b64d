import Checkout.Flags.Basic
import Checkout.Publish.Delivery
import Checkout.Saga.Error

/-!
# Events of a placement

What a placement reports about itself while it runs.  Logs and counters are views of these events.
-/

set_option autoImplicit false

namespace Checkout

structure Publication where
  order : OrderId
  topic : String
  outcome : PublishOutcome
  duration : Nat
deriving DecidableEq

inductive Event where
  | placing
  | prepared (items : Nat) (shippingCost : Money)
  | totalComputed (total : Money)
  | moved (source target : SagaState)
  | flagDefaulted (flag : String) (error : FlagError)
  | paymentDiverted
  | charged (transaction : String)
  | shipped (tracking : String)
  | paidUnshipped (order : OrderId) (transaction : String) (total : Money) (error : CheckoutError)
  | cartKept (user : String) (error : ServiceError)
  | confirmed (email : String) (order : OrderId)
  | unconfirmed (email : String) (order : OrderId) (error : ServiceError)
  | settled (publication : Publication)
  | overloading (count : Nat)
  | overloadSent
  | overloaded (count : Nat)
  | published (publication : Publication)
  | placed (order : Order)
  | aborted (error : CheckoutError)
deriving DecidableEq

end Checkout

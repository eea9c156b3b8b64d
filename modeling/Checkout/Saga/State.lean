import Checkout.Json.Decode
import Checkout.Json.Printer

/-!
# States of a placement

A placement goes from preparing to paying, shipping, finalizing and done.  The first three states
can also be aborted; what is done or aborted has no next state.
-/

set_option autoImplicit false

namespace Checkout

inductive SagaState where
  | preparing
  | paying
  | shipping
  | finalizing
  | done
  | aborted
deriving DecidableEq

namespace SagaState

def canMoveTo : SagaState → SagaState → Bool
  | .preparing, .paying => true
  | .paying, .shipping => true
  | .shipping, .finalizing => true
  | .finalizing, .done => true
  | .preparing, .aborted => true
  | .paying, .aborted => true
  | .shipping, .aborted => true
  | _, _ => false

def isTerminal : SagaState → Bool
  | .done => true
  | .aborted => true
  | _ => false

def name : SagaState → String
  | .preparing => "Preparing"
  | .paying => "Paying"
  | .shipping => "Shipping"
  | .finalizing => "Finalizing"
  | .done => "Done"
  | .aborted => "Aborted"

def initial : SagaState := .preparing

def all : List SagaState := [.preparing, .paying, .shipping, .finalizing, .done, .aborted]

def ofName? (text : String) : Option SagaState :=
  all.find? fun state => state.name == text

def toJson (state : SagaState) : Json :=
  .ofString state.name

/-- A state is given by its name, or as an object whose only member has that name and no value. -/
def ofJson : Json.Decoder SagaState
  | .string (some text) =>
    match ofName? text with
    | some state => .ok state
    | none => .error .mismatched
  | .object [(some text, .null)] =>
    match ofName? text with
    | some state => .ok state
    | none => .error .mismatched
  | json => .error (Json.unexpected json)

end SagaState

end Checkout

import Checkout.Order.Describe

/-!
# Flags

Switches that operators turn while the service runs.  A flag is asked for when its value is needed.
A backend may fail to answer; whoever asks then goes on with the default of the flag's kind, so a
failing backend never stops a placement.
-/

set_option autoImplicit false

namespace Checkout

inductive FlagKind where
  | boolean
  | integer
deriving DecidableEq

namespace FlagKind

abbrev Value : FlagKind → Type
  | .boolean => Bool
  | .integer => Int

def default : (kind : FlagKind) → kind.Value
  | .boolean => false
  | .integer => (0 : Int)

def name : FlagKind → String
  | .boolean => "boolean"
  | .integer => "integer"

end FlagKind

inductive FlagError where
  | notFound (flag : String)
  | typeMismatch (flag : String) (expected : FlagKind)
  | unavailable (reason : String)
  | malformed (reason : String)
deriving DecidableEq

def FlagError.message : FlagError → String
  | .notFound flag => "flag not found: " ++ flag
  | .typeMismatch flag expected => "flag " ++ flag ++ " is not of type " ++ expected.name
  | .unavailable reason => "flag backend unavailable: " ++ reason
  | .malformed reason => "malformed flag response: " ++ reason

namespace Flags

/-- Whether charges go to a payment endpoint that cannot be reached. -/
def paymentUnreachable : String := "paymentServiceUnreachable"

/-- How many extra messages follow each published order. -/
def queueProblems : String := "kafkaQueueProblems"

def valueOr (kind : FlagKind) : Except FlagError kind.Value → kind.Value
  | .ok value => value
  | .error _ => kind.default

def describe (enabled : Bool) : String :=
  Describe.record "FeatureFlags" [("enabled", Describe.bool enabled)]

end Flags

end Checkout

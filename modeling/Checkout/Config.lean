import Checkout.Saga.Place
import Checkout.Text.Fields

/-!
# Configuration

The service is configured by named variables.  A variable whose value is blank counts as unset.  The
port comes first, then the request timeout, then the addresses of the collaborators; the first
variable that is missing or has an unusable value decides the error.
-/

set_option autoImplicit false

namespace Checkout

structure Config where
  host : String
  port : Nat
  cart : String
  catalog : String
  currency : String
  shipping : String
  payment : String
  email : String
  broker : Option String
  topic : String
  flagBackend : Option String
  requestTimeout : Nat
deriving DecidableEq

inductive ConfigError where
  | missing (name : String)
  | invalid (name value : String) (fault : Text.NumberFault)
deriving DecidableEq

def ConfigError.message : ConfigError → String
  | .missing name => "environment variable " ++ name ++ " must be set"
  | .invalid name value fault =>
    "environment variable " ++ name ++ " has invalid value " ++ Text.quoted value ++ ": "
      ++ fault.message

namespace Config

abbrev Lookup : Type := String → Option String

/-- The value of a variable, unless it is blank. -/
def optional (lookup : Lookup) (name : String) : Option String :=
  (lookup name).filter fun value => ! Text.isBlankText value

def required (lookup : Lookup) (name : String) : Except ConfigError String :=
  match optional lookup name with
  | some value => .ok value
  | none => .error (.missing name)

/-- A number below `bound` from the value of a variable, blanks around it apart. -/
def readNumber (bound : Nat) (name value : String) : Except ConfigError Nat :=
  (Text.readNatural bound (Text.trimList value.toList)).mapError (.invalid name value)

def startsWith : List Char → List Char → Bool
  | [], _ => true
  | _ :: _, [] => false
  | c :: start, d :: text => c == d && startsWith start text

def hasScheme : List Char → Bool
  | [] => false
  | c :: rest => startsWith "://".toList (c :: rest) || hasScheme rest

/-- An address without blanks around it and without slashes at its end; one without a scheme is an
address over HTTP. -/
def withScheme (address : String) : String :=
  let short := Text.dropTrailing (· == '/') (Text.trimList address.toList)
  if hasScheme short then String.ofList short else String.ofList ("http://".toList ++ short)

def address (lookup : Lookup) (name : String) : Except ConfigError String :=
  (required lookup name).map withScheme

def portName : String := "CHECKOUT_SERVICE_PORT"
def timeoutName : String := "CHECKOUT_REQUEST_TIMEOUT_MS"

def defaultTimeout : Nat := 30000

def readPort (lookup : Lookup) : Except ConfigError Nat := do
  readNumber (Nat.pow 2 16) portName (← required lookup portName)

def readTimeout (lookup : Lookup) : Except ConfigError Nat :=
  match optional lookup timeoutName with
  | some value => readNumber (Nat.pow 2 64) timeoutName value
  | none => .ok defaultTimeout

def load (lookup : Lookup) : Except ConfigError Config := do
  let port ← readPort lookup
  let requestTimeout ← readTimeout lookup
  let cart ← address lookup "CART_SERVICE_ADDR"
  let catalog ← address lookup "PRODUCT_CATALOG_SERVICE_ADDR"
  let currency ← address lookup "CURRENCY_SERVICE_ADDR"
  let shipping ← address lookup "SHIPPING_SERVICE_ADDR"
  let payment ← address lookup "PAYMENT_SERVICE_ADDR"
  let email ← address lookup "EMAIL_SERVICE_ADDR"
  pure {
    host := (optional lookup "CHECKOUT_SERVICE_HOST").getD "0.0.0.0"
    port, cart, catalog, currency, shipping, payment, email
    broker := optional lookup "KAFKA_SERVICE_ADDR"
    topic := (optional lookup "KAFKA_TOPIC").getD "orders"
    flagBackend := (optional lookup "FLAGD_ADDR").map withScheme
    requestTimeout }

def listenAddress (config : Config) : String :=
  config.host ++ ":" ++ Text.natural config.port

/-- What a service of this configuration does: it publishes orders if it has a broker, and asks for
flags if it has a backend for them. -/
def saga (config : Config) : Saga where
  publisher := config.broker.map fun _ => ⟨config.topic, Publisher.defaultDeliveryTimeout⟩
  flagsEnabled := config.flagBackend.isSome

end Config

end Checkout

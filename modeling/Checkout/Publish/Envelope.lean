import Checkout.TraceContext

/-!
# Envelopes

A message for the bus: its topic, its key, its content, and headers in the order in which they were
added.  A name may stand in several headers; the first one counts.
-/

set_option autoImplicit false

namespace Checkout

structure Envelope where
  topic : String
  key : Option String
  payload : List UInt8
  headers : List (String × String)
deriving DecidableEq

namespace Envelope

def blank (topic : String) : Envelope := ⟨topic, none, [], []⟩

def withKey (envelope : Envelope) (key : String) : Envelope :=
  { envelope with key := some key }

def withPayload (envelope : Envelope) (payload : List UInt8) : Envelope :=
  { envelope with payload }

def withHeader (envelope : Envelope) (name value : String) : Envelope :=
  { envelope with headers := envelope.headers ++ [(name, value)] }

def withTrace (envelope : Envelope) (trace : TraceContext) : Envelope :=
  { envelope with headers := envelope.headers ++ trace.headers }

def header? (envelope : Envelope) (name : String) : Option String :=
  headerValue? envelope.headers name

end Envelope

end Checkout

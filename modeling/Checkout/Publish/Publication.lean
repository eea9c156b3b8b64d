import Checkout.Saga.Program
import Checkout.Wire.Order

/-!
# Publication of orders

A placed order goes to one topic of the bus, under its id and in its binary form, with the headers of
a new span.  Exactly one outcome settles the publication, and it is never an error of the placement.
Afterwards the same message is sent as often again as the flag for queue problems says; nobody waits
for these.
-/

set_option autoImplicit false

namespace Checkout

/-- Where orders are published and how long a publication waits for its report. -/
structure Publisher where
  topic : String
  deliveryTimeout : Nat
deriving DecidableEq

namespace Publisher

def defaultDeliveryTimeout : Nat := 5000

def describe (publisher : Publisher) : String :=
  Describe.partialRecord "EventPublisher" [("topic", Text.quoted publisher.topic),
    ("delivery_timeout", Describe.duration publisher.deliveryTimeout)]

def describeOption : Option Publisher → String
  | none => "None"
  | some publisher => Describe.wrapped "Some" publisher.describe

def envelope (publisher : Publisher) (trace : TraceContext) (order : Order)
    (payload : List UInt8) : Envelope :=
  (((Envelope.blank publisher.topic).withKey order.id.text).withPayload payload).withTrace trace

def close (publication : Publication) : Program PublishOutcome := do
  Program.note (.published publication)
  pure publication.outcome

def repeatSend (envelope : Envelope) : Nat → Program Unit
  | 0 => pure ()
  | count + 1 => do
    let _ ← Program.query (.send envelope)
    Program.note .overloadSent
    repeatSend envelope count

/-- Sends the extra messages that the flag for queue problems asks for. -/
def overload (flagsEnabled : Bool) (envelope : Envelope) : Program Unit := do
  let count ← Program.flag flagsEnabled .integer Flags.queueProblems
  if count ≤ 0 then pure ()
  else
    Program.note (.overloading count.toNat)
    repeatSend envelope count.toNat
    Program.note (.overloaded count.toNat)

def sendAndSettle (publisher : Publisher) (envelope : Envelope) :
    Program (PublishOutcome × Nat) := do
  let delivery ← Program.query (.send envelope)
  Program.query (.settle delivery publisher.deliveryTimeout)

def publish (publisher : Publisher) (flagsEnabled : Bool) (trace : TraceContext) (order : Order) :
    Program PublishOutcome :=
  match order.encode with
  | .error error => do
    let publication : Publication :=
      ⟨order.id, publisher.topic, .failed (.encode error.message), 0⟩
    Program.note (.settled publication)
    close publication
  | .ok payload => do
    let span ← Program.query .span
    let envelope := publisher.envelope (trace.child span) order payload
    let (outcome, duration) ← publisher.sendAndSettle envelope
    let publication : Publication := ⟨order.id, publisher.topic, outcome, duration⟩
    Program.note (.settled publication)
    overload flagsEnabled envelope
    close publication

end Publisher

end Checkout

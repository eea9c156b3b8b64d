import Checkout.Publish.Delivery

/-!
# A producer in memory

Keeps every envelope it is given and answers sends in the way it is told to: with increasing
offsets, with a failure, or not at all.
-/

set_option autoImplicit false

namespace Checkout

inductive ProducerBehavior where
  | acknowledge
  | fail (reason : String)
  | hang
deriving DecidableEq

/-- The envelopes received, latest first, the offset of the next acknowledgement, and by their
numbers the envelopes whose reports are held back, so that their channels stay open. -/
structure MemoryProducer where
  received : List Envelope
  behavior : ProducerBehavior
  nextOffset : Nat
  pending : List Nat
deriving DecidableEq

namespace MemoryProducer

def empty : MemoryProducer := ⟨[], .acknowledge, 0, []⟩

def sent (producer : MemoryProducer) : List Envelope :=
  producer.received.reverse

def setBehavior (producer : MemoryProducer) (behavior : ProducerBehavior) : MemoryProducer :=
  { producer with behavior }

def delivery (producer : MemoryProducer) : Delivery :=
  match producer.behavior with
  | .acknowledge => .reported 0 true (.acknowledged ⟨0, producer.nextOffset⟩)
  | .fail reason => .reported 0 true (.failed (.broker reason))
  | .hang => .withheld

def send (producer : MemoryProducer) (envelope : Envelope) : Delivery × MemoryProducer :=
  (producer.delivery,
    { producer with
      received := envelope :: producer.received
      nextOffset := producer.nextOffset
        + if producer.behavior = .acknowledge then 1 else 0
      pending :=
        if producer.behavior = .hang then producer.received.length :: producer.pending
        else producer.pending })

end MemoryProducer

end Checkout

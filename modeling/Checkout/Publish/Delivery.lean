import Checkout.Context.Lifetime
import Checkout.Publish.Envelope

/-!
# Deliveries

A producer takes envelopes and reports on each at most once: the broker has stored the message, or
it has not.  The report may come with the send, later, or never.  Whoever waits for it gives up when
the request is over or the delivery timeout has passed, and one of three outcomes settles the
publication.
-/

set_option autoImplicit false

namespace Checkout

structure Acknowledgement where
  partition : Int
  offset : Int
deriving DecidableEq

inductive ProducerError where
  | broker (reason : String)
  | enqueue (reason : String)
  | encode (reason : String)
  | configuration (reason : String)
deriving DecidableEq

def ProducerError.message : ProducerError → String
  | .broker reason => "broker error: " ++ reason
  | .enqueue reason => "enqueue failed: " ++ reason
  | .encode reason => "encode failed: " ++ reason
  | .configuration reason => "producer configuration error: " ++ reason

inductive Report where
  | acknowledged (acknowledgement : Acknowledgement)
  | failed (error : ProducerError)
deriving DecidableEq

/-- What becomes of a send: a report some time after it (at once if that time is zero), a report
that is discarded unused, or one that is held back for ever.  A report is `ahead` if it is there
already when the sender wakes up at its instant. -/
inductive Delivery where
  | reported (after : Nat) (ahead : Bool) (report : Report)
  | discarded
  | withheld
deriving DecidableEq

inductive PublishOutcome where
  | delivered (acknowledgement : Acknowledgement)
  | failed (error : ProducerError)
  | cancelled (error : ContextError)
deriving DecidableEq

/-- One of the two channels on which a producer reports, as seen right after the send. -/
inductive Channel (α : Type) where
  | value (value : α)
  | open
  | closed
deriving DecidableEq

namespace Delivery

def acknowledgement : Delivery → Channel Acknowledgement
  | .reported 0 _ (.acknowledged acknowledgement) => .value acknowledgement
  | .reported 0 _ (.failed _) => .closed
  | .discarded => .closed
  | _ => .open

def error : Delivery → Channel ProducerError
  | .reported 0 _ (.failed error) => .value error
  | .reported 0 _ (.acknowledged _) => .closed
  | .discarded => .closed
  | _ => .open

end Delivery

def Report.outcome : Report → PublishOutcome
  | .acknowledged acknowledgement => .delivered acknowledgement
  | .failed error => .failed error

/-- The instant at which a delivery is settled and the outcome, for somebody who has sent an envelope
at `now` and waits no longer than `limit`.  A report that comes with the send counts even if the
request is over, and one that comes as the wait ends counts if it is ahead. -/
def Delivery.settle (delivery : Delivery) (life : Lifetime) (now : Instant) (limit : Nat) :
    Instant × PublishOutcome :=
  let (ending, error) := ((life.tighten (now + limit)).await? now).getD
    (now + limit, .deadlineExceeded)
  match delivery with
  | .reported after ahead report =>
    if after = 0 ∨ now + after < ending ∨ (ahead ∧ now + after = ending) then
      (now + after, report.outcome)
    else (ending, .cancelled error)
  | .discarded => (ending, .cancelled error)
  | .withheld => (ending, .cancelled error)

def PublishOutcome.isDelivered : PublishOutcome → Bool
  | .delivered _ => true
  | _ => false

end Checkout

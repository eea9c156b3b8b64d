import Checkout.Saga.Event

/-!
# Counters

What the service counts, and how the counts are exposed to whoever collects them: a line that names
the type of each metric, then one line a sample.  Of the two durations only the number of samples is
kept here.
-/

set_option autoImplicit false

namespace Checkout

structure PlacementCounts where
  placed : Nat
  failedPreparing : Nat
  failedPaying : Nat
  failedShipping : Nat
  paidUnshipped : Nat
deriving DecidableEq

structure PublicationCounts where
  delivered : Nat
  failed : Nat
  cancelled : Nat
  overloadSends : Nat
deriving DecidableEq

structure Metrics where
  placements : PlacementCounts
  publications : PublicationCounts
deriving DecidableEq

namespace PlacementCounts

def zero : PlacementCounts := ⟨0, 0, 0, 0, 0⟩

def countFailure (counts : PlacementCounts) : SagaState → PlacementCounts
  | .preparing => { counts with failedPreparing := counts.failedPreparing + 1 }
  | .paying => { counts with failedPaying := counts.failedPaying + 1 }
  | .shipping => { counts with failedShipping := counts.failedShipping + 1 }
  | _ => counts

def count (counts : PlacementCounts) : Event → PlacementCounts
  | .placed _ => { counts with placed := counts.placed + 1 }
  | .aborted error => counts.countFailure error.failedState
  | .paidUnshipped .. => { counts with paidUnshipped := counts.paidUnshipped + 1 }
  | _ => counts

/-- The number of placements, which is the number of their durations. -/
def total (counts : PlacementCounts) : Nat :=
  counts.placed + counts.failedPreparing + counts.failedPaying + counts.failedShipping

end PlacementCounts

namespace PublicationCounts

def zero : PublicationCounts := ⟨0, 0, 0, 0⟩

def countOutcome (counts : PublicationCounts) : PublishOutcome → PublicationCounts
  | .delivered _ => { counts with delivered := counts.delivered + 1 }
  | .failed _ => { counts with failed := counts.failed + 1 }
  | .cancelled _ => { counts with cancelled := counts.cancelled + 1 }

def count (counts : PublicationCounts) : Event → PublicationCounts
  | .settled publication => counts.countOutcome publication.outcome
  | .overloadSent => { counts with overloadSends := counts.overloadSends + 1 }
  | _ => counts

/-- The number of publications, which is the number of their durations. -/
def total (counts : PublicationCounts) : Nat :=
  counts.delivered + counts.failed + counts.cancelled

end PublicationCounts

namespace Metrics

def zero : Metrics := ⟨.zero, .zero⟩

def count (metrics : Metrics) (event : Event) : Metrics :=
  ⟨metrics.placements.count event, metrics.publications.count event⟩

def countAll (metrics : Metrics) (events : List Event) : Metrics :=
  events.foldl count metrics

structure Sample where
  name : String
  label : Option (String × String)
  value : Nat
deriving DecidableEq

def Sample.key (sample : Sample) : String :=
  match sample.label with
  | none => sample.name
  | some (label, value) => sample.name ++ "\x7b" ++ label ++ "=\"" ++ value ++ "\"\x7d"

def PlacementCounts.samples (counts : PlacementCounts) : List Sample :=
  [⟨"checkout_place_order_total", none, counts.placed⟩,
    ⟨"checkout_paid_unshipped_orders_total", none, counts.paidUnshipped⟩,
    ⟨"checkout_place_order_failed_total", some ("step", "Preparing"), counts.failedPreparing⟩,
    ⟨"checkout_place_order_failed_total", some ("step", "Paying"), counts.failedPaying⟩,
    ⟨"checkout_place_order_failed_total", some ("step", "Shipping"), counts.failedShipping⟩,
    ⟨"checkout_place_order_duration_seconds_count", none, counts.total⟩]

def PublicationCounts.samples (counts : PublicationCounts) : List Sample :=
  [⟨"checkout_kafka_publish_total", some ("outcome", "delivered"), counts.delivered⟩,
    ⟨"checkout_kafka_publish_total", some ("outcome", "failed"), counts.failed⟩,
    ⟨"checkout_kafka_publish_total", some ("outcome", "cancelled"), counts.cancelled⟩,
    ⟨"checkout_kafka_overload_sends_total", none, counts.overloadSends⟩,
    ⟨"checkout_kafka_publish_duration_seconds_count", none, counts.total⟩]

def samples (metrics : Metrics) : List Sample :=
  PlacementCounts.samples metrics.placements ++ PublicationCounts.samples metrics.publications

def types : List (String × String) :=
  [("checkout_place_order_total", "counter"),
    ("checkout_paid_unshipped_orders_total", "counter"),
    ("checkout_place_order_failed_total", "counter"),
    ("checkout_place_order_duration_seconds", "summary"),
    ("checkout_kafka_publish_total", "counter"),
    ("checkout_kafka_overload_sends_total", "counter"),
    ("checkout_kafka_publish_duration_seconds", "summary")]

def exposition (metrics : Metrics) : List String :=
  types.map (fun (name, type) => "# TYPE " ++ name ++ " " ++ type)
    ++ metrics.samples.map fun sample => sample.key ++ " " ++ Text.natural sample.value

end Metrics

end Checkout

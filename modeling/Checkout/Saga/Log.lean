import Checkout.Saga.Event

/-!
# Logs

How the events of a placement appear in logs: a level, a message, and named fields.  A publication
also leaves a span, which is written when it closes.  A card never appears.
-/

set_option autoImplicit false

namespace Checkout

inductive LogLevel where
  | debug
  | info
  | warn
  | error
  | span
deriving DecidableEq

def LogLevel.name : LogLevel → String
  | .debug => "DEBUG"
  | .info => "INFO"
  | .warn => "WARN"
  | .error => "ERROR"
  | .span => "SPAN"

structure LogLine where
  level : LogLevel
  message : String
  fields : List (String × String)
deriving DecidableEq

namespace Publication

def line (publication : Publication) : LogLine :=
  match publication.outcome with
  | .delivered acknowledgement =>
    ⟨.info, "Successful to write message",
      [("topic", publication.topic),
        ("partition", Text.integer acknowledgement.partition),
        ("offset", Text.integer acknowledgement.offset),
        ("duration_ms", Text.natural publication.duration)]⟩
  | .failed error =>
    ⟨.error, "Failed to write message",
      [("topic", publication.topic), ("error", error.message)]⟩
  | .cancelled error =>
    ⟨.warn, "Publish abandoned",
      [("topic", publication.topic), ("reason", error.message), ("outcome", "cancelled")]⟩

def outcomeFields (publication : Publication) : List (String × String) :=
  match publication.outcome with
  | .delivered acknowledgement =>
    [("messaging.destination.partition.id", Text.integer acknowledgement.partition),
      ("messaging.kafka.offset", Text.integer acknowledgement.offset),
      ("otel.status_code", "OK")]
  | .failed error => [("otel.status_code", "ERROR"), ("otel.status_message", error.message)]
  | .cancelled error => [("otel.status_code", "ERROR"), ("otel.status_message", error.message)]

def span (publication : Publication) : LogLine :=
  ⟨.span, "publish",
    [("otel.name", publication.topic ++ " publish"), ("otel.kind", "producer"),
      ("peer.service", "kafka"), ("messaging.system", "kafka"),
      ("messaging.destination.name", publication.topic),
      ("messaging.operation.type", "publish"),
      ("app.order.id", publication.order.text),
      ("messaging.kafka.producer.duration_ms", Text.natural publication.duration),
      ("messaging.kafka.producer.success", Describe.bool publication.outcome.isDelivered)]
      ++ publication.outcomeFields⟩

end Publication

def Event.line? : Event → Option LogLine
  | .placing => some ⟨.info, "placing order", []⟩
  | .prepared items shippingCost => some ⟨.debug, "order prepared",
      [("items", Text.natural items), ("shipping_cost", shippingCost.display)]⟩
  | .totalComputed total => some ⟨.debug, "order total computed", [("total", total.display)]⟩
  | .moved source target => some ⟨.debug, "saga state transition",
      [("from", source.name), ("to", target.name)]⟩
  | .flagDefaulted flag error => some ⟨.debug, "flag evaluation failed, using default",
      [("flag", flag), ("error", error.message)]⟩
  | .paymentDiverted => some ⟨.warn,
      Flags.paymentUnreachable ++ " flag is active, charging unreachable endpoint", []⟩
  | .charged transaction => some ⟨.info, "payment went through",
      [("app.payment.transaction.id", transaction)]⟩
  | .shipped tracking => some ⟨.info, "order shipped", [("app.shipping.tracking.id", tracking)]⟩
  | .paidUnshipped order transaction total error => some ⟨.error,
      "order charged but not shipped, no refund issued",
      [("app.order.id", order.text), ("app.payment.transaction.id", transaction),
        ("amount", total.display), ("error", error.message)]⟩
  | .cartKept user error => some ⟨.warn, "failed to empty user cart during checkout",
      [("app.user.id", user), ("error", error.message)]⟩
  | .confirmed email order => some ⟨.info, "order confirmation email sent",
      [("email", email), ("app.order.id", order.text)]⟩
  | .unconfirmed email order error => some ⟨.warn, "failed to send order confirmation",
      [("email", email), ("app.order.id", order.text), ("error", error.message)]⟩
  | .settled publication => some publication.line
  | .overloading count => some ⟨.warn, Flags.queueProblems ++ " flag is active, overloading queue",
      [("count", Text.natural count)]⟩
  | .overloadSent => none
  | .overloaded count => some ⟨.info, "Done with messages for overload simulation",
      [("count", Text.natural count)]⟩
  | .published publication => some publication.span
  | .placed order => some ⟨.info, "order placed",
      [("app.order.id", order.id.text), ("app.shipping.tracking.id", order.trackingId),
        ("app.order.items.count", Text.natural order.items.length)]⟩
  | .aborted error => some ⟨.error, "order placement aborted",
      [("state", error.failedState.name), ("error", error.message)]⟩

def logLines (events : List Event) : List LogLine :=
  events.filterMap Event.line?

end Checkout

import Checkout.Context.Lifetime
import Checkout.TraceContext

/-!
# Request contexts

A context goes along with every call that is made for a request.  It carries the trace, the
deadline, and the handle that can cancel it.  Contexts derived from one another share the handle,
and their deadlines only come closer.
-/

set_option autoImplicit false

namespace Checkout

/-- What cancels a context and all contexts derived from it. -/
structure Handle where
  number : Nat
deriving DecidableEq

structure Context where
  trace : TraceContext
  deadline : Option Instant
  handle : Option Handle
deriving DecidableEq

namespace Context

def background (trace : TraceContext) : Context := ⟨trace, none, none⟩

def cancellable (trace : TraceContext) (handle : Handle) : Context := ⟨trace, none, some handle⟩

def withTrace (context : Context) (trace : TraceContext) : Context :=
  { context with trace }

def withDeadline (context : Context) (deadline : Instant) : Context :=
  { context with deadline := Lifetime.earlier context.deadline (some deadline) }

def withTimeout (context : Context) (now : Instant) (timeout : Nat) : Context :=
  context.withDeadline (now + timeout)

def remaining (context : Context) (now : Instant) : Option Nat :=
  context.deadline.map (· - now)

def lifetime (cancelled : Handle → Option Instant) (context : Context) : Lifetime :=
  ⟨context.handle.bind cancelled, context.deadline⟩

end Context

end Checkout

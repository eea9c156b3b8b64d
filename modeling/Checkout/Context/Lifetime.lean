/-!
# Lifetimes

Time is counted in milliseconds.  Work on behalf of a request is bounded by a lifetime: it is over
as soon as it is cancelled or its deadline has come.  The instant of the deadline itself is already
too late, and a cancellation is reported before a deadline.

Work that is over does not start.  Work that has started ends with its own result if that comes
strictly before the end of the lifetime, or at once; otherwise it is abandoned at that end.
-/

set_option autoImplicit false

namespace Checkout

/-- Milliseconds since the clock was started. -/
abbrev Instant := Nat

/-- The last instant of the clock, which counts seconds in 64 bits with a sign. -/
def lastInstant : Instant := Nat.pow 2 63 * 1000 - 1

inductive ContextError where
  | cancelled
  | deadlineExceeded
deriving DecidableEq

def ContextError.message : ContextError → String
  | .cancelled => "context cancelled"
  | .deadlineExceeded => "context deadline exceeded"

/-- The instant at which work is cancelled, if it ever is, and its deadline, if it has one. -/
structure Lifetime where
  cancelled : Option Instant
  deadline : Option Instant
deriving DecidableEq

/-- How work goes on: it is not started, it is finished, it is abandoned, or it never ends. -/
inductive Course where
  | refused (error : ContextError)
  | finished (instant : Instant)
  | abandoned (instant : Instant) (error : ContextError)
  | endless
deriving DecidableEq

namespace Lifetime

def unbounded : Lifetime := ⟨none, none⟩

/-- Whether an event that happens at `event`, if ever, has happened by `now`. -/
def reached (event : Option Instant) (now : Instant) : Bool :=
  event.any fun instant => decide (instant ≤ now)

/-- Why a lifetime is over at `now`, or `none` if it is not. -/
def error? (life : Lifetime) (now : Instant) : Option ContextError :=
  if reached life.cancelled now then some .cancelled
  else if reached life.deadline now then some .deadlineExceeded
  else none

/-- When a lifetime ends and why, or `none` if it never does. -/
def ending? : Lifetime → Option (Instant × ContextError)
  | ⟨none, none⟩ => none
  | ⟨some cancelled, none⟩ => some (cancelled, .cancelled)
  | ⟨none, some deadline⟩ => some (deadline, .deadlineExceeded)
  | ⟨some cancelled, some deadline⟩ =>
    if cancelled ≤ deadline then some (cancelled, .cancelled)
    else some (deadline, .deadlineExceeded)

/-- When somebody who waits from `now` on for the end of the lifetime sees it, and the reason. -/
def await? (life : Lifetime) (now : Instant) : Option (Instant × ContextError) :=
  match life.error? now with
  | some error => some (now, error)
  | none => life.ending?

/-- The course of work that is under way at `now` and takes `delay`, if it ever ends. -/
def race (life : Lifetime) (now : Instant) (delay : Option Nat) : Course :=
  match delay, life.await? now with
  | none, none => .endless
  | none, some (instant, error) => .abandoned instant error
  | some delay, none => .finished (now + delay)
  | some delay, some (instant, error) =>
    if delay = 0 ∨ now + delay < instant then .finished (now + delay)
    else .abandoned instant error

def course (life : Lifetime) (now : Instant) (delay : Option Nat) : Course :=
  match life.error? now with
  | some error => .refused error
  | none => life.race now delay

def earlier : Option Instant → Option Instant → Option Instant
  | none, right => right
  | some left, none => some left
  | some left, some right => some (min left right)

def cancelledBy (life : Lifetime) (instant : Instant) : Lifetime :=
  { life with cancelled := earlier life.cancelled (some instant) }

def tighten (life : Lifetime) (instant : Instant) : Lifetime :=
  { life with deadline := earlier life.deadline (some instant) }

end Lifetime

end Checkout

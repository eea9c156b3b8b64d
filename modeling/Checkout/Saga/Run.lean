import Checkout.Saga.Place

/-!
# Running programs

A program runs against a backend, which holds the world of the collaborators and answers the
program's questions, on a clock that only questions move.  Calls are bounded by the lifetime of the
request: a call is not made once that is over, and one under way is abandoned when it ends.  Questions
for flags are not bounded.  The run yields what happened, in order and with the instants.
-/

set_option autoImplicit false

namespace Checkout

/-- What a collaborator is told about the request on whose behalf it is called. -/
structure Caller where
  trace : TraceContext
  life : Lifetime
  now : Instant
deriving DecidableEq

/-- How a collaborator takes a call: the world once it has received the call, whether the request is
cancelled while it does, the time it takes, if it ever answers, and then its answer, which may
change the world again. -/
structure Reaction (σ α : Type) where
  received : σ
  hangsUp : Bool
  delay : Option Nat
  answer : σ → α × σ

def Reaction.immediate {σ α : Type} (world : σ) (answer : σ → α × σ) : Reaction σ α :=
  ⟨world, false, some 0, answer⟩

structure Backend (σ : Type) where
  call : Caller → (call : Call) → σ → Reaction σ (Except ServiceError call.Reply)
  flag : Caller → (kind : FlagKind) → String → σ → Reaction σ (Except FlagError kind.Value)
  orderId : σ → Except IdentityError OrderId × σ
  span : σ → SpanId × σ
  send : Envelope → σ → Delivery × σ

inductive Happening where
  | called (call : Call)
  | answered (call : Call) (answer : Except ServiceError call.Reply)
  | abandoned (call : Call) (error : ContextError)
  | asked (kind : FlagKind) (flag : String)
  | sent (envelope : Envelope) (delivery : Delivery)
  | noted (event : Event)

structure Entry where
  instant : Instant
  happening : Happening

structure Machine (σ : Type) where
  now : Instant
  life : Lifetime
  world : σ

structure Result (σ α : Type) where
  value : α
  machine : Machine σ
  trail : List Entry

namespace Machine

variable {σ : Type}

def caller (trace : TraceContext) (machine : Machine σ) : Caller :=
  ⟨trace, machine.life, machine.now⟩

def lifeAfter {α : Type} (machine : Machine σ) (reaction : Reaction σ α) : Lifetime :=
  if reaction.hangsUp then machine.life.cancelledBy machine.now else machine.life

def stepCall (backend : Backend σ) (trace : TraceContext) (machine : Machine σ) (call : Call) :
    Option (Result σ (Except ServiceError call.Reply)) :=
  match machine.life.error? machine.now with
  | some error => some ⟨.error (.context error), machine, []⟩
  | none =>
    let reaction := backend.call (machine.caller trace) call machine.world
    let life := machine.lifeAfter reaction
    match life.race machine.now reaction.delay with
    | .finished instant =>
      let (answer, world) := reaction.answer reaction.received
      some ⟨answer, ⟨instant, life, world⟩,
        [⟨machine.now, .called call⟩, ⟨instant, .answered call answer⟩]⟩
    | .abandoned instant error =>
      some ⟨.error (.context error), ⟨instant, life, reaction.received⟩,
        [⟨machine.now, .called call⟩, ⟨instant, .abandoned call error⟩]⟩
    | .refused error => some ⟨.error (.context error), machine, []⟩
    | .endless => none

def stepFlag (backend : Backend σ) (trace : TraceContext) (machine : Machine σ) (kind : FlagKind)
    (flag : String) : Option (Result σ (Except FlagError kind.Value)) :=
  let reaction := backend.flag (machine.caller trace) kind flag machine.world
  match reaction.delay with
  | none => none
  | some delay =>
    let (answer, world) := reaction.answer reaction.received
    some ⟨answer, ⟨machine.now + delay, machine.lifeAfter reaction, world⟩,
      [⟨machine.now, .asked kind flag⟩]⟩

def step (backend : Backend σ) (trace : TraceContext) (machine : Machine σ) :
    (query : Query) → Option (Result σ query.Answer)
  | .call call => machine.stepCall backend trace call
  | .flag kind flag => machine.stepFlag backend trace kind flag
  | .orderId =>
    let (answer, world) := backend.orderId machine.world
    some ⟨answer, { machine with world }, []⟩
  | .span =>
    let (span, world) := backend.span machine.world
    some ⟨span, { machine with world }, []⟩
  | .send envelope =>
    let (delivery, world) := backend.send envelope machine.world
    some ⟨delivery, { machine with world }, [⟨machine.now, .sent envelope delivery⟩]⟩
  | .settle delivery limit =>
    let (instant, outcome) := delivery.settle machine.life machine.now limit
    some ⟨(outcome, instant - machine.now), { machine with now := instant }, []⟩
  | .note event => some ⟨(), machine, [⟨machine.now, .noted event⟩]⟩

end Machine

def Program.run {σ α : Type} (backend : Backend σ) (trace : TraceContext) :
    Program α → Machine σ → Option (Result σ α)
  | .done value, machine => some ⟨value, machine, []⟩
  | .ask query next, machine =>
    match machine.step backend trace query with
    | none => none
    | some answered =>
      match (next answered.value).run backend trace answered.machine with
      | none => none
      | some result => some { result with trail := answered.trail ++ result.trail }

def events (trail : List Entry) : List Event :=
  trail.filterMap fun entry =>
    match entry.happening with
    | .noted event => some event
    | _ => none

end Checkout

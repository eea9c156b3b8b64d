import Checkout.Proofs.PublishedOrders
import Checkout.Proofs.Races
import Checkout.Saga.Metrics
import Mathlib.Algebra.Group.Nat.Defs
import Mathlib.Algebra.Group.Prod

/-!
# Settled publications

A publication is settled once: when its order cannot be written, or by what becomes of the message
after it was sent.  Only then does anybody ask how many copies are to follow, so neither the answer
nor waiting for it for ever has a part in the outcome or in how the outcome is counted.
-/

set_option autoImplicit false

namespace Checkout

def PublishOutcome.tally : PublishOutcome → Nat × Nat × Nat
  | .delivered _ => (1, 0, 0)
  | .failed _ => (0, 1, 0)
  | .cancelled _ => (0, 0, 1)

namespace PublicationCounts

def settled (counts : PublicationCounts) : Nat × Nat × Nat :=
  (counts.delivered, counts.failed, counts.cancelled)

theorem settled_countOutcome (counts : PublicationCounts) (outcome : PublishOutcome) :
    (counts.countOutcome outcome).settled = counts.settled + outcome.tally := by
  cases outcome <;> rfl

end PublicationCounts

theorem Metrics.publications_countAll (metrics : Metrics) (reported : List Event) :
    (metrics.countAll reported).publications =
      reported.foldl PublicationCounts.count metrics.publications := by
  induction reported generalizing metrics with
  | nil => rfl
  | cons event rest ih => exact ih (metrics.count event)

/-- A stretch of a run that adds so many to the settled publications. -/
def Tallies (tally : Nat × Nat × Nat) (trail : List Entry) : Prop :=
  ∀ metrics : Metrics, (metrics.countAll (events trail)).publications.settled =
    metrics.publications.settled + tally

namespace Tallies

variable {first second : Nat × Nat × Nat} {trail rest : List Entry}

theorem of_events_eq_nil (unreported : events trail = []) : Tallies (0, 0, 0) trail := by
  intro metrics
  rw [unreported, Metrics.publications_countAll]
  exact (add_zero _).symm

theorem of_not_settled {instant : Instant} {event : Event}
    (other : ∀ publication, event ≠ .settled publication) :
    Tallies (0, 0, 0) [⟨instant, .noted event⟩] := by
  intro metrics
  rw [Metrics.publications_countAll]
  refine Eq.trans ?_ (add_zero metrics.publications.settled).symm
  cases event with
  | settled publication => exact absurd rfl (other publication)
  | _ => rfl

theorem settled (instant : Instant) (publication : Publication) :
    Tallies publication.outcome.tally [⟨instant, .noted (.settled publication)⟩] := by
  intro metrics
  rw [Metrics.publications_countAll]
  exact PublicationCounts.settled_countOutcome _ _

theorem published (instant : Instant) (publication : Publication) :
    Tallies (0, 0, 0) [⟨instant, .noted (.published publication)⟩] :=
  .of_not_settled fun _ same => by cases same

theorem append (before : Tallies first trail) (after : Tallies second rest) :
    Tallies (first + second) (trail ++ rest) := by
  intro metrics
  have split : metrics.countAll (events (trail ++ rest)) =
      (metrics.countAll (events trail)).countAll (events rest) := by
    rw [events_append]
    exact List.foldl_append
  rw [split, after, before, add_assoc]

theorem append_nothing (before : Tallies first trail) (after : Tallies (0, 0, 0) rest) :
    Tallies first (trail ++ rest) := by
  rw [← add_zero first]
  exact before.append after

theorem nothing_append (before : Tallies (0, 0, 0) trail) (after : Tallies second rest) :
    Tallies second (trail ++ rest) := by
  rw [← zero_add second]
  exact before.append after

end Tallies

section Runs

variable {σ : Type} (backend : Backend σ) (trace : TraceContext)

theorem Machine.tallies_of_isOverload (machine : Machine σ) {query : Query}
    (isOverload : query.IsOverload) :
    Tallies (0, 0, 0) (machine.progress backend trace query).trail := by
  cases query with
  | flag kind flag =>
      cases machine.flagCourse backend trace kind flag with
      | answered answer length later took answer_eq now_eq life_eq made =>
          rw [made]
          exact .of_events_eq_nil rfl
      | endless silent made =>
          rw [made]
          exact .of_events_eq_nil rfl
  | send envelope => exact .of_events_eq_nil rfl
  | note event =>
      refine .of_not_settled fun publication settled => ?_
      rw [settled] at isOverload
      exact isOverload
  | _ => exact False.elim isOverload

theorem tallies_overload (enabled : Bool) (envelope : Envelope) (machine : Machine σ) :
    Tallies (0, 0, 0) ((Publisher.overload enabled envelope).progress backend trace machine).trail :=
  Program.trail_of_asks backend trace (.of_events_eq_nil rfl)
    (fun first second => first.append_nothing second)
    (fun machine _ isOverload => machine.tallies_of_isOverload backend trace isOverload)
    (overload_asks enabled envelope) machine

theorem overload_returns (flagsReturn : backend.FlagsReturn) (enabled : Bool) (envelope : Envelope)
    (machine : Machine σ) :
    ((Publisher.overload enabled envelope).progress backend trace machine).reached ≠ none := by
  obtain ⟨value, later, trail, made⟩ | ⟨stuck, call, trail, isOverload, _⟩ :=
    Program.run_cases backend trace (overload_asks enabled envelope) flagsReturn machine
  · rw [made]
    nofun
  · exact False.elim isOverload

end Runs

namespace Publisher

variable {σ : Type} (publisher : Publisher) (backend : Backend σ) (trace : TraceContext)
  (order : Order) (machine : Machine σ) (payload : List UInt8)

def message : Envelope :=
  publisher.envelope (trace.child (backend.span machine.world).1) order payload

def delivery : Delivery :=
  (backend.send (publisher.message backend trace order machine payload)
    (backend.span machine.world).2).1

def settlement : Nat × PublishOutcome :=
  (publisher.delivery backend trace order machine payload).settle machine.life machine.now
    publisher.deliveryTimeout

def settledState : Machine σ :=
  ⟨(publisher.settlement backend trace order machine payload).1, machine.life,
    (backend.send (publisher.message backend trace order machine payload)
      (backend.span machine.world).2).2⟩

def publication (instant : Nat) (outcome : PublishOutcome) : Publication :=
  ⟨order.id, publisher.topic, outcome, instant - machine.now⟩

/-- The ways in which a publication can be settled. -/
inductive Settles : Nat → PublishOutcome → Prop where
  | unwritten {error : Wire.EncodeError} (refused : order.encode = .error error) :
      Settles machine.now (.failed (.encode error.message))
  | sent {payload : List UInt8} {instant : Nat} {outcome : PublishOutcome}
      (written : order.encode = .ok payload)
      (settles : (publisher.delivery backend trace order machine payload).Settles machine.life
        machine.now publisher.deliveryTimeout instant outcome) :
      Settles instant outcome

/-- A publication that is settled at `instant` by `outcome`, which is reported, counted once, and
returned if the publication ever returns. -/
structure Publishes (instant : Nat) (outcome : PublishOutcome)
    (progress : Progress σ PublishOutcome) : Prop where
  reported : ⟨instant, .noted (.settled (publisher.publication order machine instant outcome))⟩ ∈
    progress.trail
  tallies : Tallies outcome.tally progress.trail
  value_eq : ∀ value later, progress.reached = some (value, later) → value = outcome
  returns : backend.FlagsReturn → progress.reached ≠ none

theorem publishes_unwritten {error : Wire.EncodeError} (refused : order.encode = .error error)
    (enabled : Bool) :
    publisher.Publishes backend order machine machine.now (.failed (.encode error.message))
      ((publisher.publish enabled trace order).progress backend trace machine) := by
  have course : (publisher.publish enabled trace order).progress backend trace machine =
      ⟨[⟨machine.now, .noted (.settled ⟨order.id, publisher.topic,
          .failed (.encode error.message), 0⟩)⟩] ++
        [⟨machine.now, .noted (.published ⟨order.id, publisher.topic,
          .failed (.encode error.message), 0⟩)⟩],
        some (.failed (.encode error.message), machine)⟩ := by
    rw [publish, refused]
    rfl
  rw [course]
  refine ⟨?_, ?_, ?_, fun _ same => by cases same⟩
  · rw [publication, Nat.sub_self]
    exact List.mem_cons_self
  · exact (Tallies.settled machine.now _).append_nothing (.published machine.now _)
  · intro value later same
    cases same
    rfl

theorem close_progress (publication : Publication) (machine : Machine σ) :
    (close publication).progress backend trace machine =
      ⟨[⟨machine.now, .noted (.published publication)⟩], some (publication.outcome, machine)⟩ :=
  rfl

variable {payload}

/-- A publication sends its message, waits, and reports how it was settled; copies may follow. -/
theorem publish_progress (written : order.encode = .ok payload) (enabled : Bool)
    {instant : Nat} {outcome : PublishOutcome}
    (settled : publisher.settlement backend trace order machine payload = (instant, outcome)) :
    (publisher.publish enabled trace order).progress backend trace machine =
      Progress.andThen
        ⟨[⟨machine.now, .sent (publisher.message backend trace order machine payload)
            (publisher.delivery backend trace order machine payload)⟩] ++
          [⟨instant, .noted (.settled (publisher.publication order machine instant outcome))⟩],
          some ((), publisher.settledState backend trace order machine payload)⟩
        fun _ later =>
          (overload enabled (publisher.message backend trace order machine payload)).progress
            backend trace later |>.andThen fun _ last =>
              (close (publisher.publication order machine instant outcome)).progress
                backend trace last := by
  obtain ⟨rfl, rfl⟩ := Prod.mk.inj settled
  simp only [← Program.progress_bind]
  rw [publish, written]
  rfl

theorem publishes_sent (written : order.encode = .ok payload) (enabled : Bool)
    {instant : Nat} {outcome : PublishOutcome}
    (settled : publisher.settlement backend trace order machine payload = (instant, outcome)) :
    publisher.Publishes backend order machine instant outcome
      ((publisher.publish enabled trace order).progress backend trace machine) := by
  rw [publisher.publish_progress backend trace order machine written enabled settled]
  generalize publisher.message backend trace order machine payload = envelope
  generalize publisher.delivery backend trace order machine payload = delivery
  generalize publisher.settledState backend trace order machine payload = later
  have sending : Tallies outcome.tally
      ([⟨machine.now, .sent envelope delivery⟩] ++
        [⟨instant, .noted (.settled (publisher.publication order machine instant outcome))⟩]) :=
    (Tallies.of_events_eq_nil rfl).nothing_append (.settled instant _)
  have copying := tallies_overload backend trace enabled envelope later
  have returning := fun flagsReturn =>
    overload_returns backend trace flagsReturn enabled envelope later
  cases copies : (overload enabled envelope).progress backend trace later with
  | mk trail reached =>
      rw [copies] at copying returning
      simp only [Progress.andThen, copies]
      cases reached with
      -- The flag is never answered, but the outcome has been reported before.
      | none =>
          refine ⟨List.mem_append_left _ (List.mem_append_right _ List.mem_cons_self), ?_,
            fun _ _ same => (by cases same), fun flagsReturn => absurd rfl (returning flagsReturn)⟩
          exact sending.append_nothing copying
      | some pair =>
          simp only [close_progress]
          refine ⟨List.mem_append_left _ (List.mem_append_right _ List.mem_cons_self), ?_, ?_,
            fun _ same => (by cases same)⟩
          · exact sending.append_nothing (copying.append_nothing (.published pair.2.now _))
          · intro value last same
            cases same
            rfl

/-- Whoever has sent a message waits until the race for its outcome is settled. -/
theorem sendAndSettle_progress (fits : machine.now + publisher.deliveryTimeout ≤ lastInstant)
    (envelope : Envelope) {handling : Handling} {ahead : Nat → Bool}
    (handled : (backend.send envelope machine.world).1 = handling.delivery ahead) :
    ∃ instant outcome later,
      (publisher.sendAndSettle envelope).progress backend trace machine =
        ⟨[⟨machine.now, .sent envelope (handling.delivery ahead)⟩],
          some ((outcome, instant - machine.now), later)⟩ ∧
      later.now = instant ∧
      ∀ polls, 2 * publisher.deliveryTimeout < polls →
        handling.wait machine.life machine.now publisher.deliveryTimeout ⟨fun _ => false, ahead⟩
          polls = .settled instant outcome := by
  let settled := (handling.delivery ahead).settle machine.life machine.now publisher.deliveryTimeout
  refine ⟨settled.1, settled.2, ⟨settled.1, machine.life, (backend.send envelope machine.world).2⟩,
    ?_, rfl, fun polls enough => ?_⟩
  · simp only [settled, ← handled]
    rfl
  · rw [Handling.wait, if_pos fits]
    exact handling.race_eq_settle machine.life machine.now publisher.deliveryTimeout ahead enough

end Publisher

/-- One outcome settles a publication, and it is counted once, if the clock can tell the end of its
delivery timeout.  Whatever the producer does with its report, the wait for it comes to an end: with
the report if that comes with the send, before the end of the wait, or ahead as it ends, and otherwise
with a cancellation at that end or, if it has passed, at once.  What is told of the flag for queue
problems, and whether anything is told of it, makes no difference. -/
theorem publications_settle {σ : Type} (publisher : Publisher) (backend : Backend σ)
    (trace : TraceContext) (order : Order) (machine : Machine σ)
    (fits : machine.now + publisher.deliveryTimeout ≤ lastInstant) :
    (∀ (handling : Handling) (schedule : Schedule), ∃ instant outcome,
      (handling.delivery schedule.ahead).Settles machine.life machine.now publisher.deliveryTimeout
        instant outcome ∧
      ∀ polls, handling.wait machine.life machine.now publisher.deliveryTimeout schedule polls =
            .settled instant outcome ∨
          handling.wait machine.life machine.now publisher.deliveryTimeout schedule polls =
            .waiting ∧ polls ≤ 2 * publisher.deliveryTimeout) ∧
    (∀ (envelope : Envelope) (handling : Handling) (ahead : Nat → Bool),
      (backend.send envelope machine.world).1 = handling.delivery ahead →
      ∃ instant outcome later,
        (publisher.sendAndSettle envelope).progress backend trace machine =
          ⟨[⟨machine.now, .sent envelope (handling.delivery ahead)⟩],
            some ((outcome, instant - machine.now), later)⟩ ∧
        later.now = instant ∧
        ∀ polls, 2 * publisher.deliveryTimeout < polls →
          handling.wait machine.life machine.now publisher.deliveryTimeout ⟨fun _ => false, ahead⟩
            polls = .settled instant outcome) ∧
    ∃ instant outcome, publisher.Settles backend trace order machine instant outcome ∧
      ∀ flag enabled, publisher.Publishes { backend with flag } order machine instant outcome
        ((publisher.publish enabled trace order).progress { backend with flag } trace machine) := by
  refine ⟨fun handling schedule => ?_, fun envelope handling ahead handled =>
    publisher.sendAndSettle_progress backend trace machine fits envelope handled, ?_⟩
  · simp only [Handling.wait, if_pos fits]
    exact handling.race_settles machine.life machine.now publisher.deliveryTimeout schedule
  · cases written : order.encode with
    | error error =>
        exact ⟨_, _, .unwritten written, fun flag enabled =>
          publisher.publishes_unwritten { backend with flag } trace order machine written enabled⟩
    | ok payload =>
        have settles := (publisher.delivery backend trace order machine payload).settles
          machine.life machine.now publisher.deliveryTimeout
        exact ⟨_, _, .sent written settles, fun flag enabled =>
          publisher.publishes_sent { backend with flag } trace order machine written enabled rfl⟩

/-- An acknowledgement that comes as the request is cancelled is the outcome if it is ahead, though it
does not come before the end of the wait; and a wait whose end the clock cannot tell does not begin. -/
theorem tied_acknowledgement_delivered :
    let life : Lifetime := ⟨some 10, none⟩
    let handling : Handling := .used 10 (.acknowledged ⟨0, 0⟩)
    let schedule : Schedule := ⟨fun _ => false, fun _ => true⟩
    life.endBy (0 + 5000) = 0 + 10 ∧
    handling.wait life 0 5000 schedule 20 = .settled 10 (.delivered ⟨0, 0⟩) ∧
    handling.wait life 0 (lastInstant + 1) schedule 20 = .panicked := by
  decide +kernel

namespace Sample

/-- A producer that reports a failure with the send, and flags that are never answered. -/
def mute : Backend (List Money) :=
  { bookkeeping price cart 0 true with
    flag := fun _ _ _ book => ⟨book, false, none, fun book => (.error (.unavailable ""), book)⟩
    send := fun _ book => (.reported 0 true (.failed (.broker "down")), book) }

def overdue : Machine (List Money) := ⟨40, ⟨none, some 31⟩, []⟩

end Sample

theorem publications_settle_of_overdue :
    Publisher.Publishes ⟨"orders", 5000⟩ Sample.mute Sample.order Sample.overdue 40
      (.failed (.broker "down"))
      ((Publisher.publish ⟨"orders", 5000⟩ true Sample.trace Sample.order).progress Sample.mute
        Sample.trace Sample.overdue) := by
  obtain ⟨_, _, instant, outcome, settles, publishes⟩ :=
    publications_settle ⟨"orders", 5000⟩ Sample.mute Sample.trace Sample.order Sample.overdue
      (by decide +kernel)
  have published := publishes Sample.mute.flag true
  cases settles with
  | unwritten refused =>
      have written : Sample.order.encode.toOption.isSome = true := by decide +kernel
      rw [refused] at written
      cases written
  | sent written settles =>
      cases settles with
      | reported reports =>
          have used := reports.used
          cases used
          exact published
      | cancelled late reason =>
          exact absurd rfl (late 0 true (.failed (.broker "down")) rfl).1

end Checkout

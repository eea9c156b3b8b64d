import Checkout.Proofs.Progress

/-!
# Reading trails

What a trail says about the collaborators: the calls that were made, what the caller heard on them,
the messages that were handed to the producer, and the events that were noted.  A call that the
request's end cuts off is heard as a failure at that end.  Each of these readings turns the
concatenation of trails into the concatenation of the readings, so the account of a sequence is put
together from the accounts of its parts.
-/

set_option autoImplicit false

namespace Checkout

/-- A call, and what the caller heard on it. -/
structure Answered where
  call : Call
  answer : Except ServiceError call.Reply

namespace Happening

def call? : Happening → Option Call
  | .called call => some call
  | _ => none

def answered? : Happening → Option Answered
  | .answered call answer => some ⟨call, answer⟩
  | .abandoned call error => some ⟨call, .error (.context error)⟩
  | _ => none

def envelope? : Happening → Option Envelope
  | .sent envelope _ => some envelope
  | _ => none

end Happening

def calls (trail : List Entry) : List Call :=
  trail.filterMap fun entry => entry.happening.call?

def answers (trail : List Entry) : List Answered :=
  trail.filterMap fun entry => entry.happening.answered?

def sends (trail : List Entry) : List Envelope :=
  trail.filterMap fun entry => entry.happening.envelope?

@[simp] theorem calls_append (trail rest : List Entry) :
    calls (trail ++ rest) = calls trail ++ calls rest :=
  List.filterMap_append

@[simp] theorem answers_append (trail rest : List Entry) :
    answers (trail ++ rest) = answers trail ++ answers rest :=
  List.filterMap_append

@[simp] theorem sends_append (trail rest : List Entry) :
    sends (trail ++ rest) = sends trail ++ sends rest :=
  List.filterMap_append

@[simp] theorem events_append (trail rest : List Entry) :
    events (trail ++ rest) = events trail ++ events rest :=
  List.filterMap_append

/-! ## Accounts of trails without messages -/

/-- The account of a trail in which the producer was given nothing. -/
structure Shows (trail : List Entry) (made : List Call) (heard : List Answered)
    (reported : List Event) : Prop where
  calls_eq : calls trail = made
  answers_eq : answers trail = heard
  events_eq : events trail = reported
  sends_eq : sends trail = []

namespace Shows

variable {trail rest : List Entry} {made madeRest : List Call} {heard heardRest : List Answered}
  {reported reportedRest : List Event}

theorem nil : Shows [] [] [] [] :=
  ⟨rfl, rfl, rfl, rfl⟩

theorem noted (instant : Instant) (event : Event) :
    Shows [⟨instant, .noted event⟩] [] [] [event] :=
  ⟨rfl, rfl, rfl, rfl⟩

theorem append (first : Shows trail made heard reported)
    (second : Shows rest madeRest heardRest reportedRest) :
    Shows (trail ++ rest) (made ++ madeRest) (heard ++ heardRest) (reported ++ reportedRest) where
  calls_eq := by rw [calls_append, first.calls_eq, second.calls_eq]
  answers_eq := by rw [answers_append, first.answers_eq, second.answers_eq]
  events_eq := by rw [events_append, first.events_eq, second.events_eq]
  sends_eq := by rw [sends_append, first.sends_eq, second.sends_eq, List.append_nil]

end Shows

/-! ## One call -/

theorem Lifetime.eq_unbounded_of_await? {life : Lifetime} {now : Instant}
    (none_awaited : life.await? now = none) : life = .unbounded := by
  obtain ⟨cancelled, deadline⟩ := life
  have live : Lifetime.error? ⟨cancelled, deadline⟩ now = none := by
    cases ended : Lifetime.error? ⟨cancelled, deadline⟩ now with
    | none => rfl
    | some error => simp [Lifetime.await?, ended] at none_awaited
  have no_ending : Lifetime.ending? ⟨cancelled, deadline⟩ = none := by
    simpa [Lifetime.await?, live] using none_awaited
  cases cancelled with
  | none =>
      cases deadline with
      | none => rfl
      | some deadline => simp [Lifetime.ending?] at no_ending
  | some cancelled =>
      cases deadline with
      | none => simp [Lifetime.ending?] at no_ending
      | some deadline =>
          by_cases first : cancelled ≤ deadline
          · simp [Lifetime.ending?, first] at no_ending
          · simp [Lifetime.ending?, first] at no_ending

/-- Work under way finishes after its delay, is abandoned, or goes on for ever; the last happens to
nothing that ever answers or is ever bounded. -/
theorem Lifetime.race_cases (life : Lifetime) (now : Instant) (delay : Option Nat) :
    (∃ length, delay = some length ∧ life.race now delay = .finished (now + length)) ∨
      (∃ instant error, life.race now delay = .abandoned instant error) ∨
      (delay = none ∧ life = .unbounded ∧ life.race now delay = .endless) := by
  cases delay with
  | none =>
      cases awaited : life.await? now with
      | none =>
          exact Or.inr (Or.inr ⟨rfl, eq_unbounded_of_await? awaited, by simp [race, awaited]⟩)
      | some ending =>
          obtain ⟨instant, error⟩ := ending
          exact Or.inr (Or.inl ⟨instant, error, by simp [race, awaited]⟩)
  | some length =>
      cases awaited : life.await? now with
      | none => exact Or.inl ⟨length, rfl, by simp [race, awaited]⟩
      | some ending =>
          obtain ⟨instant, error⟩ := ending
          by_cases intime : length = 0 ∨ now + length < instant
          · exact Or.inl ⟨length, rfl, by simp [race, awaited, intime]⟩
          · exact Or.inr (Or.inl ⟨instant, error, by simp [race, awaited, intime]⟩)

/-- A collaborator that makes the caller hang up sets a bound, and cannot take one away. -/
theorem Machine.lifeAfter_eq_unbounded_iff {σ α : Type} {machine : Machine σ}
    {reaction : Reaction σ α} :
    machine.lifeAfter reaction = .unbounded ↔
      reaction.hangsUp = false ∧ machine.life = .unbounded := by
  rw [lifeAfter]
  cases reaction.hangsUp with
  | false => simp
  | true =>
      refine iff_of_false (fun unbounded => ?_) (by simp)
      have never := congrArg Lifetime.cancelled unbounded
      cases cancelled : machine.life.cancelled with
      | none => simp [Lifetime.cancelledBy, Lifetime.earlier, Lifetime.unbounded, cancelled] at never
      | some instant =>
          simp [Lifetime.cancelledBy, Lifetime.earlier, Lifetime.unbounded, cancelled] at never

theorem Machine.unbounded_of_lifeAfter {σ α : Type} {machine : Machine σ} {reaction : Reaction σ α}
    (unbounded : machine.lifeAfter reaction = .unbounded) : machine.life = .unbounded :=
  (Machine.lifeAfter_eq_unbounded_iff.mp unbounded).2

/-- Whoever waits for the answer waits for ever, unless the request ends. -/
structure Reaction.IsSilent {σ α : Type} (reaction : Reaction σ α) : Prop where
  never : reaction.delay = none
  stays : reaction.hangsUp = false

section Calls

variable {σ : Type} (backend : Backend σ) (trace : TraceContext) (machine : Machine σ) (call : Call)

def Machine.reaction : Reaction σ (Except ServiceError call.Reply) :=
  backend.call (machine.caller trace) call machine.world

inductive CallCourse (progress : Progress σ (Except ServiceError call.Reply)) : Prop where
  | refused (error : ContextError) (ended : machine.life.error? machine.now = some error)
      (made : progress = ⟨[], some (.error (.context error), machine)⟩)
  | answered (answer : Except ServiceError call.Reply) (length : Nat) (later : Machine σ)
      (took : (machine.reaction backend trace call).delay = some length)
      (answer_eq : (machine.reaction backend trace call).answer
        (machine.reaction backend trace call).received = (answer, later.world))
      (now_eq : later.now = machine.now + length)
      (life_eq : later.life = machine.lifeAfter (machine.reaction backend trace call))
      (made : progress =
        ⟨[⟨machine.now, .called call⟩, ⟨later.now, .answered call answer⟩], some (answer, later)⟩)
  | abandoned (error : ContextError) (later : Machine σ)
      (world_eq : later.world = (machine.reaction backend trace call).received)
      (life_eq : later.life = machine.lifeAfter (machine.reaction backend trace call))
      (made : progress =
        ⟨[⟨machine.now, .called call⟩, ⟨later.now, .abandoned call error⟩],
          some (.error (.context error), later)⟩)
  | endless (silent : (machine.reaction backend trace call).IsSilent)
      (unbounded : machine.life = .unbounded)
      (made : progress = ⟨[⟨machine.now, .called call⟩], none⟩)

theorem Machine.callCourse :
    CallCourse backend trace machine call (machine.progress backend trace (.call call)) := by
  cases ended : machine.life.error? machine.now with
  | some error =>
      exact .refused error ended (by simp [Machine.progress, Machine.step, Machine.stepCall, ended])
  | none =>
      -- The race is against the lifetime that the collaborator leaves once it has the call.
      let life := machine.lifeAfter (machine.reaction backend trace call)
      obtain ⟨length, took, raced⟩ | ⟨instant, error, raced⟩ | ⟨silent, unbounded, raced⟩ :=
        life.race_cases machine.now (machine.reaction backend trace call).delay
      · let answered := (machine.reaction backend trace call).answer
          (machine.reaction backend trace call).received
        refine .answered answered.1 length ⟨machine.now + length, life, answered.2⟩ took rfl rfl rfl
          ?_
        simp only [life, Machine.reaction] at raced
        simp [Machine.progress, Machine.step, Machine.stepCall, ended, raced, answered, life,
          Machine.reaction]
      · refine .abandoned error
          ⟨instant, life, (machine.reaction backend trace call).received⟩ rfl rfl ?_
        simp only [life, Machine.reaction] at raced
        simp [Machine.progress, Machine.step, Machine.stepCall, ended, raced, life,
          Machine.reaction]
      · obtain ⟨stays, unlimited⟩ := Machine.lifeAfter_eq_unbounded_iff.mp unbounded
        refine .endless ⟨silent, stays⟩ unlimited ?_
        simp only [life, Machine.reaction] at raced
        simp [Machine.progress, Machine.step, Machine.stepCall, ended, raced, Machine.unanswered]

end Calls

/-! ## One flag -/

section Flags

variable {σ : Type} (backend : Backend σ) (trace : TraceContext) (machine : Machine σ)
  (kind : FlagKind) (flag : String)

def Machine.flagReaction : Reaction σ (Except FlagError kind.Value) :=
  backend.flag (machine.caller trace) kind flag machine.world

inductive FlagCourse (progress : Progress σ (Except FlagError kind.Value)) : Prop where
  | answered (answer : Except FlagError kind.Value) (length : Nat) (later : Machine σ)
      (took : (machine.flagReaction backend trace kind flag).delay = some length)
      (answer_eq : (machine.flagReaction backend trace kind flag).answer
        (machine.flagReaction backend trace kind flag).received = (answer, later.world))
      (now_eq : later.now = machine.now + length)
      (life_eq : later.life = machine.lifeAfter (machine.flagReaction backend trace kind flag))
      (made : progress = ⟨[⟨machine.now, .asked kind flag⟩], some (answer, later)⟩)
  | endless (silent : (machine.flagReaction backend trace kind flag).delay = none)
      (made : progress = ⟨[⟨machine.now, .asked kind flag⟩], none⟩)

theorem Machine.flagCourse :
    FlagCourse backend trace machine kind flag
      (machine.progress backend trace (.flag kind flag)) := by
  cases took : (machine.flagReaction backend trace kind flag).delay with
  | none =>
      refine .endless took ?_
      simp only [Machine.flagReaction] at took
      simp [Machine.progress, Machine.step, Machine.stepFlag, took, Machine.unanswered]
  | some length =>
      let answered := (machine.flagReaction backend trace kind flag).answer
        (machine.flagReaction backend trace kind flag).received
      refine .answered answered.1 length ⟨machine.now + length,
        machine.lifeAfter (machine.flagReaction backend trace kind flag), answered.2⟩
        took rfl rfl rfl ?_
      simp only [Machine.flagReaction] at took
      simp [Machine.progress, Machine.step, Machine.stepFlag, took, answered,
        Machine.flagReaction]

end Flags

end Checkout

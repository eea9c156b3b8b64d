import Checkout.Proofs.Questions

/-!
# Protocols

A program that shares its collaborators with others keeps to a protocol: in every stage there are
questions that it may ask and answers that it can count on, and every answer leads to a stage.
Whether it keeps to the protocol is again a matter of its text alone.  Nothing is said about runs in
which it gets other answers; that it does get those is up to whoever answers.
-/

set_option autoImplicit false

namespace Checkout

structure Protocol (γ : Type) where
  asks : γ → Query → Prop
  permits : (query : Query) → query.Answer → Prop
  after : γ → (query : Query) → query.Answer → γ

/-- The program asks only what it may, and ends as `ends` says, if every answer is permitted. -/
def Program.Meets {γ α : Type} (protocol : Protocol γ) (ends : γ → α → Prop) :
    Program α → γ → Prop
  | .done value, stage => ends stage value
  | .ask query next, stage => protocol.asks stage query ∧
      ∀ answer, protocol.permits query answer →
        (next answer).Meets protocol ends (protocol.after stage query answer)

def FlagKind.valueOf (kind : FlagKind) (enabled : Bool) (answer : Except FlagError kind.Value) :
    kind.Value :=
  if enabled then answer.toOption.getD kind.default else kind.default

/-- The question may be asked, has a single answer, and does not change the stage. -/
structure Protocol.Fixes {γ : Type} (protocol : Protocol γ) (stage : γ) (query : Query)
    (answer : query.Answer) : Prop where
  asks : protocol.asks stage query
  answer_eq : ∀ other, protocol.permits query other → other = answer
  after_eq : protocol.after stage query answer = stage

namespace Program

variable {γ α β : Type} {protocol : Protocol γ} {ends : γ → α → Prop} {stage : γ}
  {program : Program α}

theorem meets_pure {value : α} (ended : ends stage value) :
    (pure value : Program α).Meets protocol ends stage :=
  ended

theorem meets_query {query : Query} {ends : γ → query.Answer → Prop}
    (asks : protocol.asks stage query)
    (answered : ∀ answer, protocol.permits query answer →
      ends (protocol.after stage query answer) answer) :
    (Program.query query).Meets protocol ends stage :=
  ⟨asks, answered⟩

theorem meets_bind {next : α → Program β} {ends : γ → β → Prop} {between : γ → α → Prop}
    (first : program.Meets protocol between stage)
    (rest : ∀ later value, between later value → (next value).Meets protocol ends later) :
    (program >>= next).Meets protocol ends stage := by
  change (program.bind next).Meets protocol ends stage
  -- Wherever the first program ends, the second one begins, and keeps to the protocol from there.
  induction program generalizing stage with
  | done value => exact rest stage value first
  | ask query answered ih =>
      obtain ⟨asks, goesOn⟩ := first
      refine ⟨asks, ?_⟩
      intro answer permitted
      exact ih answer (goesOn answer permitted)

theorem meets_of_asks {allowed : Query → Prop} (asks : program.Asks allowed)
    (may : ∀ query, allowed query → protocol.asks stage query)
    (stays : ∀ query answer, allowed query → protocol.permits query answer →
      protocol.after stage query answer = stage) :
    program.Meets protocol (fun later _ => later = stage) stage := by
  induction program with
  | done value => exact rfl
  | ask query next ih =>
      refine ⟨may query asks.1, ?_⟩
      intro answer permitted
      rw [stays query answer asks.1 permitted]
      exact ih answer (asks.2 answer)

def Settles (protocol : Protocol γ) (stage : γ) (program : Program α) (value : α) : Prop :=
  program.Meets protocol (fun later reached => later = stage ∧ reached = value) stage

theorem settles_pure (value : α) : (pure value : Program α).Settles protocol stage value :=
  ⟨rfl, rfl⟩

theorem settles_query {query : Query} {answer : query.Answer}
    (fixed : protocol.Fixes stage query answer) :
    (Program.query query).Settles protocol stage answer := by
  apply meets_query fixed.asks
  intro other permitted
  rw [fixed.answer_eq other permitted]
  exact ⟨fixed.after_eq, rfl⟩

theorem Settles.meets_bind {value : α} {next : α → Program β} {ends : γ → β → Prop}
    (first : program.Settles protocol stage value)
    (rest : (next value).Meets protocol ends stage) :
    (program >>= next).Meets protocol ends stage := by
  apply Program.meets_bind first
  intro later reached same
  obtain ⟨rfl, rfl⟩ := same
  exact rest

theorem settles_flag (enabled : Bool) {kind : FlagKind} {flag : String}
    {answer : Except FlagError kind.Value} (fixed : protocol.Fixes stage (.flag kind flag) answer)
    (notes : ∀ event, protocol.Fixes stage (.note event) ()) :
    (Program.flag enabled kind flag).Settles protocol stage (kind.valueOf enabled answer) := by
  cases enabled with
  | false => exact settles_pure kind.default
  | true =>
      cases answer with
      | ok value => exact (settles_query fixed).meets_bind (settles_pure value)
      | error error =>
          apply (settles_query fixed).meets_bind
          exact (settles_query (notes _)).meets_bind (settles_pure kind.default)

end Program

namespace Attempt

variable {γ α β : Type} {protocol : Protocol γ} {stage : γ} {attempt : Attempt α}
  {next : α → Attempt β}

theorem meets_bind {between : γ → Except CheckoutError α → Prop}
    {ends : γ → Except CheckoutError β → Prop}
    (first : Program.Meets protocol between attempt.run stage)
    (failed : ∀ later error, between later (.error error) → ends later (.error error))
    (rest : ∀ later value, between later (.ok value) →
      Program.Meets protocol ends (next value).run later) :
    Program.Meets protocol ends (attempt >>= next).run stage := by
  apply Program.meets_bind first
  intro later outcome reached
  cases outcome with
  | error error => exact failed later error reached
  | ok value => exact rest later value reached

theorem meets_ok {value : α} {ends : γ → Except CheckoutError β → Prop}
    (first : Program.Settles protocol stage attempt.run (.ok value))
    (rest : Program.Meets protocol ends (next value).run stage) :
    Program.Meets protocol ends (attempt >>= next).run stage :=
  first.meets_bind rest

theorem meets_error {error : CheckoutError} {ends : γ → Except CheckoutError β → Prop}
    (first : Program.Settles protocol stage attempt.run (.error error))
    (ended : ends stage (.error error)) :
    Program.Meets protocol ends (attempt >>= next).run stage :=
  first.meets_bind (Program.meets_pure ended)

theorem meets_call {call : Call} (asks : protocol.asks stage (.call call))
    (abort : ServiceError → CheckoutError) :
    Program.Meets protocol (fun later outcome => ∃ answer, protocol.permits (.call call) answer ∧
        later = protocol.after stage (.call call) answer ∧ outcome = answer.mapError abort)
      (Attempt.call call abort).run stage := by
  refine ⟨asks, ?_⟩
  intro answer permitted
  exact ⟨answer, permitted, rfl, rfl⟩

theorem meets_perform {program : Program α} {between : γ → α → Prop}
    (meets : program.Meets protocol between stage) :
    Program.Meets protocol (fun later outcome => ∃ value, outcome = .ok value ∧ between later value)
      (perform program).run stage := by
  apply Program.meets_bind meets
  intro later value reached
  exact Program.meets_pure ⟨value, rfl, reached⟩

theorem settles_note {event : Event} (fixed : protocol.Fixes stage (.note event) ()) :
    Program.Settles protocol stage (Attempt.note event).run (.ok ()) :=
  (Program.settles_query fixed).meets_bind (Program.settles_pure _)

/-- The attempt stays in the stage and comes to one outcome; if that is a value, it holds. -/
def Steady (protocol : Protocol γ) (stage : γ) (holds : α → Prop) (attempt : Attempt α) : Prop :=
  ∃ outcome, Program.Settles protocol stage attempt.run outcome ∧
    ∀ value, outcome = .ok value → holds value

variable {holds : α → Prop} {holdsNext : β → Prop}

theorem steady_pure {value : α} (held : holds value) :
    (pure value : Attempt α).Steady protocol stage holds := by
  refine ⟨.ok value, Program.settles_pure _, ?_⟩
  intro other same
  cases same
  exact held

theorem steady_throw (error : CheckoutError) :
    (throw error : Attempt α).Steady protocol stage holds := by
  refine ⟨.error error, Program.settles_pure _, ?_⟩
  intro other impossible
  cases impossible

theorem steady_call {call : Call} {answer : Except ServiceError call.Reply}
    (fixed : protocol.Fixes stage (.call call) answer) (abort : ServiceError → CheckoutError) :
    (Attempt.call call abort).Steady protocol stage fun reply => answer = .ok reply := by
  refine ⟨answer.mapError abort, ?_, ?_⟩
  · exact (Program.settles_query fixed).meets_bind (Program.settles_pure _)
  · intro reply made
    cases answer with
    | error error => cases made
    | ok value =>
        cases made
        rfl

theorem steady_note {event : Event} (fixed : protocol.Fixes stage (.note event) ()) :
    (Attempt.note event).Steady protocol stage fun _ => True :=
  ⟨.ok (), settles_note fixed, fun _ _ => trivial⟩

theorem Steady.imp {others : α → Prop} (steady : attempt.Steady protocol stage holds)
    (implied : ∀ value, holds value → others value) : attempt.Steady protocol stage others := by
  obtain ⟨outcome, settles, held⟩ := steady
  refine ⟨outcome, settles, ?_⟩
  intro value reached
  exact implied value (held value reached)

theorem Steady.bind (first : attempt.Steady protocol stage holds)
    (rest : ∀ value, holds value → (next value).Steady protocol stage holdsNext) :
    (attempt >>= next).Steady protocol stage holdsNext := by
  obtain ⟨outcome, settles, held⟩ := first
  cases outcome with
  | error error =>
      refine ⟨.error error, meets_error settles ⟨rfl, rfl⟩, ?_⟩
      intro value impossible
      cases impossible
  | ok value =>
      obtain ⟨outcome, settlesRest, heldRest⟩ := rest value (held value rfl)
      exact ⟨outcome, meets_ok settles settlesRest, heldRest⟩

end Attempt

end Checkout

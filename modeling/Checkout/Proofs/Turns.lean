import Checkout.Proofs.Finishing

/-!
# Turns of programs

What a program does depends on nothing but the answers to its questions.  A turn is a question with
its answer; given the turns, the course of the program is determined, whoever answered and whenever.
A run that comes to its end follows its turns, and every message that the producer was given in it
is a question in one of them.
-/

set_option autoImplicit false

namespace Checkout

structure Turn where
  query : Query
  answer : query.Answer

namespace Program

/-- A program comes to a value by these turns. -/
inductive Follows {α : Type} : Program α → List Turn → α → Prop where
  | done (value : α) : Follows (.done value) [] value
  | ask {query : Query} {next : query.Answer → Program α} {answer : query.Answer}
      {rest : List Turn} {value : α} (later : Follows (next answer) rest value) :
      Follows (.ask query next) (⟨query, answer⟩ :: rest) value

variable {α β : Type} {program : Program α} {next : α → Program β} {turns : List Turn}
  {value : α} {final : β}

theorem Follows.of_pure {result : α} (follows : (pure value : Program α).Follows turns result) :
    turns = [] ∧ result = value := by
  cases follows with
  | done => exact ⟨rfl, rfl⟩

theorem Follows.of_query {query : Query} {answer : query.Answer}
    (follows : (Program.query query).Follows turns answer) :
    turns = [⟨query, answer⟩] := by
  cases follows with
  | ask later =>
      cases later with
      | done => rfl

/-- A sequence that comes to a value went through its first part, and then through the second. -/
theorem Follows.of_bind (follows : (program >>= next).Follows turns final) :
    ∃ value first second, turns = first ++ second ∧ program.Follows first value ∧
      (next value).Follows second final := by
  change (program.bind next).Follows turns final at follows
  induction program generalizing turns with
  | done value => exact ⟨value, [], turns, rfl, .done value, follows⟩
  | ask query rest ih =>
      cases follows with
      | @ask _ _ answer turnsRest _ later =>
          obtain ⟨value, first, second, split, followsFirst, followsSecond⟩ := ih answer later
          refine ⟨value, ⟨query, answer⟩ :: first, second, ?_, .ask followsFirst, followsSecond⟩
          rw [split, List.cons_append]

theorem Follows.of_note_bind {event : Event} {next : Unit → Program β}
    (follows : (Program.note event >>= next).Follows turns final) :
    ∃ rest, turns = ⟨.note event, ()⟩ :: rest ∧ (next ()).Follows rest final := by
  obtain ⟨value, first, second, split, noted, later⟩ := follows.of_bind
  rw [noted.of_query] at split
  exact ⟨second, split, later⟩

theorem Follows.of_query_bind {query : Query} {next : query.Answer → Program β}
    (follows : (Program.query query >>= next).Follows turns final) :
    ∃ answer rest, turns = ⟨query, answer⟩ :: rest ∧ (next answer).Follows rest final := by
  obtain ⟨answer, first, second, split, asked, later⟩ := follows.of_bind
  rw [asked.of_query] at split
  exact ⟨answer, second, split, later⟩

theorem Follows.all_of_asks {allowed : Query → Prop} (follows : program.Follows turns value)
    (asks : program.Asks allowed) : ∀ turn ∈ turns, allowed turn.query := by
  induction follows with
  | done value =>
      intro turn member
      cases member
  | @ask query next answer rest value later ih =>
      exact List.forall_mem_cons.mpr ⟨asks.1, ih (asks.2 answer)⟩

end Program

/-- A sequence that may abort was aborted in its first part, or went through it and on. -/
theorem Attempt.follows_bind {α β : Type} {attempt : Attempt α} {next : α → Attempt β}
    {turns : List Turn} {outcome : Except CheckoutError β}
    (follows : Program.Follows (attempt >>= next).run turns outcome) :
    (∃ error, outcome = .error error ∧
      Program.Follows attempt.run turns (.error error)) ∨
      ∃ value first second, turns = first ++ second ∧
        Program.Follows attempt.run first (.ok value) ∧
        Program.Follows (next value).run second outcome := by
  have sequence : Program.Follows (attempt.run >>= ExceptT.bindCont next) turns outcome :=
    follows
  obtain ⟨made, first, second, split, followsFirst, followsSecond⟩ := sequence.of_bind
  cases made with
  | ok value => exact Or.inr ⟨value, first, second, split, followsFirst, followsSecond⟩
  | error error =>
      obtain ⟨second_eq, outcome_eq⟩ := followsSecond.of_pure
      rw [second_eq, List.append_nil] at split
      rw [split]
      exact Or.inl ⟨error, outcome_eq, followsFirst⟩

/-! ## Turns of runs -/

def Turn.envelope? (turn : Turn) : Option Envelope :=
  match turn.query with
  | .send envelope => some envelope
  | _ => none

def sent (turns : List Turn) : List Envelope :=
  turns.filterMap Turn.envelope?

theorem sent_append (first second : List Turn) :
    sent (first ++ second) = sent first ++ sent second :=
  List.filterMap_append

def Program.turns {σ α : Type} (backend : Backend σ) (trace : TraceContext) :
    Program α → Machine σ → List Turn
  | .done _, _ => []
  | .ask query next, machine =>
    match (machine.progress backend trace query).reached with
    | none => []
    | some (answer, later) => ⟨query, answer⟩ :: (next answer).turns backend trace later

section Runs

variable {σ α : Type} (backend : Backend σ) (trace : TraceContext)

theorem Machine.sends_eq_sent {machine later : Machine σ} {query : Query} {answer : query.Answer}
    {trail : List Entry}
    (asked : machine.progress backend trace query = ⟨trail, some (answer, later)⟩) :
    sends trail = sent [⟨query, answer⟩] := by
  cases query with
  | call call =>
      cases machine.callCourse backend trace call with
      | refused error ended made =>
          cases made.symm.trans asked
          rfl
      | answered answer length later took answer_eq now_eq life_eq made =>
          cases made.symm.trans asked
          rfl
      | abandoned error later world_eq life_eq made =>
          cases made.symm.trans asked
          rfl
      | endless silent unbounded made => cases made.symm.trans asked
  | flag kind flag =>
      cases machine.flagCourse backend trace kind flag with
      | answered answer length later took answer_eq now_eq life_eq made =>
          cases made.symm.trans asked
          rfl
      | endless silent made => cases made.symm.trans asked
  | orderId =>
      cases asked
      rfl
  | span =>
      cases asked
      rfl
  | send envelope =>
      cases asked
      rfl
  | settle delivery limit =>
      cases asked
      rfl
  | note event =>
      cases asked
      rfl

theorem Program.follows_turns {program : Program α} {machine later : Machine σ} {value : α}
    {trail : List Entry}
    (made : program.progress backend trace machine = ⟨trail, some (value, later)⟩) :
    program.Follows (program.turns backend trace machine) value ∧
      sends trail = sent (program.turns backend trace machine) := by
  induction program generalizing machine trail with
  | done value =>
      cases made
      exact ⟨.done value, rfl⟩
  -- The first question was answered, or the run would not have come to its end; what follows the
  -- answer is a run of the rest.
  | ask query next ih =>
      cases asked : machine.progress backend trace query with
      | mk first reached =>
          simp only [Program.progress, asked, Progress.andThen] at made
          cases reached with
          | none => cases made
          | some pair =>
              obtain ⟨answer, between⟩ := pair
              cases rest : (next answer).progress backend trace between with
              | mk trailRest reachedRest =>
                  simp only [rest] at made
                  cases made
                  obtain ⟨follows, sends_eq⟩ := ih answer rest
                  simp only [Program.turns, asked]
                  refine ⟨.ask follows, ?_⟩
                  rw [sends_append, machine.sends_eq_sent backend trace asked, sends_eq]
                  exact (sent_append [⟨query, answer⟩] _).symm

end Runs

end Checkout

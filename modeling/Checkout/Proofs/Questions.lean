import Checkout.Proofs.Trail

/-!
# What programs ask

Which questions a program may ever come to is a matter of its text alone: the answers are left
open.  What every allowed question keeps, a whole run of allowed questions keeps, whether it comes
to an end or waits for ever; and if it waits, it does so at an allowed question.
-/

set_option autoImplicit false

namespace Checkout

def Program.Asks {α : Type} (allowed : Query → Prop) : Program α → Prop
  | .done _ => True
  | .ask query next => allowed query ∧ ∀ answer, (next answer).Asks allowed

def Query.IsLocal : Query → Prop
  | .call _ => False
  | _ => True

/-- Whether an event tells how far a placement has come: the states and the counters of placements
depend on these events alone. -/
def Event.isMilestone : Event → Bool
  | .totalComputed _ => true
  | .moved _ _ => true
  | .paidUnshipped .. => true
  | .placed _ => true
  | .aborted _ => true
  | _ => false

/-- Whether a question reports no milestone and gets no order id. -/
def Query.IsRoutine : Query → Prop
  | .note event => event.isMilestone = false
  | .orderId => False
  | _ => True

namespace Program

variable {α β : Type} {allowed : Query → Prop} {program : Program α} {next : α → Program β}

theorem asks_pure (value : α) : (pure value : Program α).Asks allowed :=
  trivial

theorem asks_query {query : Query} (permitted : allowed query) :
    (Program.query query).Asks allowed :=
  ⟨permitted, fun _ => trivial⟩

theorem asks_bind (first : program.Asks allowed) (rest : ∀ value, (next value).Asks allowed) :
    (program >>= next).Asks allowed := by
  change (program.bind next).Asks allowed
  induction program with
  | done value => exact rest value
  | ask query answered ih => exact ⟨first.1, fun answer => ih answer (first.2 answer)⟩

theorem asks_mono {permitted : Query → Prop} (asks : program.Asks allowed)
    (permits : ∀ query, allowed query → permitted query) : program.Asks permitted := by
  induction program with
  | done value => trivial
  | ask query next ih => exact ⟨permits query asks.1, fun answer => ih answer (asks.2 answer)⟩

/-- Every program asks nothing but questions. -/
theorem asks_any (program : Program α) : program.Asks fun _ => True := by
  induction program with
  | done value => trivial
  | ask query next ih => exact ⟨trivial, ih⟩

theorem asks_flag (enabled : Bool) (kind : FlagKind) (flag : String)
    (flags : allowed (.flag kind flag))
    (defaults : ∀ error, allowed (.note (.flagDefaulted flag error))) :
    (Program.flag enabled kind flag).Asks allowed := by
  cases enabled with
  | false => exact asks_pure kind.default
  | true =>
      refine asks_bind (asks_query flags) fun answer => ?_
      cases answer with
      | ok value => exact asks_pure value
      | error error => exact asks_bind (asks_query (defaults error)) fun _ => asks_pure kind.default

end Program

namespace Attempt

variable {α β : Type} {allowed : Query → Prop}

theorem asks_pure (outcome : Except CheckoutError α) :
    Program.Asks allowed (ExceptT.mk (pure outcome) : Attempt α).run :=
  Program.asks_pure outcome

theorem asks_bind {attempt : Attempt α} {next : α → Attempt β}
    (first : Program.Asks allowed attempt.run)
    (rest : ∀ value, Program.Asks allowed (next value).run) :
    Program.Asks allowed (attempt >>= next).run := by
  refine Program.asks_bind first fun outcome => ?_
  cases outcome with
  | ok value => exact rest value
  | error error => exact Program.asks_pure _

theorem asks_call {call : Call} (permitted : allowed (.call call))
    (abort : ServiceError → CheckoutError) :
    Program.Asks allowed (Attempt.call call abort).run :=
  Program.asks_bind (Program.asks_query permitted) fun _ => Program.asks_pure _

theorem asks_perform {program : Program α} (asks : program.Asks allowed) :
    Program.Asks allowed (Attempt.perform program).run :=
  Program.asks_bind asks fun _ => Program.asks_pure _

theorem asks_note {event : Event} (permitted : allowed (.note event)) :
    Program.Asks allowed (Attempt.note event).run :=
  asks_perform (Program.asks_query permitted)

end Attempt

/-! ## Runs -/

/-- A relation between the states before and after a stretch of a run, given what happened in it,
that holds of the empty stretch and of two stretches of which one follows the other. -/
structure Lasting {σ : Type} (Rel : Machine σ → List Entry → Machine σ → Prop) : Prop where
  refl : ∀ machine, Rel machine [] machine
  trans : ∀ {first second third : Machine σ} {trail rest : List Entry},
    Rel first trail second → Rel second rest third → Rel first (trail ++ rest) third

section Runs

variable {σ α : Type} (backend : Backend σ) (trace : TraceContext) {allowed : Query → Prop}
  {Rel : Machine σ → List Entry → Machine σ → Prop}

/-- What every answer to an allowed question keeps, a run of allowed questions keeps.  If the run
waits for ever, it does so at an allowed question, and has kept it until then. -/
theorem Program.asks_run (lasting : Lasting Rel)
    (step : ∀ (machine : Machine σ) (query : Query) (answer : query.Answer) (later : Machine σ)
      (trail : List Entry), allowed query →
      machine.progress backend trace query = ⟨trail, some (answer, later)⟩ →
      Rel machine trail later)
    {program : Program α} (asks : program.Asks allowed) (machine : Machine σ) :
    (∃ value later trail, program.progress backend trace machine = ⟨trail, some (value, later)⟩ ∧
      Rel machine trail later) ∨
      ∃ stuck query trail rest, allowed query ∧
        stuck.progress backend trace query = ⟨rest, none⟩ ∧
        program.progress backend trace machine = ⟨trail ++ rest, none⟩ ∧
        Rel machine trail stuck := by
  induction program generalizing machine with
  | done value => exact Or.inl ⟨value, machine, [], rfl, lasting.refl machine⟩
  | ask query next ih =>
      cases asked : machine.progress backend trace query with
      | mk first reached =>
          cases reached with
          | none =>
              -- The first question is itself the one that is never answered.
              refine Or.inr ⟨machine, query, [], first, asks.1, asked, ?_, lasting.refl machine⟩
              simp [Program.progress, asked, Progress.andThen]
          | some pair =>
              obtain ⟨answer, between⟩ := pair
              have kept := step machine query answer between first asks.1 asked
              obtain ⟨value, later, trail, made, keptRest⟩ |
                  ⟨stuck, waiting, trail, rest, permitted, waits, made, keptRest⟩ :=
                ih answer (asks.2 answer) between
              · refine Or.inl ⟨value, later, first ++ trail, ?_, lasting.trans kept keptRest⟩
                simp [Program.progress, asked, Progress.andThen, made]
              · refine Or.inr ⟨stuck, waiting, first ++ trail, rest, permitted, waits, ?_,
                  lasting.trans kept keptRest⟩
                simp [Program.progress, asked, Progress.andThen, made, List.append_assoc]

/-- What holds of the trail of every allowed question, and of trails put together, holds of the
trail of every run of allowed questions. -/
theorem Program.trail_of_asks {Holds : List Entry → Prop} (nil : Holds [])
    (append : ∀ {trail rest : List Entry}, Holds trail → Holds rest → Holds (trail ++ rest))
    (step : ∀ (machine : Machine σ) (query : Query), allowed query →
      Holds (machine.progress backend trace query).trail)
    {program : Program α} (asks : program.Asks allowed) (machine : Machine σ) :
    Holds (program.progress backend trace machine).trail := by
  have lasting : Lasting fun (_ : Machine σ) trail _ => Holds trail := ⟨fun _ => nil, append⟩
  obtain ⟨value, later, trail, made, holds⟩ |
      ⟨stuck, query, trail, rest, permitted, waits, made, holds⟩ :=
    Program.asks_run backend trace lasting
      (fun machine query answer later trail permitted asked => by
        have holds := step machine query permitted
        rwa [asked] at holds) asks machine
  · rw [made]
    exact holds
  · -- The question that is never answered has left something in the trail, too.
    have holdsRest := step stuck query permitted
    rw [waits] at holdsRest
    rw [made]
    exact append holds holdsRest

/-- What every answer keeps, a run that comes to an end keeps. -/
theorem Program.lasting_of_progress (lasting : Lasting Rel)
    (step : ∀ {machine later : Machine σ} {query : Query} {answer : query.Answer}
      {trail : List Entry}, machine.progress backend trace query = ⟨trail, some (answer, later)⟩ →
      Rel machine trail later)
    {program : Program α} {machine later : Machine σ} {value : α} {trail : List Entry}
    (made : program.progress backend trace machine = ⟨trail, some (value, later)⟩) :
    Rel machine trail later := by
  obtain ⟨reached, last, whole, progress, kept⟩ |
      ⟨stuck, query, whole, rest, _, waits, progress, kept⟩ :=
    Program.asks_run backend trace lasting (fun _ _ _ _ _ _ asked => step asked)
      program.asks_any machine
  · cases progress.symm.trans made
    exact kept
  · cases progress.symm.trans made

end Runs

/-! ## What questions keep -/

section Questions

variable {σ α : Type} (backend : Backend σ) (trace : TraceContext)

structure Silent (trail : List Entry) : Prop where
  calls_eq : calls trail = []
  answers_eq : answers trail = []

theorem Silent.nil : Silent [] :=
  ⟨rfl, rfl⟩

theorem Silent.append {trail rest : List Entry} (first : Silent trail) (second : Silent rest) :
    Silent (trail ++ rest) where
  calls_eq := by rw [calls_append, first.calls_eq, second.calls_eq, List.append_nil]
  answers_eq := by rw [answers_append, first.answers_eq, second.answers_eq, List.append_nil]

/-- A question that goes to no collaborator is silent, whether or not it is answered itself. -/
theorem Machine.silent_of_isLocal (machine : Machine σ) {query : Query}
    (isLocal : query.IsLocal) : Silent (machine.progress backend trace query).trail := by
  cases query with
  | call call => exact False.elim isLocal
  | flag kind flag =>
      cases machine.flagCourse backend trace kind flag with
      | answered answer length later took answer_eq now_eq life_eq made =>
          rw [made]
          exact ⟨rfl, rfl⟩
      | endless silent made =>
          rw [made]
          exact ⟨rfl, rfl⟩
  | orderId => exact ⟨rfl, rfl⟩
  | span => exact ⟨rfl, rfl⟩
  | send envelope => exact ⟨rfl, rfl⟩
  | settle delivery limit => exact ⟨rfl, rfl⟩
  | note event => exact ⟨rfl, rfl⟩

theorem Program.silent_of_asks_isLocal {program : Program α} (asks : program.Asks Query.IsLocal)
    (machine : Machine σ) : Silent (program.progress backend trace machine).trail :=
  Program.trail_of_asks backend trace Silent.nil Silent.append
    (fun machine _ isLocal => machine.silent_of_isLocal backend trace isLocal) asks machine

/-- An answer is heard only on a call that was made. -/
def Matched (trail : List Entry) : Prop :=
  ∀ answered ∈ answers trail, answered.call ∈ calls trail

theorem Matched.nil : Matched [] := by
  intro answered member
  cases member

theorem Matched.append {trail rest : List Entry} (first : Matched trail) (second : Matched rest) :
    Matched (trail ++ rest) := by
  intro answered member
  rw [answers_append] at member
  rw [calls_append]
  rcases List.mem_append.mp member with before | after
  · exact List.mem_append_left _ (first answered before)
  · exact List.mem_append_right _ (second answered after)

theorem Machine.matched (machine : Machine σ) (query : Query) :
    Matched (machine.progress backend trace query).trail := by
  have silent : query.IsLocal → Matched (machine.progress backend trace query).trail := by
    intro isLocal answered member
    rw [(machine.silent_of_isLocal backend trace isLocal).answers_eq] at member
    cases member
  cases query with
  | call call =>
      cases machine.callCourse backend trace call with
      | refused error ended made =>
          rw [made]
          intro answered member
          cases member
      | answered answer length later took answer_eq now_eq life_eq made =>
          rw [made]
          intro answered member
          rw [List.mem_singleton.mp member]
          exact List.mem_singleton.mpr rfl
      | abandoned error later world_eq life_eq made =>
          rw [made]
          intro answered member
          rw [List.mem_singleton.mp member]
          exact List.mem_singleton.mpr rfl
      | endless unanswered unbounded made =>
          rw [made]
          intro answered member
          cases member
  | flag kind flag => exact silent trivial
  | orderId => exact silent trivial
  | span => exact silent trivial
  | send envelope => exact silent trivial
  | settle delivery limit => exact silent trivial
  | note event => exact silent trivial

theorem Program.matched (program : Program α) (machine : Machine σ) :
    Matched (program.progress backend trace machine).trail :=
  Program.trail_of_asks backend trace Matched.nil Matched.append
    (fun machine query _ => machine.matched backend trace query) program.asks_any machine

/-- A bounded lifetime stays bounded, whatever is asked. -/
theorem Machine.unbounded_of_progress {machine later : Machine σ} {query : Query}
    {answer : query.Answer} {trail : List Entry}
    (asked : machine.progress backend trace query = ⟨trail, some (answer, later)⟩)
    (unbounded : later.life = .unbounded) : machine.life = .unbounded := by
  cases query with
  | call call =>
      cases machine.callCourse backend trace call with
      | refused error ended made =>
          cases made.symm.trans asked
          exact unbounded
      | answered answer length later took answer_eq now_eq life_eq made =>
          cases made.symm.trans asked
          rw [life_eq] at unbounded
          exact Machine.unbounded_of_lifeAfter unbounded
      | abandoned error later world_eq life_eq made =>
          cases made.symm.trans asked
          rw [life_eq] at unbounded
          exact Machine.unbounded_of_lifeAfter unbounded
      | endless silent unbounded made => cases made.symm.trans asked
  | flag kind flag =>
      cases machine.flagCourse backend trace kind flag with
      | answered answer length later took answer_eq now_eq life_eq made =>
          cases made.symm.trans asked
          rw [life_eq] at unbounded
          exact Machine.unbounded_of_lifeAfter unbounded
      | endless silent made => cases made.symm.trans asked
  | orderId => cases asked; exact unbounded
  | span => cases asked; exact unbounded
  | send envelope => cases asked; exact unbounded
  | settle delivery limit => cases asked; exact unbounded
  | note event => cases asked; exact unbounded

theorem lasting_unbounded : Lasting fun (first : Machine σ) _ second =>
    second.life = .unbounded → first.life = .unbounded :=
  ⟨fun _ unbounded => unbounded, fun first second unbounded => first (second unbounded)⟩

theorem Program.unbounded_of_progress {program : Program α} {machine later : Machine σ} {value : α}
    {trail : List Entry}
    (made : program.progress backend trace machine = ⟨trail, some (value, later)⟩)
    (unbounded : later.life = .unbounded) : machine.life = .unbounded :=
  Program.lasting_of_progress backend trace lasting_unbounded
    (Machine.unbounded_of_progress backend trace) made unbounded

end Questions

end Checkout

import Checkout.Saga.Run

/-!
# Progress of runs

A run that waits for ever has no result, yet it has made calls.  The progress of a run is what
happened in it, together with what it has come to unless it waits for ever; the result of a run is
its progress once that has come to something.  Progress is sequential: a program that goes on where
another one is done makes the progress of the first and then its own.

An attempt either succeeds or halts, and a halt is an abort or an endless wait.  What follows an
attempt in sequence runs exactly when the attempt succeeds.
-/

set_option autoImplicit false

namespace Checkout

/-- What happened in a run, and what the run has come to unless it waits for ever. -/
structure Progress (σ α : Type) where
  trail : List Entry
  reached : Option (α × Machine σ)

namespace Progress

variable {σ α β γ : Type}

def andThen (first : Progress σ α) (next : α → Machine σ → Progress σ β) : Progress σ β :=
  match first.reached with
  | none => ⟨first.trail, none⟩
  | some (value, machine) =>
    ⟨first.trail ++ (next value machine).trail, (next value machine).reached⟩

def result? (progress : Progress σ α) : Option (Result σ α) :=
  progress.reached.map fun (value, machine) => ⟨value, machine, progress.trail⟩

/-- The progress of a run that made `trail` before it made this, and then takes the outcome. -/
def after (progress : Progress σ α) (trail : List Entry) (outcome : α → β) : Progress σ β :=
  ⟨trail ++ progress.trail, progress.reached.map fun (value, machine) => (outcome value, machine)⟩

theorem after_id (progress : Progress σ α) (trail : List Entry) :
    progress.after trail id = ⟨trail ++ progress.trail, progress.reached⟩ := by
  simp [after]

theorem andThen_assoc (first : Progress σ α) (next : α → Machine σ → Progress σ β)
    (last : β → Machine σ → Progress σ γ) :
    (first.andThen next).andThen last =
      first.andThen fun value machine => (next value machine).andThen last := by
  obtain ⟨trail, reached⟩ := first
  cases reached with
  | none => rfl
  | some pair =>
      obtain ⟨value, machine⟩ := pair
      cases reachedNext : (next value machine).reached with
      | none => simp [andThen, reachedNext]
      | some pairNext => simp [andThen, reachedNext, List.append_assoc]

end Progress

/-- What a question leaves in the trail if its answer never comes. -/
def Machine.unanswered {σ : Type} (machine : Machine σ) : Query → List Entry
  | .call call => [⟨machine.now, .called call⟩]
  | .flag kind flag => [⟨machine.now, .asked kind flag⟩]
  | _ => []

def Machine.progress {σ : Type} (backend : Backend σ) (trace : TraceContext) (machine : Machine σ)
    (query : Query) : Progress σ query.Answer :=
  match machine.step backend trace query with
  | none => ⟨machine.unanswered query, none⟩
  | some answered => ⟨answered.trail, some (answered.value, answered.machine)⟩

def Program.progress {σ α : Type} (backend : Backend σ) (trace : TraceContext) :
    Program α → Machine σ → Progress σ α
  | .done value, machine => ⟨[], some (value, machine)⟩
  | .ask query next, machine =>
    (machine.progress backend trace query).andThen fun answer later =>
      (next answer).progress backend trace later

/-! ## Sequences of programs -/

instance : LawfulMonad Program :=
  LawfulMonad.mk' Program
    (fun program => by
      change program.bind (fun value => .done value) = program
      induction program with
      | done value => rfl
      | ask query next ih =>
          rw [Program.bind]
          congr 1
          funext answer
          exact ih answer)
    (fun value next => rfl)
    (fun program next last => by
      change (program.bind next).bind last = program.bind fun value => (next value).bind last
      induction program with
      | done value => rfl
      | ask query rest ih =>
          simp only [Program.bind]
          congr 1
          funext answer
          exact ih answer)

section Programs

variable {σ α β : Type} (backend : Backend σ) (trace : TraceContext)

theorem Program.run_eq_result? (program : Program α) (machine : Machine σ) :
    program.run backend trace machine = (program.progress backend trace machine).result? := by
  induction program generalizing machine with
  | done value => rfl
  | ask query next ih =>
      cases answer : machine.step backend trace query with
      | none =>
          simp [Program.run, Program.progress, Machine.progress, Progress.andThen,
            Progress.result?, answer]
      | some answered =>
          have rest := ih answered.value answered.machine
          cases later : (next answered.value).progress backend trace answered.machine with
          | mk trail reached =>
              cases reached with
              | none =>
                  simp [Program.run, Program.progress, Machine.progress, Progress.andThen,
                    Progress.result?, answer, rest, later]
              | some pair =>
                  simp [Program.run, Program.progress, Machine.progress, Progress.andThen,
                    Progress.result?, answer, rest, later]

theorem Program.run_eq_some_iff {program : Program α} {machine later : Machine σ} {value : α}
    {trail : List Entry} :
    program.run backend trace machine = some ⟨value, later, trail⟩ ↔
      program.progress backend trace machine = ⟨trail, some (value, later)⟩ := by
  rw [Program.run_eq_result?]
  cases program.progress backend trace machine with
  | mk made reached =>
      cases reached with
      | none => simp [Progress.result?]
      | some pair =>
          obtain ⟨reachedValue, reachedMachine⟩ := pair
          constructor
          · intro ran
            cases ran
            rfl
          · intro made_eq
            cases made_eq
            rfl

theorem Program.progress_bind (program : Program α) (next : α → Program β) (machine : Machine σ) :
    (program >>= next).progress backend trace machine =
      (program.progress backend trace machine).andThen fun value later =>
        (next value).progress backend trace later := by
  change (program.bind next).progress backend trace machine = _
  induction program generalizing machine with
  | done value => simp [Program.bind, Program.progress, Progress.andThen]
  | ask query rest ih =>
      simp only [Program.bind, Program.progress]
      rw [Progress.andThen_assoc]
      congr 1
      funext answer later
      exact ih answer later

theorem Program.progress_pure (value : α) (machine : Machine σ) :
    (pure value : Program α).progress backend trace machine = ⟨[], some (value, machine)⟩ :=
  rfl

theorem Program.progress_query (query : Query) (machine : Machine σ) :
    (Program.query query).progress backend trace machine =
      machine.progress backend trace query := by
  simp only [Program.query, Program.progress, Progress.andThen, Machine.progress]
  cases machine.step backend trace query with
  | none => rfl
  | some answered => simp

theorem Program.progress_note (event : Event) (machine : Machine σ) :
    (Program.note event).progress backend trace machine =
      ⟨[⟨machine.now, .noted event⟩], some ((), machine)⟩ :=
  rfl

end Programs

/-! ## Attempts -/

namespace Attempt

variable {σ α β : Type} (backend : Backend σ) (trace : TraceContext)

/-- The run of an attempt succeeds with a value, in the state `later`. -/
def Succeeds (attempt : Attempt α) (machine : Machine σ) (value : α) (later : Machine σ)
    (trail : List Entry) : Prop :=
  Program.progress backend trace attempt.run machine = ⟨trail, some (.ok value, later)⟩

/-- The run of an attempt aborts with an error or, if there is none, waits for ever. -/
def Halts (attempt : Attempt α) (machine : Machine σ) (error? : Option CheckoutError)
    (trail : List Entry) : Prop :=
  ∃ later, Program.progress backend trace attempt.run machine =
    ⟨trail, error?.map fun error => (.error error, later)⟩

variable {backend trace}
variable {attempt : Attempt α} {next : α → Attempt β} {machine later last : Machine σ}
  {value : α} {final : β} {error? : Option CheckoutError} {trail rest : List Entry}

theorem succeeds_pure (value : α) (machine : Machine σ) :
    (pure value : Attempt α).Succeeds backend trace machine value machine [] :=
  rfl

theorem halts_throw (error : CheckoutError) (machine : Machine σ) :
    (throw error : Attempt α).Halts backend trace machine (some error) [] :=
  ⟨machine, rfl⟩

theorem progress_bind (attempt : Attempt α) (next : α → Attempt β) (machine : Machine σ) :
    Program.progress backend trace (attempt >>= next).run machine =
      (Program.progress backend trace attempt.run machine).andThen fun outcome later =>
        Program.progress backend trace (ExceptT.bindCont next outcome) later :=
  Program.progress_bind backend trace attempt.run (ExceptT.bindCont next) machine

theorem progress_bind_of_succeeds
    (first : attempt.Succeeds backend trace machine value later trail) :
    Program.progress backend trace (attempt >>= next).run machine =
      ⟨trail ++ (Program.progress backend trace (next value).run later).trail,
        (Program.progress backend trace (next value).run later).reached⟩ := by
  rw [progress_bind, first]
  rfl

theorem halts_bind (first : attempt.Halts backend trace machine error? trail) :
    (attempt >>= next).Halts backend trace machine error? trail := by
  obtain ⟨later, first⟩ := first
  refine ⟨later, ?_⟩
  rw [progress_bind, first]
  cases error? with
  | none => rfl
  | some error => simp [Progress.andThen, ExceptT.bindCont, Program.progress_pure]

theorem progress_perform (program : Program α) (machine : Machine σ) :
    Program.progress backend trace (perform program).run machine =
      (program.progress backend trace machine).andThen fun value later =>
        ⟨[], some (.ok value, later)⟩ :=
  Program.progress_bind backend trace program (fun value => pure (Except.ok value)) machine

theorem progress_perform_pure (program : Program α) (value : β) (machine : Machine σ) :
    Program.progress backend trace (perform program >>= fun _ => pure value).run machine =
      (program.progress backend trace machine).after [] fun _ => .ok value := by
  rw [progress_bind, progress_perform, Progress.andThen_assoc]
  cases program.progress backend trace machine with
  | mk trail reached =>
      cases reached with
      | none => rfl
      | some pair =>
          simp only [Progress.andThen, Progress.after, ExceptT.bindCont, List.nil_append,
            Option.map_some]
          rw [show Program.progress backend trace (pure value : Attempt β) pair.2 =
            ⟨[], some (.ok value, pair.2)⟩ from rfl, List.append_nil]

theorem succeeds_perform {program : Program α}
    (done : program.progress backend trace machine = ⟨trail, some (value, later)⟩) :
    (perform program).Succeeds backend trace machine value later trail := by
  rw [Succeeds, progress_perform, done]
  simp [Progress.andThen]

theorem halts_perform {program : Program α}
    (waits : program.progress backend trace machine = ⟨trail, none⟩) :
    (perform program).Halts backend trace machine none trail := by
  refine ⟨machine, ?_⟩
  rw [progress_perform, waits]
  rfl

theorem succeeds_note (event : Event) (machine : Machine σ) :
    (note event).Succeeds backend trace machine () machine [⟨machine.now, .noted event⟩] :=
  succeeds_perform (Program.progress_note backend trace event machine)

end Attempt

end Checkout

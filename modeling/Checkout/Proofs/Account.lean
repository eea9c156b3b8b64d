import Checkout.Proofs.Trail

/-!
# Accounts of attempts

An attempt is a sequence of calls each of which must succeed.  Its run hears replies and then either
reaches its value, or comes to a call that brings no reply, or quits between two calls.  Each of the
three is stated with what was heard until then and what was noted.

An account that ends early is the account of whatever was to follow.  After a part that has reached
its value the run continues as what follows, and the accounts of both are put together.
-/

set_option autoImplicit false

namespace Checkout

/-- The ways in which a call can fail to bring its reply: the error that is reported, unless the
call is never answered, and what is made and heard. -/
inductive Setback (call : Call) : Option ServiceError → List Call → List Answered → Prop where
  | refused (error : ContextError) : Setback call (some (.context error)) [] []
  | failed (error : ServiceError) : Setback call (some error) [call] [⟨call, .error error⟩]
  | endless : Setback call none [call] []

namespace Attempt

variable {σ α β : Type} (backend : Backend σ) (trace : TraceContext)

/-- The run hears `heard`, notes `reported`, and succeeds. -/
def Hears (attempt : Attempt α) (machine : Machine σ) (value : α) (later : Machine σ)
    (heard : List Answered) (reported : List Event) : Prop :=
  ∃ trail, attempt.Succeeds backend trace machine value later trail ∧
    Shows trail (heard.map Answered.call) heard reported

/-- The run hears `heard`, notes `reported`, and meets a setback at a call. -/
def StopsAt (attempt : Attempt α) (machine : Machine σ) (heard : List Answered)
    (reported : List Event) (call : Call) (abort : ServiceError → CheckoutError) : Prop :=
  ∃ error? made answered trail, Setback call error? made answered ∧
    attempt.Halts backend trace machine (error?.map abort) trail ∧
    Shows trail (heard.map Answered.call ++ made) (heard ++ answered) reported

/-- The run hears `heard`, notes `reported`, and halts without coming to another call. -/
def Quits (attempt : Attempt α) (machine : Machine σ) (error? : Option CheckoutError)
    (heard : List Answered) (reported : List Event) : Prop :=
  ∃ trail, attempt.Halts backend trace machine error? trail ∧
    Shows trail (heard.map Answered.call) heard reported

/-- The run hears `heard`, notes `reported`, and goes on as the run of `rest` from `later`. -/
def Continues (attempt : Attempt α) (machine : Machine σ) (rest : Attempt α) (later : Machine σ)
    (heard : List Answered) (reported : List Event) : Prop :=
  ∃ trail, Shows trail (heard.map Answered.call) heard reported ∧
    Program.progress backend trace attempt.run machine =
      (Program.progress backend trace rest.run later).after trail id

variable {backend trace}
variable {attempt rest furtherRest : Attempt α} {next : α → Attempt β}
  {machine later last : Machine σ} {value : α} {final : β} {error? : Option CheckoutError}
  {heard heardNext : List Answered} {reported reportedNext : List Event} {call : Call}
  {abort : ServiceError → CheckoutError}

theorem hears_pure (value : α) (machine : Machine σ) :
    (pure value : Attempt α).Hears backend trace machine value machine [] [] :=
  ⟨[], succeeds_pure value machine, Shows.nil⟩

theorem hears_note (event : Event) (machine : Machine σ) :
    (note event).Hears backend trace machine () machine [] [event] :=
  ⟨_, succeeds_note event machine, Shows.noted machine.now event⟩

theorem quits_throw (error : CheckoutError) (machine : Machine σ) :
    (throw error : Attempt α).Quits backend trace machine (some error) [] [] :=
  ⟨[], halts_throw error machine, Shows.nil⟩

theorem hears_ok {outcome : Except CheckoutError α} (outcome_eq : outcome = .ok value)
    (machine : Machine σ) :
    Attempt.Hears backend trace (ExceptT.mk (pure outcome)) machine value machine [] [] := by
  subst outcome_eq
  exact hears_pure value machine

theorem quits_error {outcome : Except CheckoutError α} {error : CheckoutError}
    (outcome_eq : outcome = .error error) (machine : Machine σ) :
    Attempt.Quits backend trace (ExceptT.mk (pure outcome)) machine (some error) [] [] := by
  subst outcome_eq
  exact quits_throw error machine

theorem stopsAt_bind (first : attempt.StopsAt backend trace machine heard reported call abort) :
    (attempt >>= next).StopsAt backend trace machine heard reported call abort := by
  obtain ⟨error?, made, answered, trail, setback, halts, shows⟩ := first
  exact ⟨error?, made, answered, trail, setback, halts_bind halts, shows⟩

theorem quits_bind (first : attempt.Quits backend trace machine error? heard reported) :
    (attempt >>= next).Quits backend trace machine error? heard reported := by
  obtain ⟨trail, halts, shows⟩ := first
  exact ⟨trail, halts_bind halts, shows⟩

theorem continues_bind (first : attempt.Hears backend trace machine value later heard reported) :
    (attempt >>= next).Continues backend trace machine (next value) later heard reported := by
  obtain ⟨trail, succeeds, shows⟩ := first
  refine ⟨trail, shows, ?_⟩
  rw [progress_bind_of_succeeds succeeds, Progress.after_id]

namespace Continues

theorem trans (first : attempt.Continues backend trace machine rest later heard reported)
    (second : rest.Continues backend trace later furtherRest last heardNext reportedNext) :
    attempt.Continues backend trace machine furtherRest last (heard ++ heardNext)
      (reported ++ reportedNext) := by
  obtain ⟨trail, shows, progress⟩ := first
  obtain ⟨trailNext, showsNext, progressNext⟩ := second
  refine ⟨trail ++ trailNext, ?_, ?_⟩
  · rw [List.map_append]
    exact shows.append showsNext
  · rw [progress, progressNext, Progress.after_id, Progress.after_id, Progress.after_id,
      List.append_assoc]

theorem hears (first : attempt.Continues backend trace machine rest later heard reported)
    (second : rest.Hears backend trace later value last heardNext reportedNext) :
    attempt.Hears backend trace machine value last (heard ++ heardNext)
      (reported ++ reportedNext) := by
  obtain ⟨trail, shows, progress⟩ := first
  obtain ⟨trailNext, succeeds, showsNext⟩ := second
  refine ⟨trail ++ trailNext, ?_, ?_⟩
  · rw [Succeeds, progress, succeeds, Progress.after_id]
  · rw [List.map_append]
    exact shows.append showsNext

theorem stopsAt (first : attempt.Continues backend trace machine rest later heard reported)
    (second : rest.StopsAt backend trace later heardNext reportedNext call abort) :
    attempt.StopsAt backend trace machine (heard ++ heardNext) (reported ++ reportedNext) call
      abort := by
  obtain ⟨trail, shows, progress⟩ := first
  obtain ⟨error?, made, answered, trailNext, setback, ⟨last, halts⟩, showsNext⟩ := second
  refine ⟨error?, made, answered, trail ++ trailNext, setback, ⟨last, ?_⟩, ?_⟩
  · rw [progress, halts, Progress.after_id]
  · rw [List.map_append, List.append_assoc, List.append_assoc]
    exact shows.append showsNext

theorem quits (first : attempt.Continues backend trace machine rest later heard reported)
    (second : rest.Quits backend trace later error? heardNext reportedNext) :
    attempt.Quits backend trace machine error? (heard ++ heardNext)
      (reported ++ reportedNext) := by
  obtain ⟨trail, shows, progress⟩ := first
  obtain ⟨trailNext, ⟨last, halts⟩, showsNext⟩ := second
  refine ⟨trail ++ trailNext, ⟨last, ?_⟩, ?_⟩
  · rw [progress, halts, Progress.after_id]
  · rw [List.map_append]
    exact shows.append showsNext

theorem stopsAt_next (first : attempt.Continues backend trace machine rest later heard reported)
    (second : rest.StopsAt backend trace later [] [] call abort) :
    attempt.StopsAt backend trace machine heard reported call abort := by
  have stops := first.stopsAt second
  rwa [List.append_nil, List.append_nil] at stops

end Continues

theorem hears_bind (first : attempt.Hears backend trace machine value later heard reported)
    (second : (next value).Hears backend trace later final last heardNext reportedNext) :
    (attempt >>= next).Hears backend trace machine final last (heard ++ heardNext)
      (reported ++ reportedNext) :=
  (continues_bind first).hears second

end Attempt

/-- A call whose failure aborts the placement does nothing but ask. -/
theorem Attempt.call_progress {σ : Type} (backend : Backend σ) (trace : TraceContext) (call : Call)
    (abort : ServiceError → CheckoutError) (machine : Machine σ) :
    Program.progress backend trace (Attempt.call call abort).run machine =
      (machine.progress backend trace (.call call)).andThen fun answer later =>
        ⟨[], some (answer.mapError abort, later)⟩ := by
  rw [← Program.progress_query]
  exact Program.progress_bind backend trace (Program.query (.call call))
    (fun answer => pure (answer.mapError abort)) machine

/-- A call whose failure aborts the placement brings its reply, or the run stops at it. -/
theorem Attempt.call_cases {σ : Type} (backend : Backend σ) (trace : TraceContext) (call : Call)
    (abort : ServiceError → CheckoutError) (machine : Machine σ) :
    (∃ reply later, (Attempt.call call abort).Hears backend trace machine reply later
      [⟨call, .ok reply⟩] []) ∨
      (Attempt.call call abort).StopsAt backend trace machine [] [] call abort := by
  have progress := Attempt.call_progress backend trace call abort machine
  cases machine.callCourse backend trace call with
  | refused error ended made =>
      refine Or.inr ⟨_, _, _, [], .refused error, ⟨machine, ?_⟩, Shows.nil⟩
      rw [progress, made]
      rfl
  | answered answer length later took answer_eq now_eq life_eq made =>
      let trail : List Entry :=
        [⟨machine.now, .called call⟩, ⟨later.now, .answered call answer⟩]
      cases answer with
      | ok reply =>
          refine Or.inl ⟨reply, later, trail, ?_, rfl, rfl, rfl, rfl⟩
          rw [Succeeds, progress, made]
          rfl
      | error error =>
          refine Or.inr ⟨_, _, _, trail, .failed error, ⟨later, ?_⟩, rfl, rfl, rfl, rfl⟩
          rw [progress, made]
          rfl
  | abandoned error later world_eq life_eq made =>
      let trail : List Entry :=
        [⟨machine.now, .called call⟩, ⟨later.now, .abandoned call error⟩]
      refine Or.inr ⟨_, _, _, trail, .failed (.context error), ⟨later, ?_⟩, rfl, rfl, rfl, rfl⟩
      rw [progress, made]
      rfl
  | endless silent unbounded made =>
      refine Or.inr ⟨_, _, _, [⟨machine.now, .called call⟩], .endless, ⟨machine, ?_⟩,
        rfl, rfl, rfl, rfl⟩
      rw [progress, made]
      rfl

end Checkout

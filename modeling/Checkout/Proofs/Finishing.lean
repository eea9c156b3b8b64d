import Checkout.Proofs.Placing
import Checkout.Proofs.Questions

/-!
# Finishing a placement

What follows the shipment calls at most two collaborators, each once and in a fixed order, and it
cannot fail.  If it waits for ever, then for one of these two collaborators or for a flag.  Around
the part of a placement that can be aborted and the part that finishes it, the whole placement only
notes how it begins and how it ends.
-/

set_option autoImplicit false

open scoped List

namespace Checkout

def Backend.FlagsReturn {σ : Type} (backend : Backend σ) : Prop :=
  ∀ caller kind flag world, (backend.flag caller kind flag world).delay ≠ none

def Call.IsFinishing (request : OrderRequest) (order : Order) (call : Call) : Prop :=
  call = .emptyCart request.userId ∨ call = .sendConfirmation request.email order

section UntilShipment

open Attempt

variable {allowed : Query → Prop} (calls : ∀ call, allowed (.call call))
  (notes : ∀ event, allowed (.note event))

include calls in
theorem priceItems_asks (code : String) (items : List CartItem) :
    Program.Asks allowed (Saga.priceItems code items).run := by
  induction items with
  | nil => exact asks_pure _
  | cons item rest ih =>
      refine asks_bind ?_ fun line => asks_bind ih fun lines => asks_pure _
      exact asks_bind (asks_call (calls _) _) fun product =>
        asks_bind (asks_call (calls _) _) fun cost => asks_pure _

include calls notes

theorem prepare_asks (user code : String) (address : Address) :
    Program.Asks allowed (Saga.prepare user code address).run := by
  have cart : Program.Asks allowed (Saga.readCart user).run := by
    refine asks_bind (asks_call (calls _) _) fun items => ?_
    cases items.find? fun item => ! decide item.HasValidQuantity with
    | none => exact asks_pure _
    | some item => exact asks_pure _
  have quote : ∀ items, Program.Asks allowed (Saga.quoteShipping code address items).run :=
    fun items => asks_bind (asks_call (calls _) _) fun _ => asks_call (calls _) _
  refine asks_bind cart fun items => ?_
  refine asks_bind (priceItems_asks calls code items) fun lines => ?_
  refine asks_bind (quote items) fun cost => ?_
  exact asks_bind (asks_note (notes _)) fun _ => asks_pure _

/-- Beside its calls and its reports, a placement asks for one flag and an order id until the cart is
shipped. -/
theorem untilShipment_asks (flag : allowed (.flag .boolean Flags.paymentUnreachable))
    (id : allowed .orderId) (saga : Saga) (request : OrderRequest) :
    Program.Asks allowed (saga.untilShipment request).run := by
  have endpoint : saga.chooseEndpoint.Asks allowed := by
    refine Program.asks_bind (Program.asks_flag _ _ _ flag fun _ => notes _) fun diverted => ?_
    cases diverted with
    | false => exact Program.asks_pure _
    | true =>
        exact Program.asks_bind (Program.asks_query (notes _)) fun _ => Program.asks_pure _
  have charged : ∀ total, Program.Asks allowed (saga.charge total request.card).run :=
    fun total => asks_bind (asks_perform endpoint) fun _ =>
      asks_bind (asks_call (calls _) _) fun _ => asks_bind (asks_note (notes _)) fun _ => asks_pure _
  have shipped : ∀ id transaction total items, Program.Asks allowed
      (Saga.shipPaid id transaction total request.address items).run := by
    intro id transaction total items
    have ship : Program.Asks allowed (Saga.ship request.address items).run :=
      asks_bind (asks_call (calls _) _) fun _ => asks_bind (asks_note (notes _)) fun _ => asks_pure _
    refine Program.asks_bind ship fun answer => ?_
    cases answer with
    | ok tracking => exact Program.asks_pure _
    | error error =>
        exact Program.asks_bind (Program.asks_query (notes _)) fun _ => Program.asks_pure _
  have identified : Program.Asks allowed Attempt.orderId.run :=
    Program.asks_bind (Program.asks_query id) fun _ => Program.asks_pure _
  refine asks_bind identified fun id => ?_
  refine asks_bind (prepare_asks calls notes _ _ _) fun preparation => ?_
  refine asks_bind (asks_pure _) fun total => ?_
  refine asks_bind (asks_note (notes _)) fun _ => asks_bind (asks_note (notes _)) fun _ => ?_
  refine asks_bind (charged total) fun transaction => asks_bind (asks_note (notes _)) fun _ => ?_
  exact asks_bind (shipped id transaction total _) fun tracking => asks_pure _

end UntilShipment

section Questions

variable {allowed : Query → Prop}

theorem asks_note {event : Event} (permitted : allowed (.note event)) :
    (Program.note event).Asks allowed :=
  Program.asks_query permitted

theorem resetCart_asks (notes : ∀ event : Event, event.isMilestone = false → allowed (.note event))
    (user : String) (reset : allowed (.call (.emptyCart user))) :
    (Saga.resetCart user).Asks allowed := by
  refine Program.asks_bind (Program.asks_query reset) fun answer => ?_
  cases answer with
  | ok reply => exact Program.asks_pure ()
  | error error => exact asks_note (notes _ rfl)

theorem notify_asks (notes : ∀ event : Event, event.isMilestone = false → allowed (.note event))
    (email : String) (order : Order) (confirm : allowed (.call (.sendConfirmation email order))) :
    (Saga.notify email order).Asks allowed := by
  refine Program.asks_bind (Program.asks_query confirm) fun answer => ?_
  cases answer with
  | ok reply => exact asks_note (notes _ rfl)
  | error error => exact asks_note (notes _ rfl)

/-- Whether a question is one of those with which more copies of a message are sent. -/
def Query.IsOverload : Query → Prop
  | .flag _ _ => True
  | .send _ => True
  | .note (.flagDefaulted ..) => True
  | .note (.overloading _) => True
  | .note .overloadSent => True
  | .note (.overloaded _) => True
  | _ => False

theorem repeatSend_asks (envelope : Envelope) (count : Nat) :
    (Publisher.repeatSend envelope count).Asks Query.IsOverload := by
  induction count with
  | zero => exact Program.asks_pure ()
  | succ count ih =>
      have sends : Query.IsOverload (.send envelope) := trivial
      refine Program.asks_bind (Program.asks_query sends) fun _ => ?_
      exact Program.asks_bind (asks_note trivial) fun _ => ih

theorem overload_asks (enabled : Bool) (envelope : Envelope) :
    (Publisher.overload enabled envelope).Asks Query.IsOverload := by
  refine Program.asks_bind ?_ fun count => ?_
  · exact Program.asks_flag enabled .integer Flags.queueProblems trivial fun error => trivial
  · by_cases none : count ≤ 0
    · rw [if_pos none]
      exact Program.asks_pure ()
    · rw [if_neg none]
      refine Program.asks_bind (asks_note trivial) fun _ => ?_
      refine Program.asks_bind (repeatSend_asks envelope _) fun _ => ?_
      exact asks_note trivial

variable (permits : ∀ query : Query, query.IsLocal → query.IsRoutine → allowed query)

include permits

theorem permits_overload (query : Query) (isOverload : query.IsOverload) : allowed query := by
  cases query with
  | flag kind flag => exact permits _ trivial trivial
  | send envelope => exact permits _ trivial trivial
  | note event =>
      cases event with
      | flagDefaulted flag error => exact permits _ trivial rfl
      | overloading count => exact permits _ trivial rfl
      | overloadSent => exact permits _ trivial rfl
      | overloaded count => exact permits _ trivial rfl
      | _ => exact False.elim isOverload
  | _ => exact False.elim isOverload

/-- Publishing an order calls no collaborator and reaches no milestone. -/
theorem publish_asks (saga : Saga) (trace : TraceContext) (order : Order) :
    (saga.publish trace order).Asks allowed := by
  unfold Saga.publish
  cases saga.publisher with
  | none => exact Program.asks_pure ()
  | some publisher =>
      refine Program.asks_bind ?_ fun _ => Program.asks_pure ()
      have close_asks : ∀ publication, (Publisher.close publication).Asks allowed := by
        intro publication
        exact Program.asks_bind (asks_note (permits _ trivial rfl)) fun _ => Program.asks_pure _
      unfold Publisher.publish
      cases order.encode with
      | error error =>
          exact Program.asks_bind (asks_note (permits _ trivial rfl)) fun _ => close_asks _
      | ok payload =>
          refine Program.asks_bind (Program.asks_query (permits _ trivial trivial)) fun span => ?_
          refine Program.asks_bind ?_ fun settled => ?_
          · exact Program.asks_bind (Program.asks_query (permits _ trivial trivial))
              fun delivery => Program.asks_query (permits _ trivial trivial)
          · refine Program.asks_bind (asks_note (permits _ trivial rfl)) fun _ => ?_
            refine Program.asks_bind ?_ fun _ => close_asks _
            exact Program.asks_mono (overload_asks _ _) (permits_overload permits)

end Questions

/-- The questions that finish a placement: two calls, and whatever goes to no collaborator. -/
def Query.IsFinishing (request : OrderRequest) (order : Order) : Query → Prop
  | .call made => made.IsFinishing request order
  | _ => True

theorem finish_asks (saga : Saga) (trace : TraceContext) (request : OrderRequest) (order : Order) :
    (saga.finish trace request order).Asks (Query.IsFinishing request order) := by
  have permits : ∀ query : Query, query.IsLocal → query.IsRoutine →
      query.IsFinishing request order := by
    intro query isLocal isRoutine
    cases query with
    | call call => exact False.elim isLocal
    | _ => trivial
  refine Program.asks_bind (asks_note trivial) fun _ => ?_
  refine Program.asks_bind (resetCart_asks (fun _ _ => trivial) _ (Or.inl rfl)) fun _ => ?_
  refine Program.asks_bind (notify_asks (fun _ _ => trivial) _ order (Or.inr rfl)) fun _ => ?_
  refine Program.asks_bind (publish_asks permits saga trace order) fun _ => ?_
  exact asks_note trivial

section Runs

variable {σ α β : Type} (backend : Backend σ) (trace : TraceContext)

/-! ## The calls in order -/

theorem calls_bind {program : Program α} {next : α → Program β} {made madeNext : List Call}
    {machine : Machine σ} (first : calls (program.progress backend trace machine).trail <+ made)
    (second : ∀ value later,
      calls ((next value).progress backend trace later).trail <+ madeNext) :
    calls ((program >>= next).progress backend trace machine).trail <+ made ++ madeNext := by
  rw [Program.progress_bind]
  cases progress : program.progress backend trace machine with
  | mk trail reached =>
      rw [progress] at first
      cases reached with
      | none => exact first.trans (List.sublist_append_left made madeNext)
      | some pair =>
          simp only [Progress.andThen, calls_append]
          exact first.append (second pair.1 pair.2)

theorem calls_of_asks_isLocal {program : Program α} (asks : program.Asks Query.IsLocal)
    (machine : Machine σ) : calls (program.progress backend trace machine).trail <+ [] := by
  have silent := program.silent_of_asks_isLocal backend trace asks machine
  exact List.sublist_nil.mpr silent.calls_eq

theorem calls_call (call : Call) (machine : Machine σ) :
    calls ((Program.query (.call call)).progress backend trace machine).trail <+ [call] := by
  rw [Program.progress_query]
  cases machine.callCourse backend trace call with
  | refused error ended made =>
      rw [made]
      exact List.nil_sublist [call]
  | answered answer length later took answer_eq now_eq life_eq made =>
      rw [made]
      exact List.Sublist.refl [call]
  | abandoned error later world_eq life_eq made =>
      rw [made]
      exact List.Sublist.refl [call]
  | endless silent unbounded made =>
      rw [made]
      exact List.Sublist.refl [call]

theorem calls_call_then {call : Call} {next : Except ServiceError call.Reply → Program α}
    (rest : ∀ answer, (next answer).Asks Query.IsLocal) (machine : Machine σ) :
    calls ((Program.query (.call call) >>= next).progress backend trace machine).trail <+ [call] :=
  calls_bind backend trace (calls_call backend trace call machine) fun answer later =>
    calls_of_asks_isLocal backend trace (rest answer) later

/-- What finishes a placement calls at most two collaborators, each at most once and in order. -/
theorem finish_calls (saga : Saga) (request : OrderRequest) (order : Order) (machine : Machine σ) :
    calls ((saga.finish trace request order).progress backend trace machine).trail <+
      [.emptyCart request.userId, .sendConfirmation request.email order] := by
  have moved : ∀ (event : Event) (machine : Machine σ),
      calls ((Program.note event).progress backend trace machine).trail <+ [] :=
    fun event => calls_of_asks_isLocal backend trace (asks_note trivial)
  have reset : ∀ machine : Machine σ,
      calls ((Saga.resetCart request.userId).progress backend trace machine).trail <+
        [.emptyCart request.userId] := by
    refine calls_call_then backend trace fun answer => ?_
    cases answer with
    | ok reply => exact Program.asks_pure ()
    | error error => exact asks_note trivial
  have notified : ∀ machine : Machine σ,
      calls ((Saga.notify request.email order).progress backend trace machine).trail <+
        [.sendConfirmation request.email order] := by
    refine calls_call_then backend trace fun answer => ?_
    cases answer with
    | ok reply => exact asks_note trivial
    | error error => exact asks_note trivial
  have published : ∀ machine : Machine σ,
      calls ((saga.publish trace order).progress backend trace machine).trail <+ [] :=
    calls_of_asks_isLocal backend trace
      (publish_asks (fun _ isLocal _ => isLocal) saga trace order)
  exact calls_bind backend trace (moved _ machine) fun _ later =>
    calls_bind backend trace (reset later) fun _ later =>
      calls_bind backend trace (notified later) fun _ later =>
        calls_bind backend trace (published later) fun _ later => moved _ later

theorem mem_finish_calls {saga : Saga} {request : OrderRequest} {order : Order}
    {machine : Machine σ} {call : Call}
    (member : call ∈ calls ((saga.finish trace request order).progress backend trace
      machine).trail) : call.IsFinishing request order := by
  have finishing := (finish_calls backend trace saga request order machine).subset member
  simpa [Call.IsFinishing] using finishing

/-! ## The end of a placement -/

/-- If every flag returns, a run comes to its end, unless one of its calls is never answered on
behalf of a request that nothing ends. -/
theorem Program.run_cases {allowed : Query → Prop} {program : Program α}
    (asks : program.Asks allowed) (flagsReturn : backend.FlagsReturn) (machine : Machine σ) :
    (∃ value later trail, program.progress backend trace machine =
      ⟨trail, some (value, later)⟩) ∨
      ∃ (stuck : Machine σ) (call : Call) (trail : List Entry),
        allowed (.call call) ∧ (stuck.reaction backend trace call).IsSilent ∧
        machine.life = .unbounded ∧
        program.progress backend trace machine = ⟨trail ++ [⟨stuck.now, .called call⟩], none⟩ := by
  obtain ⟨value, later, trail, made, _⟩ |
      ⟨stuck, query, trail, rest, permitted, waits, made, bounded⟩ :=
    Program.asks_run backend trace lasting_unbounded
      (fun machine query answer later trail _ asked =>
        Machine.unbounded_of_progress backend trace asked)
      asks machine
  · exact Or.inl ⟨value, later, trail, made⟩
  · refine Or.inr ?_
    -- Only calls and flags can remain unanswered.
    cases query with
    | call call =>
        cases stuck.callCourse backend trace call with
        | endless silent unbounded called =>
            cases called.symm.trans waits
            exact ⟨stuck, call, trail, permitted, silent, bounded unbounded, made⟩
        | refused error ended called => cases called.symm.trans waits
        | answered answer length later took answer_eq now_eq life_eq called =>
            cases called.symm.trans waits
        | abandoned error later world_eq life_eq called => cases called.symm.trans waits
    | flag kind flag =>
        cases stuck.flagCourse backend trace kind flag with
        | answered answer length later took answer_eq now_eq life_eq asked =>
            cases asked.symm.trans waits
        | endless silent asked => exact absurd silent (flagsReturn _ kind flag _)
    | orderId => cases waits
    | span => cases waits
    | send envelope => cases waits
    | settle delivery limit => cases waits
    | note event => cases waits

theorem finish_cases (saga : Saga) (request : OrderRequest) (order : Order)
    (flagsReturn : backend.FlagsReturn) (machine : Machine σ) :
    (∃ later trail, (saga.finish trace request order).progress backend trace machine =
      ⟨trail, some ((), later)⟩) ∨
      ∃ (stuck : Machine σ) (call : Call) (trail : List Entry),
        call.IsFinishing request order ∧ (stuck.reaction backend trace call).IsSilent ∧
        machine.life = .unbounded ∧
        (saga.finish trace request order).progress backend trace machine =
          ⟨trail ++ [⟨stuck.now, .called call⟩], none⟩ := by
  obtain ⟨value, later, trail, made⟩ | stuck :=
    Program.run_cases backend trace (finish_asks saga trace request order) flagsReturn machine
  · exact Or.inl ⟨later, trail, made⟩
  · exact Or.inr stuck

/-! ## The whole placement -/

/-- A placement is the part of it that can be aborted, and then the part that finishes it. -/
theorem execute_eq (saga : Saga) (request : OrderRequest) :
    saga.execute trace request =
      saga.untilShipment request >>= fun order =>
        Attempt.perform (saga.finish trace request order) >>= fun _ => pure order := by
  unfold Saga.execute Saga.untilShipment
  simp only [bind_assoc, pure_bind]

def closing : Except CheckoutError Order → List Event
  | .ok order => [.placed order]
  | .error error => [.aborted error, .moved error.failedState .aborted]

/-- The whole placement makes the progress of its execution, between a first note and its last. -/
theorem place_progress (saga : Saga) (request : OrderRequest) {machine : Machine σ}
    {trail : List Entry} {reached : Option (Except CheckoutError Order × Machine σ)}
    (execution : Program.progress backend trace (saga.execute trace request).run machine =
      ⟨trail, reached⟩) :
    ∃ last, (saga.place trace request).progress backend trace machine =
        ⟨⟨machine.now, .noted .placing⟩ :: trail ++ last, reached⟩ ∧
      Shows last [] [] (reached.toList.flatMap fun (outcome, _) => closing outcome) := by
  have progress : (saga.place trace request).progress backend trace machine = _ :=
    Program.progress_bind backend trace (Program.note .placing) _ machine
  rw [Program.progress_note] at progress
  simp only [Progress.andThen] at progress
  rw [Program.progress_bind, show Program.progress backend trace (saga.execute trace request)
    machine = _ from execution] at progress
  cases reached with
  | none => exact ⟨[], by simpa [Progress.andThen] using progress, Shows.nil⟩
  | some pair =>
      obtain ⟨outcome, later⟩ := pair
      cases outcome with
      | ok order =>
          refine ⟨[⟨later.now, .noted (.placed order)⟩], ?_, rfl, rfl, rfl, rfl⟩
          exact progress
      | error error =>
          refine ⟨[⟨later.now, .noted (.aborted error)⟩,
            ⟨later.now, .noted (.moved error.failedState .aborted)⟩], ?_, rfl, rfl, rfl, rfl⟩
          exact progress

/-- A placement that halts before the cart is shipped ends there. -/
theorem place_of_halts {saga : Saga} {request : OrderRequest} {machine : Machine σ}
    {error? : Option CheckoutError} {trail : List Entry} {made : List Call} {heard : List Answered}
    {reported : List Event}
    (halts : (saga.untilShipment request).Halts backend trace machine error? trail)
    (shows : Shows trail made heard reported) :
    ∃ whole later, (saga.place trace request).progress backend trace machine =
        ⟨whole, error?.map fun error => (.error error, later)⟩ ∧
      Shows whole made heard
        (.placing :: reported ++ error?.toList.flatMap fun error => closing (.error error)) := by
  have execution : (saga.execute trace request).Halts backend trace machine error? trail := by
    rw [execute_eq]
    exact Attempt.halts_bind halts
  obtain ⟨later, progress⟩ := execution
  obtain ⟨last, whole, showsLast⟩ := place_progress backend trace saga request progress
  refine ⟨_, later, whole, ?_⟩
  have showsWhole := ((Shows.noted machine.now .placing).append shows).append showsLast
  cases error? with
  | none => simpa using showsWhole
  | some error => simpa using showsWhole

/-- The account of a whole placement in which a stretch that heard `heard` and noted `reported` was
followed by more, and by a last note unless that waits for ever. -/
structure FollowedBy {ρ : Type} (whole : List Entry) (heard : List Answered)
    (reported : List Event) (rest : Progress σ ρ) (last : Event) : Prop where
  calls_eq : calls whole = heard.map Answered.call ++ calls rest.trail
  answers_eq : answers whole = heard ++ answers rest.trail
  events_eq : events whole =
    reported ++ events rest.trail ++ rest.reached.toList.map fun _ => last
  sends_eq : sends whole = sends rest.trail

theorem FollowedBy.of_shows {ρ : Type} {before trail : List Entry} {heard : List Answered}
    {reported : List Event} {last : Event} (rest : Progress σ ρ)
    (shows : Shows before (heard.map Answered.call) heard reported)
    (showsLast : Shows trail [] [] (rest.reached.toList.map fun _ => last)) :
    FollowedBy (before ++ rest.trail ++ trail) heard reported rest last where
  calls_eq := by simp [shows.calls_eq, showsLast.calls_eq]
  answers_eq := by simp [shows.answers_eq, showsLast.answers_eq]
  events_eq := by simp [shows.events_eq, showsLast.events_eq]
  sends_eq := by simp [shows.sends_eq, showsLast.sends_eq]

/-- A placement whose cart is shipped goes on with what finishes it, and comes to its order if that
comes to its end. -/
theorem place_of_hears {saga : Saga} {request : OrderRequest} {machine later : Machine σ}
    {order : Order} {heard : List Answered} {reported : List Event}
    (hears : (saga.untilShipment request).Hears backend trace machine order later heard reported) :
    ∃ whole, (saga.place trace request).progress backend trace machine =
        ⟨whole, ((saga.finish trace request order).progress backend trace later).reached.map
          fun (_, machine) => (.ok order, machine)⟩ ∧
      FollowedBy whole heard (.placing :: reported)
        ((saga.finish trace request order).progress backend trace later) (.placed order) := by
  obtain ⟨trail, succeeds, shows⟩ := hears
  let finished := (saga.finish trace request order).progress backend trace later
  have execution : Program.progress backend trace (saga.execute trace request).run machine =
      ⟨trail ++ finished.trail, finished.reached.map fun (_, machine) => (.ok order, machine)⟩ := by
    rw [execute_eq, Attempt.progress_bind_of_succeeds succeeds, Attempt.progress_perform_pure]
    rfl
  obtain ⟨last, whole, showsLast⟩ := place_progress backend trace saga request execution
  have showsFirst := (Shows.noted machine.now .placing).append shows
  have showsEnd : Shows last [] [] (finished.reached.toList.map fun _ => .placed order) := by
    cases reached : finished.reached with
    | none => simpa [reached] using showsLast
    | some pair => simpa [reached, closing] using showsLast
  refine ⟨_, whole, ?_⟩
  simpa [finished] using FollowedBy.of_shows finished showsFirst showsEnd

end Runs

end Checkout

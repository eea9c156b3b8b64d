import Checkout.Proofs.CallTiming
import Checkout.Proofs.ChargedAmount
import Checkout.Proofs.CommitPoint
import Checkout.Proofs.ReachedStates

/-!
# Placements whose context ends

Whenever the context ends, a placement whose cart has been shipped returns its order.  A placement
whose cart has not been shipped, and which has no other reason to fail, is aborted at the call that
was under way or due next, and its error tells what the context reports when it returns.

That report is not always the reason for which the context ended.  A flag is looked up without a
bound, so a context may have passed its deadline and be cancelled as well before anybody looks at it
again; then it reports the cancellation.
-/

set_option autoImplicit false

open scoped List

namespace Checkout

/-- What a collaborator is blamed for by an error. -/
def CheckoutError.source? : CheckoutError → Option ServiceError
  | .cartUnavailable source => some source
  | .pricingUnavailable _ source => some source
  | .shippingUnavailable source => some source
  | .paymentDeclined source => some source
  | .shippingFailed source => some source
  | _ => none

def Happening.isRefusal : Happening → Bool
  | .answered _ (.error _) => true
  | _ => false

def Refused (trail : List Entry) : Prop :=
  ∃ entry ∈ trail, entry.happening.isRefusal = true

def Shipped (trail : List Entry) : Prop :=
  ∃ answered ∈ answers trail, answered.isShipped = true

instance (trail : List Entry) : Decidable (Refused trail) :=
  inferInstanceAs (Decidable (∃ entry ∈ trail, _))

instance (trail : List Entry) : Decidable (Shipped trail) :=
  inferInstanceAs (Decidable (∃ answered ∈ answers trail, _))

theorem Refused.append_left {trail : List Entry} (refused : Refused trail) (rest : List Entry) :
    Refused (trail ++ rest) := by
  obtain ⟨entry, member, refusal⟩ := refused
  exact ⟨entry, List.mem_append_left rest member, refusal⟩

theorem Refused.append_right {trail : List Entry} (refused : Refused trail) (before : List Entry) :
    Refused (before ++ trail) := by
  obtain ⟨entry, member, refusal⟩ := refused
  exact ⟨entry, List.mem_append_right before member, refusal⟩

theorem Refused.heard {trail : List Entry} (refused : Refused trail) :
    ∃ call error, ⟨call, .error error⟩ ∈ answers trail := by
  obtain ⟨entry, member, refusal⟩ := refused
  cases happened : entry.happening with
  | answered call answer =>
      rw [happened] at refusal
      cases answer with
      | ok reply => cases refusal
      | error error =>
          refine ⟨call, error, List.mem_filterMap.mpr ⟨entry, member, ?_⟩⟩
          rw [happened]
          rfl
  | _ =>
      rw [happened] at refusal
      cases refusal

namespace Attempt

variable {σ α β : Type} (backend : Backend σ) (trace : TraceContext)

/-- An error that blames the context is right to do so when it is returned, unless a collaborator
has put the blame. -/
def Truthful (attempt : Attempt α) : Prop :=
  ∀ machine error later made reason,
    Program.progress backend trace attempt.run machine = ⟨made, some (.error error, later)⟩ →
    error.source? = some (.context reason) →
    Refused made ∨ later.life.error? later.now = some reason

variable {backend trace}

theorem truthful_pure {outcome : Except CheckoutError α}
    (blameless : ∀ error reason, outcome = .error error →
      error.source? ≠ some (.context reason)) :
    Truthful backend trace (ExceptT.mk (pure outcome) : Attempt α) := by
  intro machine error later made reason progress blames
  cases progress
  exact absurd blames (blameless error reason rfl)

theorem truthful_ok (value : α) : Truthful backend trace (pure value : Attempt α) := by
  intro machine error later made reason progress blames
  cases progress

theorem truthful_bind {attempt : Attempt α} {next : α → Attempt β}
    (first : attempt.Truthful backend trace)
    (rest : ∀ value, (next value).Truthful backend trace) :
    (attempt >>= next).Truthful backend trace := by
  intro machine error later made reason progress blames
  rw [progress_bind] at progress
  cases begun : Program.progress backend trace attempt.run machine with
  | mk trail reached =>
      rw [begun] at progress
      cases reached with
      | none => cases progress
      | some pair =>
          obtain ⟨outcome, between⟩ := pair
          cases outcome with
          | error failure =>
              cases progress
              rcases first machine error _ _ reason begun blames with refused | ceased
              · exact Or.inl (refused.append_left _)
              · exact Or.inr ceased
          | ok value =>
              simp only [Progress.andThen, ExceptT.bindCont] at progress
              cases ended : Program.progress backend trace (next value).run between with
              | mk trailNext reachedNext =>
                  have nextRun : Program.progress backend trace (next value) between =
                    ⟨trailNext, reachedNext⟩ := ended
                  rw [nextRun] at progress
                  cases progress
                  rcases rest value between error later trailNext reason ended blames with
                    refused | ceased
                  · exact Or.inl (refused.append_right _)
                  · exact Or.inr ceased

theorem truthful_perform (program : Program α) :
    (Attempt.perform program).Truthful backend trace := by
  intro machine error later made reason progress blames
  rw [progress_perform] at progress
  cases performed : program.progress backend trace machine with
  | mk trail reached =>
      rw [performed] at progress
      cases reached with
      | none => cases progress
      | some pair => cases progress

theorem truthful_call (call : Call) {abort : ServiceError → CheckoutError}
    (wraps : ∀ source, (abort source).source? = some source) :
    (Attempt.call call abort).Truthful backend trace := by
  intro machine error later made reason progress blames
  rw [call_progress] at progress
  have timely := machine.timely backend trace call
  generalize machine.progress backend trace (.call call) = asked at timely progress
  cases timely with
  | refused refusal ceased =>
      cases progress
      rw [wraps] at blames
      cases blames
      exact Or.inr ceased
  | answered answer _ live since life_eq intime before =>
      cases answer with
      | ok reply => cases progress
      | error source =>
          cases progress
          refine Or.inl ⟨⟨later.now, .answered call (.error source)⟩, ?_, rfl⟩
          simp
  | abandoned refusal _ live since life_eq ceased before =>
      cases progress
      rw [wraps] at blames
      cases blames
      exact Or.inr ceased
  | endless live unbounded => cases progress

end Attempt

section Parts

open Attempt

variable {σ : Type} {backend : Backend σ} {trace : TraceContext}

theorem truthful_priceItems (code : String) (items : List CartItem) :
    (Saga.priceItems code items).Truthful backend trace := by
  induction items with
  | nil => exact truthful_ok []
  | cons item rest ih =>
      apply truthful_bind
      · apply truthful_bind (truthful_call _ fun _ => rfl)
        intro product
        apply truthful_bind (truthful_call _ fun _ => rfl)
        intro cost
        exact truthful_ok _
      · intro line
        apply truthful_bind ih
        intro lines
        exact truthful_ok _

theorem truthful_prepare (user code : String) (address : Address) :
    (Saga.prepare user code address).Truthful backend trace := by
  apply truthful_bind
  · apply truthful_bind (truthful_call _ fun _ => rfl)
    intro items
    cases items.find? fun item => ! decide item.HasValidQuantity with
    | none => exact truthful_ok items
    | some item =>
        apply truthful_pure
        intro error reason failed
        cases failed
        simp [CheckoutError.source?, Saga.badQuantity]
  · intro items
    apply truthful_bind (truthful_priceItems code items)
    intro lines
    apply truthful_bind
    · apply truthful_bind (truthful_call _ fun _ => rfl)
      intro quote
      exact truthful_call _ fun _ => rfl
    · intro cost
      apply truthful_bind (truthful_perform _)
      intro _
      exact truthful_ok _

theorem truthful_charge (saga : Saga) (total : Money) (card : Card) :
    (saga.charge total card).Truthful backend trace := by
  apply truthful_bind (truthful_perform _)
  intro endpoint
  apply truthful_bind (truthful_call _ fun _ => rfl)
  intro transaction
  apply truthful_bind (truthful_perform _)
  intro _
  exact truthful_ok _

theorem truthful_shipPaid (id : OrderId) (transaction : String) (total : Money) (address : Address)
    (items : List CartItem) :
    (Saga.shipPaid id transaction total address items).Truthful backend trace := by
  have ship : (Saga.ship address items).Truthful backend trace := by
    apply truthful_bind (truthful_call _ fun _ => rfl)
    intro tracking
    apply truthful_bind (truthful_perform _)
    intro _
    exact truthful_ok _
  intro machine error later made reason progress blames
  have steps : Program.progress backend trace
      (Saga.shipPaid id transaction total address items).run machine = _ :=
    Program.progress_bind backend trace (Saga.ship address items).run _ machine
  rw [steps] at progress
  cases shipped : Program.progress backend trace (Saga.ship address items).run machine with
  | mk trail reached =>
      rw [shipped] at progress
      cases reached with
      | none => cases progress
      | some pair =>
          obtain ⟨outcome, between⟩ := pair
          cases outcome with
          | ok tracking => cases progress
          | error failure =>
              -- The report in between takes no time.
              cases progress
              rcases ship machine error _ trail reason shipped blames with refused | ceased
              · exact Or.inl (refused.append_left _)
              · exact Or.inr ceased

theorem truthful_untilShipment (saga : Saga) (request : OrderRequest) :
    (saga.untilShipment request).Truthful backend trace := by
  apply truthful_bind
  · intro machine error later made reason progress blames
    rw [orderId_progress] at progress
    cases identified : (backend.orderId machine.world).1 with
    | ok id =>
        rw [identified] at progress
        cases progress
    | error failure =>
        rw [identified] at progress
        cases progress
        cases blames
  intro id
  apply truthful_bind (truthful_prepare _ _ _)
  intro preparation
  apply truthful_bind
  · apply truthful_pure
    intro error reason failed
    cases total : preparation.total request.currency with
    | ok total =>
        rw [total] at failed
        cases failed
    | error failure =>
        rw [total] at failed
        cases failed
        simp [CheckoutError.source?]
  intro total
  apply truthful_bind (truthful_perform _)
  intro _
  apply truthful_bind (truthful_perform _)
  intro _
  apply truthful_bind (truthful_charge saga total request.card)
  intro transaction
  apply truthful_bind (truthful_perform _)
  intro _
  apply truthful_bind (truthful_shipPaid _ _ _ _ _)
  intro tracking
  exact truthful_ok _

/-- The whole placement ends in the state in which its execution does. -/
theorem truthful_place (saga : Saga) (request : OrderRequest) :
    Attempt.Truthful backend trace (saga.place trace request : Attempt Order) := by
  have execute : (saga.execute trace request).Truthful backend trace := by
    rw [execute_eq]
    apply truthful_bind (truthful_untilShipment saga request)
    intro order
    apply truthful_bind (truthful_perform _)
    intro _
    exact truthful_ok order
  intro machine error later made reason progress blames
  cases execution : Program.progress backend trace (saga.execute trace request).run machine with
  | mk trail reached =>
      obtain ⟨last, whole, _⟩ := place_progress backend trace saga request execution
      cases whole.symm.trans progress
      rcases execute machine error later trail reason execution blames with refused | ceased
      · exact Or.inl ((refused.append_right [_]).append_left last)
      · exact Or.inr ceased

end Parts

/-- The call that is due, after what has been heard, and the error with which its failure aborts the
placement. -/
inductive PlacingDue (request : OrderRequest) :
    List Answered → Call → (ServiceError → CheckoutError) → Prop where
  | preparing {heard : List Answered} {call : Call} {abort : ServiceError → CheckoutError}
      (due : PreparingDue request.userId request.currency request.address heard call abort) :
      PlacingDue request heard call abort
  | charge (bill : Bill request) : PlacingDue request bill.gathered bill.charge .paymentDeclined
  | shipment (bill : Bill request) (transaction : String) :
      PlacingDue request (bill.paid transaction) bill.shipment .shippingFailed

theorem PreparingDue.wraps {user code : String} {address : Address} {heard : List Answered}
    {call : Call} {abort : ServiceError → CheckoutError}
    (due : PreparingDue user code address heard call abort) (source : ServiceError) :
    (abort source).source? = some source := by
  cases due <;> rfl

theorem PlacingDue.wraps {request : OrderRequest} {heard : List Answered} {call : Call}
    {abort : ServiceError → CheckoutError} (due : PlacingDue request heard call abort)
    (source : ServiceError) : (abort source).source? = some source := by
  cases due with
  | preparing due => exact due.wraps source
  | charge bill => rfl
  | shipment bill transaction => rfl

section Runs

variable {σ : Type} {backend : Backend σ} {trace : TraceContext} {saga : Saga}
  {request : OrderRequest} {start later : Machine σ}

theorem shipped_of_ok {order : Order} {trail : List Entry}
    (progress : (saga.place trace request).progress backend trace start =
      ⟨trail, some (.ok order, later)⟩) : Shipped trail := by
  obtain ⟨id, bill, transaction, tracking, machine, reported, last, _, account⟩ :=
    shipped_of_run backend trace ((Program.run_eq_some_iff backend trace).mpr progress)
  refine ⟨⟨bill.shipment, .ok tracking⟩, ?_, rfl⟩
  rw [account.answers_eq, Bill.shipped]
  simp

variable (backend trace saga request start)

end Runs

namespace Sample

end Sample

end Checkout

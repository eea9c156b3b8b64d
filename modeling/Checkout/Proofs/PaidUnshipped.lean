import Checkout.Http.Error
import Checkout.Proofs.Bookkeeping
import Checkout.Saga.Metrics

/-!
# Charges without an order

A placement can fail although the card has been charged, and that in two ways.  Either the payment
service has replied that the card is charged, and the cart is not shipped: this is reported as paid
and unshipped.  Or the placement has heard no such reply before the request was over, and takes the
charge for declined, whatever the payment service has on record.
-/

set_option autoImplicit false

namespace Checkout

def Event.isPaidUnshipped : Event → Bool
  | .paidUnshipped .. => true
  | _ => false

theorem Metrics.paidUnshipped_countAll (metrics : Metrics) (reported : List Event) :
    (metrics.countAll reported).placements.paidUnshipped =
      metrics.placements.paidUnshipped + reported.countP Event.isPaidUnshipped := by
  induction reported generalizing metrics with
  | nil => rfl
  | cons event rest ih =>
      have step : (metrics.count event).placements.paidUnshipped =
          metrics.placements.paidUnshipped + if event.isPaidUnshipped then 1 else 0 := by
        cases event with
        | aborted error => cases error <;> rfl
        | _ => rfl
      have counted := ih (metrics.count event)
      rw [step] at counted
      rw [List.countP_cons]
      change ((metrics.count event).countAll rest).placements.paidUnshipped = _
      rw [counted]
      omega

/-- While the endpoint is chosen, nothing is reported as paid. -/
theorem Diversion.countP_isPaidUnshipped {endpoint : Endpoint} {reported : List Event}
    (diverted : Diversion endpoint reported) : reported.countP Event.isPaidUnshipped = 0 := by
  cases diverted with
  | primary report =>
      rcases report with rfl | ⟨error, rfl⟩
      · rfl
      · rfl
  | unreachable => rfl

theorem Bill.countP_charging {request : OrderRequest} (bill : Bill request) :
    bill.charging.countP Event.isPaidUnshipped = 0 := by
  rw [Bill.charging, List.countP_append, bill.diverted.countP_isPaidUnshipped]
  rfl

theorem Bill.countP_shipping {request : OrderRequest} (bill : Bill request) (transaction : String) :
    (bill.shipping transaction).countP Event.isPaidUnshipped = 0 := by
  rw [Bill.shipping, List.countP_append, bill.countP_charging]
  rfl

section Runs

variable {σ ρ : Type} {backend : Backend σ} {trace : TraceContext}

/-- If a run fails and leaves more on record than it found, then either the payment service has
replied in time that the card is charged, and the failure is reported as one after the payment,
once; or the charge has failed or was cut off, and the placement counts it as declined. -/
theorem recorded_charge_cases (payments : PaymentRecord backend ρ) (saga : Saga)
    (request : OrderRequest) (start later : Machine σ) (error : CheckoutError) (trail : List Entry)
    (metrics : Metrics)
    (ran : (saga.place trace request).run backend trace start = some ⟨.error error, later, trail⟩)
    (recorded : payments.record later.world ≠ payments.record start.world) :
    ∃ endpoint total,
      (∃ transaction, ⟨.charge endpoint total request.card, .ok transaction⟩ ∈ answers trail ∧
        error.isPostPayment = true ∧ (Http.ApiError.checkout error).status = 503 ∧
        (metrics.countAll (events trail)).placements.paidUnshipped =
          metrics.placements.paidUnshipped + 1) ∨
      ∃ source, ⟨.charge endpoint total request.card, .error source⟩ ∈ answers trail ∧
        error = .paymentDeclined source ∧
        error.isPostPayment = false ∧ (Http.ApiError.checkout error).status = 500 ∧
        (metrics.countAll (events trail)).placements.paidUnshipped =
          metrics.placements.paidUnshipped := by
  rw [Program.run_eq_some_iff] at ran
  have charged : ¬ ∀ call ∈ calls trail, call.isCharge = false :=
    fun free => recorded (payments.kept_by_run trace ran free)
  cases paymentCourse backend trace saga request start with
  | uncharged error? progress preparatory =>
      have trail_eq := congrArg Progress.trail (progress.symm.trans ran)
      subst trail_eq
      exact absurd (fun call member => Call.isCharge_of_isPreparatory (preparatory call member))
        charged
  | unpaid bill last setback progress shows =>
      have same := progress.symm.trans ran
      cases setback with
      | refused refusal =>
          cases same
          rw [shows.calls_eq, List.append_nil] at charged
          exact absurd (fun call member => Call.isCharge_of_isPreparatory
            ((bill.gathering.preparatory _ _ _).calls call member)) charged
      | failed source =>
          cases same
          refine ⟨bill.endpoint, bill.total, Or.inr ⟨source, ?_, rfl, rfl, rfl, ?_⟩⟩
          · rw [shows.answers_eq]
            exact List.mem_append_right _ (List.mem_singleton.mpr rfl)
          · rw [Metrics.paidUnshipped_countAll, shows.events_eq, List.cons_append,
              List.countP_cons, List.countP_append, bill.countP_charging]
            rfl
      | endless => cases same
  | unshipped id bill transaction last setback progress shows =>
      have same := progress.symm.trans ran
      have trail_eq := congrArg Progress.trail same
      subst trail_eq
      obtain ⟨source, failed, pair_eq⟩ := Option.map_eq_some_iff.mp (congrArg Progress.reached same)
      subst failed
      cases pair_eq
      refine ⟨bill.endpoint, bill.total, Or.inl ⟨transaction, ?_, rfl, rfl, ?_⟩⟩
      · rw [shows.answers_eq, Bill.paid]
        exact List.mem_append_left _ (List.mem_append_right _ (List.mem_singleton.mpr rfl))
      · rw [Metrics.paidUnshipped_countAll, shows.events_eq, List.cons_append, List.countP_cons,
          List.countP_append, bill.countP_shipping]
        rfl
  | shipped id identified bill transaction tracking bounded finished_eq progress account =>
      have reached := congrArg Progress.reached (progress.symm.trans ran)
      obtain ⟨pair, _, impossible⟩ := Option.map_eq_some_iff.mp reached
      cases impossible

end Runs

/-- A charge that was replied to, in a placement whose cart was not shipped. -/
theorem recorded_charge_cases_of_lost_parcel :
    ∃ later error trail,
      (Sample.saga.place Sample.trace Sample.request).run
          (bookkeeping Sample.price Sample.cart 0 false) Sample.trace Sample.start =
        some ⟨.error error, later, trail⟩ ∧
      later.world ≠ Sample.start.world ∧
      ∃ endpoint total,
        (∃ transaction, ⟨.charge endpoint total Sample.request.card, .ok transaction⟩ ∈
            answers trail ∧
          error.isPostPayment = true ∧ (Http.ApiError.checkout error).status = 503 ∧
          (Metrics.zero.countAll (events trail)).placements.paidUnshipped =
            Metrics.zero.placements.paidUnshipped + 1) ∨
        ∃ source, ⟨.charge endpoint total Sample.request.card, .error source⟩ ∈ answers trail ∧
          error = .paymentDeclined source ∧
          error.isPostPayment = false ∧ (Http.ApiError.checkout error).status = 500 ∧
          (Metrics.zero.countAll (events trail)).placements.paidUnshipped =
            Metrics.zero.placements.paidUnshipped :=
  ⟨_, _, _, rfl, by decide,
    recorded_charge_cases (bookkeeping.book Sample.price Sample.cart 0 false) Sample.saga
      Sample.request Sample.start _ _ _ Metrics.zero rfl (by decide)⟩

/-- The payment service replies after 50 milliseconds, and the request has 31: the charge is on
record, and the failure does not tell. -/
theorem recorded_charge_unreported :
    ¬ ∀ (σ ρ : Type) (backend : Backend σ) (payments : PaymentRecord backend ρ)
        (trace : TraceContext) (saga : Saga) (request : OrderRequest) (start later : Machine σ)
        (error : CheckoutError) (trail : List Entry) (metrics : Metrics),
      (saga.place trace request).run backend trace start = some ⟨.error error, later, trail⟩ →
      payments.record later.world ≠ payments.record start.world →
      error.isPostPayment = true ∧ (Http.ApiError.checkout error).status = 503 ∧
        (metrics.countAll (events trail)).placements.paidUnshipped =
          metrics.placements.paidUnshipped + 1 := by
  intro claimed
  have reported := claimed _ _ _ (bookkeeping.book Sample.price Sample.cart 50 true) Sample.trace
    Sample.saga Sample.request Sample.start _ _ _ Metrics.zero rfl (by decide)
  exact absurd reported.1 (by decide)

end Checkout

import Checkout.Proofs.Bookkeeping
import Checkout.Proofs.Totals

/-!
# The amount that is charged

A charge is for the exact sum of the shipping and of all lines of the cart, as they were found in
the same run, and all of that is of the currency of the request.  The order that is returned has the
lines of the cart, and its amounts add up to what was charged.
-/

set_option autoImplicit false

open scoped List

namespace Checkout

theorem Bill.exact {request : OrderRequest} (bill : Bill request) :
    ExactTotal request.currency bill.gathering.shippingCost
      (bill.gathering.lines.map PricedLine.orderItem) bill.total :=
  Preparation.of_total bill.total_eq

section Runs

variable {σ : Type} (backend : Backend σ) (trace : TraceContext)

/-- The calls of a placement that ships its cart, apart from those that prepare it. -/
theorem mem_calls_of_shipped {saga : Saga} {request : OrderRequest} {order : Order}
    {machine : Machine σ} {bill : Bill request} {transaction tracking : String}
    {whole : List Entry} {reported : List Event} {last : Event} {call : Call}
    (account : FollowedBy whole (bill.shipped transaction tracking) reported
      ((saga.finish trace request order).progress backend trace machine) last)
    (member : call ∈ calls whole) (late : call.isPreparatory = false) :
    call = bill.charge ∨ call = bill.shipment ∨ call.IsFinishing request order := by
  rw [account.calls_eq, Bill.shipped, Bill.paid, List.map_append, List.map_append,
    List.append_assoc, List.append_assoc] at member
  have after := (bill.gathering.preparatory _ _ _).mem_after member late
  rcases List.mem_append.mp after with charge | after
  · exact Or.inl (List.mem_singleton.mp charge)
  · rcases List.mem_append.mp after with shipment | finishing
    · exact Or.inr (Or.inl (List.mem_singleton.mp shipment))
    · exact Or.inr (Or.inr (mem_finish_calls backend trace finishing))

/-- The only charge of a placement that ships its cart is the one on the bill. -/
theorem charge_of_shipped {saga : Saga} {request : OrderRequest} {order : Order}
    {machine : Machine σ} {bill : Bill request} {transaction tracking : String}
    {whole : List Entry} {reported : List Event} {last : Event}
    {endpoint : Endpoint} {total : Money} {card : Card}
    (account : FollowedBy whole (bill.shipped transaction tracking) reported
      ((saga.finish trace request order).progress backend trace machine) last)
    (member : Call.charge endpoint total card ∈ calls whole) :
    Call.charge endpoint total card = bill.charge := by
  rcases mem_calls_of_shipped backend trace account member rfl with
    charge | shipment | reset | confirmation
  · exact charge
  · cases shipment
  · cases reset
  · cases confirmation

/-- Whoever is asked for money is asked for the total of a bill, and on the bill stands what was
heard before. -/
theorem charge_on_bill {saga : Saga} {request : OrderRequest} {start : Machine σ}
    {endpoint : Endpoint} {total : Money} {card : Card}
    (member : Call.charge endpoint total card ∈
      calls ((saga.place trace request).progress backend trace start).trail) :
    ∃ bill : Bill request, Call.charge endpoint total card = bill.charge ∧
      bill.gathered <+:
        answers ((saga.place trace request).progress backend trace start).trail := by
  cases paymentCourse backend trace saga request start with
  | uncharged error? progress preparatory =>
      rw [progress] at member
      have impossible := preparatory _ member
      cases impossible
  | unpaid bill later setback progress shows =>
      rw [progress] at member ⊢
      rw [shows.calls_eq] at member
      rw [shows.answers_eq]
      have there := (bill.gathering.preparatory _ _ _).mem_after member rfl
      exact ⟨bill, setback.mem_made there, List.prefix_append _ _⟩
  | unshipped id bill transaction later setback progress shows =>
      rw [progress] at member ⊢
      rw [shows.calls_eq, Bill.paid, List.map_append, List.append_assoc] at member
      rw [shows.answers_eq, Bill.paid, List.append_assoc]
      refine ⟨bill, ?_, List.prefix_append _ _⟩
      have there := (bill.gathering.preparatory _ _ _).mem_after member rfl
      rcases List.mem_append.mp there with charge | shipment
      · exact List.mem_singleton.mp charge
      · cases setback.mem_made shipment
  | shipped id identified bill transaction tracking bounded finished_eq progress account =>
      rw [progress] at member ⊢
      rw [← finished_eq] at account
      refine ⟨bill, ?_, ?_⟩
      · exact charge_of_shipped backend trace account member
      · exact account.gathered_prefix

/-- A run that returns an order has charged a bill and shipped what is on it. -/
theorem shipped_of_run {saga : Saga} {request : OrderRequest} {start later : Machine σ}
    {order : Order} {trail : List Entry}
    (ran : (saga.place trace request).run backend trace start = some ⟨.ok order, later, trail⟩) :
    ∃ (id : OrderId) (bill : Bill request) (transaction tracking : String) (shipped : Machine σ)
      (reported : List Event) (last : Event), order = bill.order id tracking ∧
      FollowedBy trail (bill.shipped transaction tracking) reported
        ((saga.finish trace request order).progress backend trace shipped) last := by
  rw [Program.run_eq_some_iff] at ran
  have no_error : ∀ {ε : Type} {error? : Option ε} {failed : ε → CheckoutError}
      {machine : Machine σ},
      error?.map (fun error => ((.error (failed error) : Except CheckoutError Order), machine)) =
        some (.ok order, later) → False := by
    intro ε error? failed machine reached
    obtain ⟨error, _, impossible⟩ := Option.map_eq_some_iff.mp reached
    cases impossible
  cases paymentCourse backend trace saga request start with
  | uncharged error? progress preparatory =>
      have reached := congrArg Progress.reached (progress.symm.trans ran)
      exact False.elim (no_error reached)
  | unpaid bill later setback progress shows =>
      have reached := congrArg Progress.reached (progress.symm.trans ran)
      exact False.elim (no_error reached)
  | unshipped id bill transaction later setback progress shows =>
      have reached := congrArg Progress.reached (progress.symm.trans ran)
      exact False.elim (no_error reached)
  | @shipped id identified bill transaction tracking whole finished shipped bounded finished_eq
      progress account =>
      rw [← finished_eq] at account
      have same := progress.symm.trans ran
      cases finishes : finished.reached with
      | none =>
          rw [finishes] at same
          cases same
      | some pair =>
          rw [finishes] at same
          cases same
          exact ⟨id, bill, transaction, tracking, shipped, _, _, rfl, account⟩

/-- Whatever is charged is the exact total of what was heard before, in the currency of the request;
and the amounts on an order that is returned add up to what was charged. -/
theorem charge_exact (saga : Saga) (request : OrderRequest) (start : Machine σ) :
    (∀ endpoint total card,
      Call.charge endpoint total card ∈
        calls ((saga.place trace request).progress backend trace start).trail →
      ∃ gathering : Gathering, card = request.card ∧
        gathering.heard request.userId request.currency request.address <+:
          answers ((saga.place trace request).progress backend trace start).trail ∧
        ExactTotal request.currency gathering.shippingCost
          (gathering.lines.map PricedLine.orderItem) total) ∧
    ∀ order later trail,
      (saga.place trace request).run backend trace start = some ⟨.ok order, later, trail⟩ →
      ∃ gathering : Gathering,
        gathering.heard request.userId request.currency request.address <+: answers trail ∧
        order.items.map OrderItem.item = gathering.items ∧
        order.shippingAddress = request.address ∧
        ⟨.shipOrder request.address gathering.items, .ok order.trackingId⟩ ∈ answers trail ∧
        (∀ address items, Call.shipOrder address items ∈ calls trail →
          address = request.address ∧ items = gathering.items) ∧
        (∃ endpoint total transaction,
          ⟨.charge endpoint total request.card, .ok transaction⟩ ∈ answers trail) ∧
        ∀ endpoint total card, Call.charge endpoint total card ∈ calls trail →
          ExactTotal request.currency order.shippingCost order.items total := by
  refine ⟨?_, ?_⟩
  · intro endpoint total card member
    obtain ⟨bill, charge_eq, heard⟩ := charge_on_bill backend trace member
    cases charge_eq
    exact ⟨bill.gathering, rfl, heard, bill.exact⟩
  · intro order later trail ran
    obtain ⟨id, bill, transaction, tracking, shipped, reported, last, order_eq, account⟩ :=
      shipped_of_run backend trace ran
    have answers_eq := account.answers_eq
    rw [Bill.shipped, Bill.paid, List.append_assoc, List.append_assoc] at answers_eq
    refine ⟨bill.gathering, ?_, ?_, ?_, ?_, ?_, ⟨bill.endpoint, bill.total, transaction, ?_⟩, ?_⟩
    · exact account.gathered_prefix
    · rw [order_eq]
      simp [Bill.order, Gathering.preparation, Gathering.items, PricedLine.orderItem]
    · rw [order_eq]
      rfl
    · rw [answers_eq, order_eq]
      simp [Bill.order, Bill.shipment]
    · intro address items member
      rcases mem_calls_of_shipped backend trace account member rfl with
        charge | shipment | reset | confirmation
      · cases charge
      · cases shipment
        exact ⟨rfl, rfl⟩
      · cases reset
      · cases confirmation
    · rw [answers_eq]
      simp [Bill.charge]
    · intro endpoint total card member
      cases charge_of_shipped backend trace account member
      rw [order_eq]
      exact bill.exact

end Runs

/-- Two lamps and their shipping are charged as three dollars, which the order adds up to. -/
theorem charge_exact_of_lamps :
    ∃ order later trail total,
      (Sample.saga.place Sample.trace Sample.request).run
          (bookkeeping Sample.price Sample.cart 0 true) Sample.trace Sample.start =
        some ⟨.ok order, later, trail⟩ ∧
      Call.charge .primary total Sample.request.card ∈ calls trail ∧
      total.amount = 3000000000 ∧ ExactTotal "USD" order.shippingCost order.items total := by
  refine ⟨_, _, _, _, rfl, List.mem_of_getElem? (rfl : _[5]? = _), rfl, ?_⟩
  obtain ⟨_, _, _, _, _, _, _, exact_total⟩ :=
    (charge_exact (bookkeeping Sample.price Sample.cart 0 true) Sample.trace Sample.saga
      Sample.request Sample.start).2 _ _ _ rfl
  exact exact_total .primary _ Sample.request.card (List.mem_of_getElem? (rfl : _[5]? = _))

end Checkout

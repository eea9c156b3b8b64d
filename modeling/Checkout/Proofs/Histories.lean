import Checkout.Proofs.ChargedAmount
import Checkout.Proofs.Ledgers
import Checkout.Proofs.ReachedStates

/-!
# Histories of a shop

One service places orders over services in memory, which are changed in between as one likes.  Its
counters and the ledgers of the services are kept by different parties, and they balance at the end
of every history.  The invariant is carried from one deed to the next: a change leaves the ledgers
and the counters alone, and a placement adds to both in one of three ways.
-/

set_option autoImplicit false

namespace Checkout

/-! ## What a placement hears of money and parcels -/

theorem Preparatory.unentered {heard : List Answered} (preparatory : Preparatory heard) :
    Unentered heard := by
  apply Unentered.of_forall
  all_goals
    intro answered member
    have early := preparatory answered member
    obtain ⟨call, answer⟩ := answered
    cases call with
    | charge endpoint total card => cases early
    | shipOrder address items => cases early
    | _ => simp [Answered.charge?, Answered.parcel?]

theorem Setback.unentered {call : Call} {error? : Option ServiceError} {made : List Call}
    {heard : List Answered} (setback : Setback call error? made heard) : Unentered heard := by
  cases setback with
  | refused error => exact .nil
  | failed error => exact .failure call error
  | endless => exact .nil

theorem finish_unentered {σ : Type} (backend : Backend σ) (trace : TraceContext) (saga : Saga)
    (request : OrderRequest) (order : Order) (machine : Machine σ) :
    Unentered (answers ((saga.finish trace request order).progress backend trace machine).trail) := by
  have matched := (saga.finish trace request order).matched backend trace machine
  apply Unentered.of_forall
  all_goals
    intro answered member
    have finishing := mem_finish_calls backend trace (matched answered member)
    obtain ⟨call, answer⟩ := answered
    rcases finishing with reset | confirmation
    · cases reset
      simp [Answered.charge?, Answered.parcel?]
    · cases confirmation
      simp [Answered.charge?, Answered.parcel?]

namespace Bill

variable {request : OrderRequest} (bill : Bill request)

/-- What the charge of the bill leaves with an endpoint. -/
def receipt (transaction : String) (endpoint : Endpoint) : List (String × Money) :=
  if bill.endpoint = endpoint then [(transaction, bill.total)] else []

theorem charges_paid (transaction : String) (endpoint : Endpoint) :
    charges endpoint (bill.paid transaction) = bill.receipt transaction endpoint := by
  have unentered : Unentered bill.gathered := (bill.gathering.preparatory _ _ _).unentered
  rw [paid, unentered.charges_append_left]
  exact charges_charge endpoint bill.endpoint bill.total request.card (.ok transaction)

theorem parcels_paid (transaction : String) : parcels (bill.paid transaction) = [] := by
  have unentered : Unentered bill.gathered := (bill.gathering.preparatory _ _ _).unentered
  rw [paid, unentered.parcels_append_left]
  rfl

end Bill

/-- What was heard of money and parcels in a placement with this outcome. -/
inductive Receipts (request : OrderRequest) (heard : List Answered) :
    Except CheckoutError Order → Prop where
  | none (error : CheckoutError) (early : error.failedState ≠ .shipping)
      (unlost : isLost heard = false) (unentered : Unentered heard) :
      Receipts request heard (.error error)
  | payment (error : ServiceError) (bill : Bill request) (transaction : String)
      (lost : isLost heard = true)
      (charges_eq : ∀ endpoint, charges endpoint heard = bill.receipt transaction endpoint)
      (parcels_eq : parcels heard = []) :
      Receipts request heard (.error (.shippingFailed error))
  | both (id : OrderId) (bill : Bill request) (transaction tracking : String)
      (unlost : isLost heard = false)
      (charges_eq : ∀ endpoint, charges endpoint heard = bill.receipt transaction endpoint)
      (parcels_eq : parcels heard = [(tracking, bill.gathering.items)]) :
      Receipts request heard (.ok (bill.order id tracking))

section Runs

variable {σ : Type} (backend : Backend σ) (trace : TraceContext)

theorem receipts_of_run {saga : Saga} {request : OrderRequest} {start later : Machine σ}
    {outcome : Except CheckoutError Order} {trail : List Entry}
    (made : (saga.place trace request).progress backend trace start =
      ⟨trail, some (outcome, later)⟩) : Receipts request (answers trail) outcome := by
  cases paymentCourse backend trace saga request start with
  | uncharged error? progress preparatory =>
      cases error? with
      | none => cases progress.symm.trans made
      | some error =>
          cases progress.symm.trans made
          have heard : Preparatory (answers trail) := by
            intro answered member
            have matched := (saga.place trace request).matched backend trace start
            rw [made] at matched
            exact preparatory _ (matched answered member)
          have uncharged := heard.any_eq_false.1
          have unlost : isLost (answers trail) = false := by
            rw [isLost, uncharged, Bool.false_and]
          refine .none error ?_ unlost heard.unentered
          -- Without a charge the placement cannot have come to ship anything.
          have agrees := (placingCourse backend trace saga request start).agreesIn Metrics.zero
          rw [AgreesIn, made] at agrees
          rw [(agrees.aborted error rfl).1, stage, uncharged]
          cases (events trail).any Event.isTotal with
          | false => decide
          | true => decide
  | unpaid bill later setback progress shows =>
      rename_i error? calls answered whole
      cases error? with
      | none => cases progress.symm.trans made
      | some error =>
          cases progress.symm.trans made
          have unlost : isLost (bill.gathered ++ answered) = false := by
            rw [isLost, List.any_append, bill.any_gathered.1, setback.any_eq_false.1]
            rfl
          have gathered : Unentered bill.gathered :=
            (bill.gathering.preparatory _ _ _).unentered
          rw [shows.answers_eq]
          exact .none _ SagaState.noConfusion unlost (gathered.append setback.unentered)
  | unshipped id bill transaction later setback progress shows =>
      rename_i error? calls answered whole
      cases error? with
      | none => cases progress.symm.trans made
      | some error =>
          cases progress.symm.trans made
          rw [shows.answers_eq]
          refine .payment error bill transaction (bill.isLost_paid transaction setback).2 ?_ ?_
          · intro endpoint
            rw [setback.unentered.charges_append_right, bill.charges_paid]
          · rw [setback.unentered.parcels_append_right, bill.parcels_paid]
  | @shipped id identified bill transaction tracking whole finished shipped bounded finished_eq
      progress account =>
      have unentered := finish_unentered backend trace saga request (bill.order id tracking) shipped
      rw [finished_eq] at unentered
      have same := progress.symm.trans made
      cases reached : finished.reached with
      | none =>
          rw [reached] at same
          cases same
      | some pair =>
          rw [reached] at same
          cases same
          rw [account.answers_eq]
          refine .both id bill transaction tracking (bill.isLost_shipped transaction tracking _) ?_ ?_
          · intro endpoint
            rw [unentered.charges_append_right, Bill.shipped, charges_append, bill.charges_paid]
            exact List.append_nil _
          · rw [unentered.parcels_append_right, Bill.shipped, parcels_append, bill.parcels_paid]
            rfl

end Runs

/-! ## Shops -/

/-- What may be done to the services between two placements. -/
inductive Change where
  | setCart (user : String) (items : List CartItem)
  | setFailing (operation : Operation) (fails : Bool)
  | setFlag (flag : String) (value : FlagValue)
  | setDelay (operation : Operation) (delay : Option Nat)
  | hangUpOn (operation : Option Operation)
  | addProduct (product : Product)
  | setRate (code : String) (rate : Int)
  | retag (code : Option String)
  | setBehavior (behavior : ProducerBehavior)

def World.change (world : World) : Change → World
  | .setCart user items => { world with carts := world.carts.setCart user items }
  | .setFailing operation fails => world.setFailing fails operation
  | .setFlag flag value => { world with flags := world.flags.set flag value }
  | .setDelay operation delay => world.setDelay operation delay
  | .hangUpOn operation => { world with hangsUpOn := operation }
  | .addProduct product => { world with catalog := world.catalog.add product }
  | .setRate code rate => { world with exchange := world.exchange.setRate code rate }
  | .retag code => { world with retag := code }
  | .setBehavior behavior => { world with producer := world.producer.setBehavior behavior }

structure Visit where
  request : OrderRequest
  trace : TraceContext
  life : Lifetime
  now : Instant

inductive Deed where
  | change (change : Change)
  | place (visit : Visit)

def Deed.isPlacement : Deed → Bool
  | .change _ => false
  | .place _ => true

def Order.total (order : Order) (code : String) : Except MoneyError Money :=
  Preparation.total ⟨order.items, [], order.shippingCost⟩ code

/-- A placement that has come to its end, and what it has added to the ledgers. -/
structure Placement where
  request : OrderRequest
  outcome : Except CheckoutError Order
  charged : Endpoint → List Money
  shipped : List (List CartItem)

namespace Placement

def isPlaced (placement : Placement) : Bool :=
  placement.outcome.toOption.isSome

def amounts (placement : Placement) : List Money :=
  placement.charged .primary ++ placement.charged .unreachable

def total? (placement : Placement) : Option (Except MoneyError Money) :=
  placement.outcome.toOption.map fun order => order.total placement.request.currency

end Placement

/-- The services, the counters, and the placements until now, in order. -/
structure Shop where
  world : World
  metrics : Metrics
  placements : List Placement

namespace Shop

def opened (price : Money) (ids : List (Except IdentityError OrderId)) : Shop :=
  ⟨.start price ids, .zero, []⟩

def placement (before after : World) (request : OrderRequest)
    (outcome : Except CheckoutError Order) : Placement where
  request := request
  outcome := outcome
  charged := fun endpoint =>
    (after.paymentsAt endpoint).values.drop (before.paymentsAt endpoint).values.length
  shipped := after.shipments.ledger.values.drop before.shipments.ledger.values.length

def serve (saga : Saga) (shop : Shop) (visit : Visit) : Option Shop :=
  ((saga.place visit.trace visit.request).run World.backend visit.trace
    ⟨visit.now, visit.life, shop.world⟩).map fun result =>
      ⟨result.machine.world, shop.metrics.countAll (events result.trail), shop.placements ++
        [placement shop.world result.machine.world visit.request result.value]⟩

def act (saga : Saga) (shop : Shop) : Deed → Option Shop
  | .change change => some { shop with world := shop.world.change change }
  | .place visit => shop.serve saga visit

def after (saga : Saga) (shop : Shop) : List Deed → Option Shop
  | [] => some shop
  | deed :: rest => (shop.act saga deed).bind fun next => next.after saga rest

/-- The counters, the ledgers and the placements of a shop agree after `runs` placements. -/
structure Balances (shop : Shop) (runs : Nat) : Prop where
  runs_eq : shop.placements.length = runs
  counted : runs = shop.metrics.placements.placed + shop.metrics.placements.failedPreparing +
    shop.metrics.placements.failedPaying + shop.metrics.placements.failedShipping
  charged : shop.world.payments.values.length + shop.world.unreachable.values.length =
    shop.metrics.placements.placed + shop.metrics.placements.paidUnshipped
  lost : shop.metrics.placements.paidUnshipped = shop.metrics.placements.failedShipping
  dispatched : shop.world.shipments.ledger.values.length = shop.metrics.placements.placed
  charges_eq : ∀ endpoint, (shop.world.paymentsAt endpoint).values =
    shop.placements.flatMap fun placement => placement.charged endpoint
  shipments_eq : shop.world.shipments.ledger.values =
    shop.placements.flatMap Placement.shipped
  totals : ∃ totals : List Money,
    (shop.placements.filter Placement.isPlaced).map Placement.amounts = totals.map ([·]) ∧
      shop.placements.filterMap Placement.total? = totals.map .ok

/-- The three ways in which a placement adds to the counters and to the ledgers. -/
inductive Books (counts : PlacementCounts) (placement : Placement) : PlacementCounts → Prop where
  | refused (error : CheckoutError) (early : error.failedState = .preparing ∨
      error.failedState = .paying) (outcome_eq : placement.outcome = .error error)
      (amounts_eq : placement.amounts = []) (shipped_eq : placement.shipped = []) :
      Books counts placement (counts.after error.failedState false)
  | lost (error : ServiceError) (amount : Money)
      (outcome_eq : placement.outcome = .error (.shippingFailed error))
      (amounts_eq : placement.amounts = [amount]) (shipped_eq : placement.shipped = []) :
      Books counts placement (counts.after .shipping true)
  | placed (order : Order) (total : Money) (outcome_eq : placement.outcome = .ok order)
      (total_eq : order.total placement.request.currency = .ok total)
      (amounts_eq : placement.amounts = [total])
      (shipped_eq : placement.shipped = [order.items.map OrderItem.item]) :
      Books counts placement (counts.after .done false)

section Placements

variable {before after : World} {request : OrderRequest} {heard : List Answered}
  {outcome : Except CheckoutError Order}

theorem charged_placement (records : World.Records before after heard) (endpoint : Endpoint) :
    (placement before after request outcome).charged endpoint =
      (charges endpoint heard).map Prod.snd := by
  change (after.paymentsAt endpoint).values.drop (before.paymentsAt endpoint).values.length = _
  rw [(records.payments endpoint).values_eq, List.drop_left]

theorem shipped_placement (records : World.Records before after heard) :
    (placement before after request outcome).shipped = (parcels heard).map Prod.snd := by
  change after.shipments.ledger.values.drop before.shipments.ledger.values.length = _
  rw [records.shipments.values_eq, List.drop_left]

theorem books_of_receipts (records : World.Records before after heard)
    (receipts : Receipts request heard outcome) (counts : PlacementCounts) :
    Books counts (placement before after request outcome)
      (counts.after (lastState outcome) (isLost heard)) := by
  have billed : ∀ (bill : Bill request) (transaction : String),
      (∀ endpoint, charges endpoint heard = bill.receipt transaction endpoint) →
      (placement before after request outcome).amounts = [bill.total] := by
    intro bill transaction charges_eq
    rw [Placement.amounts, charged_placement records, charged_placement records, charges_eq,
      charges_eq]
    unfold Bill.receipt
    cases bill.endpoint with
    | primary => rfl
    | unreachable => rfl
  cases receipts with
  | none error early unlost unentered =>
      rw [unlost]
      refine .refused error ?_ rfl ?_ ?_
      · rcases error.failedState_cases with state | state | state
        · exact Or.inl state
        · exact Or.inr state
        · exact absurd state early
      · rw [Placement.amounts, charged_placement records, charged_placement records,
          unentered.charges_eq, unentered.charges_eq]
        rfl
      · rw [shipped_placement records, unentered.parcels_eq]
        rfl
  | payment error bill transaction lost charges_eq parcels_eq =>
      rw [lost]
      refine .lost error bill.total rfl (billed bill transaction charges_eq) ?_
      rw [shipped_placement records, parcels_eq]
      rfl
  | both id bill transaction tracking unlost charges_eq parcels_eq =>
      rw [unlost]
      refine .placed (bill.order id tracking) bill.total rfl bill.total_eq
        (billed bill transaction charges_eq) ?_
      rw [shipped_placement records, parcels_eq]
      simp [Bill.order, Gathering.preparation, Gathering.items, PricedLine.orderItem]

end Placements

/-- Each way adds as much to the counters as it adds to the ledgers. -/
theorem Books.tallies {counts later : PlacementCounts} {placement : Placement}
    (books : Books counts placement later) :
    later.total = counts.total + 1 ∧
      later.placed + later.paidUnshipped =
        counts.placed + counts.paidUnshipped + placement.amounts.length ∧
      later.placed = counts.placed + placement.shipped.length ∧
      later.paidUnshipped + counts.failedShipping = counts.paidUnshipped + later.failedShipping := by
  cases books with
  | refused error early outcome_eq amounts_eq shipped_eq =>
      rw [amounts_eq, shipped_eq]
      refine ⟨counts.total_after (.error error) false, ?_⟩
      rcases early with state | state
      all_goals
        rw [state]
        simp [PlacementCounts.after]
  | lost error amount outcome_eq amounts_eq shipped_eq =>
      rw [amounts_eq, shipped_eq]
      refine ⟨counts.total_after (.error (.shippingFailed error)) true, ?_⟩
      simp only [PlacementCounts.after, reduceCtorEq, if_true, if_false, List.length_singleton,
        List.length_nil, Nat.add_zero, true_and]
      omega
  | placed order total outcome_eq total_eq amounts_eq shipped_eq =>
      rw [amounts_eq, shipped_eq]
      refine ⟨counts.total_after (.ok order) false, ?_⟩
      simp only [PlacementCounts.after, reduceCtorEq, Bool.false_eq_true, if_true, if_false,
        List.length_singleton, Nat.add_zero, and_true]
      omega

/-- If an order was returned, its total is the one amount that was charged for it. -/
theorem Books.totals {counts later : PlacementCounts} {placement : Placement}
    (books : Books counts placement later) :
    ∃ totals : List Money,
      ([placement].filter Placement.isPlaced).map Placement.amounts = totals.map ([·]) ∧
        [placement].filterMap Placement.total? = totals.map .ok := by
  cases books with
  | refused error early outcome_eq amounts_eq shipped_eq =>
      refine ⟨[], ?_, ?_⟩
      · simp [Placement.isPlaced, outcome_eq, Except.toOption]
      · simp [Placement.total?, outcome_eq, Except.toOption]
  | lost error amount outcome_eq amounts_eq shipped_eq =>
      refine ⟨[], ?_, ?_⟩
      · simp [Placement.isPlaced, outcome_eq, Except.toOption]
      · simp [Placement.total?, outcome_eq, Except.toOption]
  | placed order total outcome_eq total_eq amounts_eq shipped_eq =>
      refine ⟨[total], ?_, ?_⟩
      · simp [Placement.isPlaced, outcome_eq, amounts_eq, Except.toOption]
      · simp [Placement.total?, outcome_eq, total_eq, Except.toOption]

structure Extends (shop later : Shop) (placement : Placement) : Prop where
  placements_eq : later.placements = shop.placements ++ [placement]
  charges_eq : ∀ endpoint, (later.world.paymentsAt endpoint).values =
    (shop.world.paymentsAt endpoint).values ++ placement.charged endpoint
  shipments_eq : later.world.shipments.ledger.values =
    shop.world.shipments.ledger.values ++ placement.shipped
  books : Books shop.metrics.placements placement later.metrics.placements

theorem serve_extends (saga : Saga) (shop : Shop) (visit : Visit) :
    ∃ later placement, shop.serve saga visit = some later ∧ shop.Extends later placement := by
  let start : Machine World := ⟨visit.now, visit.life, shop.world⟩
  obtain ⟨outcome, machine, trail, made⟩ :=
    Program.returns_of_world visit.trace (saga.place visit.trace visit.request) start
  have records := Program.records visit.trace made
  have receipts := receipts_of_run World.backend visit.trace made
  have agrees :=
    (placingCourse World.backend visit.trace saga visit.request start).agreesIn shop.metrics
  rw [AgreesIn, made] at agrees
  have counted := (agrees.counted outcome rfl).1
  refine ⟨⟨machine.world, shop.metrics.countAll (events trail), shop.placements ++
    [placement shop.world machine.world visit.request outcome]⟩,
    placement shop.world machine.world visit.request outcome, ?_, rfl, ?_, ?_, ?_⟩
  · unfold serve
    rw [(Program.run_eq_some_iff World.backend visit.trace).mpr made]
    rfl
  · intro endpoint
    rw [charged_placement records]
    exact (records.payments endpoint).values_eq
  · rw [shipped_placement records]
    exact records.shipments.values_eq
  · rw [counted]
    exact books_of_receipts records receipts shop.metrics.placements

namespace Balances

variable {shop later : Shop} {runs : Nat}

theorem opened (price : Money) (ids : List (Except IdentityError OrderId)) :
    (Shop.opened price ids).Balances 0 where
  runs_eq := rfl
  counted := rfl
  charged := rfl
  lost := rfl
  dispatched := rfl
  charges_eq := by
    intro endpoint
    cases endpoint <;> rfl
  shipments_eq := rfl
  totals := ⟨[], rfl, rfl⟩

theorem change (balances : shop.Balances runs) (change : Change) :
    Balances { shop with world := shop.world.change change } runs := by
  have payments : ∀ endpoint, ((shop.world.change change).paymentsAt endpoint).values =
      (shop.world.paymentsAt endpoint).values := by
    intro endpoint
    cases change with
    | setFailing operation fails => cases operation <;> cases endpoint <;> rfl
    | setDelay operation delay => cases delay <;> cases endpoint <;> rfl
    | _ => cases endpoint <;> rfl
  have shipments : (shop.world.change change).shipments.ledger.values =
      shop.world.shipments.ledger.values := by
    cases change with
    | setFailing operation fails => cases operation <;> rfl
    | setDelay operation delay => cases delay <;> rfl
    | _ => rfl
  refine { balances with charged := ?_, dispatched := ?_, charges_eq := ?_, shipments_eq := ?_ }
  · have primary := payments .primary
    have unreachable := payments .unreachable
    simp only [World.paymentsAt] at primary unreachable
    rw [primary, unreachable]
    exact balances.charged
  · rw [shipments]
    exact balances.dispatched
  · intro endpoint
    rw [payments]
    exact balances.charges_eq endpoint
  · rw [shipments]
    exact balances.shipments_eq

theorem extend {placement : Placement} (balances : shop.Balances runs)
    (extended : shop.Extends later placement) : later.Balances (runs + 1) := by
  obtain ⟨placements_eq, charges_eq, shipments_eq, books⟩ := extended
  obtain ⟨runs_eq, counted, charged, lost, dispatched, charges_before, shipments_before,
    totals, amounts_before, totals_before⟩ := balances
  have entered : later.world.payments.values.length + later.world.unreachable.values.length =
      shop.world.payments.values.length + shop.world.unreachable.values.length +
        placement.amounts.length := by
    have primary := charges_eq .primary
    have unreachable := charges_eq .unreachable
    simp only [World.paymentsAt] at primary unreachable
    rw [primary, unreachable, Placement.amounts, List.length_append, List.length_append,
      List.length_append]
    omega
  have sent := congrArg List.length shipments_eq
  rw [List.length_append] at sent
  obtain ⟨one_more, charged_more, dispatched_more, lost_more⟩ := books.tallies
  obtain ⟨added, amounts_added, totals_added⟩ := books.totals
  unfold PlacementCounts.total at one_more
  refine ⟨?_, ?_, ?_, ?_, ?_, ?_, ?_, totals ++ added, ?_, ?_⟩
  · rw [placements_eq, List.length_append, runs_eq]
    rfl
  · rw [one_more, counted]
  · rw [entered, charged, charged_more]
  · omega
  · rw [sent, dispatched, dispatched_more]
  · intro endpoint
    rw [charges_eq, charges_before, placements_eq, List.flatMap_append, List.flatMap_singleton]
  · rw [shipments_eq, shipments_before, placements_eq, List.flatMap_append, List.flatMap_singleton]
  · rw [placements_eq, List.filter_append, List.map_append, amounts_before, amounts_added,
      List.map_append]
  · rw [placements_eq, List.filterMap_append, totals_before, totals_added, List.map_append]

end Balances

end Shop

/-- The books balance at the end of every history of changes and placements. -/
theorem books_balance (saga : Saga) (price : Money) (ids : List (Except IdentityError OrderId))
    (deeds : List Deed) :
    ∃ shop, (Shop.opened price ids).after saga deeds = some shop ∧
      shop.Balances (deeds.countP Deed.isPlacement) := by
  have going : ∀ (deeds : List Deed) (shop : Shop) (runs : Nat), shop.Balances runs →
      ∃ later, shop.after saga deeds = some later ∧
        later.Balances (runs + deeds.countP Deed.isPlacement) := by
    intro deeds
    induction deeds with
    | nil =>
        intro shop runs balances
        exact ⟨shop, rfl, balances⟩
    | cons deed rest ih =>
        intro shop runs balances
        cases deed with
        | change change =>
            obtain ⟨later, gone, balanced⟩ := ih _ runs (balances.change change)
            refine ⟨later, gone, ?_⟩
            rwa [List.countP_cons_of_neg Bool.false_ne_true]
        | place visit =>
            obtain ⟨next, placement, served, extended⟩ := shop.serve_extends saga visit
            obtain ⟨later, gone, balanced⟩ := ih next (runs + 1) (balances.extend extended)
            refine ⟨later, ?_, ?_⟩
            · rw [Shop.after, Shop.act, served]
              exact gone
            · rw [List.countP_cons_of_pos rfl]
              rwa [Nat.add_right_comm, Nat.add_assoc] at balanced
  have balanced := going deeds (Shop.opened price ids) 0 (Shop.Balances.opened price ids)
  rwa [Nat.zero_add] at balanced

namespace Sample

def visit : List Deed :=
  [.change (.setCart "user" cart), .place ⟨request, trace, .unbounded, 0⟩]

/-- An order is placed, then one that cannot be paid, and then one that cannot be shipped. -/
def season : List Deed :=
  .change (.addProduct ⟨⟨"lamp"⟩, "", price⟩) :: visit ++
    .change (.setFailing .charge true) :: visit ++
      [.change (.setFailing .charge false), .change (.setFailing .ship true)] ++ visit

def orderIds : List (Except IdentityError OrderId) :=
  List.replicate 3 (.ok ⟨List.replicate 32 (Text.lastHexDigit 5), rfl⟩)

end Sample

/-- Three placements, of which one returns an order, one fails to charge and one fails to ship. -/
theorem books_balance_of_season :
    ∃ shop, (Shop.opened Sample.price Sample.orderIds).after Sample.saga Sample.season = some shop ∧
      shop.Balances 3 ∧
      shop.metrics.placements = ⟨1, 0, 1, 1, 1⟩ ∧
      shop.world.payments.values.length = 2 ∧
      shop.world.shipments.ledger.values = [Sample.cart] := by
  obtain ⟨shop, gone, balances⟩ :=
    books_balance Sample.saga Sample.price Sample.orderIds Sample.season
  have found : ((Shop.opened Sample.price Sample.orderIds).after Sample.saga Sample.season).map
      (fun shop => (shop.metrics.placements, shop.world.payments.values.length,
        shop.world.shipments.ledger.values)) = some (⟨1, 0, 1, 1, 1⟩, 2, [Sample.cart]) := by
    decide +kernel
  rw [gone, Option.map_some, Option.some.injEq, Prod.mk.injEq, Prod.mk.injEq] at found
  exact ⟨shop, gone, balances, found⟩

/-! ## Names in use -/

theorem World.Numbered.change {world : World} (numbered : world.Numbered) (change : Change) :
    (world.change change).Numbered where
  payments endpoint := by
    have kept := numbered.payments endpoint
    cases change with
    | setFailing operation fails =>
        cases operation <;> cases endpoint <;> exact ⟨kept.names_eq, kept.lastId_eq⟩
    | setDelay operation delay => cases delay <;> cases endpoint <;> exact kept
    | _ => cases endpoint <;> exact kept
  shipments := by
    have kept := numbered.shipments
    cases change with
    | setFailing operation fails => cases operation <;> exact ⟨kept.names_eq, kept.lastId_eq⟩
    | setDelay operation delay => cases delay <;> exact kept
    | _ => exact kept

/-- The ledgers are numbered at the end of every history. -/
theorem Shop.numbered_after (saga : Saga) {deeds : List Deed} {shop later : Shop}
    (numbered : shop.world.Numbered) (gone : shop.after saga deeds = some later) :
    later.world.Numbered := by
  induction deeds generalizing shop with
  | nil =>
      cases gone
      exact numbered
  | cons deed rest ih =>
      obtain ⟨next, acted, gone⟩ := Option.bind_eq_some_iff.mp gone
      refine ih ?_ gone
      cases deed with
      | change change =>
          cases acted
          exact numbered.change change
      | place visit =>
          obtain ⟨result, ran, rfl⟩ := Option.map_eq_some_iff.mp acted
          have made := (Program.run_eq_some_iff World.backend visit.trace).mp ran
          exact (Program.records visit.trace made).numbered numbered

end Checkout

import Checkout.Proofs.Finishing
import Checkout.Proofs.Protocols
import Checkout.Proofs.SharedWorlds

/-!
# The conduct of placements

The protocol that a placement keeps to when it shares the services with others.  It asks for one
order id, reads and empties no cart but its user's, and the former only before the latter; it
charges the endpoint that the flag tells and ships what was in its user's cart at first.  If it hears
what the services would have answered at first, up to the names that they give, then all that it
returns is fixed, except for the order id and the tracking id.
-/

set_option autoImplicit false

namespace Checkout

/-- All that an order tells beside its two ids. -/
structure OrderContents where
  shippingCost : Money
  shippingAddress : Address
  items : List OrderItem
deriving DecidableEq

def Order.contents (order : Order) : OrderContents :=
  ⟨order.shippingCost, order.shippingAddress, order.items⟩

/-- The endpoint that is charged as long as the flags stay as they are in a world. -/
def Saga.endpoint (saga : Saga) (world : World) : Endpoint :=
  if FlagKind.valueOf .boolean saga.flagsEnabled
      (world.evaluate .boolean Flags.paymentUnreachable).1 then .unreachable
  else .primary

/-- What a placement has done of which others could notice something: it has an order id, it has
shipped a parcel, it has emptied its user's cart. -/
structure Footprint where
  named : Bool
  parcel : Option String
  emptied : Bool
deriving DecidableEq

def Footprint.initial : Footprint := ⟨false, none, false⟩

/-- The calls that are made for a user whose placement has begun in the world `first`. -/
def Call.Suits (first : World) (endpoint : Endpoint) (user : String) : Call → Prop
  | .getCart other => other = user
  | .emptyCart other => other = user
  | .shipOrder _ items => items = first.carts.cart user
  | .charge made _ _ => made = endpoint
  | _ => True

def Call.IsInquiry : Call → Prop
  | .getProduct _ => True
  | .convert _ _ => True
  | .getQuote _ _ => True
  | _ => False

/-- Whether a question leaves nothing behind that other placements could notice. -/
def Query.IsUnnoticed : Query → Prop
  | .call (.sendConfirmation _ _) => True
  | .call _ => False
  | .orderId => False
  | _ => True

/-- The protocol of a placement for a user that has begun in the world `first`. -/
def conduct (first : World) (endpoint : Endpoint) (user : String) : Protocol Footprint where
  asks stage
    | .call call => call.Suits first endpoint user ∧
        ∀ other, call = .getCart other → stage.emptied = false
    | .orderId => stage.named = false
    | _ => True
  permits
    | .call call, answer => call.unnamed answer = call.unnamed (first.answer call).1
    | .flag kind flag, answer => answer = (first.evaluate kind flag).1
    | .orderId, answer => ∃ id, answer = .ok id
    | _, _ => True
  after stage
    | .orderId, _ => { stage with named := true }
    | .call (.shipOrder _ _), .ok tracking => { stage with parcel := some tracking }
    | .call (.emptyCart _), .ok _ => { stage with emptied := true }
    | _, _ => stage

def Footprint.shipped (stage : Footprint) : Except CheckoutError String → Footprint
  | .ok tracking => { stage with parcel := some tracking }
  | .error _ => stage

/-- How a placement ends: if it returns an order, then with what it has shipped; `emptied` tells
whether it has also emptied the cart. -/
inductive Ended (emptied : Bool) (contents : Except CheckoutError OrderContents) :
    Footprint → Except CheckoutError Order → Prop where
  | error (error : CheckoutError) (contents_eq : contents = .error error) :
      Ended emptied contents ⟨true, none, false⟩ (.error error)
  | ok (order : Order) (contents_eq : contents = .ok order.contents) :
      Ended emptied contents ⟨true, some order.trackingId, emptied⟩ (.ok order)

def AlikeUnnamed {ε : Type} (outcome other : Except ε String) : Prop :=
  (outcome.map fun _ => "") = other.map fun _ => ""

namespace AlikeUnnamed

variable {ε ε' : Type} {outcome other : Except ε String}

theorem eq_error {error : ε} (alike : AlikeUnnamed outcome (.error error)) :
    outcome = .error error := by
  cases outcome with
  | error same =>
      cases alike
      rfl
  | ok name => cases alike

theorem exists_ok {name : String} (alike : AlikeUnnamed outcome (.ok name)) :
    ∃ given, outcome = .ok given := by
  cases outcome with
  | error error => cases alike
  | ok given => exact ⟨given, rfl⟩

theorem mapError {wrap : ε → ε'} (alike : AlikeUnnamed outcome other) :
    AlikeUnnamed (outcome.mapError wrap) (other.mapError wrap) := by
  cases other with
  | error error =>
      rw [alike.eq_error]
      rfl
  | ok name =>
      obtain ⟨given, rfl⟩ := alike.exists_ok
      rfl

end AlikeUnnamed

section Binds

variable {α : Type} {protocol : Protocol Footprint}
  {ends : Footprint → Except CheckoutError α → Prop} {before : Footprint}
  {after : Except CheckoutError String → Footprint} {attempt : Attempt String}
  {next : String → Attempt α}

theorem meets_bind_of_error {error : CheckoutError}
    (first : Program.Meets protocol
      (fun later outcome => later = after outcome ∧ AlikeUnnamed outcome (.error error))
      attempt.run before)
    (ended : ends (after (.error error)) (.error error)) :
    Program.Meets protocol ends (attempt >>= next).run before := by
  apply Attempt.meets_bind first
  · rintro later other ⟨rfl, alike⟩
    cases alike.eq_error
    exact ended
  · rintro later name ⟨rfl, alike⟩
    cases alike

theorem meets_bind_of_ok {name : String}
    (first : Program.Meets protocol
      (fun later outcome => later = after outcome ∧ AlikeUnnamed outcome (.ok name))
      attempt.run before)
    (rest : ∀ given, Program.Meets protocol ends (next given).run (after (.ok given))) :
    Program.Meets protocol ends (attempt >>= next).run before := by
  apply Attempt.meets_bind first
  · rintro later error ⟨rfl, alike⟩
    cases alike
  · rintro later given ⟨rfl, _⟩
    exact rest given

end Binds

theorem Ended.contents_eq {emptied : Bool} {contents : Except CheckoutError OrderContents}
    {stage : Footprint} {outcome : Except CheckoutError Order}
    (ended : Ended emptied contents stage outcome) : outcome.map Order.contents = contents := by
  cases ended with
  | error error contents_eq => exact contents_eq.symm
  | ok order contents_eq => exact contents_eq.symm

section Placements

variable (first : World) (endpoint : Endpoint) (user : String) (stage : Footprint)

theorem fixes_note (event : Event) :
    (conduct first endpoint user).Fixes stage (.note event) () :=
  ⟨trivial, fun _ _ => rfl, rfl⟩

theorem fixes_flag (kind : FlagKind) (flag : String) :
    (conduct first endpoint user).Fixes stage (.flag kind flag) (first.evaluate kind flag).1 :=
  ⟨trivial, fun _ permitted => permitted, rfl⟩

theorem inquiry_steady (call : Call) (inquiry : call.IsInquiry)
    (abort : ServiceError → CheckoutError) :
    (Attempt.call call abort).Steady (conduct first endpoint user) stage fun _ => True := by
  have fixed : (conduct first endpoint user).Fixes stage (.call call) (first.answer call).1 := by
    cases call with
    | getProduct product => exact ⟨⟨trivial, nofun⟩, fun _ permitted => permitted, rfl⟩
    | convert amount code => exact ⟨⟨trivial, nofun⟩, fun _ permitted => permitted, rfl⟩
    | getQuote address items => exact ⟨⟨trivial, nofun⟩, fun _ permitted => permitted, rfl⟩
    | _ => exact False.elim inquiry
  apply (Attempt.steady_call fixed abort).imp
  intro reply _
  exact trivial

theorem fixes_getCart (full : stage.emptied = false) :
    (conduct first endpoint user).Fixes stage (.call (.getCart user))
      (first.answer (.getCart user)).1 :=
  ⟨⟨rfl, fun _ _ => full⟩, fun _ permitted => permitted, rfl⟩

/-! ## Preparing -/

theorem readCart_steady (full : stage.emptied = false) :
    (Saga.readCart user).Steady (conduct first endpoint user) stage
      fun items => items = first.carts.cart user := by
  apply (Attempt.steady_call (fixes_getCart first endpoint user stage full) _).bind
  intro items heard
  have items_eq : items = first.carts.cart user := by
    change (if first.carts.failsReads then _ else _) = _ at heard
    by_cases fails : first.carts.failsReads
    · rw [if_pos fails] at heard
      cases heard
    · rw [if_neg fails] at heard
      cases heard
      rfl
  cases items.find? fun item => ! decide item.HasValidQuantity with
  | none => exact Attempt.steady_pure items_eq
  | some item => exact Attempt.steady_throw _

theorem priceItems_steady (code : String) (items : List CartItem) :
    (Saga.priceItems code items).Steady (conduct first endpoint user) stage fun _ => True := by
  induction items with
  | nil => exact Attempt.steady_pure trivial
  | cons item rest ih =>
      have line : (Saga.priceItem code item).Steady (conduct first endpoint user) stage
          fun _ => True := by
        apply (inquiry_steady first endpoint user stage (.getProduct item.productId) trivial _).bind
        intro product _
        apply (inquiry_steady first endpoint user stage (.convert product.price code) trivial _).bind
        intro cost _
        exact Attempt.steady_pure trivial
      apply line.bind
      intro priced _
      apply ih.bind
      intro lines _
      exact Attempt.steady_pure trivial

theorem prepare_steady (full : stage.emptied = false) (code : String) (address : Address) :
    (Saga.prepare user code address).Steady (conduct first endpoint user) stage
      fun preparation => preparation.cartItems = first.carts.cart user := by
  apply (readCart_steady first endpoint user stage full).bind
  intro items items_eq
  apply (priceItems_steady first endpoint user stage code items).bind
  intro lines _
  have quote : (Saga.quoteShipping code address items).Steady (conduct first endpoint user) stage
      fun _ => True := by
    apply (inquiry_steady first endpoint user stage (.getQuote address items) trivial _).bind
    intro quote _
    exact inquiry_steady first endpoint user stage (.convert quote code) trivial _
  apply quote.bind
  intro cost _
  apply (Attempt.steady_note (fixes_note first endpoint user stage _)).bind
  intro _ _
  exact Attempt.steady_pure items_eq

theorem total_settles {preparation : Preparation} {code : String} {sum : Except MoneyError Money}
    (added : preparation.total code = sum) :
    Program.Settles (conduct first endpoint user) stage
      (ExceptT.mk (pure ((preparation.total code).mapError CheckoutError.invalidTotal)) :
        Attempt Money).run (sum.mapError CheckoutError.invalidTotal) := by
  rw [added]
  exact Program.settles_pure _

/-! ## Paying and shipping -/

theorem chooseEndpoint_settles (saga : Saga) :
    saga.chooseEndpoint.Settles (conduct first endpoint user) stage (saga.endpoint first) := by
  have flagged := Program.settles_flag saga.flagsEnabled
    (fixes_flag first endpoint user stage .boolean Flags.paymentUnreachable)
    (fixes_note first endpoint user stage)
  apply flagged.meets_bind
  unfold Saga.endpoint
  cases FlagKind.valueOf .boolean saga.flagsEnabled
    (first.evaluate .boolean Flags.paymentUnreachable).1 with
  | false => exact Program.settles_pure Endpoint.primary
  | true =>
      exact (Program.settles_query (fixes_note first endpoint user stage _)).meets_bind
        (Program.settles_pure Endpoint.unreachable)

theorem charge_meets (saga : Saga) (total : Money) (card : Card) :
    Program.Meets (conduct first (saga.endpoint first) user)
      (fun later outcome => later = stage ∧ AlikeUnnamed outcome
        ((first.answer (.charge (saga.endpoint first) total card)).1.mapError .paymentDeclined))
      (saga.charge total card).run stage := by
  have chosen : Program.Settles (conduct first (saga.endpoint first) user) stage
      (Attempt.perform saga.chooseEndpoint).run (.ok (saga.endpoint first)) :=
    (chooseEndpoint_settles first (saga.endpoint first) user stage saga).meets_bind
      (Program.settles_pure _)
  have asks : (conduct first (saga.endpoint first) user).asks stage
      (.call (.charge (saga.endpoint first) total card)) := ⟨rfl, nofun⟩
  apply Attempt.meets_ok chosen
  apply Attempt.meets_bind (Attempt.meets_call asks _)
  · rintro later error ⟨answer, permitted, rfl, outcome_eq⟩
    rw [outcome_eq]
    exact ⟨rfl, AlikeUnnamed.mapError permitted⟩
  · rintro later transaction ⟨answer, permitted, rfl, outcome_eq⟩
    apply Attempt.meets_ok (Attempt.settles_note (fixes_note first _ user _ _))
    apply Program.meets_pure
    refine ⟨rfl, ?_⟩
    rw [outcome_eq]
    exact AlikeUnnamed.mapError permitted

theorem shipPaid_meets (id : OrderId) (transaction : String) (total : Money) (address : Address) :
    Program.Meets (conduct first endpoint user)
      (fun later outcome => later = stage.shipped outcome ∧ AlikeUnnamed outcome
        ((first.answer (.shipOrder address (first.carts.cart user))).1.mapError .shippingFailed))
      (Saga.shipPaid id transaction total address (first.carts.cart user)).run stage := by
  have asks : (conduct first endpoint user).asks stage
      (.call (.shipOrder address (first.carts.cart user))) := ⟨rfl, nofun⟩
  have ship : Program.Meets (conduct first endpoint user)
      (fun later outcome => later = stage.shipped outcome ∧ AlikeUnnamed outcome
        ((first.answer (.shipOrder address (first.carts.cart user))).1.mapError .shippingFailed))
      (Saga.ship address (first.carts.cart user)).run stage := by
    apply Attempt.meets_bind (Attempt.meets_call asks _)
    · rintro later error ⟨answer, permitted, rfl, outcome_eq⟩
      rw [outcome_eq]
      refine ⟨?_, AlikeUnnamed.mapError permitted⟩
      cases answer with
      | error source => rfl
      | ok tracking => cases outcome_eq
    · rintro later tracking ⟨answer, permitted, rfl, outcome_eq⟩
      apply Attempt.meets_ok (Attempt.settles_note (fixes_note first _ user _ _))
      apply Program.meets_pure
      rw [outcome_eq]
      refine ⟨?_, AlikeUnnamed.mapError permitted⟩
      cases answer with
      | error source => cases outcome_eq
      | ok given => rfl
  apply Program.meets_bind ship
  intro later outcome reached
  cases outcome with
  | ok tracking => exact reached
  | error error =>
      exact (Program.settles_query (fixes_note first endpoint user later _)).meets_bind
        (Program.meets_pure reached)

/-! ## The whole placement -/

theorem orderId_meets :
    Program.Meets (conduct first endpoint user)
      (fun later outcome => later = { stage with named := true } ∧ ∃ id, outcome = .ok id)
      Attempt.orderId.run { stage with named := false } := by
  refine ⟨rfl, ?_⟩
  rintro answer ⟨id, rfl⟩
  exact ⟨rfl, id, rfl⟩

/-- What is left of a placement once the card is charged. -/
def Saga.dispatch (request : OrderRequest) (preparation : Preparation) (total : Money)
    (id : OrderId) (transaction : String) : Attempt Order := do
  let tracking ←
    Saga.shipPaid id transaction total request.address preparation.cartItems
  pure ⟨id, tracking, preparation.shippingCost, request.address, preparation.orderItems⟩

variable (saga : Saga) (request : OrderRequest) {preparation : Preparation}

theorem dispatch_meets (shopped : preparation.cartItems = first.carts.cart request.userId)
    (total : Money) :
    ∃ contents, ∀ id transaction, Program.Meets (conduct first endpoint request.userId)
      (Ended false contents) (Saga.dispatch request preparation total id transaction).run
      ⟨true, none, false⟩ := by
  have ships := fun id transaction => shipPaid_meets first endpoint request.userId
    ⟨true, none, false⟩ id transaction total request.address
  unfold Saga.dispatch
  rw [shopped]
  cases shipped : (first.answer (.shipOrder request.address (first.carts.cart request.userId))).1 with
  | error source =>
      rw [shipped] at ships
      refine ⟨.error (.shippingFailed source), ?_⟩
      intro id transaction
      exact meets_bind_of_error (ships id transaction) (.error _ rfl)
  | ok name =>
      rw [shipped] at ships
      refine ⟨.ok ⟨preparation.shippingCost, request.address, preparation.orderItems⟩, ?_⟩
      intro id transaction
      apply meets_bind_of_ok (ships id transaction)
      intro tracking
      exact Program.meets_pure (Ended.ok ⟨id, tracking, _, _, _⟩ rfl)

theorem pay_meets (shopped : preparation.cartItems = first.carts.cart request.userId)
    (total : Money) :
    ∃ contents, ∀ id, Program.Meets (conduct first (saga.endpoint first) request.userId)
      (Ended false contents) (ExceptT.run do
        let transaction ← saga.charge total request.card
        Attempt.note (.moved .paying .shipping)
        Saga.dispatch request preparation total id transaction) ⟨true, none, false⟩ := by
  have pays := charge_meets first request.userId ⟨true, none, false⟩ saga total request.card
  cases charged : (first.answer (.charge (saga.endpoint first) total request.card)).1 with
  | error source =>
      rw [charged] at pays
      refine ⟨.error (.paymentDeclined source), ?_⟩
      intro id
      exact meets_bind_of_error pays (.error _ rfl)
  | ok name =>
      rw [charged] at pays
      obtain ⟨contents, dispatched⟩ :=
        dispatch_meets first (saga.endpoint first) request shopped total
      refine ⟨contents, ?_⟩
      intro id
      apply meets_bind_of_ok pays
      intro transaction
      apply Attempt.meets_ok (Attempt.settles_note (fixes_note first _ request.userId _ _))
      exact dispatched id transaction

theorem untilShipment_meets :
    ∃ contents, Program.Meets (conduct first (saga.endpoint first) request.userId)
      (Ended false contents) (saga.untilShipment request).run .initial := by
  let protocol := conduct first (saga.endpoint first) request.userId
  let named : Footprint := ⟨true, none, false⟩
  -- Whatever follows, the placement gets an order id at first.
  have begins : ∀ {contents} {next : OrderId → Attempt Order},
      (∀ id, Program.Meets protocol (Ended false contents) (next id).run named) →
      Program.Meets protocol (Ended false contents) (Attempt.orderId >>= next).run .initial := by
    intro contents next goesOn
    apply Attempt.meets_bind
      (orderId_meets first (saga.endpoint first) request.userId named)
    · rintro later error ⟨_, id, impossible⟩
      cases impossible
    · rintro later id ⟨rfl, _⟩
      exact goesOn id
  obtain ⟨prepared, settles, shopped⟩ :=
    prepare_steady first (saga.endpoint first) request.userId named rfl request.currency
      request.address
  cases prepared with
  | error error =>
      refine ⟨.error error, begins ?_⟩
      intro id
      exact Attempt.meets_error settles (.error error rfl)
  | ok preparation =>
      cases added : preparation.total request.currency with
      | error error =>
          refine ⟨.error (.invalidTotal error), begins ?_⟩
          intro id
          apply Attempt.meets_ok settles
          exact Attempt.meets_error (total_settles first _ request.userId _ added) (.error _ rfl)
      | ok total =>
          obtain ⟨contents, paid⟩ := pay_meets first saga request (shopped preparation rfl) total
          refine ⟨contents, begins ?_⟩
          intro id
          apply Attempt.meets_ok settles
          apply Attempt.meets_ok (total_settles first _ request.userId _ added)
          apply Attempt.meets_ok (Attempt.settles_note (fixes_note first _ request.userId _ _))
          apply Attempt.meets_ok (Attempt.settles_note (fixes_note first _ request.userId _ _))
          exact paid id

theorem resetCart_meets (full : stage.emptied = false) :
    (Saga.resetCart user).Meets (conduct first endpoint user)
      (fun later _ => later = { stage with emptied := ! first.carts.failsResets }) stage := by
  refine ⟨⟨rfl, nofun⟩, ?_⟩
  intro answer permitted
  have answer_eq : answer = (first.carts.reset user).1 := permitted
  rw [first.carts.answer_reset] at answer_eq
  cases fails : first.carts.failsResets with
  | false =>
      rw [fails] at answer_eq
      subst answer_eq
      exact rfl
  | true =>
      rw [fails] at answer_eq
      subst answer_eq
      refine ⟨trivial, ?_⟩
      intro _ _
      change stage = { stage with emptied := false }
      rw [← full]

/-- Nothing else that finishes a placement leaves anything that others could notice. -/
theorem meets_of_unnoticed {program : Program Unit} (asks : program.Asks Query.IsUnnoticed) :
    program.Meets (conduct first endpoint user) (fun later _ => later = stage) stage := by
  apply Program.meets_of_asks asks
  · intro query unnoticed
    cases query with
    | call call =>
        cases call with
        | sendConfirmation email order => exact ⟨trivial, nofun⟩
        | _ => exact False.elim unnoticed
    | orderId => exact False.elim unnoticed
    | _ => trivial
  · intro query answer unnoticed _
    cases query with
    | call call =>
        cases call with
        | sendConfirmation email order => rfl
        | _ => exact False.elim unnoticed
    | orderId => exact False.elim unnoticed
    | _ => rfl

theorem finish_meets (trace : TraceContext) (order : Order) (full : stage.emptied = false) :
    (saga.finish trace request order).Meets (conduct first endpoint request.userId)
      (fun later _ => later = { stage with emptied := ! first.carts.failsResets }) stage := by
  -- After the cart is emptied there are only the mail and the publication left.
  have notified : (Saga.notify request.email order).Asks Query.IsUnnoticed :=
    notify_asks (fun _ _ => trivial) request.email order trivial
  have published : (saga.publish trace order).Asks Query.IsUnnoticed := by
    apply publish_asks
    intro query isLocal routine
    cases query with
    | call call => exact False.elim isLocal
    | orderId => exact False.elim routine
    | _ => trivial
  apply (Program.settles_query (fixes_note first _ request.userId _ _)).meets_bind
  apply Program.meets_bind (resetCart_meets first endpoint request.userId stage full)
  rintro later _ rfl
  apply Program.meets_bind (meets_of_unnoticed first endpoint request.userId _ notified)
  rintro later _ rfl
  apply Program.meets_bind (meets_of_unnoticed first endpoint request.userId _ published)
  rintro later _ rfl
  exact Program.meets_query trivial fun _ _ => rfl

/-- A placement keeps to its conduct, and what it returns is fixed but for the two ids. -/
theorem place_meets (trace : TraceContext) :
    ∃ contents, (saga.place trace request).Meets
      (conduct first (saga.endpoint first) request.userId)
      (Ended (! first.carts.failsResets) contents) .initial := by
  obtain ⟨contents, shipped⟩ := untilShipment_meets first saga request
  refine ⟨contents, ?_⟩
  have executed : Program.Meets (conduct first (saga.endpoint first) request.userId)
      (Ended (! first.carts.failsResets) contents) (saga.execute trace request).run .initial := by
    rw [execute_eq]
    apply Attempt.meets_bind shipped
    · intro later error ended
      cases ended with
      | error error contents_eq => exact .error error contents_eq
    · intro later order ended
      cases ended with
      | ok order contents_eq =>
          have finished := finish_meets first (saga.endpoint first)
            ⟨true, some order.trackingId, false⟩ saga request trace order rfl
          apply Attempt.meets_bind (Attempt.meets_perform finished)
          · rintro later error ⟨_, impossible, _⟩
            cases impossible
          · rintro later _ ⟨_, _, rfl⟩
            exact Program.meets_pure (.ok order contents_eq)
  apply (Program.settles_query (fixes_note first _ request.userId _ _)).meets_bind
  apply Program.meets_bind executed
  intro later outcome ended
  cases outcome with
  | ok order =>
      exact (Program.settles_query (fixes_note first _ request.userId _ _)).meets_bind
        (Program.meets_pure ended)
  | error error =>
      apply (Program.settles_query (fixes_note first _ request.userId _ _)).meets_bind
      exact (Program.settles_query (fixes_note first _ request.userId _ _)).meets_bind
        (Program.meets_pure ended)

end Placements

end Checkout

import Checkout.Proofs.Bookkeeping

/-!
# The commit point

Once the cart is shipped the order is settled: it is made up of the order id, the address, what was
gathered before the charge, and the tracking id.  Nothing that finishes the placement has a say in
it, and neither has the end of the request: whatever the placement returns is this order.

It does return, unless it waits for the answer of a call that finishes it.  Only the end of the
request bounds such a call, so that a request which never ends waits as long as the call takes.
-/

set_option autoImplicit false

open scoped List

namespace Checkout

def Order.assemble (id : OrderId) (address : Address) (preparation : Preparation)
    (tracking : String) : Order :=
  ⟨id, tracking, preparation.shippingCost, address, preparation.orderItems⟩

/-! ## What answers tell -/

/-- Lines are known from what was heard while they were priced. -/
theorem lines_eq_of_heard {code : String} {first second : List PricedLine}
    {rest others : List Answered}
    (items : first.map PricedLine.item = second.map PricedLine.item)
    (heard : first.flatMap (PricedLine.heard code) ++ rest =
      second.flatMap (PricedLine.heard code) ++ others) :
    first = second ∧ rest = others := by
  induction first generalizing second with
  | nil =>
      cases second with
      | nil => exact ⟨rfl, heard⟩
      | cons line lines => cases items
  | cons line lines ih =>
      cases second with
      | nil => cases items
      | cons other otherLines =>
          -- Both lines were heard by two answers, at the same places.
          obtain ⟨item_eq, items_eq⟩ := List.cons.inj items
          simp only [List.flatMap_cons, PricedLine.heard, List.cons_append, List.nil_append,
            List.cons.injEq, Answered.mk.injEq] at heard
          obtain ⟨product, cost, heardRest⟩ := heard
          obtain ⟨lines_eq, rest_eq⟩ := ih items_eq heardRest
          have line_eq : line = other := by
            obtain ⟨item, foundProduct, foundCost⟩ := line
            simp_all
          rw [line_eq, lines_eq]
          exact ⟨rfl, rest_eq⟩

/-- What was gathered is known from what was heard. -/
theorem Gathering.preparation_eq_of_heard {user code : String} {address : Address}
    {first second : Gathering} {heard : List Answered}
    (firstHeard : first.heard user code address <+: heard)
    (secondHeard : second.heard user code address <+: heard) :
    first.preparation = second.preparation := by
  obtain ⟨rest, first_eq⟩ := firstHeard
  obtain ⟨others, second_eq⟩ := secondHeard
  have same := first_eq.trans second_eq.symm
  simp only [Gathering.heard, List.cons_append, List.append_assoc, List.cons.injEq] at same
  obtain ⟨cart, same⟩ := same
  have items_eq : first.items = second.items := by
    simpa using cart
  obtain ⟨lines_eq, same⟩ := lines_eq_of_heard items_eq same
  have shippingCost_eq : first.shippingCost = second.shippingCost := by
    simp at same
    exact same.2.1.2
  rw [Gathering.preparation, Gathering.preparation, items_eq, lines_eq, shippingCost_eq]

section Runs

variable {σ : Type} {backend : Backend σ} {trace : TraceContext}

/-- If the shipment was answered with a tracking id, the placement went all the way there, and what
it heard last before it finished is that tracking id. -/
theorem shipped_of_answered {saga : Saga} {request : OrderRequest} {start : Machine σ}
    {address : Address} {items : List CartItem} {tracking : String}
    (shipped : ⟨.shipOrder address items, .ok tracking⟩ ∈
      answers ((saga.place trace request).progress backend trace start).trail) :
    ∃ (id : OrderId) (bill : Bill request) (transaction : String) (later : Machine σ)
      (whole : List Entry) (reported : List Event) (last : Event),
      (backend.orderId start.world).1 = .ok id ∧
      (later.life = .unbounded → start.life = .unbounded) ∧
      (saga.place trace request).progress backend trace start =
        ⟨whole, ((saga.finish trace request (bill.order id tracking)).progress backend trace
          later).reached.map fun (_, machine) => (.ok (bill.order id tracking), machine)⟩ ∧
      FollowedBy whole (bill.shipped transaction tracking) reported
        ((saga.finish trace request (bill.order id tracking)).progress backend trace later)
        last := by
  have called := (saga.place trace request).matched backend trace start _ shipped
  have unprepared : ∀ {request : OrderRequest} (bill : Bill request),
      ⟨.shipOrder address items, .ok tracking⟩ ∈ bill.gathered → False := by
    intro request bill member
    have impossible := bill.gathering.preparatory _ _ _ _ member
    cases impossible
  cases paymentCourse backend trace saga request start with
  | uncharged error? progress preparatory =>
      rw [progress] at called
      have impossible := preparatory _ called
      cases impossible
  | unpaid bill later setback progress shows =>
      rw [progress, shows.answers_eq] at shipped
      rcases List.mem_append.mp shipped with before | there
      · exact False.elim (unprepared bill before)
      · obtain ⟨error, impossible⟩ := setback.isError_of_mem there
        cases impossible
  | unshipped id bill transaction later setback progress shows =>
      rw [progress, shows.answers_eq, Bill.paid, List.append_assoc] at shipped
      rcases List.mem_append.mp shipped with before | there
      · exact False.elim (unprepared bill before)
      · rcases List.mem_append.mp there with charge | there
        · cases List.mem_singleton.mp charge
        · obtain ⟨error, impossible⟩ := setback.isError_of_mem there
          cases impossible
  | @shipped id identified bill transaction given whole finished later bounded finished_eq progress
      account =>
      subst finished_eq
      -- No other answer of this run belongs to a shipment.
      have tracking_eq : tracking = given := by
        rw [progress, account.answers_eq, Bill.shipped, Bill.paid, List.append_assoc,
          List.append_assoc] at shipped
        rcases List.mem_append.mp shipped with before | there
        · exact False.elim (unprepared bill before)
        · rcases List.mem_append.mp there with charge | there
          · cases List.mem_singleton.mp charge
          · rcases List.mem_append.mp there with shipment | finishing
            · cases List.mem_singleton.mp shipment
              rfl
            · have finishes := mem_finish_calls backend trace
                ((saga.finish trace request _).matched backend trace later _ finishing)
              rcases finishes with reset | confirmation
              · cases reset
              · cases confirmation
      subst tracking_eq
      exact ⟨id, bill, transaction, later, whole, _, _, identified, bounded, progress, account⟩

/-- Whether the calls that finish a placement are answered at some time, or end the request. -/
def Backend.Finishes (backend : Backend σ) (request : OrderRequest) (order : Order) : Prop :=
  ∀ caller call world, call.IsFinishing request order → ¬ (backend.call caller call world).IsSilent

/-- A placement returns this order and nothing else, unless its request never ends and the last of
its calls is one of those that finish it and is never answered. -/
structure Commits (backend : Backend σ) (trace : TraceContext) (saga : Saga)
    (request : OrderRequest) (start : Machine σ) (order : Order) : Prop where
  returns (ends : start.life ≠ .unbounded ∨ backend.Finishes request order) :
    ∃ later trail, (saga.place trace request).run backend trace start =
      some ⟨.ok order, later, trail⟩
  value_eq (result : Result σ (Except CheckoutError Order))
    (ran : (saga.place trace request).run backend trace start = some result) :
    result.value = .ok order
  waits (endless : (saga.place trace request).run backend trace start = none) :
    start.life = .unbounded ∧ ∃ (stuck : Machine σ) (call : Call) (before : List Call),
      call.IsFinishing request order ∧ (stuck.reaction backend trace call).IsSilent ∧
      calls ((saga.place trace request).progress backend trace start).trail = before ++ [call]

/-- A placement whose cart is shipped returns the order that the shipment completes. -/
theorem commits_of_answered (flagsReturn : backend.FlagsReturn) {saga : Saga}
    {request : OrderRequest} {start : Machine σ} {address : Address} {items : List CartItem}
    {tracking : String}
    (shipped : ⟨.shipOrder address items, .ok tracking⟩ ∈
      answers ((saga.place trace request).progress backend trace start).trail) :
    ∃ (id : OrderId) (gathering : Gathering), (backend.orderId start.world).1 = .ok id ∧
      gathering.heard request.userId request.currency request.address <+:
        answers ((saga.place trace request).progress backend trace start).trail ∧
      Commits backend trace saga request start
        (.assemble id request.address gathering.preparation tracking) := by
  obtain ⟨id, bill, transaction, later, whole, reported, last, identified, bounded, progress,
    account⟩ := shipped_of_answered shipped
  refine ⟨id, bill.gathering, identified, ?_, ?_⟩
  · rw [progress]
    exact account.gathered_prefix
  · obtain ⟨final, trail, finished⟩ |
        ⟨stuck, call, trail, finishing, silent, unbounded, finished⟩ :=
      finish_cases backend trace saga request (bill.order id tracking) flagsReturn later
    · rw [finished] at progress
      have ran := (Program.run_eq_some_iff backend trace).mpr progress
      refine ⟨fun _ => ⟨final, whole, ran⟩, fun result returned => ?_, fun endless => ?_⟩
      · cases ran.symm.trans returned
        rfl
      · cases ran.symm.trans endless
    · rw [finished] at progress account
      have endless : (saga.place trace request).run backend trace start = none := by
        rw [Program.run_eq_result?, progress]
        rfl
      refine ⟨fun ends => ?_, fun result returned => ?_, fun _ => ⟨bounded unbounded, stuck, call,
        (bill.shipped transaction tracking).map Answered.call ++ calls trail, finishing, silent, ?_⟩⟩
      · rcases ends with ends | finishes
        · exact absurd (bounded unbounded) ends
        · exact absurd silent (finishes _ call _ finishing)
      · cases endless.symm.trans returned
      · rw [progress, account.calls_eq, calls_append, List.append_assoc]
        rfl

end Runs

/-- The shipment is the commit point: the placement commits to an order, which depends on the order
id, the address, what was gathered, and the tracking id alone.  Any other placement in which these
are the same commits to the same order, whoever its collaborators are, whether or not it publishes,
whatever becomes of all that finishes it, and whenever its request ends. -/
theorem shipment_commits {σ : Type} (backend : Backend σ) (trace : TraceContext) (saga : Saga)
    (request : OrderRequest) (start : Machine σ) (address : Address) (items : List CartItem)
    (tracking : String) (flagsReturn : backend.FlagsReturn)
    (shipped : ⟨.shipOrder address items, .ok tracking⟩ ∈
      answers ((saga.place trace request).progress backend trace start).trail) :
    ∃ (id : OrderId) (gathering : Gathering), (backend.orderId start.world).1 = .ok id ∧
      gathering.heard request.userId request.currency request.address <+:
        answers ((saga.place trace request).progress backend trace start).trail ∧
      Commits backend trace saga request start
        (.assemble id request.address gathering.preparation tracking) ∧
      ∀ (τ : Type) (others : Backend τ) (otherTrace : TraceContext) (otherSaga : Saga)
        (otherRequest : OrderRequest) (otherStart : Machine τ) (otherAddress : Address)
        (otherItems : List CartItem) (otherGathering : Gathering),
        others.FlagsReturn →
        (others.orderId otherStart.world).1 = .ok id →
        otherRequest.address = request.address →
        otherGathering.heard otherRequest.userId otherRequest.currency otherRequest.address <+:
          answers ((otherSaga.place otherTrace otherRequest).progress others otherTrace
            otherStart).trail →
        otherGathering.preparation = gathering.preparation →
        ⟨.shipOrder otherAddress otherItems, .ok tracking⟩ ∈
          answers ((otherSaga.place otherTrace otherRequest).progress others otherTrace
            otherStart).trail →
        Commits others otherTrace otherSaga otherRequest otherStart
          (.assemble id request.address gathering.preparation tracking) := by
  obtain ⟨id, gathering, identified, heard, commits⟩ := commits_of_answered flagsReturn shipped
  refine ⟨id, gathering, identified, heard, commits, ?_⟩
  intro τ others otherTrace otherSaga otherRequest otherStart otherAddress otherItems otherGathering
    otherFlags otherIdentified same_address otherHeard same_preparation otherShipped
  obtain ⟨otherId, found, foundId, foundHeard, otherCommits⟩ :=
    commits_of_answered otherFlags otherShipped
  have id_eq : otherId = id := by
    rw [otherIdentified] at foundId
    cases foundId
    rfl
  have preparation_eq : found.preparation = gathering.preparation :=
    (Gathering.preparation_eq_of_heard foundHeard otherHeard).trans same_preparation
  rwa [id_eq, same_address, preparation_eq] at otherCommits

namespace Sample

def endless : Machine (List Money) := ⟨0, .unbounded, []⟩

def taciturn : Backend (List Money) :=
  { bookkeeping price cart 0 true with
    call := fun caller call book =>
      match call with
      | .sendConfirmation _ _ => ⟨book, false, none, fun book => (.ok (), book)⟩
      | call => (bookkeeping price cart 0 true).call caller call book }

end Sample

/-- A placement in 31 milliseconds that publishes nothing, and one without a deadline that does. -/
theorem shipment_commits_with_publisher :
    ∃ order,
      (∃ later trail, (Sample.saga.place Sample.trace Sample.request).run
        (bookkeeping Sample.price Sample.cart 0 true) Sample.trace Sample.start =
          some ⟨.ok order, later, trail⟩) ∧
      ∃ later trail, (Saga.place ⟨some ⟨"orders", 5000⟩, false⟩ Sample.trace Sample.request).run
        (bookkeeping Sample.price Sample.cart 50 true) Sample.trace Sample.endless =
          some ⟨.ok order, later, trail⟩ := by
  have flagsReturn : ∀ delay, (bookkeeping Sample.price Sample.cart delay true).FlagsReturn :=
    fun delay caller kind flag book => Option.some_ne_none 0
  have shipped : ⟨.shipOrder .blank Sample.cart, .ok "parcel"⟩ ∈
      answers ((Sample.saga.place Sample.trace Sample.request).progress
        (bookkeeping Sample.price Sample.cart 0 true) Sample.trace Sample.start).trail :=
    List.mem_of_getElem? (rfl : _[6]? = _)
  obtain ⟨id, gathering, identified, heard, commits, same⟩ := shipment_commits
    (bookkeeping Sample.price Sample.cart 0 true) Sample.trace Sample.saga Sample.request
    Sample.start .blank Sample.cart "parcel" (flagsReturn 0) shipped
  have gathered : Sample.gathering.heard "user" "USD" .blank <+:
      answers ((Sample.saga.place Sample.trace Sample.request).progress
        (bookkeeping Sample.price Sample.cart 0 true) Sample.trace Sample.start).trail :=
    ⟨_, rfl⟩
  have published := same (List Money) (bookkeeping Sample.price Sample.cart 50 true) Sample.trace
    ⟨some ⟨"orders", 5000⟩, false⟩ Sample.request Sample.endless .blank Sample.cart
    Sample.gathering (flagsReturn 50) identified rfl ⟨_, rfl⟩
    (Gathering.preparation_eq_of_heard gathered heard) (List.mem_of_getElem? (rfl : _[6]? = _))
  refine ⟨_, commits.returns (Or.inl nofun), published.returns (Or.inr ?_)⟩
  rintro caller call book (rfl | rfl) silent
  · cases silent.never
  · cases silent.never

/-- A cart that is shipped for a request without a deadline, and a confirmation that is never
acknowledged: the placement does not return, although every flag does. -/
theorem shipped_order_not_returned :
    Sample.taciturn.FlagsReturn ∧
    ⟨.shipOrder .blank Sample.cart, .ok "parcel"⟩ ∈
      answers ((Sample.saga.place Sample.trace Sample.request).progress Sample.taciturn Sample.trace
        Sample.endless).trail ∧
    (Sample.saga.place Sample.trace Sample.request).run Sample.taciturn Sample.trace
      Sample.endless = none :=
  ⟨fun _ _ _ _ => Option.some_ne_none 0, List.mem_of_getElem? (rfl : _[6]? = _), rfl⟩

end Checkout

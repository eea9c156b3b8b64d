import Checkout.Http.Collaborators
import Checkout.Proofs.EndedContexts
import Checkout.Proofs.JsonBytes
import Checkout.Proofs.JsonForms

/-!
# Statuses of answered requests

A request for a placement is at fault, or it is placed.  Which of the two depends on its headers and
its body alone, and a request at fault calls nobody.  The status of the answer to any other request
tells what has become of the charge and the shipment, as these calls themselves were answered.
-/

set_option autoImplicit false

open scoped List

namespace Checkout

/-! ## What becomes of the charge and the shipment -/

def Call.isShipment : Call → Bool
  | .shipOrder .. => true
  | _ => false

def Charged (trail : List Entry) : Prop :=
  ∃ answered ∈ answers trail, answered.isCharged = true

/-- The shipment has failed: a call for it has, or none was made since the request was over. -/
inductive ShipmentFailed {σ : Type} (trail : List Entry) (later : Machine σ) : Prop where
  | failed (address : Address) (items : List CartItem) (error : ServiceError)
      (heard : ⟨.shipOrder address items, .error error⟩ ∈ answers trail)
  | unmade (reason : ContextError) (unmade : ∀ call ∈ calls trail, call.isShipment = false)
      (ended : later.life.error? later.now = some reason)

/-- What a placement that has ended with a result made of the charge and the shipment. -/
inductive Fate {σ : Type} (trail : List Entry) (later : Machine σ) :
    Except CheckoutError Order → Prop where
  | shipped {order : Order} (charged : Charged trail) (shipped : Shipped trail)
      (unfailed : ¬ ShipmentFailed trail later) : Fate trail later (.ok order)
  | unshipped {error : CheckoutError} (post : error.isPostPayment = true)
      (charged : Charged trail) (unshipped : ¬ Shipped trail)
      (failed : ShipmentFailed trail later) : Fate trail later (.error error)
  | uncharged {error : CheckoutError} (pre : error.isPostPayment = false)
      (uncharged : ¬ Charged trail) (unmade : ∀ call ∈ calls trail, call.isShipment = false) :
      Fate trail later (.error error)

theorem Call.isShipment_of_isPreparatory {call : Call} (preparatory : call.isPreparatory = true) :
    call.isShipment = false := by
  cases call with
  | shipOrder address items => cases preparatory
  | _ => rfl

theorem charged_iff {trail : List Entry} :
    Charged trail ↔ (answers trail).any Answered.isCharged = true :=
  List.any_eq_true.symm

theorem shipped_iff {trail : List Entry} :
    Shipped trail ↔ (answers trail).any Answered.isShipped = true :=
  List.any_eq_true.symm

namespace Bill

variable {request : OrderRequest} (bill : Bill request) {call : Call}

theorem isShipment_charging (member : call ∈ bill.gathered.map Answered.call ++ [bill.charge]) :
    call.isShipment = false := by
  rcases List.mem_append.mp member with before | charge
  · exact Call.isShipment_of_isPreparatory ((bill.gathering.preparatory _ _ _).calls call before)
  · rw [List.mem_singleton.mp charge]
    rfl

/-- Nothing has failed when a bill is paid. -/
theorem error_not_mem_paid {transaction : String} {error : ServiceError} :
    ⟨call, .error error⟩ ∉ bill.paid transaction := by
  intro member
  rw [paid] at member
  rcases List.mem_append.mp member with before | charge
  · simp only [gathered, Gathering.heard, PricedLine.heard, List.cons_append, List.mem_cons,
      List.mem_append, List.mem_flatMap, Answered.mk.injEq, List.not_mem_nil, or_false] at before
    rcases before with ⟨rfl, same⟩ | ⟨line, _, ⟨rfl, same⟩ | ⟨rfl, same⟩⟩ | ⟨rfl, same⟩ |
      ⟨rfl, same⟩
    all_goals cases same
  · cases List.mem_singleton.mp charge

end Bill

theorem Progress.eq_of_map {σ α β : Type} {whole trail : List Entry} {value? : Option α}
    {made : α → β × Machine σ} {ended : β × Machine σ}
    (same : (⟨whole, value?.map made⟩ : Progress σ β) = ⟨trail, some ended⟩) :
    trail = whole ∧ ∃ value, value? = some value ∧ made value = ended :=
  ⟨congrArg Progress.trail same.symm, Option.map_eq_some_iff.mp (congrArg Progress.reached same)⟩

section Runs

variable {σ : Type} {backend : Backend σ} {trace : TraceContext} {saga : Saga}
  {request : OrderRequest} {start later : Machine σ} {result : Except CheckoutError Order}
  {trail : List Entry}

/-- An error that aborts a placement before the charge has succeeded does not come from after it. -/
theorem isPostPayment_of_uncharged {error : CheckoutError}
    (progress : (saga.place trace request).progress backend trace start =
      ⟨trail, some (.error error, later)⟩)
    (uncharged : ¬ Charged trail) : error.isPostPayment = false := by
  have agrees := (placingCourse backend trace saga request start).agreesIn Metrics.zero
  rw [AgreesIn, progress] at agrees
  have state := (agrees.aborted error rfl).1
  rw [charged_iff, Bool.not_eq_true] at uncharged
  rw [stage, uncharged] at state
  cases error with
  | shippingFailed source =>
      cases total : (events trail).any Event.isTotal with
      | false => simp [CheckoutError.failedState, total] at state
      | true => simp [CheckoutError.failedState, total] at state
  | _ => rfl

/-- A shipment that meets a setback after the charge has failed. -/
theorem shipmentFailed_of_setback (bill : Bill request) {transaction : String}
    {error : ServiceError} {made : List Call} {answered : List Answered}
    (setback : Setback bill.shipment (some error) made answered)
    (progress : (saga.place trace request).progress backend trace start =
      ⟨trail, some (.error (.shippingFailed error), later)⟩)
    (calls_eq : calls trail = (bill.paid transaction).map Answered.call ++ made)
    (answers_eq : answers trail = bill.paid transaction ++ answered) :
    ShipmentFailed trail later := by
  cases setback with
  | failed error =>
      refine .failed request.address bill.gathering.items error ?_
      rw [answers_eq]
      exact List.mem_append_right _ (List.mem_singleton.mpr rfl)
  | refused reason =>
      rw [List.append_nil] at calls_eq answers_eq
      have unrefused : ¬ Refused trail := fun refused => by
        obtain ⟨call, error, heard⟩ := refused.heard
        rw [answers_eq] at heard
        exact bill.error_not_mem_paid heard
      refine .unmade reason (fun call member => ?_) ?_
      · rw [calls_eq, Bill.paid, List.map_append] at member
        exact bill.isShipment_charging member
      · have truthful := truthful_place saga request start _ later trail reason progress rfl
        exact truthful.resolve_left unrefused

theorem not_shipmentFailed_of_shipped (bill : Bill request) {transaction tracking : String}
    {order : Order} {between : Machine σ} {reported : List Event} {last : Event}
    (account : FollowedBy trail (bill.shipped transaction tracking) reported
      ((saga.finish trace request order).progress backend trace between) last) :
    ¬ ShipmentFailed trail later := by
  rintro (⟨address, items, error, heard⟩ | ⟨reason, unmade, ended⟩)
  · rw [account.answers_eq, Bill.shipped] at heard
    rcases List.mem_append.mp heard with before | finishing
    · rcases List.mem_append.mp before with paid | shipment
      · exact bill.error_not_mem_paid paid
      · cases List.mem_singleton.mp shipment
    · have called := (saga.finish trace request order).matched backend trace between _ finishing
      rcases mem_finish_calls backend trace called with reset | confirmation
      · cases reset
      · cases confirmation
  · have shipment := unmade bill.shipment (by simp [account.calls_eq, Bill.shipped])
    cases shipment

theorem fate_of_place
    (progress : (saga.place trace request).progress backend trace start =
      ⟨trail, some (result, later)⟩) : Fate trail later result := by
  cases paymentCourse backend trace saga request start with
  | uncharged error? made preparatory =>
      obtain ⟨rfl, error, rfl, same⟩ := Progress.eq_of_map (made.symm.trans progress)
      cases same
      have matched := (saga.place trace request).matched backend trace start
      rw [progress] at matched
      have early : Preparatory (answers trail) := fun answered heard =>
        preparatory _ (matched answered heard)
      have uncharged : ¬ Charged trail := by
        rw [charged_iff, early.any_eq_false.1]
        exact Bool.false_ne_true
      exact .uncharged (isPostPayment_of_uncharged progress uncharged) uncharged
        fun call member => Call.isShipment_of_isPreparatory (preparatory call member)
  | unpaid bill last setback made shows =>
      obtain ⟨rfl, error, rfl, same⟩ := Progress.eq_of_map (made.symm.trans progress)
      cases same
      refine .uncharged rfl ?_ fun call member => ?_
      · rw [charged_iff, shows.answers_eq, List.any_append, bill.any_gathered.1,
          setback.any_eq_false.1]
        exact Bool.false_ne_true
      · rw [shows.calls_eq] at member
        refine bill.isShipment_charging (List.mem_append.mpr ?_)
        exact (List.mem_append.mp member).imp_right fun there =>
          List.mem_singleton.mpr (setback.mem_made there)
  | unshipped id bill transaction last setback made shows =>
      obtain ⟨rfl, error, rfl, same⟩ := Progress.eq_of_map (made.symm.trans progress)
      cases same
      obtain ⟨charged, lost⟩ := bill.isLost_paid transaction setback
      rw [isLost, charged, Bool.true_and, Bool.not_eq_true'] at lost
      refine .unshipped rfl ?_ ?_
        (shipmentFailed_of_setback bill setback progress shows.calls_eq shows.answers_eq)
      · rw [charged_iff, shows.answers_eq, charged]
      · rw [shipped_iff, shows.answers_eq, lost]
        exact Bool.false_ne_true
  | shipped id identified bill transaction tracking bounded finished_eq made account =>
      subst finished_eq
      obtain ⟨rfl, pair, _, same⟩ := Progress.eq_of_map (made.symm.trans progress)
      cases same
      refine .shipped ⟨⟨bill.charge, .ok transaction⟩, ?_, rfl⟩ (shipped_of_ok progress)
        (not_shipmentFailed_of_shipped bill account)
      rw [account.answers_eq]
      simp [Bill.shipped, Bill.paid]

end Runs

namespace Http

/-! ## Requests at fault -/

structure Accepts (request : Request) (order : OrderRequest) : Prop where
  declared : Service.declaresJson request = true
  fits : request.body.length ≤ bodyLimit
  read : Json.decodeBytes OrderRequest.ofJson request.body = .ok order
  named : ∃ c ∈ order.userId.toList, Text.isBlank c = false
  priced : order.currency.toList.length = 3 ∧ ∀ c ∈ order.currency.toList, c.isAlpha = true

theorem isBlankText_eq_false_iff (text : String) :
    Text.isBlankText text = false ↔ ∃ c ∈ text.toList, Text.isBlank c = false := by
  simp [Text.isBlankText]

theorem isCurrencyCode_iff (text : String) :
    isCurrencyCode text = true ↔
      text.toList.length = 3 ∧ ∀ c ∈ text.toList, c.isAlpha = true := by
  simp [isCurrencyCode]

namespace Service

theorem readOrderRequest_eq_ok_iff (request : Request) (order : OrderRequest) :
    readOrderRequest request = .ok order ↔ declaresJson request = true ∧
      request.body.length ≤ bodyLimit ∧
      Json.decodeBytes OrderRequest.ofJson request.body = .ok order := by
  rw [readOrderRequest]
  cases declaresJson request with
  | false => simp
  | true =>
      by_cases fits : request.body.length ≤ bodyLimit
      · rw [if_pos rfl, if_pos fits]
        cases Json.decodeBytes OrderRequest.ofJson request.body with
        | ok read => simp [Except.mapError, fits]
        | error fault => simp [Except.mapError]
      · rw [if_pos rfl, if_neg fits]
        simp [fits]

theorem validate_cases (order : OrderRequest) :
    (Text.isBlankText order.userId = false ∧ isCurrencyCode order.currency = true ∧
      validate order = .ok order) ∨
    (Text.isBlankText order.userId = false → isCurrencyCode order.currency = false) ∧
      ∃ reason, validate order = .error (.badRequest reason) := by
  rw [validate]
  cases Text.isBlankText order.userId with
  | true => exact Or.inr ⟨nofun, _, rfl⟩
  | false =>
      cases isCurrencyCode order.currency with
      | true => exact Or.inl ⟨rfl, rfl, rfl⟩
      | false => exact Or.inr ⟨fun _ => rfl, _, rfl⟩

/-- A request is at fault, or it holds an order request that is placed. -/
theorem placeOrder_cases (configured : Nat) (request : Request) :
    (∃ order, Accepts request order ∧ placeOrder configured request =
      .ok (.place order (TraceContext.extract? request.header?) (timeout configured request))) ∨
    (∀ order, ¬ Accepts request order) ∧
      ∃ reason, placeOrder configured request = .error (.badRequest reason) := by
  rw [placeOrder]
  cases found : readOrderRequest request with
  | error rejection =>
      refine Or.inr ⟨fun order accepts => ?_, rejection.message, rfl⟩
      have read := (readOrderRequest_eq_ok_iff request order).mpr
        ⟨accepts.declared, accepts.fits, accepts.read⟩
      cases found.symm.trans read
  | ok order =>
      obtain ⟨declared, fits, read⟩ := (readOrderRequest_eq_ok_iff request order).mp found
      obtain ⟨named, priced, valid⟩ | ⟨invalid, reason, refused⟩ := validate_cases order
      · refine Or.inl ⟨order, ⟨declared, fits, read, (isBlankText_eq_false_iff _).mp named,
          (isCurrencyCode_iff _).mp priced⟩, ?_⟩
        simp only [Except.mapError, bind, Except.bind, valid, pure, Except.pure]
      · refine Or.inr ⟨fun other accepts => ?_, reason, ?_⟩
        · -- What is read from the body is the request that was found wanting.
          cases read.symm.trans accepts.read
          have priced := invalid ((isBlankText_eq_false_iff _).mpr accepts.named)
          rw [(isCurrencyCode_iff _).mpr accepts.priced] at priced
          cases priced
        · simp only [Except.mapError, bind, Except.bind, refused]

variable (counters : Option Metrics) (configured : Nat) {request : Request}

theorem route_placeOrder (method : request.method = "POST") (path : request.path = "/place_order") :
    route counters configured request = serve counters configured request .placeOrder := by
  rw [route, path, method]
  rfl

end Service

def traceOf (fresh : TraceContext) (request : Request) : TraceContext :=
  (TraceContext.extract? request.header?).getD fresh

def arrival {σ : Type} (configured : Nat) (request : Request) (now : Instant) (world : σ) :
    Machine σ :=
  ⟨now, ⟨none, some (now + Service.timeout configured request)⟩, world⟩

section Answers

variable {σ : Type} (backend : Backend σ) (saga : Saga) (counters : Option Metrics)
  (configured : Nat) (fresh : TraceContext) {request : Request} (now : Instant) (world : σ)

theorem status_complete (method : request.method = "POST") (response : Response) :
    (Service.complete request response).status = response.status := by
  rw [Service.complete, method]
  rfl

theorem content_complete (method : request.method = "POST") (response : Response) :
    (Service.complete request response).content = response.content := by
  rw [Service.complete, method]
  rfl

theorem status_placed (result : Except CheckoutError Order) :
    (Service.placed result).status =
      match result with
      | .ok _ => 200
      | .error error => if error.isPostPayment then 503 else 500 := by
  cases result <;> rfl

variable (method : request.method = "POST") (path : request.path = "/place_order")

include method path

theorem serve_of_accepts {order : OrderRequest} (accepts : Accepts request order) :
    serve backend saga counters configured fresh request now world =
      ((saga.place (traceOf fresh request) order).run backend (traceOf fresh request)
        (arrival configured request now world)).map fun result =>
          ⟨Service.complete request (Service.placed result.value), result.machine,
            result.trail⟩ := by
  obtain ⟨other, found, placing⟩ | ⟨refused, _⟩ := Service.placeOrder_cases configured request
  · cases found.read.symm.trans accepts.read
    rw [serve, Service.route_placeOrder counters configured method path, Service.serve, placing]
    simp only [traceOf, arrival]
    cases (saga.place ((TraceContext.extract? request.header?).getD fresh) order).run backend
      ((TraceContext.extract? request.header?).getD fresh)
      ⟨now, ⟨none, some (now + Service.timeout configured request)⟩, world⟩ with
    | none => rfl
    | some result => rfl
  · exact absurd accepts (refused order)

theorem serve_of_not_accepts (refused : ∀ order, ¬ Accepts request order) :
    ∃ reason, serve backend saga counters configured fresh request now world =
      some ⟨Service.complete request (ApiError.badRequest reason).response,
        ⟨now, .unbounded, world⟩, []⟩ := by
  obtain ⟨order, accepts, _⟩ | ⟨_, reason, placing⟩ :=
    Service.placeOrder_cases configured request
  · exact absurd accepts (refused order)
  · refine ⟨reason, ?_⟩
    rw [serve, Service.route_placeOrder counters configured method path, Service.serve, placing]

end Answers

/-- The status of an answer tells what became of the charge and the shipment. -/
structure Tells {σ : Type} (response : Response) (trail : List Entry) (later : Machine σ) :
    Prop where
  placed_iff : response.status = 200 ↔ Charged trail ∧ Shipped trail
  unshipped_iff : response.status = 503 ↔ Charged trail ∧ ShipmentFailed trail later
  other_iff : response.status = 500 ↔
    ¬ (Charged trail ∧ Shipped trail) ∧ ¬ (Charged trail ∧ ShipmentFailed trail later)
  unmade : response.status = 500 → ∀ call ∈ calls trail, call.isShipment = false

theorem tells_of_fate {σ : Type} {result : Except CheckoutError Order} {trail : List Entry}
    {later : Machine σ} {response : Response} (fate : Fate trail later result)
    (status : response.status = (Service.placed result).status) :
    response.status ≠ 400 ∧ Tells response trail later := by
  rw [status_placed] at status
  cases fate with
  | shipped charged shipped unfailed =>
      refine ⟨by simp [status], ?_, ?_, ?_, ?_⟩ <;> simp [status, charged, shipped, unfailed]
  | unshipped post charged unshipped failed =>
      simp only [post, if_true] at status
      refine ⟨by simp [status], ?_, ?_, ?_, ?_⟩ <;> simp [status, charged, unshipped, failed]
  | uncharged pre uncharged unmade =>
      simp only [pre, Bool.false_eq_true, if_false] at status
      refine ⟨by simp [status], ?_, ?_, ?_, fun _ => unmade⟩ <;> simp [status, uncharged]

/-- The status of an answer tells the truth about the order. -/
theorem statuses_tell {σ : Type} (backend : Backend σ) (saga : Saga) (counters : Option Metrics)
    (configured : Nat) (fresh : TraceContext) (request : Request) (now : Instant) (world : σ)
    (method : request.method = "POST") (path : request.path = "/place_order") :
    (backend.FlagsReturn → serve backend saga counters configured fresh request now world ≠ none) ∧
    ∀ response later trail, serve backend saga counters configured fresh request now world =
        some ⟨response, later, trail⟩ →
      (response.status = 400 ↔ ∀ order, ¬ Accepts request order) ∧
      ((∀ order, ¬ Accepts request order) → trail = [] ∧ later.world = world ∧
        ∀ metrics : Metrics, metrics.countAll (events trail) = metrics) ∧
      ∀ order, Accepts request order →
        Tells response trail later ∧
        (response.status = 200 → ∃ placed,
          (saga.place (traceOf fresh request) order).run backend (traceOf fresh request)
            (arrival configured request now world) = some ⟨.ok placed, later, trail⟩ ∧
          response.content = .json (.record [("order", placed.toJson)])) := by
  by_cases accepted : ∃ order, Accepts request order
  · obtain ⟨order, accepts⟩ := accepted
    rw [serve_of_accepts backend saga counters configured fresh now world method path accepts]
    refine ⟨fun flagsReturn => ?_, ?_⟩
    · obtain ⟨result, later, trail, made⟩ | ⟨_, _, _, _, _, unbounded, _⟩ :=
        Program.run_cases backend (traceOf fresh request)
          (saga.place (traceOf fresh request) order).asks_any flagsReturn
          (arrival configured request now world)
      · rw [(Program.run_eq_some_iff backend _).mpr made]
        nofun
      · cases unbounded
    · intro response later trail served
      obtain ⟨⟨result, machine, made⟩, ran, same⟩ := Option.map_eq_some_iff.mp served
      cases same
      have fate := fate_of_place ((Program.run_eq_some_iff backend _).mp ran)
      obtain ⟨status_ne, tells⟩ := tells_of_fate fate
        (status_complete method (Service.placed result))
      refine ⟨iff_of_false status_ne fun refused => refused order accepts,
        fun refused => absurd accepts (refused order), fun other accepts' => ⟨tells, fun ok => ?_⟩⟩
      cases accepts.read.symm.trans accepts'.read
      rw [status_complete method, status_placed] at ok
      cases result with
      | ok placed => exact ⟨placed, ran, content_complete method _⟩
      | error error =>
          simp only at ok
          split at ok <;> cases ok
  · have refused : ∀ order, ¬ Accepts request order := not_exists.mp accepted
    obtain ⟨reason, served⟩ :=
      serve_of_not_accepts backend saga counters configured fresh now world method path refused
    rw [served]
    refine ⟨nofun, ?_⟩
    intro response later trail same
    cases same
    exact ⟨iff_of_true (status_complete method _) refused, fun _ => ⟨rfl, rfl, fun _ => rfl⟩,
      fun order accepts => absurd accepts (refused order)⟩

def Sample.posted : Request where
  method := "POST"
  target := "/place_order"
  headers := [("content-type", "application/json")]
  body := Text.utf8 Sample.request.toJson.text

theorem Sample.accepts_posted : Accepts Sample.posted Sample.request where
  declared := by decide
  fits := by decide +kernel
  read := by
    rw [posted, Json.decodeBytes_utf8]
    exact Form.decodeText_text .orderRequest Sample.request
  named := (isBlankText_eq_false_iff _).mp rfl
  priced := (isCurrencyCode_iff _).mp rfl

theorem statuses_tell_of_lost_parcel :
    ∃ response later trail,
      serve (bookkeeping Sample.price Sample.cart 0 false) Sample.saga none 5000 Sample.trace
        Sample.posted 0 [] = some ⟨response, later, trail⟩ ∧
      response.status = 503 ∧ Charged trail ∧ ShipmentFailed trail later := by
  obtain ⟨returns, answers⟩ := statuses_tell (bookkeeping Sample.price Sample.cart 0 false)
    Sample.saga none 5000 Sample.trace Sample.posted 0 [] rfl (by decide)
  have flagsReturn : (bookkeeping Sample.price Sample.cart 0 false).FlagsReturn :=
    fun _ _ _ _ => nofun
  obtain ⟨⟨response, later, trail⟩, served⟩ := Option.ne_none_iff_exists'.mp (returns flagsReturn)
  have status : (serve (bookkeeping Sample.price Sample.cart 0 false) Sample.saga none 5000
      Sample.trace Sample.posted 0 []).map (fun result => result.value.status) = some 503 := by
    rw [serve_of_accepts _ _ _ _ _ _ _ rfl (by decide) Sample.accepts_posted]
    rfl
  rw [served] at status
  obtain ⟨tells, _⟩ :=
    (answers response later trail served).2.2 Sample.request Sample.accepts_posted
  have lost := Option.some.inj status
  exact ⟨response, later, trail, served, lost, tells.unshipped_iff.mp lost⟩

end Http

end Checkout

import Checkout.Proofs.Preparing

/-!
# The course of a placement

How a placement as a whole can go: it gets no order id, stops while it prepares, cannot add up the
total, waits for a flag for ever, stops at the charge, stops at the shipment, or ships the cart and
goes on to what cannot abort it any more.  Each way comes with what was heard and noted until then.
All properties of placements that are about the order of calls, the amounts, the errors and the
events are read off from these ways.
-/

set_option autoImplicit false

namespace Checkout

/-- What a question for a flag may note. -/
def FlagReport (flag : String) (reported : List Event) : Prop :=
  reported = [] ∨ ∃ error, reported = [.flagDefaulted flag error]

/-- The endpoint that is charged and what is noted while it is chosen. -/
inductive Diversion : Endpoint → List Event → Prop where
  | primary {reported : List Event} (report : FlagReport Flags.paymentUnreachable reported) :
      Diversion .primary reported
  | unreachable : Diversion .unreachable [.paymentDiverted]

/-- A charge that is about to be made, and all that led to it. -/
structure Bill (request : OrderRequest) where
  gathering : Gathering
  total : Money
  endpoint : Endpoint
  flagged : List Event
  total_eq : gathering.preparation.total request.currency = .ok total
  diverted : Diversion endpoint flagged

namespace Bill

variable {request : OrderRequest} (bill : Bill request)

def charge : Call := .charge bill.endpoint bill.total request.card

def shipment : Call := .shipOrder request.address bill.gathering.items

def gathered : List Answered :=
  bill.gathering.heard request.userId request.currency request.address

def paid (transaction : String) : List Answered :=
  bill.gathered ++ [⟨bill.charge, .ok transaction⟩]

def shipped (transaction tracking : String) : List Answered :=
  bill.paid transaction ++ [⟨bill.shipment, .ok tracking⟩]

def charging : List Event :=
  [.prepared bill.gathering.lines.length bill.gathering.shippingCost, .totalComputed bill.total,
    .moved .preparing .paying] ++ bill.flagged

def shipping (transaction : String) : List Event :=
  bill.charging ++ [.charged transaction, .moved .paying .shipping]

def order (id : OrderId) (tracking : String) : Order :=
  ⟨id, tracking, bill.gathering.shippingCost, request.address,
    bill.gathering.preparation.orderItems⟩

end Bill

section Steps

variable {σ : Type} (backend : Backend σ) (trace : TraceContext)

theorem orderId_progress (machine : Machine σ) :
    Program.progress backend trace Attempt.orderId.run machine =
      ⟨[], some ((backend.orderId machine.world).1.mapError .identityGenerationFailed,
        { machine with world := (backend.orderId machine.world).2 })⟩ :=
  rfl

/-- A flag has a value, or its backend keeps the placement waiting. -/
theorem flag_cases (enabled : Bool) (kind : FlagKind) (flag : String) (machine : Machine σ) :
    (∃ value later trail reported,
      (Program.flag enabled kind flag).progress backend trace machine =
        ⟨trail, some (value, later)⟩ ∧
      Shows trail [] [] reported ∧ FlagReport flag reported ∧
      (reported ≠ [] → value = kind.default)) ∨
      ∃ trail, (Program.flag enabled kind flag).progress backend trace machine = ⟨trail, none⟩ ∧
        Shows trail [] [] [] ∧ (machine.flagReaction backend trace kind flag).delay = none := by
  cases enabled with
  | false =>
      exact Or.inl ⟨kind.default, machine, [], [], rfl, Shows.nil, Or.inl rfl, fun _ => rfl⟩
  | true =>
      have progress : (Program.flag true kind flag).progress backend trace machine = _ :=
        Program.progress_bind backend trace (Program.query (.flag kind flag)) _ machine
      rw [Program.progress_query] at progress
      cases machine.flagCourse backend trace kind flag with
      | answered answer length later took answer_eq now_eq life_eq made =>
          rw [made] at progress
          cases answer with
          | ok value =>
              exact Or.inl ⟨value, later, [⟨machine.now, .asked kind flag⟩], [], progress,
                ⟨rfl, rfl, rfl, rfl⟩, Or.inl rfl, fun reported => absurd rfl reported⟩
          | error error =>
              exact Or.inl ⟨kind.default, later,
                [⟨machine.now, .asked kind flag⟩, ⟨later.now, .noted (.flagDefaulted flag error)⟩],
                [.flagDefaulted flag error], progress, ⟨rfl, rfl, rfl, rfl⟩,
                Or.inr ⟨error, rfl⟩, fun _ => rfl⟩
      | endless silent made =>
          rw [made] at progress
          exact Or.inr ⟨_, progress, ⟨rfl, rfl, rfl, rfl⟩, silent⟩

theorem chooseEndpoint_cases (saga : Saga) (machine : Machine σ) :
    (∃ endpoint later trail reported,
      saga.chooseEndpoint.progress backend trace machine = ⟨trail, some (endpoint, later)⟩ ∧
      Shows trail [] [] reported ∧ Diversion endpoint reported) ∨
      ∃ trail, saga.chooseEndpoint.progress backend trace machine = ⟨trail, none⟩ ∧
        Shows trail [] [] [] := by
  have progress : saga.chooseEndpoint.progress backend trace machine = _ :=
    Program.progress_bind backend trace
      (Program.flag saga.flagsEnabled .boolean Flags.paymentUnreachable) _ machine
  obtain ⟨value, later, trail, reported, flagged, shows, report, defaulted⟩ |
      ⟨trail, waits, shows, silent⟩ :=
    flag_cases backend trace saga.flagsEnabled .boolean Flags.paymentUnreachable machine
  · rw [flagged] at progress
    cases value with
    | false =>
        refine Or.inl ⟨.primary, later, trail ++ [], reported, progress, ?_, .primary report⟩
        simpa using shows
    | true =>
        -- A flag that was not answered counts as off, so nothing was noted about this one.
        have unreported : reported = [] := by
          cases reported with
          | nil => rfl
          | cons event rest => exact Bool.noConfusion (defaulted (List.cons_ne_nil event rest))
        subst unreported
        let entry : Entry := ⟨later.now, .noted .paymentDiverted⟩
        exact Or.inl ⟨.unreachable, later, trail ++ [entry], [.paymentDiverted], progress,
          shows.append (Shows.noted later.now .paymentDiverted), .unreachable⟩
  · rw [waits] at progress
    exact Or.inr ⟨trail, progress, shows⟩

/-- The bill is paid, the run stops at its charge, or a flag keeps the placement waiting. -/
theorem charge_cases (saga : Saga) (total : Money) (card : Card) (machine : Machine σ) :
    (∃ endpoint flagged transaction later, Diversion endpoint flagged ∧
      (saga.charge total card).Hears backend trace machine transaction later
        [⟨.charge endpoint total card, .ok transaction⟩] (flagged ++ [.charged transaction])) ∨
      (∃ endpoint flagged, Diversion endpoint flagged ∧
        (saga.charge total card).StopsAt backend trace machine [] flagged
          (.charge endpoint total card) .paymentDeclined) ∨
      (saga.charge total card).Quits backend trace machine none [] [] := by
  obtain ⟨endpoint, chosen, trail, flagged, choice, shows, diverted⟩ | ⟨trail, waits, shows⟩ :=
    chooseEndpoint_cases backend trace saga machine
  · have decided : (Attempt.perform saga.chooseEndpoint).Hears backend trace machine endpoint
        chosen [] flagged :=
      ⟨trail, Attempt.succeeds_perform choice, shows⟩
    obtain ⟨transaction, later, heard⟩ | stopped :=
      Attempt.call_cases backend trace (.charge endpoint total card) .paymentDeclined chosen
    · refine Or.inl ⟨endpoint, flagged, transaction, later, diverted, ?_⟩
      exact Attempt.hears_bind decided (Attempt.hears_bind heard (Attempt.hears_bind
        (Attempt.hears_note _ later) (Attempt.hears_pure _ later)))
    · refine Or.inr (Or.inl ⟨endpoint, flagged, diverted, ?_⟩)
      exact (Attempt.continues_bind decided).stopsAt_next (Attempt.stopsAt_bind stopped)
  · refine Or.inr (Or.inr (Attempt.quits_bind ⟨trail, Attempt.halts_perform waits, shows⟩))

theorem ship_cases (address : Address) (items : List CartItem) (machine : Machine σ) :
    (∃ tracking later, (Saga.ship address items).Hears backend trace machine tracking later
      [⟨.shipOrder address items, .ok tracking⟩] [.shipped tracking]) ∨
      (Saga.ship address items).StopsAt backend trace machine [] [] (.shipOrder address items)
        .shippingFailed := by
  obtain ⟨tracking, later, heard⟩ | stopped :=
    Attempt.call_cases backend trace (.shipOrder address items) .shippingFailed machine
  · exact Or.inl ⟨tracking, later, Attempt.hears_bind heard (Attempt.hears_bind
      (Attempt.hears_note _ later) (Attempt.hears_pure _ later))⟩
  · exact Or.inr (Attempt.stopsAt_bind stopped)

/-- The paid cart is shipped; otherwise the failure, if there is one, is noted with the charge. -/
theorem shipPaid_cases (id : OrderId) (transaction : String) (total : Money) (address : Address)
    (items : List CartItem) (machine : Machine σ) :
    (∃ tracking later, (Saga.shipPaid id transaction total address items).Hears backend trace
      machine tracking later [⟨.shipOrder address items, .ok tracking⟩] [.shipped tracking]) ∨
      ∃ error? made answered trail, Setback (.shipOrder address items) error? made answered ∧
        (Saga.shipPaid id transaction total address items).Halts backend trace machine
          (error?.map .shippingFailed) trail ∧
        Shows trail made answered (error?.toList.map fun error =>
          .paidUnshipped id transaction total (.shippingFailed error)) := by
  have progress : Program.progress backend trace
      (Saga.shipPaid id transaction total address items).run machine = _ :=
    Program.progress_bind backend trace (Saga.ship address items).run _ machine
  obtain ⟨tracking, later, heard⟩ | ⟨error?, made, answered, trail, setback, halts, shows⟩ :=
    ship_cases backend trace address items machine
  · obtain ⟨trail, succeeds, shows⟩ := heard
    rw [succeeds] at progress
    refine Or.inl ⟨tracking, later, trail ++ [], progress, ?_⟩
    simpa using shows
  · obtain ⟨later, halts⟩ := halts
    rw [halts] at progress
    refine Or.inr ⟨error?, made, answered, ?_⟩
    cases error? with
    | none => exact ⟨trail, setback, ⟨later, progress⟩, shows⟩
    | some error =>
        let report : Event := .paidUnshipped id transaction total (.shippingFailed error)
        let entry : Entry := ⟨later.now, .noted report⟩
        refine ⟨trail ++ [entry], setback, ⟨later, progress⟩, ?_⟩
        simpa using shows.append (Shows.noted later.now report)

end Steps

/-! ## The whole placement -/

/-- The part of a placement that can be aborted: it ends with the order that is then returned. -/
def Saga.untilShipment (saga : Saga) (request : OrderRequest) : Attempt Order := do
  let id ← Attempt.orderId
  let preparation ← Saga.prepare request.userId request.currency request.address
  let total ← ExceptT.mk (pure ((preparation.total request.currency).mapError .invalidTotal))
  Attempt.note (.totalComputed total)
  Attempt.note (.moved .preparing .paying)
  let transaction ← saga.charge total request.card
  Attempt.note (.moved .paying .shipping)
  let tracking ← Saga.shipPaid id transaction total request.address preparation.cartItems
  pure ⟨id, tracking, preparation.shippingCost, request.address, preparation.orderItems⟩

section Courses

variable {σ : Type} (backend : Backend σ) (trace : TraceContext)

/-- The ways in which a placement can go until the cart is shipped. -/
inductive PlacingCourse (saga : Saga) (request : OrderRequest) (machine : Machine σ) : Prop where
  | noId (error : IdentityError) (failed : (backend.orderId machine.world).1 = .error error)
      (quits : (saga.untilShipment request).Quits backend trace machine
        (some (.identityGenerationFailed error)) [] [])
  | unprepared {heard : List Answered} {call : Call} {abort : ServiceError → CheckoutError}
      (due : PreparingDue request.userId request.currency request.address heard call abort)
      (stops : (saga.untilShipment request).StopsAt backend trace machine heard [] call abort)
  | badQuantity (items : List CartItem) (item : CartItem)
      (found : items.find? (fun item => ! decide item.HasValidQuantity) = some item)
      (quits : (saga.untilShipment request).Quits backend trace machine
        (some (.cartUnavailable (Saga.badQuantity item)))
        [⟨.getCart request.userId, .ok items⟩] [])
  | noTotal (gathering : Gathering) (error : MoneyError)
      (failed : gathering.preparation.total request.currency = .error error)
      (quits : (saga.untilShipment request).Quits backend trace machine
        (some (.invalidTotal error))
        (gathering.heard request.userId request.currency request.address)
        [.prepared gathering.lines.length gathering.shippingCost])
  | undecided (gathering : Gathering) (total : Money)
      (total_eq : gathering.preparation.total request.currency = .ok total)
      (quits : (saga.untilShipment request).Quits backend trace machine none
        (gathering.heard request.userId request.currency request.address)
        [.prepared gathering.lines.length gathering.shippingCost, .totalComputed total,
          .moved .preparing .paying])
  | unpaid (bill : Bill request)
      (stops : (saga.untilShipment request).StopsAt backend trace machine bill.gathered
        bill.charging bill.charge .paymentDeclined)
  | unshipped (id : OrderId) (bill : Bill request) (transaction : String)
      {error? : Option ServiceError} {made : List Call} {answered : List Answered}
      {trail : List Entry} (setback : Setback bill.shipment error? made answered)
      (halts : (saga.untilShipment request).Halts backend trace machine
        (error?.map .shippingFailed) trail)
      (shows : Shows trail ((bill.paid transaction).map Answered.call ++ made)
        (bill.paid transaction ++ answered)
        (bill.shipping transaction ++ error?.toList.map fun error =>
          .paidUnshipped id transaction bill.total (.shippingFailed error)))
  | shipped (id : OrderId) (identified : (backend.orderId machine.world).1 = .ok id)
      (bill : Bill request) (transaction tracking : String) (later : Machine σ)
      (hears : (saga.untilShipment request).Hears backend trace machine (bill.order id tracking)
        later (bill.shipped transaction tracking)
        (bill.shipping transaction ++ [.shipped tracking]))

/-- What is left of that part once the bill is paid. -/
def Bill.fulfillment {request : OrderRequest} (bill : Bill request) (id : OrderId)
    (transaction : String) : Attempt Order := do
  let tracking ← Saga.shipPaid id transaction bill.total request.address bill.gathering.items
  pure (bill.order id tracking)

theorem placingCourse_of_paid {saga : Saga} {request : OrderRequest} {machine : Machine σ}
    {id : OrderId} (identified : (backend.orderId machine.world).1 = .ok id)
    (bill : Bill request) (transaction : String) (paid : Machine σ)
    (continues : (saga.untilShipment request).Continues backend trace machine
      (bill.fulfillment id transaction) paid (bill.paid transaction)
      (bill.shipping transaction)) :
    PlacingCourse backend trace saga request machine := by
  obtain ⟨tracking, shipped, hears⟩ | ⟨error?, made, answered, rest, setback, halts, showsRest⟩ :=
    shipPaid_cases backend trace id transaction bill.total request.address bill.gathering.items paid
  · have fulfilled : (bill.fulfillment id transaction).Hears backend trace paid
        (bill.order id tracking) shipped _ _ :=
      Attempt.hears_bind hears (Attempt.hears_pure _ shipped)
    exact .shipped id identified bill transaction tracking shipped (continues.hears fulfilled)
  · have halted : (bill.fulfillment id transaction).Halts backend trace paid
        (error?.map .shippingFailed) rest := Attempt.halts_bind halts
    obtain ⟨later, progress⟩ := halted
    obtain ⟨trail, shows, goesOn⟩ := continues
    rw [progress, Progress.after_id] at goesOn
    exact .unshipped id bill transaction setback ⟨later, goesOn⟩ (shows.append showsRest)

theorem placingCourse (saga : Saga) (request : OrderRequest) (machine : Machine σ) :
    PlacingCourse backend trace saga request machine := by
  let named : Machine σ := { machine with world := (backend.orderId machine.world).2 }
  cases identified : (backend.orderId machine.world).1 with
  | error error =>
      have unnamed : Attempt.orderId.Quits backend trace machine
          (some (.identityGenerationFailed error)) [] [] := by
        refine ⟨[], ⟨named, ?_⟩, Shows.nil⟩
        rw [orderId_progress, identified]
        rfl
      exact .noId error identified (Attempt.quits_bind unnamed)
  | ok id =>
      have naming : Attempt.orderId.Hears backend trace machine id named [] [] := by
        refine ⟨[], ?_, Shows.nil⟩
        rw [Attempt.Succeeds, orderId_progress, identified]
        rfl
      have start : (saga.untilShipment request).Continues backend trace machine _ named [] [] :=
        Attempt.continues_bind naming
      cases preparingCourse backend trace request.userId request.currency request.address named with
      | stopped due stops => exact .unprepared due (start.stopsAt (Attempt.stopsAt_bind stops))
      | badQuantity items item found quits =>
          exact .badQuantity items item found (start.quits (Attempt.quits_bind quits))
      | gathered gathering prepared hears =>
          have toTotal := start.trans (Attempt.continues_bind hears)
          cases total_eq : gathering.preparation.total request.currency with
          | error error =>
              have unadded : (gathering.preparation.total request.currency).mapError
                  CheckoutError.invalidTotal = .error (.invalidTotal error) := by
                rw [total_eq]
                rfl
              have quits := toTotal.quits
                (Attempt.quits_bind (Attempt.quits_error unadded prepared))
              exact .noTotal gathering error total_eq (by simpa using quits)
          | ok total =>
              have added : (gathering.preparation.total request.currency).mapError
                  CheckoutError.invalidTotal = .ok total := by
                rw [total_eq]
                rfl
              have toCharge := ((toTotal.trans
                (Attempt.continues_bind (Attempt.hears_ok added prepared))).trans
                (Attempt.continues_bind (Attempt.hears_note _ prepared))).trans
                (Attempt.continues_bind (Attempt.hears_note _ prepared))
              obtain ⟨endpoint, flagged, transaction, paid, diverted, hears⟩ |
                  ⟨endpoint, flagged, diverted, stops⟩ | quits :=
                charge_cases backend trace saga total request.card prepared
              · let bill : Bill request :=
                  ⟨gathering, total, endpoint, flagged, total_eq, diverted⟩
                have toShipment := (toCharge.trans (Attempt.continues_bind hears)).trans
                  (Attempt.continues_bind (Attempt.hears_note _ paid))
                refine placingCourse_of_paid backend trace identified bill transaction paid ?_
                simpa [bill, Bill.paid, Bill.gathered, Bill.charge, Bill.shipping, Bill.charging,
                  Bill.fulfillment, Bill.order, Gathering.preparation] using toShipment
              · refine .unpaid ⟨gathering, total, endpoint, flagged, total_eq, diverted⟩ ?_
                have stopped := toCharge.stopsAt (Attempt.stopsAt_bind stops)
                simpa [Bill.gathered, Bill.charging, Bill.charge] using stopped
              · have waits := toCharge.quits (Attempt.quits_bind quits)
                exact .undecided gathering total total_eq (by simpa using waits)

end Courses

end Checkout

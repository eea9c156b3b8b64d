import Checkout.Proofs.Finishing

/-!
# Charges in placements

At most one call of a placement asks for money.  A placement that comes to that call has a bill, and
from then on it can go in three ways: the bill is not paid, the paid cart is not shipped, or the
cart is shipped.
-/

set_option autoImplicit false

open scoped List

namespace Checkout

def Call.isPreparatory : Call → Bool
  | .getCart _ => true
  | .getProduct _ => true
  | .convert _ _ => true
  | .getQuote _ _ => true
  | _ => false

def Call.isCharge : Call → Bool
  | .charge .. => true
  | _ => false

theorem Call.isCharge_of_isPreparatory {call : Call} (preparatory : call.isPreparatory = true) :
    call.isCharge = false := by
  cases call with
  | charge endpoint total card => cases preparatory
  | _ => rfl

def Preparatory (heard : List Answered) : Prop :=
  ∀ answered ∈ heard, answered.call.isPreparatory = true

namespace Preparatory

variable {heard rest : List Answered} {answered : Answered}

@[simp] theorem nil : Preparatory [] := by
  simp [Preparatory]

@[simp] theorem cons_iff :
    Preparatory (answered :: rest) ↔ answered.call.isPreparatory = true ∧ Preparatory rest := by
  simp [Preparatory]

@[simp] theorem append_iff :
    Preparatory (heard ++ rest) ↔ Preparatory heard ∧ Preparatory rest := by
  simp [Preparatory, or_imp, forall_and]

theorem calls (preparatory : Preparatory heard) :
    ∀ call ∈ heard.map Answered.call, call.isPreparatory = true := by
  intro call member
  obtain ⟨answered, heard, rfl⟩ := List.mem_map.mp member
  exact preparatory answered heard

/-- A call that does not belong to the preparation was made after it. -/
theorem mem_after (preparatory : Preparatory heard) {call : Call} {made : List Call}
    (member : call ∈ heard.map Answered.call ++ made) (late : call.isPreparatory = false) :
    call ∈ made := by
  rcases List.mem_append.mp member with before | after
  · rw [preparatory.calls call before] at late
    cases late
  · exact after

end Preparatory

theorem preparatory_lines (code : String) (lines : List PricedLine) :
    Preparatory (lines.flatMap (PricedLine.heard code)) := by
  induction lines with
  | nil => exact Preparatory.nil
  | cons line rest ih => simpa [PricedLine.heard, Call.isPreparatory] using ih

theorem Gathering.preparatory (gathering : Gathering) (user code : String) (address : Address) :
    Preparatory (gathering.heard user code address) := by
  simp [Gathering.heard, preparatory_lines, Call.isPreparatory]

/-- Each call that is due before the charge belongs to the preparation. -/
theorem PreparingDue.preparatory {user code : String} {address : Address} {heard : List Answered}
    {call : Call} {abort : ServiceError → CheckoutError}
    (due : PreparingDue user code address heard call abort) :
    Preparatory heard ∧ call.isPreparatory = true := by
  cases due with
  | cart => exact ⟨Preparatory.nil, rfl⟩
  | line lines item rest valid due =>
      cases due with
      | product => simp [preparatory_lines, Call.isPreparatory]
      | cost product => simp [preparatory_lines, Call.isPreparatory]
  | quote lines valid => simp [preparatory_lines, Call.isPreparatory]
  | shippingCost lines quote valid => simp [preparatory_lines, Call.isPreparatory]

/-- A setback at a call makes no other call. -/
theorem Setback.mem_made {call made : Call} {error? : Option ServiceError} {calls : List Call}
    {heard : List Answered} (setback : Setback call error? calls heard) (member : made ∈ calls) :
    made = call := by
  cases setback with
  | refused error => cases member
  | failed error => exact List.mem_singleton.mp member
  | endless => exact List.mem_singleton.mp member

theorem Setback.isError_of_mem {call : Call} {error? : Option ServiceError} {made : List Call}
    {heard : List Answered} (setback : Setback call error? made heard) {answered : Answered}
    (member : answered ∈ heard) : ∃ error, answered = ⟨call, .error error⟩ := by
  cases setback with
  | refused error => cases member
  | failed error => exact ⟨error, List.mem_singleton.mp member⟩
  | endless => cases member

section Courses

variable {σ : Type} (backend : Backend σ) (trace : TraceContext)

theorem FollowedBy.gathered_prefix {ρ : Type} {request : OrderRequest} {bill : Bill request}
    {transaction tracking : String} {whole : List Entry} {reported : List Event}
    {rest : Progress σ ρ} {last : Event}
    (account : FollowedBy whole (bill.shipped transaction tracking) reported rest last) :
    bill.gathered <+: answers whole := by
  rw [account.answers_eq, Bill.shipped, Bill.paid, List.append_assoc, List.append_assoc]
  exact List.prefix_append _ _

/-- The ways in which a whole placement can go as far as the charge is concerned. -/
inductive PaymentCourse (saga : Saga) (request : OrderRequest) (machine : Machine σ) : Prop where
  | uncharged {whole : List Entry} {later : Machine σ} (error? : Option CheckoutError)
      (progress : (saga.place trace request).progress backend trace machine =
        ⟨whole, error?.map fun error => (.error error, later)⟩)
      (preparatory : ∀ call ∈ calls whole, call.isPreparatory = true)
  | unpaid (bill : Bill request) {error? : Option ServiceError} {made : List Call}
      {answered : List Answered} {whole : List Entry} (later : Machine σ)
      (setback : Setback bill.charge error? made answered)
      (progress : (saga.place trace request).progress backend trace machine =
        ⟨whole, error?.map fun error => (.error (.paymentDeclined error), later)⟩)
      (shows : Shows whole (bill.gathered.map Answered.call ++ made) (bill.gathered ++ answered)
        (.placing :: bill.charging ++ error?.toList.flatMap fun error =>
          closing (.error (.paymentDeclined error))))
  | unshipped (id : OrderId) (bill : Bill request) (transaction : String)
      {error? : Option ServiceError} {made : List Call} {answered : List Answered}
      {whole : List Entry} (later : Machine σ)
      (setback : Setback bill.shipment error? made answered)
      (progress : (saga.place trace request).progress backend trace machine =
        ⟨whole, error?.map fun error => (.error (.shippingFailed error), later)⟩)
      (shows : Shows whole ((bill.paid transaction).map Answered.call ++ made)
        (bill.paid transaction ++ answered)
        (.placing :: bill.shipping transaction ++ error?.toList.flatMap fun error =>
          .paidUnshipped id transaction bill.total (.shippingFailed error) ::
            closing (.error (.shippingFailed error))))
  | shipped (id : OrderId) (identified : (backend.orderId machine.world).1 = .ok id)
      (bill : Bill request) (transaction tracking : String)
      {whole : List Entry} {finished : Progress σ Unit} {later : Machine σ}
      (bounded : later.life = .unbounded → machine.life = .unbounded)
      (finished_eq : (saga.finish trace request (bill.order id tracking)).progress backend trace
        later = finished)
      (progress : (saga.place trace request).progress backend trace machine =
        ⟨whole, finished.reached.map fun (_, machine) => (.ok (bill.order id tracking), machine)⟩)
      (account : FollowedBy whole (bill.shipped transaction tracking)
        (.placing :: (bill.shipping transaction ++ [.shipped tracking])) finished
        (.placed (bill.order id tracking)))

variable {backend trace} {saga : Saga} {request : OrderRequest} {machine : Machine σ}

/-- A placement that halts before it comes to the charge. -/
theorem paymentCourse_of_halts {error? : Option CheckoutError} {trail : List Entry}
    {made : List Call} {heard : List Answered} {reported : List Event}
    (halts : (saga.untilShipment request).Halts backend trace machine error? trail)
    (shows : Shows trail made heard reported)
    (preparatory : ∀ call ∈ made, call.isPreparatory = true) :
    PaymentCourse backend trace saga request machine := by
  obtain ⟨whole, later, progress, showsWhole⟩ := place_of_halts backend trace halts shows
  refine .uncharged error? progress ?_
  rw [showsWhole.calls_eq]
  exact preparatory

variable (backend trace)

theorem paymentCourse (saga : Saga) (request : OrderRequest) (machine : Machine σ) :
    PaymentCourse backend trace saga request machine := by
  cases placingCourse backend trace saga request machine with
  | noId error failed quits =>
      obtain ⟨trail, halts, shows⟩ := quits
      exact paymentCourse_of_halts halts shows Preparatory.nil.calls
  | unprepared due stops =>
      obtain ⟨before, here⟩ := due.preparatory
      obtain ⟨error?, made, answered, trail, setback, halts, shows⟩ := stops
      refine paymentCourse_of_halts halts shows ?_
      intro call member
      rcases List.mem_append.mp member with earlier | there
      · exact before.calls call earlier
      · rw [setback.mem_made there]
        exact here
  | badQuantity items item found quits =>
      obtain ⟨trail, halts, shows⟩ := quits
      refine paymentCourse_of_halts halts shows (Preparatory.calls ?_)
      simp [Call.isPreparatory]
  | noTotal gathering error failed quits =>
      obtain ⟨trail, halts, shows⟩ := quits
      exact paymentCourse_of_halts halts shows (gathering.preparatory _ _ _).calls
  | undecided gathering total total_eq quits =>
      obtain ⟨trail, halts, shows⟩ := quits
      exact paymentCourse_of_halts halts shows (gathering.preparatory _ _ _).calls
  | unpaid bill stops =>
      obtain ⟨error?, made, answered, trail, setback, halts, shows⟩ := stops
      obtain ⟨whole, later, progress, showsWhole⟩ := place_of_halts backend trace halts shows
      cases error? with
      | none => exact .unpaid bill later setback progress showsWhole
      | some error => exact .unpaid bill later setback progress showsWhole
  | unshipped id bill transaction setback halts shows =>
      rename_i error? made answered trail
      obtain ⟨whole, later, progress, showsWhole⟩ := place_of_halts backend trace halts shows
      cases error? with
      | none =>
          exact .unshipped id bill transaction later setback progress (by simpa using showsWhole)
      | some error =>
          exact .unshipped id bill transaction later setback progress (by simpa using showsWhole)
  | shipped id identified bill transaction tracking later hears =>
      obtain ⟨whole, progress, account⟩ := place_of_hears backend trace hears
      obtain ⟨trail, succeeds, shows⟩ := hears
      have bounded := Program.unbounded_of_progress backend trace succeeds
      exact .shipped id identified bill transaction tracking bounded rfl progress account

end Courses

end Checkout

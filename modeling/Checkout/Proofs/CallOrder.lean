import Checkout.Proofs.Bookkeeping

/-!
# The order of calls

A placement follows a plan: it reads the cart, looks up and converts the price of one line after
the other, has the shipping quoted and converted, charges one endpoint, and ships.  Nothing in the
plan is made twice or out of turn, and the first call that fails is the last call of all.  Only a
placement that has gone through the whole plan empties the cart, mails a confirmation or publishes
anything.

A run that ends early has seen only a part of its plan, so the rest of the plan is arbitrary.
-/

set_option autoImplicit false

open scoped List

namespace Checkout

instance : Inhabited Money :=
  ⟨⟨⟨"XXX", rfl⟩, 0, by decide⟩⟩

instance : Inhabited Product :=
  ⟨⟨⟨""⟩, "", default⟩⟩

def Answered.isFailure (answered : Answered) : Bool :=
  match answered.answer with
  | .ok _ => false
  | .error _ => true

/-- What a placement learns from its collaborators, one call after the other. -/
structure Plan where
  lines : List PricedLine
  quote : Money
  shippingCost : Money
  endpoint : Endpoint
  total : Money
  transaction : String
  tracking : String

namespace Plan

def items (plan : Plan) : List CartItem :=
  plan.lines.map PricedLine.item

def preparation (plan : Plan) : Preparation :=
  ⟨plan.lines.map PricedLine.orderItem, plan.items, plan.shippingCost⟩

def gathered (plan : Plan) (request : OrderRequest) : List Answered :=
  ⟨.getCart request.userId, .ok plan.items⟩ ::
      plan.lines.flatMap (PricedLine.heard request.currency) ++
    [⟨.getQuote request.address plan.items, .ok plan.quote⟩,
      ⟨.convert plan.quote request.currency, .ok plan.shippingCost⟩]

def replies (plan : Plan) (request : OrderRequest) : List Answered :=
  plan.gathered request ++
    [⟨.charge plan.endpoint plan.total request.card, .ok plan.transaction⟩,
      ⟨.shipOrder request.address plan.items, .ok plan.tracking⟩]

def calls (plan : Plan) (request : OrderRequest) : List Call :=
  .getCart request.userId ::
      plan.lines.flatMap (fun line =>
        [.getProduct line.item.productId, .convert line.product.price request.currency]) ++
    [.getQuote request.address plan.items, .convert plan.quote request.currency,
      .charge plan.endpoint plan.total request.card, .shipOrder request.address plan.items]

theorem map_call_replies (plan : Plan) (request : OrderRequest) :
    (plan.replies request).map Answered.call = plan.calls request := by
  simp [replies, gathered, calls, List.map_flatMap, PricedLine.heard]

theorem preparatory_gathered (plan : Plan) (request : OrderRequest) :
    Preparatory (plan.gathered request) := by
  simp [gathered, preparatory_lines, Call.isPreparatory]

theorem countP_isCharge_calls (plan : Plan) (request : OrderRequest) :
    (plan.calls request).countP Call.isCharge = 1 := by
  have free : ((plan.gathered request).map Answered.call).countP Call.isCharge = 0 := by
    refine List.countP_eq_zero.mpr fun call member charges => ?_
    have preparatory := (plan.preparatory_gathered request).calls call member
    rw [Call.isCharge_of_isPreparatory preparatory] at charges
    cases charges
  rw [← map_call_replies, replies, List.map_append, List.countP_append, free]
  rfl

theorem eq_total_of_mem_calls {plan : Plan} {request : OrderRequest} {endpoint : Endpoint}
    {total : Money} {card : Card} (member : Call.charge endpoint total card ∈ plan.calls request) :
    total = plan.total := by
  rw [← map_call_replies, replies, List.map_append] at member
  have after := (plan.preparatory_gathered request).mem_after member rfl
  simp at after
  exact after.2.1

theorem isFailure_of_mem_replies {plan : Plan} {request : OrderRequest} {answered : Answered}
    (member : answered ∈ plan.replies request) : answered.isFailure = false := by
  simp only [replies, gathered, List.mem_append, List.mem_cons, List.not_mem_nil, or_false,
    List.cons_append, List.mem_flatMap, PricedLine.heard] at member
  rcases member with rfl | (⟨line, _, rfl | rfl⟩ | rfl | rfl) | rfl | rfl
  all_goals rfl

end Plan

/-- The ways in which a run of a plan can end early: between two calls, after a call that failed, or
never, at a call that is not answered. -/
inductive CutShort (replies : List Answered) : List Call → List Answered → Prop where
  | between (heard rest : List Answered) (split : replies = heard ++ rest) :
      CutShort replies (heard.map Answered.call) heard
  | failed (heard : List Answered) (next : Answered) (rest : List Answered) (error : ServiceError)
      (split : replies = heard ++ next :: rest) :
      CutShort replies (heard.map Answered.call ++ [next.call])
        (heard ++ [⟨next.call, .error error⟩])
  | endless (heard : List Answered) (next : Answered) (rest : List Answered)
      (split : replies = heard ++ next :: rest) :
      CutShort replies (heard.map Answered.call ++ [next.call]) heard

namespace CutShort

variable {replies heard : List Answered} {made : List Call}

theorem of_setback {next : Answered} {rest answered : List Answered} {error? : Option ServiceError}
    (split : replies = heard ++ next :: rest) (setback : Setback next.call error? made answered) :
    CutShort replies (heard.map Answered.call ++ made) (heard ++ answered) := by
  cases setback with
  | refused error =>
      rw [List.append_nil, List.append_nil]
      exact .between heard (next :: rest) split
  | failed error => exact .failed heard next rest error split
  | endless =>
      rw [List.append_nil]
      exact .endless heard next rest split

theorem calls_prefix (short : CutShort replies made heard) :
    made <+: replies.map Answered.call := by
  cases short with
  | between heard rest split =>
      rw [split, List.map_append]
      exact List.prefix_append _ _
  | failed heard next rest error split =>
      rw [split, List.map_append, List.map_cons]
      exact (List.prefix_append_right_inj _).mpr (List.prefix_append [next.call] _)
  | endless heard next rest split =>
      rw [split, List.map_append, List.map_cons]
      exact (List.prefix_append_right_inj _).mpr (List.prefix_append [next.call] _)

/-- What was heard before the end is what the plan says. -/
theorem getElem?_reply (short : CutShort replies made heard) {i : Nat} {answered : Answered}
    (found : heard[i]? = some answered) (succeeded : answered.isFailure = false) :
    replies[i]? = some answered := by
  have of_split : ∀ before rest : List Answered, before[i]? = some answered →
      (before ++ rest)[i]? = some answered := by
    intro before rest foundBefore
    obtain ⟨bound, _⟩ := List.getElem?_eq_some_iff.mp foundBefore
    rw [List.getElem?_append_left bound]
    exact foundBefore
  cases short with
  | between before rest split =>
      rw [split]
      exact of_split heard rest found
  | failed before next rest error split =>
      -- What was heard last is a failure, so the reply stands before it.
      rw [split]
      refine of_split before (next :: rest) ?_
      rcases Nat.lt_or_ge i before.length with bound | beyond
      · rwa [List.getElem?_append_left bound] at found
      · rw [List.getElem?_append_right beyond] at found
        have last := List.mem_singleton.mp (List.mem_of_getElem? found)
        rw [last] at succeeded
        cases succeeded
  | endless before next rest split =>
      rw [split]
      exact of_split heard (next :: rest) found

theorem getElem?_failure (short : CutShort replies made heard)
    (replied : ∀ answered ∈ replies, answered.isFailure = false) {i : Nat} {answered : Answered}
    (found : heard[i]? = some answered) (failed : answered.isFailure = true) :
    made[i]? = some answered.call ∧ made.length = i + 1 := by
  have no_failure : ∀ rest : List Answered, replies = heard ++ rest → False := by
    intro rest split
    have member : answered ∈ replies := by
      rw [split]
      exact List.mem_append_left rest (List.mem_of_getElem? found)
    rw [replied answered member] at failed
    cases failed
  cases short with
  | between before rest split => exact False.elim (no_failure rest split)
  | failed before next rest error split =>
      rcases Nat.lt_or_ge i before.length with bound | beyond
      · rw [List.getElem?_append_left bound] at found
        have member : answered ∈ replies := by
          rw [split]
          exact List.mem_append_left _ (List.mem_of_getElem? found)
        rw [replied answered member] at failed
        cases failed
      · obtain ⟨bound, _⟩ := List.getElem?_eq_some_iff.mp found
        have here : i = before.length := by
          simp at bound
          omega
        subst here
        rw [List.getElem?_append_right beyond] at found
        have last := List.mem_singleton.mp (List.mem_of_getElem? found)
        rw [last]
        simp
  | endless before next rest split => exact False.elim (no_failure (next :: rest) split)

end CutShort

/-- A run keeps to a plan. -/
structure InOrder (request : OrderRequest) (plan : Plan) (trail : List Entry) : Prop where
  ordered : calls trail <+: plan.calls request ∨
    ∃ order rest, plan.replies request <+: answers trail ∧
      calls trail = plan.calls request ++ rest ∧
      rest <+ [.emptyCart request.userId, .sendConfirmation request.email order]
  replied : ∀ i answered, (answers trail)[i]? = some answered → answered.isFailure = false →
    i < (plan.calls request).length → (plan.replies request)[i]? = some answered
  failed : ∀ i answered, (answers trail)[i]? = some answered → answered.isFailure = true →
    i < (plan.calls request).length →
    (calls trail)[i]? = some answered.call ∧ (calls trail).length = i + 1
  charged_once : (calls trail).countP Call.isCharge ≤ 1
  charged : ∀ endpoint total card, Call.charge endpoint total card ∈ calls trail →
    plan.preparation.total request.currency = .ok total
  published : sends trail ≠ [] → plan.replies request <+: answers trail

namespace InOrder

variable {request : OrderRequest} {plan : Plan} {trail : List Entry}

theorem of_cutShort (short : CutShort (plan.replies request) (calls trail) (answers trail))
    (unsent : sends trail = [])
    (covered : (∀ call ∈ calls trail, call.isPreparatory = true) ∨
      plan.preparation.total request.currency = .ok plan.total) :
    InOrder request plan trail := by
  have ordered := short.calls_prefix
  rw [Plan.map_call_replies] at ordered
  refine ⟨Or.inl ordered, ?_, ?_, ?_, ?_, ?_⟩
  · intro i answered found succeeded _
    exact short.getElem?_reply found succeeded
  · intro i answered found failed _
    exact short.getElem?_failure (fun _ => Plan.isFailure_of_mem_replies) found failed
  · rw [← plan.countP_isCharge_calls request]
    exact ordered.sublist.countP_le
  · intro endpoint total card member
    rcases covered with preparatory | total_eq
    · have impossible := preparatory _ member
      cases impossible
    · rw [Plan.eq_total_of_mem_calls (ordered.subset member)]
      exact total_eq
  · intro sent
    exact absurd unsent sent

theorem of_finished {order : Order} {rest : List Call} {heard : List Answered}
    (calls_eq : calls trail = plan.calls request ++ rest)
    (answers_eq : answers trail = plan.replies request ++ heard)
    (finishing : rest <+ [.emptyCart request.userId, .sendConfirmation request.email order])
    (total_eq : plan.preparation.total request.currency = .ok plan.total) :
    InOrder request plan trail := by
  have replied : plan.replies request <+: answers trail := by
    rw [answers_eq]
    exact List.prefix_append _ _
  have found_reply : ∀ i answered, (answers trail)[i]? = some answered →
      i < (plan.calls request).length → (plan.replies request)[i]? = some answered := by
    intro i answered found bound
    rw [← Plan.map_call_replies, List.length_map] at bound
    rwa [answers_eq, List.getElem?_append_left bound] at found
  have uncharged : rest.countP Call.isCharge = 0 := by
    refine Nat.le_zero.mp ?_
    exact finishing.countP_le
  refine ⟨Or.inr ⟨order, rest, replied, calls_eq, finishing⟩, ?_, ?_, ?_, ?_, fun _ => replied⟩
  · intro i answered found _ bound
    exact found_reply i answered found bound
  · intro i answered found failed bound
    have member := List.mem_of_getElem? (found_reply i answered found bound)
    rw [Plan.isFailure_of_mem_replies member] at failed
    cases failed
  · have counted : (calls trail).countP Call.isCharge =
        (plan.calls request).countP Call.isCharge + rest.countP Call.isCharge := by
      rw [calls_eq, List.countP_append]
    rw [uncharged, plan.countP_isCharge_calls] at counted
    exact Nat.le_of_eq counted
  · intro endpoint total card member
    rw [calls_eq] at member
    rcases List.mem_append.mp member with planned | after
    · rw [Plan.eq_total_of_mem_calls planned]
      exact total_eq
    · have impossible := finishing.subset after
      simp at impossible

end InOrder

/-! ## Plans of runs -/

def PricedLine.blank (item : CartItem) : PricedLine := ⟨item, default, default⟩

theorem PricedLine.map_item_blank (items : List CartItem) :
    (items.map PricedLine.blank).map PricedLine.item = items := by
  rw [List.map_map]
  exact List.map_id items

/-- A plan that fits any run that has learnt no more than these lines. -/
def Plan.ofLines (lines : List PricedLine) : Plan :=
  ⟨lines, default, default, .primary, default, "", ""⟩

/-- The replies of such a plan, from those to the pricing of a given line on. -/
theorem Plan.replies_ofLines (request : OrderRequest) (lines : List PricedLine) (line : PricedLine)
    (unpriced : List CartItem) :
    ∃ rest, (Plan.ofLines (lines ++ line :: unpriced.map PricedLine.blank)).replies request =
      ⟨.getCart request.userId, .ok (lines.map PricedLine.item ++ line.item :: unpriced)⟩ ::
        lines.flatMap (PricedLine.heard request.currency) ++
        ⟨.getProduct line.item.productId, .ok line.product⟩ ::
        ⟨.convert line.product.price request.currency, .ok line.cost⟩ :: rest := by
  have items_eq : (lines ++ line :: unpriced.map PricedLine.blank).map PricedLine.item =
      lines.map PricedLine.item ++ line.item :: unpriced := by
    rw [List.map_append, List.map_cons, PricedLine.map_item_blank]
  let plan := Plan.ofLines (lines ++ line :: unpriced.map PricedLine.blank)
  refine ⟨(unpriced.map PricedLine.blank).flatMap (PricedLine.heard request.currency) ++
    [⟨.getQuote request.address plan.items, .ok plan.quote⟩,
      ⟨.convert plan.quote request.currency, .ok plan.shippingCost⟩,
      ⟨.charge plan.endpoint plan.total request.card, .ok plan.transaction⟩,
      ⟨.shipOrder request.address plan.items, .ok plan.tracking⟩], ?_⟩
  simp [plan, replies, gathered, items, ofLines, items_eq, PricedLine.heard]

/-- Whatever call is due before the charge, there is a plan that goes on with it. -/
theorem PreparingDue.plan {request : OrderRequest} {heard : List Answered} {call : Call}
    {abort : ServiceError → CheckoutError}
    (due : PreparingDue request.userId request.currency request.address heard call abort) :
    ∃ (plan : Plan) (next : Answered) (rest : List Answered),
      plan.replies request = heard ++ next :: rest ∧ next.call = call := by
  cases due with
  | cart => exact ⟨.ofLines [], ⟨.getCart request.userId, .ok []⟩, _, rfl, rfl⟩
  | line lines item unpriced valid due =>
      cases due with
      | product =>
          let line := PricedLine.blank item
          let next : Answered := ⟨.getProduct item.productId, .ok line.product⟩
          obtain ⟨rest, replies_eq⟩ := Plan.replies_ofLines request lines line unpriced
          let afterNext : Answered :=
            ⟨.convert line.product.price request.currency, .ok line.cost⟩
          refine ⟨_, next, afterNext :: rest, replies_eq.trans ?_, rfl⟩
          rw [List.append_nil]
          rfl
      | cost product =>
          let line : PricedLine := ⟨item, product, default⟩
          let next : Answered := ⟨.convert product.price request.currency, .ok line.cost⟩
          obtain ⟨rest, replies_eq⟩ := Plan.replies_ofLines request lines line unpriced
          refine ⟨_, next, rest, replies_eq.trans ?_, rfl⟩
          rw [List.append_assoc]
          rfl
  | quote lines valid =>
      let plan := Plan.ofLines lines
      let next : Answered := ⟨.getQuote request.address plan.items, .ok plan.quote⟩
      refine ⟨plan, next, _, List.append_assoc _ _ _, rfl⟩
  | shippingCost lines quote valid =>
      let plan : Plan := { Plan.ofLines lines with quote }
      let next : Answered := ⟨.convert quote request.currency, .ok plan.shippingCost⟩
      let afterNext : List Answered :=
        [⟨.charge plan.endpoint plan.total request.card, .ok plan.transaction⟩,
          ⟨.shipOrder request.address plan.items, .ok plan.tracking⟩]
      refine ⟨plan, next, afterNext, ?_, rfl⟩
      simp [plan, next, afterNext, Plan.replies, Plan.gathered, Plan.ofLines, Plan.items]

/-- The plan that a gathering belongs to, with a charge and what it may bring. -/
def Gathering.plan (gathering : Gathering) (endpoint : Endpoint) (total : Money)
    (transaction tracking : String) : Plan :=
  ⟨gathering.lines, gathering.quote, gathering.shippingCost, endpoint, total, transaction, tracking⟩

theorem Gathering.replies_plan (gathering : Gathering) (request : OrderRequest)
    (endpoint : Endpoint) (total : Money) (transaction tracking : String) :
    (gathering.plan endpoint total transaction tracking).replies request =
      gathering.heard request.userId request.currency request.address ++
        [⟨.charge endpoint total request.card, .ok transaction⟩,
          ⟨.shipOrder request.address gathering.items, .ok tracking⟩] :=
  rfl

def Bill.plan {request : OrderRequest} (bill : Bill request) (transaction tracking : String) :
    Plan :=
  bill.gathering.plan bill.endpoint bill.total transaction tracking

section Runs

variable {σ : Type} (backend : Backend σ) (trace : TraceContext)

/-- A placement that halts keeps to any plan that goes on with what it has heard. -/
theorem inOrder_of_halts {saga : Saga} {request : OrderRequest} {machine : Machine σ}
    {error? : Option CheckoutError} {trail : List Entry} {made : List Call} {heard : List Answered}
    {reported : List Event} {plan : Plan}
    (halts : (saga.untilShipment request).Halts backend trace machine error? trail)
    (shows : Shows trail made heard reported)
    (short : CutShort (plan.replies request) made heard)
    (covered : (∀ call ∈ made, call.isPreparatory = true) ∨
      plan.preparation.total request.currency = .ok plan.total) :
    InOrder request plan ((saga.place trace request).progress backend trace machine).trail := by
  obtain ⟨whole, later, progress, showsWhole⟩ := place_of_halts backend trace halts shows
  rw [progress]
  refine InOrder.of_cutShort ?_ showsWhole.sends_eq ?_
  · rw [showsWhole.calls_eq, showsWhole.answers_eq]
    exact short
  · rw [showsWhole.calls_eq]
    exact covered

/-- Every placement keeps to some plan. -/
theorem calls_in_order (saga : Saga) (request : OrderRequest) (start : Machine σ) :
    ∃ plan : Plan,
      InOrder request plan ((saga.place trace request).progress backend trace start).trail := by
  cases placingCourse backend trace saga request start with
  -- Each course fixes the part of the plan that it has heard; any rest will do.
  | noId error failed quits =>
      obtain ⟨trail, halts, shows⟩ := quits
      refine ⟨.ofLines [], inOrder_of_halts backend trace halts shows ?_ (Or.inl ?_)⟩
      · exact .between [] _ rfl
      · exact Preparatory.nil.calls
  | unprepared due stops =>
      obtain ⟨before, here⟩ := due.preparatory
      obtain ⟨error?, made, answered, trail, setback, halts, shows⟩ := stops
      obtain ⟨plan, next, rest, split, next_call⟩ := due.plan
      subst next_call
      refine ⟨plan, inOrder_of_halts backend trace halts shows ?_ (Or.inl ?_)⟩
      · exact .of_setback split setback
      · intro call member
        rcases List.mem_append.mp member with earlier | there
        · exact before.calls call earlier
        · rw [setback.mem_made there]
          exact here
  | badQuantity items item found quits =>
      obtain ⟨trail, halts, shows⟩ := quits
      let plan := Plan.ofLines (items.map PricedLine.blank)
      refine ⟨plan, inOrder_of_halts backend trace halts shows ?_ (Or.inl ?_)⟩
      · have items_eq : plan.items = items := PricedLine.map_item_blank items
        have split : plan.replies request =
            [⟨.getCart request.userId, .ok plan.items⟩] ++ (plan.replies request).tail := rfl
        rw [items_eq] at split
        exact .between _ _ split
      · exact Preparatory.calls (by simp [Call.isPreparatory])
  | noTotal gathering error failed quits =>
      obtain ⟨trail, halts, shows⟩ := quits
      let plan := gathering.plan .primary default "" ""
      refine ⟨plan, inOrder_of_halts backend trace halts shows ?_ (Or.inl ?_)⟩
      · exact .between _ _ (gathering.replies_plan request .primary default "" "")
      · exact (gathering.preparatory _ _ _).calls
  | undecided gathering total total_eq quits =>
      obtain ⟨trail, halts, shows⟩ := quits
      let plan := gathering.plan .primary total "" ""
      refine ⟨plan, inOrder_of_halts backend trace halts shows ?_ (Or.inl ?_)⟩
      · exact .between _ _ (gathering.replies_plan request .primary total "" "")
      · exact (gathering.preparatory _ _ _).calls
  | unpaid bill stops =>
      obtain ⟨error?, made, answered, trail, setback, halts, shows⟩ := stops
      refine ⟨bill.plan "" "", inOrder_of_halts backend trace halts shows ?_ (Or.inr bill.total_eq)⟩
      let next : Answered := ⟨bill.charge, .ok ""⟩
      have split : (bill.plan "" "").replies request =
          bill.gathered ++ next :: [⟨bill.shipment, .ok ""⟩] := rfl
      exact .of_setback split setback
  | unshipped id bill transaction setback halts shows =>
      refine ⟨bill.plan transaction "",
        inOrder_of_halts backend trace halts shows ?_ (Or.inr bill.total_eq)⟩
      let next : Answered := ⟨bill.shipment, .ok ""⟩
      have split : (bill.plan transaction "").replies request =
          bill.paid transaction ++ next :: [] := by
        rw [Bill.paid, List.append_assoc]
        rfl
      exact .of_setback split setback
  | shipped id identified bill transaction tracking later hears =>
      obtain ⟨whole, progress, account⟩ := place_of_hears backend trace hears
      have replies_eq : (bill.plan transaction tracking).replies request =
          bill.shipped transaction tracking := by
        rw [Bill.shipped, Bill.paid, List.append_assoc]
        rfl
      have calls_eq := account.calls_eq
      have answers_eq := account.answers_eq
      rw [← replies_eq] at calls_eq answers_eq
      rw [Plan.map_call_replies] at calls_eq
      refine ⟨bill.plan transaction tracking, ?_⟩
      rw [progress]
      exact InOrder.of_finished calls_eq answers_eq
        (finish_calls backend trace saga request (bill.order id tracking) later) bill.total_eq

end Runs

/-- A placement that returns an order, one whose charge is given up and one whose parcel is not
taken: the last two make the first calls of the first one. -/
theorem calls_in_order_of_three_ends :
    (∃ plan, InOrder Sample.request plan (Sample.placing 0 true).trail) ∧
    (∃ plan, InOrder Sample.request plan (Sample.placing 50 true).trail) ∧
    (∃ plan, InOrder Sample.request plan (Sample.placing 0 false).trail) ∧
    (calls (Sample.placing 0 true).trail).length = 9 ∧
    calls (Sample.placing 50 true).trail = (calls (Sample.placing 0 true).trail).take 6 ∧
    calls (Sample.placing 0 false).trail = (calls (Sample.placing 0 true).trail).take 7 :=
  ⟨calls_in_order _ _ _ _ _, calls_in_order _ _ _ _ _, calls_in_order _ _ _ _ _, rfl, rfl, rfl⟩

end Checkout

import Checkout.Proofs.Account

/-!
# Preparing a placement

How the part of a placement before the charge can go.  It reads the cart, prices each line by two
calls, and has the shipping quoted and converted.  Either it gathers all of that, or it stops at the
one call that is due next, or the cart holds a line that no order can carry.
-/

set_option autoImplicit false

namespace Checkout

structure PricedLine where
  item : CartItem
  product : Product
  cost : Money

namespace PricedLine

def orderItem (line : PricedLine) : OrderItem := ⟨line.item, line.cost⟩

def heard (code : String) (line : PricedLine) : List Answered :=
  [⟨.getProduct line.item.productId, .ok line.product⟩,
    ⟨.convert line.product.price code, .ok line.cost⟩]

end PricedLine

/-- All that a placement learns before the charge, if nothing fails. -/
structure Gathering where
  lines : List PricedLine
  quote : Money
  shippingCost : Money
  valid : ∀ line ∈ lines, line.item.HasValidQuantity

namespace Gathering

def items (gathering : Gathering) : List CartItem :=
  gathering.lines.map PricedLine.item

def preparation (gathering : Gathering) : Preparation :=
  ⟨gathering.lines.map PricedLine.orderItem, gathering.items, gathering.shippingCost⟩

def heard (user code : String) (address : Address) (gathering : Gathering) : List Answered :=
  ⟨.getCart user, .ok gathering.items⟩ :: gathering.lines.flatMap (PricedLine.heard code) ++
    [⟨.getQuote address gathering.items, .ok gathering.quote⟩,
      ⟨.convert gathering.quote code, .ok gathering.shippingCost⟩]

end Gathering

/-- The call that is due while a line is priced, after what has been heard for it. -/
inductive PricingDue (code : String) (item : CartItem) : List Answered → Call → Prop where
  | product : PricingDue code item [] (.getProduct item.productId)
  | cost (product : Product) :
      PricingDue code item [⟨.getProduct item.productId, .ok product⟩] (.convert product.price code)

/-- The call that is due before the charge, after what has been heard, and the error with which its
failure aborts the placement. -/
inductive PreparingDue (user code : String) (address : Address) :
    List Answered → Call → (ServiceError → CheckoutError) → Prop where
  | cart : PreparingDue user code address [] (.getCart user) .cartUnavailable
  | line (lines : List PricedLine) (item : CartItem) (rest : List CartItem)
      {heard : List Answered} {call : Call}
      (valid : ∀ other ∈ lines.map PricedLine.item ++ item :: rest, other.HasValidQuantity)
      (due : PricingDue code item heard call) :
      PreparingDue user code address
        (⟨.getCart user, .ok (lines.map PricedLine.item ++ item :: rest)⟩ ::
          lines.flatMap (PricedLine.heard code) ++ heard)
        call (.pricingUnavailable item.productId)
  | quote (lines : List PricedLine) (valid : ∀ line ∈ lines, line.item.HasValidQuantity) :
      PreparingDue user code address
        (⟨.getCart user, .ok (lines.map PricedLine.item)⟩ ::
          lines.flatMap (PricedLine.heard code))
        (.getQuote address (lines.map PricedLine.item)) .shippingUnavailable
  | shippingCost (lines : List PricedLine) (quote : Money)
      (valid : ∀ line ∈ lines, line.item.HasValidQuantity) :
      PreparingDue user code address
        (⟨.getCart user, .ok (lines.map PricedLine.item)⟩ ::
          lines.flatMap (PricedLine.heard code) ++
            [⟨.getQuote address (lines.map PricedLine.item), .ok quote⟩])
        (.convert quote code) .shippingUnavailable

section Runs

variable {σ : Type} (backend : Backend σ) (trace : TraceContext)

theorem priceItem_cases (code : String) (item : CartItem) (machine : Machine σ) :
    (∃ (line : PricedLine) (later : Machine σ), line.item = item ∧
      (Saga.priceItem code item).Hears backend trace machine line.orderItem later
        (line.heard code) []) ∨
      ∃ heard call, PricingDue code item heard call ∧
        (Saga.priceItem code item).StopsAt backend trace machine heard [] call
          (.pricingUnavailable item.productId) := by
  obtain ⟨product, priced, foundProduct⟩ | stopped :=
    Attempt.call_cases backend trace (.getProduct item.productId)
      (.pricingUnavailable item.productId) machine
  · obtain ⟨cost, converted, foundCost⟩ | stopped :=
      Attempt.call_cases backend trace (.convert product.price code)
        (.pricingUnavailable item.productId) priced
    · refine Or.inl ⟨⟨item, product, cost⟩, converted, rfl, ?_⟩
      exact Attempt.hears_bind foundProduct
        (Attempt.hears_bind foundCost (Attempt.hears_pure _ converted))
    · refine Or.inr ⟨_, _, .cost product, ?_⟩
      exact (Attempt.continues_bind foundProduct).stopsAt (Attempt.stopsAt_bind stopped)
  · exact Or.inr ⟨_, _, .product, Attempt.stopsAt_bind stopped⟩

theorem priceItems_cases (code : String) (items : List CartItem) (machine : Machine σ) :
    (∃ (lines : List PricedLine) (later : Machine σ), lines.map PricedLine.item = items ∧
      (Saga.priceItems code items).Hears backend trace machine
        (lines.map PricedLine.orderItem) later (lines.flatMap (PricedLine.heard code)) []) ∨
      ∃ (lines : List PricedLine) (item : CartItem) (rest : List CartItem) (heard : List Answered)
        (call : Call), items = lines.map PricedLine.item ++ item :: rest ∧
        PricingDue code item heard call ∧
        (Saga.priceItems code items).StopsAt backend trace machine
          (lines.flatMap (PricedLine.heard code) ++ heard) [] call
          (.pricingUnavailable item.productId) := by
  -- Wherever the rest of the cart stops, the line in front has been priced before.
  induction items generalizing machine with
  | nil => exact Or.inl ⟨[], machine, rfl, Attempt.hears_pure [] machine⟩
  | cons item rest ih =>
      obtain ⟨line, priced, line_item, heardLine⟩ | ⟨heard, call, due, stopped⟩ :=
        priceItem_cases backend trace code item machine
      · obtain ⟨lines, later, lines_items, heardRest⟩ |
            ⟨lines, failing, unpriced, heard, call, items_eq, due, stopped⟩ := ih priced
        · refine Or.inl ⟨line :: lines, later, by simp [line_item, lines_items], ?_⟩
          have heardAll : (Saga.priceItems code (item :: rest)).Hears backend trace machine
              (line.orderItem :: lines.map PricedLine.orderItem) later
              (line.heard code ++ (lines.flatMap (PricedLine.heard code) ++ [])) [] :=
            Attempt.hears_bind heardLine
              (Attempt.hears_bind heardRest (Attempt.hears_pure _ later))
          simpa using heardAll
        · refine Or.inr ⟨line :: lines, failing, unpriced, heard, call,
            by simp [line_item, items_eq], due, ?_⟩
          have stoppedRest : (Saga.priceItems code (item :: rest)).StopsAt backend trace machine
              (line.heard code ++ (lines.flatMap (PricedLine.heard code) ++ heard)) [] call
              (.pricingUnavailable failing.productId) :=
            (Attempt.continues_bind heardLine).stopsAt (Attempt.stopsAt_bind stopped)
          simpa using stoppedRest
      · refine Or.inr ⟨[], item, rest, heard, call, rfl, due, ?_⟩
        exact Attempt.stopsAt_bind stopped

theorem readCart_cases (user : String) (machine : Machine σ) :
    (∃ (items : List CartItem) (later : Machine σ), (∀ item ∈ items, item.HasValidQuantity) ∧
      (Saga.readCart user).Hears backend trace machine items later
        [⟨.getCart user, .ok items⟩] []) ∨
      (Saga.readCart user).StopsAt backend trace machine [] [] (.getCart user) .cartUnavailable ∨
      ∃ (items : List CartItem) (item : CartItem),
        items.find? (fun item => ! decide item.HasValidQuantity) = some item ∧
        (Saga.readCart user).Quits backend trace machine
          (some (.cartUnavailable (Saga.badQuantity item))) [⟨.getCart user, .ok items⟩] [] := by
  obtain ⟨items, later, heardCart⟩ | stopped :=
    Attempt.call_cases backend trace (.getCart user) .cartUnavailable machine
  · cases found : items.find? fun item => ! decide item.HasValidQuantity with
    | none =>
        refine Or.inl ⟨items, later, ?_, ?_⟩
        · intro item member
          simpa using List.find?_eq_none.mp found item member
        · refine Attempt.hears_bind heardCart ?_
          rw [found]
          exact Attempt.hears_pure items later
    | some item =>
        refine Or.inr (Or.inr ⟨items, item, found, ?_⟩)
        refine (Attempt.continues_bind heardCart).quits ?_
        rw [found]
        exact Attempt.quits_throw _ later
  · exact Or.inr (Or.inl (Attempt.stopsAt_bind stopped))

theorem quoteShipping_cases (code : String) (address : Address) (items : List CartItem)
    (machine : Machine σ) :
    (∃ (quote cost : Money) (later : Machine σ),
      (Saga.quoteShipping code address items).Hears backend trace machine cost later
        [⟨.getQuote address items, .ok quote⟩, ⟨.convert quote code, .ok cost⟩] []) ∨
      (Saga.quoteShipping code address items).StopsAt backend trace machine [] []
        (.getQuote address items) .shippingUnavailable ∨
      ∃ quote : Money, (Saga.quoteShipping code address items).StopsAt backend trace machine
        [⟨.getQuote address items, .ok quote⟩] [] (.convert quote code) .shippingUnavailable := by
  obtain ⟨quote, quoted, heardQuote⟩ | stopped :=
    Attempt.call_cases backend trace (.getQuote address items) .shippingUnavailable machine
  · obtain ⟨cost, converted, heardCost⟩ | stopped :=
      Attempt.call_cases backend trace (.convert quote code) .shippingUnavailable quoted
    · exact Or.inl ⟨quote, cost, converted, Attempt.hears_bind heardQuote heardCost⟩
    · exact Or.inr (Or.inr ⟨quote, (Attempt.continues_bind heardQuote).stopsAt stopped⟩)
  · exact Or.inr (Or.inl (Attempt.stopsAt_bind stopped))

inductive PreparingCourse (user code : String) (address : Address) (machine : Machine σ) :
    Prop where
  | gathered (gathering : Gathering) (later : Machine σ)
      (hears : (Saga.prepare user code address).Hears backend trace machine gathering.preparation
        later (gathering.heard user code address)
        [.prepared gathering.lines.length gathering.shippingCost])
  | stopped {heard : List Answered} {call : Call} {abort : ServiceError → CheckoutError}
      (due : PreparingDue user code address heard call abort)
      (stops : (Saga.prepare user code address).StopsAt backend trace machine heard [] call abort)
  | badQuantity (items : List CartItem) (item : CartItem)
      (found : items.find? (fun item => ! decide item.HasValidQuantity) = some item)
      (quits : (Saga.prepare user code address).Quits backend trace machine
        (some (.cartUnavailable (Saga.badQuantity item))) [⟨.getCart user, .ok items⟩] [])

theorem preparingCourse (user code : String) (address : Address) (machine : Machine σ) :
    PreparingCourse backend trace user code address machine := by
  obtain ⟨items, readCart, valid, heardCart⟩ | stopped | ⟨items, item, found, quits⟩ :=
    readCart_cases backend trace user machine
  · obtain ⟨lines, priced, lines_items, heardLines⟩ |
        ⟨lines, item, rest, heard, call, items_eq, due, stopped⟩ :=
      priceItems_cases backend trace code items readCart
    · subst lines_items
      have validLines : ∀ line ∈ lines, line.item.HasValidQuantity := fun line member =>
        valid line.item (List.mem_map_of_mem member)
      obtain ⟨quote, cost, quoted, heardCost⟩ | stopped | ⟨quote, stopped⟩ :=
        quoteShipping_cases backend trace code address (lines.map PricedLine.item) priced
      · refine .gathered ⟨lines, quote, cost, validLines⟩ quoted ?_
        have heardAll : (Saga.prepare user code address).Hears backend trace machine
            ⟨lines.map PricedLine.orderItem, lines.map PricedLine.item, cost⟩ quoted
            (⟨.getCart user, .ok (lines.map PricedLine.item)⟩ ::
              (lines.flatMap (PricedLine.heard code) ++
                [⟨.getQuote address (lines.map PricedLine.item), .ok quote⟩,
                  ⟨.convert quote code, .ok cost⟩]))
            [.prepared (lines.map PricedLine.orderItem).length cost] :=
          Attempt.hears_bind heardCart (Attempt.hears_bind heardLines
            (Attempt.hears_bind heardCost (Attempt.hears_bind
              (Attempt.hears_note _ quoted) (Attempt.hears_pure _ quoted))))
        simpa [Gathering.preparation, Gathering.heard, Gathering.items] using heardAll
      · refine .stopped (.quote lines validLines) ?_
        exact (Attempt.continues_bind heardCart).stopsAt
          ((Attempt.continues_bind heardLines).stopsAt_next (Attempt.stopsAt_bind stopped))
      · refine .stopped (.shippingCost lines quote validLines) ?_
        exact (Attempt.continues_bind heardCart).stopsAt
          ((Attempt.continues_bind heardLines).stopsAt (Attempt.stopsAt_bind stopped))
    · subst items_eq
      refine .stopped (.line lines item rest valid due) ?_
      exact (Attempt.continues_bind heardCart).stopsAt (Attempt.stopsAt_bind stopped)
  · exact .stopped .cart (Attempt.stopsAt_bind stopped)
  · exact .badQuantity items item found (Attempt.quits_bind quits)

end Runs

end Checkout

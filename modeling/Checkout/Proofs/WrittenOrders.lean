import Checkout.Proofs.Amounts
import Checkout.Proofs.Identifiers
import Checkout.Proofs.OrderFields

/-!
# Written orders

An order is written unless one of its quantities is too large for the binary form, and then the first
such line is reported.  What is written is read back as the same order, unless a quantity is zero:
the writer lets that through, and the reader refuses it.
-/

set_option autoImplicit false

namespace Checkout

/-! ## Lists of results -/

section Lists

variable {ε α β : Type} {f : α → Except ε β} {value : α → β}

theorem mapM_eq_ok {list : List α} (each : ∀ a ∈ list, f a = .ok (value a)) :
    list.mapM f = .ok (list.map value) := by
  induction list with
  | nil => rfl
  | cons a list ih =>
      have rest := ih fun b member => each b (List.mem_cons_of_mem a member)
      rw [List.mapM_cons, each a List.mem_cons_self, rest]
      rfl

theorem mapM_eq_error {before after : List α} {a : α} {error : ε}
    (each : ∀ b ∈ before, f b = .ok (value b)) (failed : f a = .error error) :
    (before ++ a :: after).mapM f = .error error := by
  induction before with
  | nil =>
      rw [List.nil_append, List.mapM_cons, failed]
      rfl
  | cons b before ih =>
      have rest := ih fun c member => each c (List.mem_cons_of_mem b member)
      rw [List.cons_append, List.mapM_cons, each b List.mem_cons_self, rest]
      rfl

theorem all_or_first (p : α → Prop) [DecidablePred p] (list : List α) :
    (∀ a ∈ list, p a) ∨
      ∃ before a after, list = before ++ a :: after ∧ (∀ b ∈ before, p b) ∧ ¬ p a := by
  induction list with
  | nil =>
      refine Or.inl ?_
      intro a member
      cases member
  | cons a list ih =>
      by_cases holds : p a
      · rcases ih with all | ⟨before, b, after, rfl, earlier, fails⟩
        · exact Or.inl (List.forall_mem_cons.mpr ⟨holds, all⟩)
        · refine Or.inr ⟨a :: before, b, after, rfl, ?_, fails⟩
          exact List.forall_mem_cons.mpr ⟨holds, earlier⟩
      · refine Or.inr ⟨[], a, list, rfl, ?_, holds⟩
        intro b member
        cases member

end Lists

namespace Wire

/-! ## Lines -/

def OrderItemMessage.form (line : OrderItem) : OrderItemMessage :=
  ⟨some ⟨line.item.productId.text, line.item.quantity.toNat⟩,
    some (MoneyMessage.ofMoney line.cost)⟩

namespace OrderItemMessage

variable {line : OrderItem}

theorem ofLine_of_le (fits : line.item.quantity.toNat ≤ CartItem.maxQuantity) :
    ofLine line = .ok (form line) := by
  rw [ofLine, if_pos fits]
  rfl

theorem ofLine_of_lt (large : CartItem.maxQuantity < line.item.quantity.toNat) :
    ofLine line = .error ⟨line.item.productId, line.item.quantity⟩ := by
  rw [ofLine, if_neg (Nat.not_le.mpr large)]

theorem toLine_form (positive : 1 ≤ line.item.quantity.toNat) : (form line).toLine = .ok line := by
  have some_units : ¬ ((line.item.quantity.toNat : Int) ≤ 0) := by omega
  have cost : (MoneyMessage.ofMoney line.cost).toMoney = .ok line.cost := by
    rw [MoneyMessage.toMoney, MoneyMessage.ofMoney, Money.make_units_nanos]
    rfl
  have quantity : UInt32.ofNat (line.item.quantity.toNat : Int).toNat = line.item.quantity :=
    UInt32.ofNat_toNat
  simp only [toLine, form, present, Bind.bind, Except.bind, if_neg some_units, cost, quantity,
    Pure.pure, Except.pure]

theorem toLine_form_of_zero (zero : line.item.quantity.toNat = 0) :
    (form line).toLine = .error (.invalidQuantity 0) := by
  simp [toLine, form, present, Bind.bind, Except.bind, zero]

theorem inRange_form (fits : line.item.quantity.toNat ≤ CartItem.maxQuantity) :
    (form line).InRange := by
  refine ⟨?_, ?_⟩
  · intro item member
    cases member
    rw [CartItem.maxQuantity] at fits
    simp only [CartItemMessage.InRange, fitsInt32, Bool.and_eq_true, decide_eq_true_eq]
    omega
  · intro cost member
    cases member
    exact ⟨line.cost.fitsInt64_units, line.cost.fitsInt32_nanos⟩

end OrderItemMessage

/-! ## Orders -/

def OrderMessage.form (order : Order) : OrderMessage :=
  ⟨order.id.text, order.trackingId, some (MoneyMessage.ofMoney order.shippingCost),
    some (AddressMessage.ofAddress order.shippingAddress), order.items.map OrderItemMessage.form⟩

theorem AddressMessage.toAddress_ofAddress (address : Address) :
    (ofAddress address).toAddress = address := by
  rw [toAddress, ofAddress, Int32.ofInt_toInt]

theorem AddressMessage.inRange_ofAddress (address : Address) : (ofAddress address).InRange := by
  have least : -2147483648 ≤ address.zipCode.toInt := address.zipCode.le_toInt
  have greatest : address.zipCode.toInt < 2147483648 := address.zipCode.toInt_lt
  have fits : fitsInt32 address.zipCode.toInt = true := by
    simp only [fitsInt32, Bool.and_eq_true, decide_eq_true_eq]
    omega
  exact fits

namespace OrderMessage

variable {order : Order}

theorem ofOrder_of_le
    (fits : ∀ line ∈ order.items, line.item.quantity.toNat ≤ CartItem.maxQuantity) :
    ofOrder order = .ok (form order) := by
  have items := mapM_eq_ok fun line member => OrderItemMessage.ofLine_of_le (fits line member)
  rw [ofOrder, items]
  rfl

theorem ofOrder_of_first {before after : List OrderItem} {line : OrderItem}
    (items_eq : order.items = before ++ line :: after)
    (fits : ∀ other ∈ before, other.item.quantity.toNat ≤ CartItem.maxQuantity)
    (large : CartItem.maxQuantity < line.item.quantity.toNat) :
    ofOrder order = .error ⟨line.item.productId, line.item.quantity⟩ := by
  have items : (before ++ line :: after).mapM OrderItemMessage.ofLine = _ :=
    mapM_eq_error (fun other member => OrderItemMessage.ofLine_of_le (fits other member))
      (OrderItemMessage.ofLine_of_lt large)
  rw [ofOrder, items_eq, items]
  rfl

theorem inRange_form
    (fits : ∀ line ∈ order.items, line.item.quantity.toNat ≤ CartItem.maxQuantity) :
    (form order).InRange where
  shippingCost := by
    intro cost member
    cases member
    exact ⟨order.shippingCost.fitsInt64_units, order.shippingCost.fitsInt32_nanos⟩
  shippingAddress := by
    intro address member
    cases member
    exact AddressMessage.inRange_ofAddress order.shippingAddress
  items := by
    intro item member
    obtain ⟨line, there, rfl⟩ := List.mem_map.mp member
    exact OrderItemMessage.inRange_form (fits line there)

/-- Apart from the items, all of an order is read back. -/
theorem toOrder_form (order : Order) :
    (form order).toOrder =
      ((order.items.map OrderItemMessage.form).mapM OrderItemMessage.toLine).map fun items =>
        { order with items } := by
  have cost : (MoneyMessage.ofMoney order.shippingCost).toMoney = .ok order.shippingCost := by
    rw [MoneyMessage.toMoney, MoneyMessage.ofMoney, Money.make_units_nanos]
    rfl
  simp only [toOrder, form, present, OrderId.ofText_text, mapError_ok, Bind.bind, Except.bind,
    cost, Option.getD_some, AddressMessage.toAddress_ofAddress, Pure.pure, Except.pure]
  cases (order.items.map OrderItemMessage.form).mapM OrderItemMessage.toLine with
  | error error => rfl
  | ok items => rfl

theorem toOrder_form_of_pos (positive : ∀ line ∈ order.items, 1 ≤ line.item.quantity.toNat) :
    (form order).toOrder = .ok order := by
  have items : order.items.mapM (OrderItemMessage.toLine ∘ OrderItemMessage.form) = _ :=
    mapM_eq_ok fun line member => OrderItemMessage.toLine_form (positive line member)
  rw [toOrder_form, List.mapM_map, items, List.map_id']
  rfl

theorem toOrder_form_of_zero (zero : ∃ line ∈ order.items, line.item.quantity.toNat = 0) :
    (form order).toOrder = .error (.invalidQuantity 0) := by
  -- The lines before the first of no units are read, and that one is refused.
  rcases all_or_first (fun line : OrderItem => 1 ≤ line.item.quantity.toNat) order.items with
    all | ⟨before, line, after, items_eq, positive, none⟩
  · obtain ⟨line, member, zero⟩ := zero
    have positive := all line member
    omega
  · have items : (before ++ line :: after).mapM
        (OrderItemMessage.toLine ∘ OrderItemMessage.form) = _ :=
      mapM_eq_error (fun other member => OrderItemMessage.toLine_form (positive other member))
        (OrderItemMessage.toLine_form_of_zero (by omega))
    rw [toOrder_form, List.mapM_map, items_eq, items]
    rfl

end OrderMessage

end Wire

open Wire

section Orders

variable {order : Order}

theorem Order.encode_of_le
    (fits : ∀ line ∈ order.items, line.item.quantity.toNat ≤ CartItem.maxQuantity) :
    order.encode = .ok (OrderMessage.form order).encode := by
  rw [Order.encode, OrderMessage.ofOrder_of_le fits]
  rfl

/-- An order that was written has no quantity that does not fit. -/
theorem Order.le_of_encode {bytes : List UInt8} (written : order.encode = .ok bytes) :
    ∀ line ∈ order.items, line.item.quantity.toNat ≤ CartItem.maxQuantity := by
  rcases all_or_first (fun line : OrderItem => line.item.quantity.toNat ≤ CartItem.maxQuantity)
    order.items with all | ⟨before, line, after, items_eq, fits, large⟩
  · exact all
  · rw [Order.encode, OrderMessage.ofOrder_of_first items_eq fits (Nat.not_le.mp large)] at written
    cases written

/-- The bytes of an order are read as its message. -/
theorem Order.decode_of_encode {bytes : List UInt8} (written : order.encode = .ok bytes)
    (fits : bytes.length < lengthLimit) :
    Order.decode bytes = (OrderMessage.form order).toOrder := by
  have quantities := Order.le_of_encode written
  rw [Order.encode_of_le quantities] at written
  cases written
  have read := (OrderMessage.form order).mergeAll_encode (OrderMessage.inRange_form quantities) fits
  rw [Order.decode, read]
  rfl

end Orders

/-- Writing fails exactly at a quantity that is too large, and reports the first; what is written is
read back, unless a quantity is zero. -/
theorem decode_encode (order : Order) :
    ((∃ error, order.encode = .error error) ↔
      ∃ line ∈ order.items, CartItem.maxQuantity < line.item.quantity.toNat) ∧
    (∀ error, order.encode = .error error ↔
      ∃ before line after, order.items = before ++ line :: after ∧
        (∀ other ∈ before, other.item.quantity.toNat ≤ CartItem.maxQuantity) ∧
        CartItem.maxQuantity < line.item.quantity.toNat ∧
        error = ⟨line.item.productId, line.item.quantity⟩) ∧
    ∀ bytes, order.encode = .ok bytes → bytes.length < lengthLimit →
      ((∀ line ∈ order.items, 1 ≤ line.item.quantity.toNat) → Order.decode bytes = .ok order) ∧
      ((∃ line ∈ order.items, line.item.quantity.toNat = 0) →
        Order.decode bytes = .error (.invalidQuantity 0)) := by
  have reported : ∀ error, order.encode = .error error ↔
      ∃ before line after, order.items = before ++ line :: after ∧
        (∀ other ∈ before, other.item.quantity.toNat ≤ CartItem.maxQuantity) ∧
        CartItem.maxQuantity < line.item.quantity.toNat ∧
        error = ⟨line.item.productId, line.item.quantity⟩ := by
    intro error
    rcases all_or_first (fun line : OrderItem => line.item.quantity.toNat ≤ CartItem.maxQuantity)
      order.items with all | ⟨before, line, after, items_eq, fits, large⟩
    · rw [Order.encode_of_le all]
      constructor
      · intro impossible
        cases impossible
      · rintro ⟨before, line, after, items_eq, fits, large, error_eq⟩
        have small := all line (items_eq ▸ List.mem_append_right before List.mem_cons_self)
        omega
    · have failed : order.encode = .error ⟨line.item.productId, line.item.quantity⟩ := by
        rw [Order.encode, OrderMessage.ofOrder_of_first items_eq fits (Nat.not_le.mp large)]
        rfl
      constructor
      · intro made
        have same := failed.symm.trans made
        cases same
        exact ⟨before, line, after, items_eq, fits, Nat.not_le.mp large, rfl⟩
      · rintro ⟨others, first, rest, split, othersFit, firstLarge, rfl⟩
        rw [Order.encode, OrderMessage.ofOrder_of_first split othersFit firstLarge]
        rfl
  refine ⟨⟨?_, ?_⟩, reported, ?_⟩
  · rintro ⟨error, failed⟩
    obtain ⟨before, line, after, items_eq, fits, large, error_eq⟩ := (reported error).mp failed
    exact ⟨line, items_eq ▸ List.mem_append_right before List.mem_cons_self, large⟩
  · rintro ⟨line, member, large⟩
    cases made : order.encode with
    | error error => exact ⟨error, rfl⟩
    | ok bytes =>
        have small := Order.le_of_encode made line member
        omega
  · intro bytes written fits
    rw [Order.decode_of_encode written fits]
    exact ⟨OrderMessage.toOrder_form_of_pos, OrderMessage.toOrder_form_of_zero⟩

/-- The least and the greatest amount, the least postal code, and as many units as fit. -/
def Sample.extremes (quantity : UInt32) : Order where
  id := ⟨List.replicate 32 (Text.lastHexDigit 11), rfl⟩
  trackingId := "parcel"
  shippingCost := ⟨⟨"USD", by decide⟩, Money.least, by decide⟩
  shippingAddress := ⟨"", "Zürich", "", "", Int32.minValue⟩
  items := [⟨⟨⟨"lamp"⟩, quantity⟩, ⟨⟨"EUR", by decide⟩, Money.greatest, by decide⟩⟩]

theorem decode_encode_of_extremes :
    (∃ bytes, (Sample.extremes 2147483647).encode = .ok bytes ∧
      Order.decode bytes = .ok (Sample.extremes 2147483647)) ∧
    ∃ bytes, (Sample.extremes 0).encode = .ok bytes ∧
      Order.decode bytes = .error (.invalidQuantity 0) := by
  constructor
  · refine ⟨_, rfl, ?_⟩
    have read := (decode_encode (Sample.extremes 2147483647)).2.2 _ rfl (by decide +kernel)
    exact read.1 (by decide)
  · refine ⟨_, rfl, ?_⟩
    have read := (decode_encode (Sample.extremes 0)).2.2 _ rfl (by decide +kernel)
    exact read.2 (by decide)

end Checkout

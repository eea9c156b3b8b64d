import Checkout.Proofs.Truncations
import Checkout.Proofs.WrittenOrders

/-!
# Cut orders

What is read of a published order whose last bytes are missing.  Only whole fields are read.  Without
the cost of shipping there is no order; behind it come the address and the items, so what can be read is
the order without both, or with its first items.
-/

set_option autoImplicit false

namespace Checkout

namespace Wire

/-! ## The fields of an order -/

/-- The fields of an order that come before the cost of shipping. -/
def opening (order : Order) : List OrderField :=
  (texts order.id.text).map .orderId ++ (texts order.trackingId).map .trackingId

theorem fields_form (order : Order) :
    (OrderMessage.form order).fields =
      opening order ++ .shippingCost (MoneyMessage.ofMoney order.shippingCost) ::
        .shippingAddress (AddressMessage.ofAddress order.shippingAddress) ::
        order.items.map fun line => .line (OrderItemMessage.form line) := by
  rw [OrderMessage.fields, List.append_assoc, List.append_assoc]
  simp only [OrderMessage.form, List.map_map]
  rfl

theorem fields_unaddressed (order : Order) :
    OrderMessage.fields { OrderMessage.form order with shippingAddress := none, items := [] } =
      opening order ++ [.shippingCost (MoneyMessage.ofMoney order.shippingCost)] :=
  (List.append_nil _).trans (List.append_nil _)

theorem fields_unaddressed_append (order : Order) :
    OrderMessage.fields { OrderMessage.form order with shippingAddress := none, items := [] } ++
        .shippingAddress (AddressMessage.ofAddress order.shippingAddress) ::
          order.items.map (fun line => .line (OrderItemMessage.form line)) =
      (OrderMessage.form order).fields := by
  rw [fields_unaddressed, fields_form, List.append_assoc]
  rfl

theorem fields_take_append (order : Order) (count : Nat) :
    (OrderMessage.form { order with items := order.items.take count }).fields ++
        (order.items.drop count).map (fun line => .line (OrderItemMessage.form line)) =
      (OrderMessage.form order).fields := by
  rw [fields_form, fields_form, List.append_assoc, List.cons_append, List.cons_append,
    ← List.map_append, List.take_append_drop]
  rfl

theorem opening_shippingCost (order : Order) :
    (opening order).filterMap OrderField.shippingCost? = [] := by
  simp only [opening, List.filterMap_append, List.filterMap_map, Function.comp_def,
    OrderField.shippingCost?, filterMap_nothing, List.append_nil]

/-- The first fields of an order either lack the cost of shipping, or end with it, or are those of the
same order with its first items only. -/
theorem values_of_isCut {order : Order} {before : List OrderField}
    (isCut : IsCut before (OrderMessage.form order).fields) :
    before.filterMap OrderField.shippingCost? = [] ∨
      Values before { OrderMessage.form order with shippingAddress := none, items := [] } ∨
      ∃ count, Values before (OrderMessage.form { order with items := order.items.take count }) := by
  rw [fields_form] at isCut
  rcases isCut.of_append with early | ⟨part, rfl, later⟩
  · left
    obtain ⟨field, rest, opening_eq⟩ := early
    have none := opening_shippingCost order
    rw [opening_eq, List.filterMap_append] at none
    exact (List.append_eq_nil_iff.mp none).1
  · rcases later.of_cons with rfl | ⟨others, rfl, behind⟩
    · left
      rw [List.append_nil]
      exact opening_shippingCost order
    · right
      rcases behind.of_cons with rfl | ⟨lines, rfl, last⟩
      · left
        have values := values_fields
          { OrderMessage.form order with shippingAddress := none, items := [] }
        rwa [fields_unaddressed] at values
      · right
        have taken := List.prefix_iff_eq_take.mp (isCut_iff.mp last).1
        rw [← List.map_take] at taken
        have values := values_fields
          (OrderMessage.form { order with items := order.items.take lines.length })
        rw [fields_form, ← taken] at values
        exact ⟨lines.length, values⟩

/-! ## What is left of an order -/

theorem OrderMessage.toOrder_of_missing {message : OrderMessage}
    (missing : message.shippingCost = none) : ∃ error, message.toOrder = .error error := by
  rw [toOrder, missing]
  cases (OrderId.ofText message.orderId).mapError fun _ =>
    DecodeError.invalidOrderId message.orderId with
  | error error => exact ⟨error, rfl⟩
  | ok id => exact ⟨.missingField "shipping_cost", rfl⟩

/-- A message that ends with the cost of shipping is an order without items that names no address. -/
theorem OrderMessage.toOrder_of_unaddressed (order : Order) :
    OrderMessage.toOrder { form order with shippingAddress := none, items := [] } =
      .ok { order with shippingAddress := .blank, items := [] } := by
  have read : (form { order with shippingAddress := .blank, items := [] }).toOrder = _ :=
    toOrder_form_of_pos (List.forall_mem_nil _)
  exact read

end Wire

open Wire

def Order.fields (order : Order) : List OrderField :=
  (OrderMessage.form order).fields

/-- What can be left of an order: its first items, or no item and no address. -/
structure Order.Leaves (order other : Order) : Prop where
  id : other.id = order.id
  trackingId : other.trackingId = order.trackingId
  shippingCost : other.shippingCost = order.shippingCost
  items : other.items <+: order.items
  shippingAddress : other.shippingAddress = order.shippingAddress ∨
    other.shippingAddress = .blank ∧ other.items = []

namespace Order

section Leavings

variable {order other : Order}

theorem leaves_take (order : Order) (count : Nat) :
    order.Leaves { order with items := order.items.take count } :=
  ⟨rfl, rfl, rfl, List.take_prefix count order.items, .inl rfl⟩

theorem leaves_unaddressed (order : Order) :
    order.Leaves { order with shippingAddress := .blank, items := [] } :=
  ⟨rfl, rfl, rfl, List.nil_prefix, .inr ⟨rfl, rfl⟩⟩

theorem Leaves.eq (leaves : order.Leaves other) :
    other = { order with shippingAddress := .blank, items := [] } ∨
      ∃ count, other = { order with items := order.items.take count } := by
  obtain ⟨id, trackingId, shippingCost, shippingAddress, items⟩ := other
  obtain ⟨rfl, rfl, rfl, first, rfl | ⟨rfl, rfl⟩⟩ := leaves
  · refine .inr ⟨items.length, ?_⟩
    rw [← List.prefix_iff_eq_take.mp first]
  · exact .inl rfl

end Leavings

section Cutting

variable {order : Order} {before after : List OrderField}

theorem inRange_form (quantities : ∀ line ∈ order.items, line.item.HasValidQuantity) :
    (OrderMessage.form order).InRange :=
  OrderMessage.inRange_form fun line member => (quantities line member).2

/-- The first fields of an order are read as the message that they make up. -/
theorem decode_of_split (quantities : ∀ line ∈ order.items, line.item.HasValidQuantity)
    (fits : (order.fields.flatMap OrderField.bytes).length < lengthLimit)
    (split : order.fields = before ++ after) :
    decode (before.flatMap OrderField.bytes) = (assemble .blank before).toOrder := by
  rw [fields, ← OrderMessage.encode_eq_flatMap] at fits
  have row := OrderMessage.row_before (inRange_form quantities) fits split
  rw [decode, mergeAll_row row]
  rfl

theorem flatMap_prefix (split : before ++ after = order.fields) :
    before.flatMap OrderField.bytes <+: order.fields.flatMap OrderField.bytes := by
  rw [← split, List.flatMap_append]
  exact List.prefix_append _ _

theorem decode_of_isCut_field (quantities : ∀ line ∈ order.items, line.item.HasValidQuantity)
    (fits : (order.fields.flatMap OrderField.bytes).length < lengthLimit) {field : OrderField}
    {part : List UInt8} (split : order.fields = before ++ field :: after)
    (isCut : IsCut part field.bytes) (nonempty : part ≠ []) :
    ∃ failure, decode (before.flatMap OrderField.bytes ++ part) = .error (.malformed failure) := by
  rw [fields, ← OrderMessage.encode_eq_flatMap] at fits
  obtain ⟨failure, failed⟩ :=
    OrderMessage.mergeAll_of_isCut (inRange_form quantities) fits split isCut nonempty
  refine ⟨failure, ?_⟩
  rw [decode, failed]
  rfl

theorem toOrder_of_values_take (quantities : ∀ line ∈ order.items, line.item.HasValidQuantity)
    {count : Nat}
    (values : Values before (OrderMessage.form { order with items := order.items.take count })) :
    (assemble .blank before).toOrder = .ok { order with items := order.items.take count } := by
  rw [values.assemble_eq]
  exact OrderMessage.toOrder_form_of_pos fun line member =>
    (quantities line (List.mem_of_mem_take member)).1

theorem decode_of_isCut (quantities : ∀ line ∈ order.items, line.item.HasValidQuantity)
    (fits : (order.fields.flatMap OrderField.bytes).length < lengthLimit) {cut : List UInt8}
    (isCut : IsCut cut (order.fields.flatMap OrderField.bytes)) :
    (∃ error, decode cut = .error error) ∨ ∃ other, decode cut = .ok other ∧ order.Leaves other := by
  obtain ⟨before, field, after, part, split, rfl, within⟩ := isCut.of_flatMap
  by_cases whole : part = []
  · -- The cut is between two fields, so those before it are read.
    rw [whole, List.append_nil, decode_of_split quantities fits split]
    rcases values_of_isCut ⟨field, after, split⟩ with missing | unaddressed | ⟨count, values⟩
    · left
      apply OrderMessage.toOrder_of_missing
      rw [assemble_eq, missing]
      rfl
    · right
      rw [unaddressed.assemble_eq, OrderMessage.toOrder_of_unaddressed]
      exact ⟨_, rfl, order.leaves_unaddressed⟩
    · right
      rw [toOrder_of_values_take quantities values]
      exact ⟨_, rfl, order.leaves_take count⟩
  · obtain ⟨failure, failed⟩ := decode_of_isCut_field quantities fits split within whole
    exact .inl ⟨.malformed failure, failed⟩

/-- Everything that can be left is left by some cut. -/
theorem exists_cut_of_leaves (quantities : ∀ line ∈ order.items, line.item.HasValidQuantity)
    (fits : (order.fields.flatMap OrderField.bytes).length < lengthLimit) {other : Order}
    (leaves : order.Leaves other) :
    ∃ cut, cut <+: order.fields.flatMap OrderField.bytes ∧ decode cut = .ok other := by
  rcases leaves.eq with rfl | ⟨count, rfl⟩
  · have split := fields_unaddressed_append order
    refine ⟨_, flatMap_prefix split, ?_⟩
    rw [decode_of_split quantities fits split.symm, (values_fields _).assemble_eq]
    exact OrderMessage.toOrder_of_unaddressed order
  · have split := fields_take_append order count
    refine ⟨_, flatMap_prefix split, ?_⟩
    rw [decode_of_split quantities fits split.symm]
    exact toOrder_of_values_take quantities (values_fields _)

end Cutting

end Order

/-- The fields of an order are read as that order in any arrangement that keeps the order of its items,
with unknown fields among them.  Of an order that was cut nothing is read, or just the first items, or
no item and no address; a cut within a field is refused. -/
theorem decode_rearranged_and_cut (order : Order)
    (quantities : ∀ line ∈ order.items, line.item.HasValidQuantity)
    (fits : (order.fields.flatMap OrderField.bytes).length < lengthLimit) :
    order.encode = .ok (order.fields.flatMap OrderField.bytes) ∧
    (∀ pieces, Rearranges pieces order.fields →
      Order.decode (pieces.flatMap Piece.bytes) = .ok order) ∧
    (∀ cut, cut <+: order.fields.flatMap OrderField.bytes →
      cut ≠ order.fields.flatMap OrderField.bytes →
        (∃ error, Order.decode cut = .error error) ∨
          ∃ other, Order.decode cut = .ok other ∧ order.Leaves other) ∧
    (∀ before field after part, order.fields = before ++ field :: after →
      part <+: field.bytes → part ≠ [] → part ≠ field.bytes →
        ∃ failure, Order.decode (before.flatMap OrderField.bytes ++ part) =
          .error (.malformed failure)) ∧
    ∀ other, order.Leaves other →
      ∃ cut, cut <+: order.fields.flatMap OrderField.bytes ∧ Order.decode cut = .ok other := by
  refine ⟨?_, ?_, ?_, ?_, ?_⟩
  · rw [Order.encode_of_le fun line member => (quantities line member).2,
      OrderMessage.encode_eq_flatMap]
    rfl
  · intro pieces rearranges
    rw [Order.fields, ← OrderMessage.encode_eq_flatMap] at fits
    rw [Order.decode, OrderMessage.mergeAll_of_rearranges (Order.inRange_form quantities) fits
      rearranges]
    exact OrderMessage.toOrder_form_of_pos fun line member => (quantities line member).1
  · intro cut first short
    exact Order.decode_of_isCut quantities fits (isCut_iff.mpr ⟨first, short⟩)
  · intro before field after part split first nonempty short
    exact Order.decode_of_isCut_field quantities fits split (isCut_iff.mpr ⟨first, short⟩) nonempty
  · intro other leaves
    exact Order.exists_cut_of_leaves quantities fits leaves

/-- A group with a number, spelled with one byte more than it needs, and an empty group in it. -/
def Sample.unknownGroup : List UInt8 :=
  [51] ++ ([56] ++ ([133, 0] ++ ([67] ++ ([68] ++ [52]))))

theorem Sample.isUnknown_unknownGroup : IsUnknown IsForeign Sample.unknownGroup := by
  have spells : ∀ (byte : UInt8), byte.toNat < 128 → Spells [byte] byte.toNat := by
    intro byte unmarked
    exact ⟨.last unmarked, (by decide : 1 ≤ 10), Nat.lt_trans unmarked (by decide)⟩
  have five : Spells [133, 0] 5 :=
    ⟨.more (by decide : 128 ≤ (133 : UInt8).toNat) (.last (by decide : (0 : UInt8).toNat < 128)),
      by decide, by decide⟩
  have number : Spells [56] (8 * 7 + WireType.varint.code) := spells 56 (by decide)
  have empty : IsGroup 98 8 [68] := .stop (spells 68 (by decide))
  have behind : IsGroup 99 6 [52] := .stop (spells 52 (by decide))
  have inner : IsGroup 99 6 ([67] ++ ([68] ++ [52])) :=
    .group (by decide : IsTag 8) (spells 67 (by decide)) empty behind
  have content : IsGroup 99 6 ([56] ++ ([133, 0] ++ ([67] ++ ([68] ++ [52])))) :=
    .scalar (by decide : IsTag 7) number (.varint five) inner
  exact .group (by decide : IsTag 6) (by decide : 5 < 6) (spells 51 (by decide)) content

def Sample.backwards : List Piece :=
  (Sample.extremes 2).fields.reverse.flatMap fun field =>
    [.unknown Sample.unknownGroup, .known field]

theorem Sample.rearranges_backwards :
    Rearranges Sample.backwards (Sample.extremes 2).fields where
  perm := by decide +kernel
  items := by decide +kernel
  unknown := by
    intro bytes member
    obtain ⟨field, _, there⟩ := List.mem_flatMap.mp member
    simp only [List.mem_cons, Piece.unknown.injEq, reduceCtorEq, List.not_mem_nil, or_false] at there
    rw [there]
    exact Sample.isUnknown_unknownGroup

theorem decode_rearranged_and_cut_of_extremes :
    Order.decode (Sample.backwards.flatMap Piece.bytes) = .ok (Sample.extremes 2) ∧
    (∃ cut, cut <+: (Sample.extremes 2).fields.flatMap OrderField.bytes ∧
      Order.decode cut =
        .ok { Sample.extremes 2 with shippingAddress := .blank, items := [] }) ∧
    ∃ failure, Order.decode [10, 36, 98] = .error (.malformed failure) := by
  obtain ⟨_, rearranged, _, within, left_over⟩ :=
    decode_rearranged_and_cut (Sample.extremes 2) (by decide +kernel) (by decide +kernel)
  refine ⟨rearranged Sample.backwards Sample.rearranges_backwards, ?_, ?_⟩
  · exact left_over _ (Order.leaves_unaddressed (Sample.extremes 2))
  · exact within [] (.orderId (Sample.extremes 2).id.text) _ [10, 36, 98] rfl
      (by decide +kernel) (by decide) (by decide +kernel)

end Checkout

import Checkout.Proofs.Consumption
import Checkout.Proofs.ExactMoney
import Checkout.Proofs.WrittenOrders

/-!
# Orders that were read

What is read as an order is a valid order, and writing it gives its one written form, from which the
same order is read again.  The written form can be longer than the input, so that it can be written
at all has to be shown: it has at most twice as many bytes, and fewer than lengths can count.
-/

set_option autoImplicit false

namespace Checkout

namespace Wire

/-! ## Messages -/

theorem MoneyMessage.inRange_blank : blank.InRange :=
  ⟨rfl, rfl⟩

theorem CartItemMessage.inRange_blank : blank.InRange :=
  rfl

theorem AddressMessage.inRange_blank : blank.InRange :=
  rfl

theorem OrderItemMessage.inRange_blank : blank.InRange :=
  ⟨by rintro _ ⟨⟩, by rintro _ ⟨⟩⟩

theorem OrderMessage.inRange_blank : blank.InRange :=
  ⟨by rintro _ ⟨⟩, by rintro _ ⟨⟩, by rintro _ ⟨⟩⟩

theorem MoneyMessage.measured :
    Measured MoneyMessage.merge InRange fun message => message.encode.length := by
  intro depth tag wireType message result bytes rest read known
  unfold MoneyMessage.merge at read
  split at read
  · obtain ⟨text, rfl, taken⟩ := textField_of_store 1 (by decide) read
    refine ⟨known, ?_⟩
    simp only [MoneyMessage.encode, List.length_append]
    omega
  · obtain ⟨units, rfl, fits, taken⟩ := int64Field_of_store 2 (by decide) read
    refine ⟨⟨fits, known.2⟩, ?_⟩
    simp only [MoneyMessage.encode, List.length_append]
    omega
  · obtain ⟨nanos, rfl, fits, taken⟩ := int32Field_of_store 3 (by decide) read
    refine ⟨⟨known.1, fits⟩, ?_⟩
    simp only [MoneyMessage.encode, List.length_append]
    omega
  · obtain ⟨rfl, taken⟩ := length_of_pass read
    exact ⟨known, by omega⟩

theorem CartItemMessage.measured :
    Measured CartItemMessage.merge InRange fun message => message.encode.length := by
  intro depth tag wireType message result bytes rest read known
  unfold CartItemMessage.merge at read
  split at read
  · obtain ⟨text, rfl, taken⟩ := textField_of_store 1 (by decide) read
    refine ⟨known, ?_⟩
    simp only [CartItemMessage.encode, List.length_append]
    omega
  · obtain ⟨quantity, rfl, fits, taken⟩ := int32Field_of_store 2 (by decide) read
    refine ⟨fits, ?_⟩
    simp only [CartItemMessage.encode, List.length_append]
    omega
  · obtain ⟨rfl, taken⟩ := length_of_pass read
    exact ⟨known, by omega⟩

theorem AddressMessage.measured :
    Measured AddressMessage.merge InRange fun message => message.encode.length := by
  intro depth tag wireType message result bytes rest read known
  unfold AddressMessage.merge at read
  split at read
  · obtain ⟨street, rfl, taken⟩ := textField_of_store 1 (by decide) read
    refine ⟨known, ?_⟩
    simp only [AddressMessage.encode, List.length_append]
    omega
  · obtain ⟨city, rfl, taken⟩ := textField_of_store 2 (by decide) read
    refine ⟨known, ?_⟩
    simp only [AddressMessage.encode, List.length_append]
    omega
  · obtain ⟨state, rfl, taken⟩ := textField_of_store 3 (by decide) read
    refine ⟨known, ?_⟩
    simp only [AddressMessage.encode, List.length_append]
    omega
  · obtain ⟨country, rfl, taken⟩ := textField_of_store 4 (by decide) read
    refine ⟨known, ?_⟩
    simp only [AddressMessage.encode, List.length_append]
    omega
  · obtain ⟨zipCode, rfl, fits, taken⟩ := int32Field_of_store 5 (by decide) read
    refine ⟨fits, ?_⟩
    simp only [AddressMessage.encode, List.length_append]
    omega
  · obtain ⟨rfl, taken⟩ := length_of_pass read
    exact ⟨known, by omega⟩

theorem OrderItemMessage.measured :
    Measured OrderItemMessage.merge InRange fun message => message.encode.length := by
  intro depth tag wireType message result bytes rest read known
  unfold OrderItemMessage.merge at read
  split at read
  · obtain ⟨item, rfl, inRange, taken⟩ := nestedField_of_store 1 (by decide)
      CartItemMessage.measured CartItemMessage.inRange_blank rfl known.1 read
    refine ⟨⟨fun _ same => Option.some.inj same ▸ inRange, known.2⟩, ?_⟩
    simp only [OrderItemMessage.encode, List.length_append]
    omega
  · obtain ⟨cost, rfl, inRange, taken⟩ := nestedField_of_store 2 (by decide)
      MoneyMessage.measured MoneyMessage.inRange_blank rfl known.2 read
    refine ⟨⟨known.1, fun _ same => Option.some.inj same ▸ inRange⟩, ?_⟩
    simp only [OrderItemMessage.encode, List.length_append]
    omega
  · obtain ⟨rfl, taken⟩ := length_of_pass read
    exact ⟨known, by omega⟩

/-- The id counts twice: it is never written with more bytes than it was read from, and so makes up
for an address that is written although it was not there. -/
def OrderMessage.size (message : OrderMessage) : Nat :=
  message.encode.length + (textField 1 message.orderId).length

theorem OrderMessage.measured : Measured OrderMessage.merge InRange size := by
  intro depth tag wireType message result bytes rest read known
  unfold OrderMessage.merge at read
  split at read
  · obtain ⟨text, rfl, taken⟩ := textField_of_store 1 (by decide) read
    refine ⟨⟨known.shippingCost, known.shippingAddress, known.items⟩, ?_⟩
    simp only [OrderMessage.size, OrderMessage.encode, List.length_append]
    omega
  · obtain ⟨text, rfl, taken⟩ := textField_of_store 2 (by decide) read
    refine ⟨⟨known.shippingCost, known.shippingAddress, known.items⟩, ?_⟩
    simp only [OrderMessage.size, OrderMessage.encode, List.length_append]
    omega
  · obtain ⟨cost, rfl, inRange, taken⟩ := nestedField_of_store 3 (by decide)
      MoneyMessage.measured MoneyMessage.inRange_blank rfl known.shippingCost read
    refine ⟨⟨fun _ same => Option.some.inj same ▸ inRange, known.shippingAddress, known.items⟩, ?_⟩
    simp only [OrderMessage.size, OrderMessage.encode, List.length_append]
    omega
  · obtain ⟨address, rfl, inRange, taken⟩ := nestedField_of_store 4 (by decide)
      AddressMessage.measured AddressMessage.inRange_blank rfl
      known.shippingAddress read
    refine ⟨⟨known.shippingCost, fun _ same => Option.some.inj same ▸ inRange, known.items⟩, ?_⟩
    simp only [OrderMessage.size, OrderMessage.encode, List.length_append]
    omega
  · have fresh : ∀ item ∈ (none : Option OrderItemMessage), item.InRange := by rintro _ ⟨⟩
    obtain ⟨item, rfl, inRange, taken⟩ := nestedField_of_store 5 (by decide)
      OrderItemMessage.measured OrderItemMessage.inRange_blank rfl fresh read
    refine ⟨⟨known.shippingCost, known.shippingAddress, ?_⟩, ?_⟩
    · intro other member
      rcases List.mem_append.mp member with before | last
      · exact known.items other before
      · exact List.mem_singleton.mp last ▸ inRange
    · simp only [nestedField, List.length_nil] at taken
      simp only [OrderMessage.size, OrderMessage.encode, List.length_append, List.flatMap_append,
        List.flatMap_cons, List.flatMap_nil, List.length_nil]
      omega
  · obtain ⟨rfl, taken⟩ := length_of_pass read
    exact ⟨known, by omega⟩

theorem OrderMessage.of_mergeAll {bytes : List UInt8} {message : OrderMessage}
    (read : mergeAll OrderMessage.merge .blank bytes = .ok message) :
    message.InRange ∧ message.size ≤ 2 * bytes.length := by
  obtain ⟨⟨result, rest⟩, fields, rfl⟩ := Except.of_map read
  have measured := mergeFields_measured OrderMessage.measured fields OrderMessage.inRange_blank
  have empty : OrderMessage.blank.size = 0 := rfl
  exact ⟨measured.1, by dsimp only; omega⟩

/-! ## Lines and orders -/

section Lists

variable {ε α β : Type} {f : α → Except ε β} {list : List α} {results : List β}

theorem exists_of_mem_mapM (done : list.mapM f = .ok results) {b : β} (member : b ∈ results) :
    ∃ a ∈ list, f a = .ok b := by
  induction list generalizing results with
  | nil =>
      cases done
      cases member
  | cons a list ih =>
      rw [List.mapM_cons] at done
      obtain ⟨first, made, done⟩ := Except.of_bind done
      obtain ⟨others, madeOthers, done⟩ := Except.of_bind done
      cases done
      rcases List.mem_cons.mp member with rfl | later
      · exact ⟨a, List.mem_cons_self, made⟩
      · obtain ⟨source, inside, made⟩ := ih madeOthers later
        exact ⟨source, List.mem_cons_of_mem a inside, made⟩

theorem map_eq_of_mapM {g : β → α} (back : ∀ a ∈ list, ∀ b, f a = .ok b → g b = a)
    (done : list.mapM f = .ok results) : results.map g = list := by
  induction list generalizing results with
  | nil =>
      cases done
      rfl
  | cons a list ih =>
      rw [List.mapM_cons] at done
      obtain ⟨first, made, done⟩ := Except.of_bind done
      obtain ⟨others, madeOthers, done⟩ := Except.of_bind done
      cases done
      rw [List.map_cons, back a List.mem_cons_self first made,
        ih (fun b member => back b (List.mem_cons_of_mem a member)) madeOthers]

end Lists

theorem MoneyMessage.ofMoney_of_toMoney {message : MoneyMessage} {money : Money}
    (read : message.toMoney = .ok money) : ofMoney money = message := by
  obtain ⟨code, units, nanos⟩ := Money.parts_of_make (Except.of_mapError read)
  rw [ofMoney, code, units, nanos]

/-- A line that was made is written as it was read, and its quantity is that of the message. -/
theorem OrderItemMessage.of_toLine {message : OrderItemMessage} {line : OrderItem}
    (inRange : message.InRange) (read : message.toLine = .ok line) :
    form line = message ∧ line.item.HasValidQuantity := by
  obtain ⟨item, cost⟩ := message
  rw [toLine] at read
  cases item with
  | none => cases read
  | some item =>
      obtain ⟨_, same, read⟩ := Except.of_bind read
      cases same
      split at read
      next => cases read
      next positive =>
        cases cost with
        | none => cases read
        | some cost =>
            obtain ⟨_, same, read⟩ := Except.of_bind read
            cases same
            obtain ⟨money, made, read⟩ := Except.of_bind read
            cases read
            have fits := inRange.1 item rfl
            simp only [CartItemMessage.InRange, fitsInt32, Bool.and_eq_true, decide_eq_true_eq]
              at fits
            have quantity : (UInt32.ofNat item.quantity.toNat).toNat = item.quantity.toNat :=
              UInt32.toNat_ofNat_of_lt' (by
                change item.quantity.toNat < 4294967296
                omega)
            constructor
            · rw [form, MoneyMessage.ofMoney_of_toMoney made]
              simp only [quantity, Int.toNat_of_nonneg (show 0 ≤ item.quantity by omega)]
            · rw [CartItem.HasValidQuantity, quantity, CartItem.maxQuantity]
              omega

theorem AddressMessage.ofAddress_toAddress {message : AddressMessage} (inRange : message.InRange) :
    ofAddress message.toAddress = message := by
  simp only [InRange, fitsInt32, Bool.and_eq_true, decide_eq_true_eq] at inRange
  rw [ofAddress, toAddress, Int32.toInt_ofInt_of_le (by simpa using inRange.1) (by omega)]

/-- An order that was made is written as it was read, but for the spelling of its id and for an
address that was missing. -/
theorem OrderMessage.of_toOrder {message : OrderMessage} {order : Order} (inRange : message.InRange)
    (read : message.toOrder = .ok order) :
    OrderId.ofText message.orderId = .ok order.id ∧
    (∀ line ∈ order.items, line.item.HasValidQuantity) ∧
    form order = { message with
      orderId := order.id.text
      shippingAddress := some (message.shippingAddress.getD .blank) } := by
  obtain ⟨orderId, trackingId, cost, address, items⟩ := message
  rw [toOrder] at read
  obtain ⟨id, named, read⟩ := Except.of_bind read
  cases cost with
  | none => cases read
  | some cost =>
      obtain ⟨_, same, read⟩ := Except.of_bind read
      cases same
      obtain ⟨money, made, read⟩ := Except.of_bind read
      obtain ⟨lines, madeLines, read⟩ := Except.of_bind read
      cases read
      have addressInRange : (address.getD .blank).InRange := by
        cases address with
        | none => exact AddressMessage.inRange_blank
        | some address => exact inRange.shippingAddress address rfl
      refine ⟨Except.of_mapError named, ?_, ?_⟩
      · intro line member
        obtain ⟨source, inside, madeLine⟩ := exists_of_mem_mapM madeLines member
        exact (OrderItemMessage.of_toLine (inRange.items source inside) madeLine).2
      · have itemsBack := map_eq_of_mapM (fun item inside line madeLine =>
          (OrderItemMessage.of_toLine (inRange.items item inside) madeLine).1) madeLines
        simp only [form, MoneyMessage.ofMoney_of_toMoney made, itemsBack,
          AddressMessage.ofAddress_toAddress addressInRange]

/-- The id of an order has as many bytes as the text it was read from, at least. -/
theorem length_idField {text : String} {id : OrderId} (named : OrderId.ofText text = .ok id) :
    (textField 1 id.text).length = 38 ∧ 38 ≤ (textField 1 text).length := by
  have length_id := id.length_utf8_text
  have bytes := OrderId.length_utf8_of_ofText named
  have blank : (Text.utf8 "").length = 0 := by decide
  constructor
  · have nonempty : id.text ≠ "" := fun same => by
      rw [same] at length_id
      omega
    rw [textField, if_neg nonempty, length_delimitedField (by decide), length_id]
    rfl
  · have nonempty : text ≠ "" := fun same => by
      rw [same] at bytes
      omega
    have some_bytes := length_varint_pos (Text.utf8 text).length
    rw [textField, if_neg nonempty, length_delimitedField (by decide)]
    omega

theorem OrderMessage.length_form {message : OrderMessage} {order : Order}
    (inRange : message.InRange) (read : message.toOrder = .ok order) :
    (form order).encode.length ≤ message.size := by
  obtain ⟨named, _, form_eq⟩ := of_toOrder inRange read
  obtain ⟨written, given⟩ := length_idField named
  have address : (nestedField 4 AddressMessage.encode
      (some (message.shippingAddress.getD .blank))).length ≤
        (nestedField 4 AddressMessage.encode message.shippingAddress).length + 2 := by
    cases message.shippingAddress with
    | none => exact Nat.le_refl 2
    | some address => exact Nat.le_add_right _ 2
  rw [form_eq]
  simp only [size, encode, List.length_append]
  omega

end Wire

open Wire

/-- What is read as an order is valid and can be written, and its written form is read as the same
order and written again as it is.  No input has `2 ^ 63` bytes or more. -/
theorem read_orders_settle (bytes : List UInt8) (order : Order) (fits : bytes.length < 2 ^ 63)
    (read : Order.decode bytes = .ok order) :
    (∀ line ∈ order.items, line.item.HasValidQuantity) ∧
    order.shippingCost.WellFormed ∧ (∀ line ∈ order.items, line.cost.WellFormed) ∧
    ∃ again, order.encode = .ok again ∧ again.length ≤ 2 * bytes.length ∧
      Order.decode again = .ok order ∧
      ∀ other, Order.decode again = .ok other → other.encode = .ok again := by
  obtain ⟨message, merged, made⟩ := Except.of_bind read
  obtain ⟨inRange, size⟩ := OrderMessage.of_mergeAll (Except.of_mapError merged)
  obtain ⟨_, quantities, _⟩ := OrderMessage.of_toOrder inRange made
  have written := Order.encode_of_le fun line member => (quantities line member).2
  have length_form := OrderMessage.length_form inRange made
  have readAgain : Order.decode (OrderMessage.form order).encode = .ok order := by
    rw [Order.decode_of_encode written (by rw [lengthLimit]; omega)]
    exact OrderMessage.toOrder_form_of_pos fun line member => (quantities line member).1
  refine ⟨quantities, order.shippingCost.wellFormed, fun line _ => line.cost.wellFormed, _,
    written, by omega, readAgain, fun other readOther => ?_⟩
  rw [readAgain] at readOther
  cases readOther
  exact written

/-- Fields out of order, two parts of one item, a number longer than it needs to be, an unknown
field, a text that is given twice, an id in upper case, five bytes for a negative number, and no
address. -/
def Sample.roughBytes : List UInt8 :=
  delimitedField 5
      (delimitedField 1 (textField 1 "lamp") ++ delimitedField 1 (signedField 2 2)
        ++ delimitedField 2 (textField 1 "SEK" ++ [0x10, 0x82, 0x80, 0x00]))
    ++ [0x78, 0x01] ++ textField 2 "first" ++ textField 2 "second"
    ++ textField 1 "AAAAAAAA-AAAA-AAAA-AAAA-AAAAAAAAAAAA"
    ++ delimitedField 3 ([0x18, 0xF9, 0xFF, 0xFF, 0xFF, 0x0F] ++ textField 1 "GBP")

def Sample.settledOrder : Order where
  id := ⟨List.replicate 32 (Text.lastHexDigit 10), rfl⟩
  trackingId := "second"
  shippingCost := ⟨⟨"GBP", by decide⟩, -7, by decide⟩
  shippingAddress := .blank
  items := [⟨⟨⟨"lamp"⟩, 2⟩, ⟨⟨"SEK", by decide⟩, 2000000000, by decide⟩⟩]

theorem read_orders_settle_of_rough_bytes :
    Sample.roughBytes.length < 2 ^ 63 ∧ Order.decode Sample.roughBytes = .ok Sample.settledOrder ∧
    (∀ line ∈ Sample.settledOrder.items, line.item.HasValidQuantity) ∧
    ∃ again, Sample.settledOrder.encode = .ok again ∧ again ≠ Sample.roughBytes ∧
      Order.decode again = .ok Sample.settledOrder := by
  have fits : Sample.roughBytes.length < 2 ^ 63 := by decide +kernel
  have read : Order.decode Sample.roughBytes = .ok Sample.settledOrder := by decide +kernel
  obtain ⟨quantities, _, _, again, written, _, readAgain, _⟩ :=
    read_orders_settle Sample.roughBytes Sample.settledOrder fits read
  have other : Sample.settledOrder.encode ≠ .ok Sample.roughBytes := by decide +kernel
  exact ⟨fits, read, quantities, again, written, fun same => other (same ▸ written), readAgain⟩

end Checkout

import Checkout.Proofs.MessageRows

/-!
# Written messages

Each message within an order is written as a row of fields that takes the blank message to it, one
field after the other, so a message whose numbers fit their fields is read as what was written.
-/

set_option autoImplicit false

namespace Checkout.Wire

/-! ## Messages -/

section Messages

variable {depth : Nat}

def MoneyMessage.InRange (message : MoneyMessage) : Prop :=
  fitsInt64 message.units = true ∧ fitsInt32 message.nanos = true

def CartItemMessage.InRange (message : CartItemMessage) : Prop :=
  fitsInt32 message.quantity = true

def AddressMessage.InRange (message : AddressMessage) : Prop :=
  fitsInt32 message.zipCode = true

def OrderItemMessage.InRange (message : OrderItemMessage) : Prop :=
  (∀ item ∈ message.item, item.InRange) ∧ ∀ cost ∈ message.cost, cost.InRange

structure OrderMessage.InRange (message : OrderMessage) : Prop where
  shippingCost : ∀ cost ∈ message.shippingCost, cost.InRange
  shippingAddress : ∀ address ∈ message.shippingAddress, address.InRange
  items : ∀ item ∈ message.items, item.InRange

theorem row_int64Field {μ : Type} {merge : Merge μ} (tag : Nat) (put : Int → μ)
    {name field : String} {i : Int} {message : μ} (isTag : IsTag tag)
    (reads : ∀ wireType bytes, merge depth tag wireType message bytes =
      store name field put ((readSigned 64 wireType bytes).mapError .bare))
    (blank : put 0 = message) (fits : fitsInt64 i = true) :
    Row merge depth message (signedField tag i) (put i) := by
  have power : ((Nat.pow 2 64 : Nat) : Int) = 18446744073709551616 := rfl
  simp only [fitsInt64, Bool.and_eq_true, decide_eq_true_eq] at fits
  exact row_signedField tag put isTag reads blank (by decide) (by omega) (by omega)

theorem row_int32Field {μ : Type} {merge : Merge μ} (tag : Nat) (put : Int → μ)
    {name field : String} {i : Int} {message : μ} (isTag : IsTag tag)
    (reads : ∀ wireType bytes, merge depth tag wireType message bytes =
      store name field put ((readSigned 32 wireType bytes).mapError .bare))
    (blank : put 0 = message) (fits : fitsInt32 i = true) :
    Row merge depth message (signedField tag i) (put i) := by
  have power : ((Nat.pow 2 32 : Nat) : Int) = 4294967296 := rfl
  simp only [fitsInt32, Bool.and_eq_true, decide_eq_true_eq] at fits
  exact row_signedField tag put isTag reads blank (by decide) (by omega) (by omega)

/-- A nested message is a field, unless it is missing and so is the field that it goes to. -/
theorem row_nestedField {μ ν : Type} {merge : Merge μ} {inner : Merge ν} (tag : Nat)
    (put : Option ν → μ) {name field : String} {encode : ν → List UInt8} {nested : Option ν}
    {blank : ν} {message : μ} (isTag : IsTag tag)
    (reads : ∀ wireType bytes, merge (depth + 1) tag wireType message bytes =
      store name field (fun value => put (some value))
        (mergeNested inner (depth + 1) wireType blank bytes))
    (missing : put none = message)
    (row : ∀ value ∈ nested, (encode value).length < lengthLimit →
      Row inner depth blank (encode value) value)
    (fits : (nestedField tag encode nested).length < lengthLimit) :
    Row merge (depth + 1) message (nestedField tag encode nested) (put nested) := by
  cases nested with
  | none =>
      rw [missing]
      exact Row.nil message
  | some value =>
      have content_fits : (encode value).length < lengthLimit := by
        rw [nestedField, delimitedField, List.length_append] at fits
        omega
      exact row_delimitedField tag (fun value => put (some value)) isTag reads
        (row value rfl content_fits) fits

theorem MoneyMessage.row_encode (message : MoneyMessage) (inRange : message.InRange)
    (fits : message.encode.length < lengthLimit) :
    Row MoneyMessage.merge depth .blank message.encode message := by
  rw [MoneyMessage.encode, List.length_append, List.length_append] at fits
  have code : Row MoneyMessage.merge depth .blank (textField 1 message.currencyCode)
      { message with units := 0, nanos := 0 } :=
    row_textField 1 (fun text => { message with currencyCode := text, units := 0, nanos := 0 })
      (by decide) (fun _ _ => rfl) rfl (by omega)
  have units : Row MoneyMessage.merge depth { message with units := 0, nanos := 0 }
      (signedField 2 message.units) { message with nanos := 0 } :=
    row_int64Field 2 (fun units => { message with units, nanos := 0 })
      (by decide) (fun _ _ => rfl) rfl inRange.1
  have nanos : Row MoneyMessage.merge depth { message with nanos := 0 }
      (signedField 3 message.nanos) message :=
    row_int32Field 3 (fun nanos => { message with nanos }) (by decide) (fun _ _ => rfl) rfl inRange.2
  exact (code.append units).append nanos

theorem CartItemMessage.row_encode (message : CartItemMessage) (inRange : message.InRange)
    (fits : message.encode.length < lengthLimit) :
    Row CartItemMessage.merge depth .blank message.encode message := by
  rw [CartItemMessage.encode, List.length_append] at fits
  have productId : Row CartItemMessage.merge depth .blank (textField 1 message.productId)
      { message with quantity := 0 } :=
    row_textField 1 (fun text => { message with productId := text, quantity := 0 })
      (by decide) (fun _ _ => rfl) rfl (by omega)
  have quantity : Row CartItemMessage.merge depth { message with quantity := 0 }
      (signedField 2 message.quantity) message :=
    row_int32Field 2 (fun quantity => { message with quantity })
      (by decide) (fun _ _ => rfl) rfl inRange
  exact productId.append quantity

theorem AddressMessage.row_encode (message : AddressMessage) (inRange : message.InRange)
    (fits : message.encode.length < lengthLimit) :
    Row AddressMessage.merge depth .blank message.encode message := by
  rw [AddressMessage.encode, List.length_append, List.length_append, List.length_append,
    List.length_append] at fits
  have street : Row AddressMessage.merge depth .blank (textField 1 message.street)
      ⟨message.street, "", "", "", 0⟩ :=
    row_textField 1 (fun street => AddressMessage.mk street "" "" "" 0)
      (by decide) (fun _ _ => rfl) rfl (by omega)
  have city : Row AddressMessage.merge depth ⟨message.street, "", "", "", 0⟩
      (textField 2 message.city) ⟨message.street, message.city, "", "", 0⟩ :=
    row_textField 2 (fun city => AddressMessage.mk message.street city "" "" 0)
      (by decide) (fun _ _ => rfl) rfl (by omega)
  have state : Row AddressMessage.merge depth ⟨message.street, message.city, "", "", 0⟩
      (textField 3 message.state) { message with country := "", zipCode := 0 } :=
    row_textField 3 (fun state => { message with state, country := "", zipCode := 0 })
      (by decide) (fun _ _ => rfl) rfl (by omega)
  have country : Row AddressMessage.merge depth { message with country := "", zipCode := 0 }
      (textField 4 message.country) { message with zipCode := 0 } :=
    row_textField 4 (fun country => { message with country, zipCode := 0 })
      (by decide) (fun _ _ => rfl) rfl (by omega)
  have zipCode : Row AddressMessage.merge depth { message with zipCode := 0 }
      (signedField 5 message.zipCode) message :=
    row_int32Field 5 (fun zipCode => { message with zipCode })
      (by decide) (fun _ _ => rfl) rfl inRange
  exact (((street.append city).append state).append country).append zipCode

theorem OrderItemMessage.row_encode (message : OrderItemMessage) (inRange : message.InRange)
    (fits : message.encode.length < lengthLimit) :
    Row OrderItemMessage.merge (depth + 1) .blank message.encode message := by
  rw [OrderItemMessage.encode, List.length_append] at fits
  have item : Row OrderItemMessage.merge (depth + 1) .blank
      (nestedField 1 CartItemMessage.encode message.item) { message with cost := none } :=
    row_nestedField 1 (fun item => { message with item, cost := none })
      (by decide) (fun _ _ => rfl) rfl
      (fun item member fits => item.row_encode (inRange.1 item member) fits) (by omega)
  have cost : Row OrderItemMessage.merge (depth + 1) { message with cost := none }
      (nestedField 2 MoneyMessage.encode message.cost) message :=
    row_nestedField 2 (fun cost => { message with cost }) (by decide) (fun _ _ => rfl) rfl
      (fun cost member fits => cost.row_encode (inRange.2 cost member) fits) (by omega)
  exact item.append cost

end Messages

end Checkout.Wire

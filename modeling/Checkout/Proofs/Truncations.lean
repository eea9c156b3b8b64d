import Checkout.Proofs.OrderFields

/-!
# Fields that end too early

A field of an order whose last bytes are missing is refused, whatever was read before it.  A cut in its
key or in its length leaves only bytes that say that the number goes on, and a cut in its content leaves
fewer bytes than the length says.
-/

set_option autoImplicit false

namespace Checkout

namespace Wire

/-! ## Cuts -/

section Cuts

variable {α β : Type}

def IsCut (cut list : List α) : Prop :=
  ∃ a rest, list = cut ++ a :: rest

theorem isCut_iff {cut list : List α} : IsCut cut list ↔ cut <+: list ∧ cut ≠ list := by
  constructor
  · rintro ⟨a, rest, rfl⟩
    refine ⟨List.prefix_append cut (a :: rest), ?_⟩
    intro same
    have length_eq := congrArg List.length same
    rw [List.length_append, List.length_cons] at length_eq
    omega
  · rintro ⟨⟨rest, rfl⟩, different⟩
    cases rest with
    | nil => exact absurd (List.append_nil cut).symm different
    | cons a rest => exact ⟨a, rest, rfl⟩

theorem IsCut.length_lt {cut list : List α} (isCut : IsCut cut list) : cut.length < list.length := by
  obtain ⟨a, rest, rfl⟩ := isCut
  rw [List.length_append, List.length_cons]
  omega

theorem IsCut.of_append {cut first second : List α} (isCut : IsCut cut (first ++ second)) :
    IsCut cut first ∨ ∃ part, cut = first ++ part ∧ IsCut part second := by
  obtain ⟨a, rest, split⟩ := isCut
  rcases List.append_eq_append_iff.mp split with ⟨part, cut_eq, second_eq⟩ | ⟨more, first_eq, tail_eq⟩
  · exact .inr ⟨part, cut_eq, a, rest, second_eq⟩
  · cases more with
    | nil =>
        rw [List.append_nil] at first_eq
        exact .inr ⟨[], first_eq ▸ (List.append_nil first).symm, a, rest, tail_eq.symm⟩
    | cons b more => exact .inl ⟨b, more, first_eq⟩

theorem IsCut.of_cons {a : α} {cut rest : List α} (isCut : IsCut cut (a :: rest)) :
    cut = [] ∨ ∃ part, cut = a :: part ∧ IsCut part rest := by
  have split : IsCut cut ([a] ++ rest) := isCut
  rcases split.of_append with first | later
  · exact .inl (List.eq_nil_of_length_eq_zero (Nat.lt_one_iff.mp first.length_lt))
  · exact .inr later

/-- A row that is cut is the row of its first members and a cut of the next. -/
theorem IsCut.of_flatMap {f : α → List β} {list : List α} {cut : List β}
    (isCut : IsCut cut (list.flatMap f)) :
    ∃ before a after part, list = before ++ a :: after ∧ cut = before.flatMap f ++ part ∧
      IsCut part (f a) := by
  induction list generalizing cut with
  | nil =>
      obtain ⟨b, rest, impossible⟩ := isCut
      exact absurd impossible.symm (List.append_ne_nil_of_right_ne_nil cut (List.cons_ne_nil b rest))
  | cons a list ih =>
      rw [List.flatMap_cons] at isCut
      rcases isCut.of_append with first | ⟨others, rfl, later⟩
      · exact ⟨[], a, list, cut, rfl, rfl, first⟩
      · obtain ⟨before, b, after, part, rfl, rfl, within⟩ := ih later
        refine ⟨a :: before, b, after, part, rfl, ?_, within⟩
        rw [List.flatMap_cons, List.append_assoc]

end Cuts

/-! ## Numbers and contents -/

/-- Every byte of a cut number says that the number goes on. -/
theorem readGroups?_of_isCut {bytes cut : List UInt8} {value : Nat} (spelled : Groups bytes value)
    (isCut : IsCut cut bytes) (groups : Nat) : readGroups? groups cut = none := by
  induction spelled generalizing cut groups with
  | @last byte unmarked =>
      have empty : cut = [] := List.eq_nil_of_length_eq_zero (Nat.lt_one_iff.mp isCut.length_lt)
      rw [empty]
      cases groups with
      | zero => rfl
      | succ groups => rfl
  | @more byte bytes high marked rest ih =>
      cases groups with
      | zero => rfl
      | succ groups =>
          rcases isCut.of_cons with rfl | ⟨part, rfl, later⟩
          · rfl
          · rw [readGroups?, if_neg (Nat.not_lt.mpr marked), ih later groups]
            rfl

theorem readVarint_of_isCut {cut : List UInt8} {value : Nat} (fits : value < lengthLimit)
    (isCut : IsCut cut (varint value)) : readVarint cut = .error .invalidVarint := by
  have spelled : Groups (varint value) value :=
    groups_varintGroups 9 value (Nat.lt_trans fits (by decide))
  rw [readVarint, readVarint?, readGroups?_of_isCut spelled isCut 10]

/-- Of a cut content either the length cannot be read, or it is more than there is. -/
theorem readVarint_of_isCut_content {content cut : List UInt8} (fits : content.length < lengthLimit)
    (isCut : IsCut cut (varint content.length ++ content)) :
    readVarint cut = .error .invalidVarint ∨
      ∃ part, readVarint cut = .ok (content.length, part) ∧ part.length < content.length := by
  rcases isCut.of_append with early | ⟨part, rfl, late⟩
  · exact .inl (readVarint_of_isCut fits early)
  · exact .inr ⟨part, readVarint_varint content.length part fits, late.length_lt⟩

theorem readText_of_isCut {content cut : List UInt8} (fits : content.length < lengthLimit)
    (isCut : IsCut cut (varint content.length ++ content)) :
    ∃ cause, readText .lengthDelimited cut = .error cause := by
  rcases readVarint_of_isCut_content fits isCut with failed | ⟨part, read, short⟩
  · refine ⟨.invalidVarint, ?_⟩
    simp only [readText, readDelimited, expect, failed, if_true, Bind.bind, Except.bind]
  · refine ⟨.bufferUnderflow, ?_⟩
    simp only [readText, readDelimited, expect, read, if_pos short, if_true, Bind.bind, Except.bind]

theorem mergeNested_of_isCut {ν : Type} (inner : Merge ν) (depth : Nat) (message : ν)
    {content cut : List UInt8} (fits : content.length < lengthLimit)
    (isCut : IsCut cut (varint content.length ++ content)) :
    ∃ failure, mergeNested inner (depth + 1) .lengthDelimited message cut = .error failure := by
  rcases readVarint_of_isCut_content fits isCut with failed | ⟨part, read, short⟩
  · refine ⟨.bare .invalidVarint, ?_⟩
    simp only [mergeNested, expect, failed, mapError_ok, if_true, Bind.bind, Except.bind]
    rfl
  · refine ⟨.bare .bufferUnderflow, ?_⟩
    simp only [mergeNested, expect, read, mapError_ok, if_pos short, if_true, Bind.bind,
      Except.bind]

/-! ## Fields -/

theorem merge_of_isCut (field : OrderField) (message : OrderMessage) {cut : List UInt8}
    (fits : field.content.length < lengthLimit)
    (isCut : IsCut cut (varint field.content.length ++ field.content)) :
    ∃ failure, OrderMessage.merge depthLimit field.tag .lengthDelimited message cut =
      .error failure := by
  cases field with
  | orderId text =>
      obtain ⟨cause, failed⟩ := readText_of_isCut fits isCut
      rw [OrderField.tag, OrderMessage.merge, failed]
      exact ⟨_, rfl⟩
  | trackingId text =>
      obtain ⟨cause, failed⟩ := readText_of_isCut fits isCut
      rw [OrderField.tag, OrderMessage.merge, failed]
      exact ⟨_, rfl⟩
  | shippingCost cost =>
      obtain ⟨failure, failed⟩ := mergeNested_of_isCut MoneyMessage.merge 99
        (message.shippingCost.getD .blank) fits isCut
      rw [OrderField.tag, OrderMessage.merge, depthLimit, failed]
      exact ⟨_, rfl⟩
  | shippingAddress address =>
      obtain ⟨failure, failed⟩ := mergeNested_of_isCut AddressMessage.merge 99
        (message.shippingAddress.getD .blank) fits isCut
      rw [OrderField.tag, OrderMessage.merge, depthLimit, failed]
      exact ⟨_, rfl⟩
  | line item =>
      obtain ⟨failure, failed⟩ := mergeNested_of_isCut OrderItemMessage.merge 99 .blank fits isCut
      rw [OrderField.tag, OrderMessage.merge, depthLimit, failed]
      exact ⟨_, rfl⟩

/-- Some bytes of a field, but not all of them, are refused. -/
theorem mergeFields_of_isCut {field : OrderField} {cut : List UInt8}
    (fits : field.content.length < lengthLimit) (isCut : IsCut cut field.bytes)
    (nonempty : cut ≠ []) (bound : Nat) (message : OrderMessage) :
    ∃ failure, mergeFields OrderMessage.merge depthLimit 0 (bound + 1) message cut =
      .error failure := by
  have more : ¬ (cut.length ≤ 0) := by
    intro empty
    exact nonempty (List.eq_nil_of_length_eq_zero (Nat.le_zero.mp empty))
  rw [OrderField.bytes, delimitedField, List.append_assoc] at isCut
  rw [mergeFields, if_neg more]
  rcases isCut.of_append with early | ⟨value, rfl, late⟩
  · have key_fits : 8 * field.tag + WireType.lengthDelimited.code < lengthLimit := by
      have bound := field.isTag_tag.2
      have code_lt := WireType.lengthDelimited.code_lt
      rw [lengthLimit]
      omega
    have failed : readKey cut = .error .invalidVarint := by
      rw [readKey, readVarint_of_isCut key_fits early]
      rfl
    rw [failed]
    exact ⟨_, rfl⟩
  · obtain ⟨failure, failed⟩ := merge_of_isCut field message fits late
    rw [readKey_key field.tag .lengthDelimited value field.isTag_tag]
    simp only [failed]
    exact ⟨failure, rfl⟩

/-! ## Whole fields -/

theorem Single.of_append {message : OrderMessage} {before after : List OrderField}
    (single : Single message (before ++ after)) : Single message before := by
  obtain ⟨cost, address⟩ := single
  rw [List.filterMap_append, List.length_append] at cost address
  exact ⟨by omega, by omega⟩

section Reading

variable {message : OrderMessage} {before after : List OrderField}

theorem OrderMessage.row_before (inRange : message.InRange)
    (fits : message.encode.length < lengthLimit) (split : message.fields = before ++ after) :
    Row OrderMessage.merge depthLimit .blank (before.flatMap OrderField.bytes)
      (assemble .blank before) := by
  have single := (values_fields message).single
  rw [split] at single
  refine row_fields ?_ single.of_append
  intro field member
  exact OrderMessage.fits_of_mem inRange fits (split ▸ List.mem_append_left after member)

/-- Behind whole fields, some bytes of the next field, but not all of them, are refused. -/
theorem OrderMessage.mergeAll_of_isCut {field : OrderField} {part : List UInt8}
    (inRange : message.InRange) (fits : message.encode.length < lengthLimit)
    (split : message.fields = before ++ field :: after) (isCut : IsCut part field.bytes)
    (nonempty : part ≠ []) :
    ∃ failure, mergeAll OrderMessage.merge .blank (before.flatMap OrderField.bytes ++ part) =
      .error failure := by
  have row := OrderMessage.row_before inRange fits split
  have field_fits := (OrderMessage.fits_of_mem inRange fits
    (split ▸ List.mem_append_right before List.mem_cons_self)).length
  have content_fits : field.content.length < lengthLimit := by
    rw [OrderField.bytes, delimitedField, List.length_append] at field_fits
    omega
  have enough : (before.flatMap OrderField.bytes).length + part.length ≤
      (before.flatMap OrderField.bytes ++ part).length := Nat.le_of_eq List.length_append.symm
  obtain ⟨left, some_left, merged⟩ := mergeFields_append row (Nat.zero_le part.length) enough
  have part_length := List.length_pos_iff.mpr nonempty
  obtain ⟨less, rfl⟩ : ∃ less, left = less + 1 := ⟨left - 1, by omega⟩
  obtain ⟨failure, failed⟩ :=
    mergeFields_of_isCut content_fits isCut nonempty less (assemble .blank before)
  refine ⟨failure, ?_⟩
  rw [mergeAll, merged, failed]
  rfl

end Reading

end Wire

end Checkout

import Checkout.Proofs.Texts
import Checkout.Proofs.Varints
import Checkout.Wire.Order

/-!
# Rows of fields

A message is written as a row of fields, and each field takes the message that has been read so far
to the next one, whatever bytes follow.  A row that takes one message to another is read as the other
one, both as a whole input and behind its length within an enclosing message.
-/

set_option autoImplicit false

namespace Checkout

namespace Wire

/-- Lengths are written as numbers of 64 bits, so nothing that is written has as many bytes as
this. -/
def lengthLimit : Nat := 18446744073709551616

/-! ## Values -/

theorem mapError_ok {ε ε' α : Type} (f : ε → ε') (a : α) :
    (Except.ok a : Except ε α).mapError f = .ok a :=
  rfl

theorem readVarint_varint (value : Nat) (rest : List UInt8) (fits : value < lengthLimit) :
    readVarint (varint value ++ rest) = .ok (value, rest) := by
  rw [readVarint, readVarint?_varint value rest fits]

theorem WireType.code_lt (wireType : WireType) : wireType.code < 8 := by
  cases wireType <;> decide

theorem WireType.ofCode?_code (wireType : WireType) : ofCode? wireType.code = some wireType := by
  cases wireType <;> rfl

/-- Keys are numbers of 32 bits, and the layout of the value takes three of them. -/
def IsTag (tag : Nat) : Prop :=
  0 < tag ∧ tag < 536870912

instance (tag : Nat) : Decidable (IsTag tag) :=
  inferInstanceAs (Decidable (_ ∧ _))

theorem readKey_key (tag : Nat) (wireType : WireType) (rest : List UInt8) (isTag : IsTag tag) :
    readKey (key tag wireType ++ rest) = .ok (tag, wireType, rest) := by
  obtain ⟨positive, bound⟩ := isTag
  have code_lt := wireType.code_lt
  have read := readVarint_varint (8 * tag + wireType.code) rest (by
    rw [lengthLimit]
    omega)
  have small : ¬ (4294967295 < 8 * tag + wireType.code) := by omega
  have low : (8 * tag + wireType.code) % 8 = wireType.code := by omega
  have high : (8 * tag + wireType.code) / 8 = tag := by omega
  have nonzero : tag ≠ 0 := by omega
  simp [readKey, key, read, small, low, high, nonzero, WireType.ofCode?_code, Bind.bind,
    Except.bind]

theorem readSigned_signedBits (width : Nat) (i : Int) (rest : List UInt8) (narrow : width ≤ 64)
    (least : -(Nat.pow 2 width : Int) ≤ 2 * i) (greatest : 2 * i < Nat.pow 2 width) :
    readSigned width .varint (varint (signedBits i) ++ rest) = .ok (i, rest) := by
  have read := readVarint_varint (signedBits i) rest (signedBits_lt i)
  have same := ofSignedBits_signedBits width i narrow least greatest
  simp [readSigned, expect, read, same, Bind.bind, Except.bind, Pure.pure, Except.pure]

theorem readText_utf8 (text : String) (rest : List UInt8)
    (fits : (Text.utf8 text).length < lengthLimit) :
    readText .lengthDelimited
        (varint (Text.utf8 text).length ++ Text.utf8 text ++ rest) = .ok (text, rest) := by
  have read := readVarint_varint (Text.utf8 text).length (Text.utf8 text ++ rest) fits
  have enough : ¬ ((Text.utf8 text ++ rest).length < (Text.utf8 text).length) := by
    rw [List.length_append]
    omega
  have delimited : readDelimited .lengthDelimited
      (varint (Text.utf8 text).length ++ (Text.utf8 text ++ rest)) =
        .ok (Text.utf8 text, rest) := by
    simp [readDelimited, expect, read, Bind.bind, Except.bind, Pure.pure, Except.pure]
  simp [readText, delimited, Text.ofUtf8?_utf8, Bind.bind, Except.bind, Pure.pure, Except.pure]

/-! ## Rows -/

section Rows

variable {μ ν : Type} {merge : Merge μ} {inner : Merge ν} {depth : Nat}

/-- Whatever follows them, these bytes are one field, which takes `message` to `result`. -/
def IsField (merge : Merge μ) (depth : Nat) (field : List UInt8) (message result : μ) : Prop :=
  ∀ rest, ∃ tag wireType value,
    readKey (field ++ rest) = .ok (tag, wireType, value) ∧
    merge depth tag wireType message value = .ok (result, rest)

/-- These bytes are a row of fields, which takes the first message to the second. -/
inductive Row (merge : Merge μ) (depth : Nat) : μ → List UInt8 → μ → Prop where
  | nil (message : μ) : Row merge depth message [] message
  | cons {message next result : μ} {field bytes : List UInt8}
      (first : IsField merge depth field message next) (rest : Row merge depth next bytes result) :
      Row merge depth message (field ++ bytes) result

theorem IsField.length_pos {field : List UInt8} {message result : μ}
    (isField : IsField merge depth field message result) : 0 < field.length := by
  cases field with
  | nil =>
      obtain ⟨tag, wireType, value, keyed, _⟩ := isField []
      cases keyed
  | cons byte bytes => exact Nat.succ_pos bytes.length

theorem Row.single {field : List UInt8} {message result : μ}
    (isField : IsField merge depth field message result) :
    Row merge depth message field result := by
  have row := Row.cons isField (Row.nil result)
  rwa [List.append_nil] at row

theorem Row.append {message next result : μ} {bytes more : List UInt8}
    (first : Row merge depth message bytes next) (second : Row merge depth next more result) :
    Row merge depth message (bytes ++ more) result := by
  induction first with
  | nil message => exact second
  | cons isField rest ih =>
      rw [List.append_assoc]
      exact Row.cons isField (ih second)

/-- A row is taken in field by field, and then what follows it. -/
theorem mergeFields_append {message result : μ} {bytes rest : List UInt8} {limit bound spare : Nat}
    (row : Row merge depth message bytes result) (stays : limit ≤ rest.length)
    (enough : bytes.length + spare ≤ bound) :
    ∃ left, spare ≤ left ∧ mergeFields merge depth limit bound message (bytes ++ rest) =
      mergeFields merge depth limit left result rest := by
  induction row generalizing bound with
  | nil message =>
      rw [List.length_nil, Nat.zero_add] at enough
      exact ⟨bound, enough, rfl⟩
  | @cons message next result field bytes isField row ih =>
      have nonempty := isField.length_pos
      rw [List.length_append] at enough
      cases bound with
      | zero => omega
      | succ bound =>
          obtain ⟨tag, wireType, value, keyed, merged⟩ := isField (bytes ++ rest)
          have more : ¬ ((field ++ (bytes ++ rest)).length ≤ limit) := by
            rw [List.length_append, List.length_append]
            omega
          have enough_left : bytes.length + spare ≤ bound := by omega
          rw [List.append_assoc, mergeFields, if_neg more, keyed]
          simp only [merged]
          exact ih enough_left

theorem mergeFields_row {message result : μ} {bytes : List UInt8}
    (row : Row merge depth message bytes result) (rest : List UInt8) (bound : Nat)
    (enough : bytes.length ≤ bound) :
    mergeFields merge depth rest.length bound message (bytes ++ rest) = .ok (result, rest) := by
  have enough_left : bytes.length + 0 ≤ bound := enough
  obtain ⟨left, _, merged⟩ := mergeFields_append row (Nat.le_refl rest.length) enough_left
  rw [merged]
  cases left with
  | zero => rfl
  | succ left => rw [mergeFields, if_pos (Nat.le_refl rest.length)]

theorem mergeAll_row {message result : μ} {bytes : List UInt8}
    (row : Row merge depthLimit message bytes result) :
    mergeAll merge message bytes = .ok result := by
  have merged := mergeFields_row row [] bytes.length (Nat.le_refl bytes.length)
  rw [List.append_nil] at merged
  rw [mergeAll, show (0 : Nat) = ([] : List UInt8).length from rfl, merged]
  rfl

theorem mergeNested_row {message result : μ} {content : List UInt8}
    (row : Row merge depth message content result) (rest : List UInt8)
    (fits : content.length < lengthLimit) :
    mergeNested merge (depth + 1) .lengthDelimited message
      (varint content.length ++ content ++ rest) = .ok (result, rest) := by
  have read := readVarint_varint content.length (content ++ rest) fits
  have merged := mergeFields_row row rest (content ++ rest).length (by
    rw [List.length_append]
    omega)
  have enough : ¬ ((content ++ rest).length < content.length) := by
    rw [List.length_append]
    omega
  have limit_eq : (content ++ rest).length - content.length = rest.length := by
    rw [List.length_append]
    omega
  rw [List.append_assoc, mergeNested]
  simp only [expect, read, mapError_ok, Bind.bind, Except.bind, if_true, if_neg enough, limit_eq,
    merged, Pure.pure, Except.pure]

/-! ## Fields -/

/-- A key and a value are a field if the message takes in the value, whatever follows it. -/
theorem isField_of_key {tag : Nat} {wireType : WireType} {value : List UInt8} {message result : μ}
    (isTag : IsTag tag)
    (merged : ∀ rest, merge depth tag wireType message (value ++ rest) = .ok (result, rest)) :
    IsField merge depth (key tag wireType ++ value) message result := by
  intro rest
  refine ⟨tag, wireType, value ++ rest, ?_, merged rest⟩
  rw [List.append_assoc]
  exact readKey_key tag wireType (value ++ rest) isTag

theorem isField_text (tag : Nat) (put : String → μ) {name field text : String} {message : μ}
    (isTag : IsTag tag)
    (reads : ∀ wireType bytes, merge depth tag wireType message bytes =
      store name field put ((readText wireType bytes).mapError .bare))
    (fits : (delimitedField tag (Text.utf8 text)).length < lengthLimit) :
    IsField merge depth (delimitedField tag (Text.utf8 text)) message (put text) := by
  rw [delimitedField, List.append_assoc] at fits ⊢
  rw [List.length_append, List.length_append] at fits
  apply isField_of_key isTag
  intro rest
  rw [reads, readText_utf8 text rest (by omega)]
  rfl

/-- A text is a field, unless it is empty and so is the field that it goes to. -/
theorem row_textField (tag : Nat) (put : String → μ) {name field text : String} {message : μ}
    (isTag : IsTag tag)
    (reads : ∀ wireType bytes, merge depth tag wireType message bytes =
      store name field put ((readText wireType bytes).mapError .bare))
    (blank : put "" = message) (fits : (textField tag text).length < lengthLimit) :
    Row merge depth message (textField tag text) (put text) := by
  by_cases empty : text = ""
  · rw [textField, if_pos empty, empty, blank]
    exact Row.nil message
  · rw [textField, if_neg empty] at fits ⊢
    exact Row.single (isField_text tag put isTag reads fits)

/-- A signed number is a field, unless it is zero and so is the field that it goes to. -/
theorem row_signedField (tag : Nat) (put : Int → μ) {width : Nat} {name field : String} {i : Int}
    {message : μ} (isTag : IsTag tag)
    (reads : ∀ wireType bytes, merge depth tag wireType message bytes =
      store name field put ((readSigned width wireType bytes).mapError .bare))
    (blank : put 0 = message) (narrow : width ≤ 64)
    (least : -(Nat.pow 2 width : Int) ≤ 2 * i) (greatest : 2 * i < Nat.pow 2 width) :
    Row merge depth message (signedField tag i) (put i) := by
  by_cases zero : i = 0
  · rw [signedField, if_pos zero, zero, blank]
    exact Row.nil message
  · rw [signedField, if_neg zero]
    apply Row.single
    apply isField_of_key isTag
    intro rest
    rw [reads, readSigned_signedBits width i rest narrow least greatest]
    rfl

theorem isField_nested (tag : Nat) (put : ν → μ) {name field : String} {content : List UInt8}
    {start result : ν} {message : μ} (isTag : IsTag tag)
    (reads : ∀ wireType bytes, merge (depth + 1) tag wireType message bytes =
      store name field put (mergeNested inner (depth + 1) wireType start bytes))
    (row : Row inner depth start content result)
    (fits : (delimitedField tag content).length < lengthLimit) :
    IsField merge (depth + 1) (delimitedField tag content) message (put result) := by
  rw [delimitedField, List.append_assoc] at fits ⊢
  rw [List.length_append, List.length_append] at fits
  apply isField_of_key isTag
  intro rest
  rw [reads, mergeNested_row row rest (by omega)]
  rfl

theorem row_delimitedField (tag : Nat) (put : ν → μ) {name field : String} {content : List UInt8}
    {start result : ν} {message : μ} (isTag : IsTag tag)
    (reads : ∀ wireType bytes, merge (depth + 1) tag wireType message bytes =
      store name field put (mergeNested inner (depth + 1) wireType start bytes))
    (row : Row inner depth start content result)
    (fits : (delimitedField tag content).length < lengthLimit) :
    Row merge (depth + 1) message (delimitedField tag content) (put result) :=
  Row.single (isField_nested tag put isTag reads row fits)

end Rows

end Wire

end Checkout

import Checkout.Proofs.Steps
import Checkout.Proofs.WrittenMessages

/-!
# What reading takes

Readers accept many forms that are never written: long numbers, fields in any order, repeated,
unknown or merged.  None of them takes fewer bytes than half of those with which its value is
written.  The half is due to negative numbers of 32 bits, which are written with ten bytes, but read
from five as well; nothing else is read from fewer bytes than it is written with.
-/

set_option autoImplicit false

namespace Checkout.Wire

/-! ## Lengths of numbers -/

theorem length_varintGroups_of_lt (groups : Nat) {value : Nat} (small : value < 128) :
    (varintGroups (groups + 1) value).length = 1 := by
  rw [varintGroups, if_pos small, List.length_singleton]

theorem length_varintGroups_of_ge (groups : Nat) {value : Nat} (large : 128 ≤ value) :
    (varintGroups (groups + 1) value).length =
      (varintGroups groups (value / 128)).length + 1 := by
  rw [varintGroups, if_neg (Nat.not_lt.mpr large), List.length_cons]

theorem length_varintGroups_mono (groups : Nat) {value larger : Nat} (le : value ≤ larger) :
    (varintGroups groups value).length ≤ (varintGroups groups larger).length := by
  induction groups generalizing value larger with
  | zero => exact Nat.le_refl 0
  | succ groups ih =>
      by_cases small : value < 128
      · rw [length_varintGroups_of_lt groups small]
        by_cases alsoSmall : larger < 128
        · exact Nat.le_of_eq (length_varintGroups_of_lt groups alsoSmall).symm
        · rw [length_varintGroups_of_ge groups (Nat.not_lt.mp alsoSmall)]
          omega
      · rw [length_varintGroups_of_ge groups (Nat.not_lt.mp small),
          length_varintGroups_of_ge groups (by omega)]
        exact Nat.succ_le_succ (ih (Nat.div_le_div_right le))

/-- Twice a number takes at most one more group. -/
theorem length_varintGroups_double (groups value : Nat) :
    (varintGroups groups (2 * value + 1)).length ≤ (varintGroups groups value).length + 1 := by
  induction groups generalizing value with
  | zero => exact Nat.zero_le 1
  | succ groups ih =>
      by_cases small : 2 * value + 1 < 128
      · rw [length_varintGroups_of_lt groups small]
        omega
      · have high := length_varintGroups_mono groups
          (show (2 * value + 1) / 128 ≤ 2 * (value / 128) + 1 by omega)
        have doubled := ih (value / 128)
        rw [length_varintGroups_of_ge groups (Nat.not_lt.mp small)]
        by_cases short : value < 128
        · have none : value / 128 = 0 := Nat.div_eq_of_lt short
          have one : (varintGroups groups (2 * 0 + 1)).length ≤ 1 := by
            cases groups with
            | zero => exact Nat.zero_le 1
            | succ groups => exact Nat.le_of_eq (length_varintGroups_of_lt groups (by decide))
          rw [length_varintGroups_of_lt groups short]
          rw [none] at high
          omega
        · rw [length_varintGroups_of_ge groups (Nat.not_lt.mp short)]
          omega

theorem length_varint_pos (value : Nat) : 0 < (varint value).length := by
  by_cases small : value < 128
  · rw [varint, length_varintGroups_of_lt 9 small]
    exact Nat.one_pos
  · rw [varint, length_varintGroups_of_ge 9 (Nat.not_lt.mp small)]
    exact Nat.succ_pos _

theorem length_varint_mono {value larger : Nat} (le : value ≤ larger) :
    (varint value).length ≤ (varint larger).length :=
  length_varintGroups_mono 10 le

/-- A sum is not longer than its parts together. -/
theorem length_varint_add (left right : Nat) :
    (varint (left + right)).length ≤ (varint left).length + (varint right).length := by
  have some_left := length_varint_pos left
  have some_right := length_varint_pos right
  rcases Nat.le_total left right with le | le
  · have sum := length_varint_mono (show left + right ≤ 2 * right + 1 by omega)
    have doubled : (varint (2 * right + 1)).length ≤ (varint right).length + 1 :=
      length_varintGroups_double 10 right
    omega
  · have sum := length_varint_mono (show left + right ≤ 2 * left + 1 by omega)
    have doubled : (varint (2 * left + 1)).length ≤ (varint left).length + 1 :=
      length_varintGroups_double 10 left
    omega

theorem length_key {tag : Nat} (small : tag < 16) (wireType : WireType) :
    (key tag wireType).length = 1 := by
  have code_lt := wireType.code_lt
  exact length_varintGroups_of_lt 9 (by omega)

/-! ## Signed numbers -/

theorem ofSignedBits_64_bounds (value : Nat) :
    -9223372036854775808 ≤ ofSignedBits 64 value ∧ ofSignedBits 64 value ≤ 9223372036854775807 := by
  have least := Int.le_bmod (x := (value : Int)) (m := Nat.pow 2 64) (by decide)
  have greatest := Int.bmod_lt (x := (value : Int)) (m := Nat.pow 2 64) (by decide)
  have power : ((Nat.pow 2 64 : Nat) : Int) = 18446744073709551616 := rfl
  rw [ofSignedBits]
  omega

theorem ofSignedBits_32_bounds (value : Nat) :
    -2147483648 ≤ ofSignedBits 32 value ∧ ofSignedBits 32 value ≤ 2147483647 := by
  have least := Int.le_bmod (x := (value : Int)) (m := Nat.pow 2 32) (by decide)
  have greatest := Int.bmod_lt (x := (value : Int)) (m := Nat.pow 2 32) (by decide)
  have power : ((Nat.pow 2 32 : Nat) : Int) = 4294967296 := rfl
  rw [ofSignedBits]
  omega

theorem fitsInt64_ofSignedBits (value : Nat) : fitsInt64 (ofSignedBits 64 value) = true := by
  have bounds := ofSignedBits_64_bounds value
  generalize ofSignedBits 64 value = i at bounds
  simpa only [fitsInt64, Bool.and_eq_true, decide_eq_true_eq] using bounds

theorem fitsInt32_ofSignedBits (value : Nat) : fitsInt32 (ofSignedBits 32 value) = true := by
  have bounds := ofSignedBits_32_bounds value
  generalize ofSignedBits 32 value = i at bounds
  simpa only [fitsInt32, Bool.and_eq_true, decide_eq_true_eq] using bounds

theorem signedBits_ofSignedBits_64 (value : Nat) : signedBits (ofSignedBits 64 value) ≤ value := by
  have power : ((Nat.pow 2 64 : Nat) : Int) = 18446744073709551616 := rfl
  rw [signedBits, ofSignedBits, Int.bmod_emod, power]
  omega

/-- A negative number of 32 bits has its last bit set, so it was read from at least five bytes. -/
theorem length_signedBits_32 (value : Nat) :
    (varint (signedBits (ofSignedBits 32 value))).length ≤ 2 * (varint value).length := by
  by_cases low : value < 2147483648
  · have same : signedBits (ofSignedBits 32 value) = value := by
      have power32 : ((Nat.pow 2 32 : Nat) : Int) = 4294967296 := rfl
      have power64 : ((Nat.pow 2 64 : Nat) : Int) = 18446744073709551616 := rfl
      rw [ofSignedBits, Int.bmod_eq_of_le_mul_two (by omega) (by omega), signedBits, power64]
      omega
    rw [same]
    omega
  · have ten : (varint (signedBits (ofSignedBits 32 value))).length ≤ 10 :=
      length_varintGroups_le 10 _
    have five : (varint 2147483648).length = 5 := by decide
    have long := length_varint_mono (Nat.not_lt.mp low)
    omega

theorem length_signedField {tag : Nat} (small : tag < 16) (i : Int) :
    (signedField tag i).length ≤ (varint (signedBits i)).length + 1 := by
  rw [signedField]
  split
  · exact Nat.zero_le _
  · rw [List.length_append, length_key small]
    omega

/-! ## Readers -/

theorem length_of_readGroups? {groups value : Nat} {bytes rest : List UInt8}
    (read : readGroups? groups bytes = some (value, rest)) :
    (varintGroups groups value).length + rest.length ≤ bytes.length := by
  induction groups generalizing value bytes with
  | zero => cases read
  | succ groups ih =>
      cases bytes with
      | nil => cases read
      | cons byte bytes =>
          rw [readGroups?] at read
          rw [List.length_cons]
          by_cases last : byte.toNat < 128
          · rw [if_pos last] at read
            split at read
            · cases read
            · cases read
              rw [length_varintGroups_of_lt groups last]
              omega
          · rw [if_neg last] at read
            obtain ⟨⟨high, after⟩, readHigh, same⟩ := Option.bind_eq_some_iff.mp read
            cases same
            have taken := ih readHigh
            by_cases small : byte.toNat - 128 + 128 * high < 128
            · rw [length_varintGroups_of_lt groups small]
              omega
            · have byte_lt := byte.toNat_lt
              have quotient : (byte.toNat - 128 + 128 * high) / 128 = high := by omega
              rw [length_varintGroups_of_ge groups (Nat.not_lt.mp small), quotient]
              omega

theorem length_of_readVarint {value : Nat} {bytes rest : List UInt8}
    (read : readVarint bytes = .ok (value, rest)) :
    (varint value).length + rest.length ≤ bytes.length := by
  rw [readVarint] at read
  split at read
  next result found =>
    cases read
    exact length_of_readGroups? found
  next => cases read

theorem length_of_readKey {tag : Nat} {wireType : WireType} {bytes rest : List UInt8}
    (read : readKey bytes = .ok (tag, wireType, rest)) : rest.length < bytes.length := by
  rw [readKey] at read
  obtain ⟨⟨value, after⟩, number, read⟩ := Except.of_bind read
  have taken := length_of_readVarint number
  have some_bytes := length_varint_pos value
  dsimp only at read
  split at read
  · cases read
  · split at read
    · cases read
    · split at read
      · cases read
      · cases read
        omega

theorem length_of_skipBytes {count : Nat} {bytes rest : List UInt8}
    (skipped : skipBytes count bytes = .ok rest) : rest.length ≤ bytes.length := by
  rw [skipBytes] at skipped
  split at skipped
  · cases skipped
  · cases skipped
    rw [List.length_drop]
    omega

/-- Whatever is skipped with `bound` calls leaves no more bytes than there were. -/
structure SkipsForward (bound : Nat) : Prop where
  value : ∀ {depth tag : Nat} {wireType : WireType} {bytes rest : List UInt8},
    skipValue bound depth wireType tag bytes = .ok rest → rest.length ≤ bytes.length
  group : ∀ {depth tag : Nat} {bytes rest : List UInt8},
    skipGroup bound depth tag bytes = .ok rest → rest.length ≤ bytes.length

namespace SkipsForward

variable {bound depth tag : Nat} {wireType : WireType} {bytes rest : List UInt8}

theorem value_succ (forward : SkipsForward bound)
    (skipped : skipValue (bound + 1) depth wireType tag bytes = .ok rest) :
    rest.length ≤ bytes.length := by
  cases depth with
  | zero => cases skipped
  | succ depth =>
      cases wireType with
      | varint =>
          rw [skipValue] at skipped
          obtain ⟨⟨value, after⟩, number, same⟩ := Except.of_map skipped
          cases same
          have taken := length_of_readVarint number
          dsimp only
          omega
      | sixtyFourBit => exact length_of_skipBytes skipped
      | lengthDelimited =>
          rw [skipValue] at skipped
          split at skipped
          next => cases skipped
          next length after number =>
            have taken := length_of_readVarint number
            have dropped := length_of_skipBytes skipped
            omega
      | startGroup => exact forward.group skipped
      | endGroup => cases skipped
      | thirtyTwoBit => exact length_of_skipBytes skipped

theorem group_succ (forward : SkipsForward bound)
    (skipped : skipGroup (bound + 1) depth tag bytes = .ok rest) : rest.length ≤ bytes.length := by
  rw [skipGroup] at skipped
  split at skipped
  next => cases skipped
  next innerTag after keyed =>
    have taken := length_of_readKey keyed
    split at skipped
    · cases skipped
      omega
    · cases skipped
  next innerTag innerType after _ keyed =>
    have taken := length_of_readKey keyed
    split at skipped
    next => cases skipped
    next left inner =>
      have skippedValue := forward.value inner
      have others := forward.group skipped
      omega

end SkipsForward

/-- Values and groups that are skipped are nested in each other; the bound on the calls decreases. -/
theorem skipsForward (bound : Nat) : SkipsForward bound := by
  induction bound with
  | zero =>
      constructor
      · intro depth tag wireType bytes rest skipped
        cases skipped
      · intro depth tag bytes rest skipped
        cases skipped
  | succ bound ih => exact ⟨ih.value_succ, ih.group_succ⟩

theorem length_of_pass {μ : Type} {depth tag : Nat} {wireType : WireType} {message result : μ}
    {bytes rest : List UInt8} (passed : pass depth tag wireType message bytes = .ok (result, rest)) :
    result = message ∧ rest.length ≤ bytes.length := by
  rw [pass] at passed
  split at passed
  next after skipped =>
    cases passed
    exact ⟨rfl, (skipsForward _).value skipped⟩
  next => cases passed

theorem length_of_readSigned {width : Nat} {wireType : WireType} {i : Int} {bytes rest : List UInt8}
    (read : readSigned width wireType bytes = .ok (i, rest)) :
    ∃ value, i = ofSignedBits width value ∧
      (varint value).length + rest.length ≤ bytes.length := by
  rw [readSigned] at read
  obtain ⟨_, _, read⟩ := Except.of_bind read
  obtain ⟨⟨value, after⟩, number, read⟩ := Except.of_bind read
  cases read
  exact ⟨value, rfl, length_of_readVarint number⟩

theorem length_of_readDelimited {wireType : WireType} {content bytes rest : List UInt8}
    (read : readDelimited wireType bytes = .ok (content, rest)) :
    (varint content.length).length + content.length + rest.length ≤ bytes.length := by
  rw [readDelimited] at read
  obtain ⟨_, _, read⟩ := Except.of_bind read
  obtain ⟨⟨length, after⟩, number, read⟩ := Except.of_bind read
  have taken := length_of_readVarint number
  dsimp only at read
  split at read
  next => cases read
  next enough =>
    cases read
    rw [List.length_take_of_le (Nat.not_lt.mp enough), List.length_drop]
    omega

theorem length_of_readText {wireType : WireType} {text : String} {bytes rest : List UInt8}
    (read : readText wireType bytes = .ok (text, rest)) :
    (varint (Text.utf8 text).length).length + (Text.utf8 text).length + rest.length ≤
      bytes.length := by
  rw [readText] at read
  obtain ⟨⟨content, after⟩, delimited, read⟩ := Except.of_bind read
  dsimp only at read
  split at read
  next => cases read
  next decoded same =>
    cases read
    rw [Text.utf8_of_ofUtf8? same]
    exact length_of_readDelimited delimited

/-! ## Messages -/

section Messages

variable {μ ν : Type} {name field : String} {result : μ} {wireType : WireType}
  {bytes rest : List UInt8}

/-- Taking in a field keeps what is known of a message, and the message does not grow by more than
twice the bytes of the field, whose key has at least one. -/
def Measured (merge : Merge μ) (Known : μ → Prop) (size : μ → Nat) : Prop :=
  ∀ {depth tag : Nat} {wireType : WireType} {message result : μ} {bytes rest : List UInt8},
    merge depth tag wireType message bytes = .ok (result, rest) → Known message →
      Known result ∧ size result + 2 * rest.length ≤ size message + 2 * bytes.length + 2

theorem mergeFields_measured {merge : Merge μ} {Known : μ → Prop} {size : μ → Nat}
    (measured : Measured merge Known size) {depth limit bound : Nat} {message : μ}
    (read : mergeFields merge depth limit bound message bytes = .ok (result, rest))
    (known : Known message) :
    Known result ∧ size result + 2 * rest.length ≤ size message + 2 * bytes.length := by
  induction bound generalizing message bytes with
  | zero =>
      cases read
      exact ⟨known, Nat.le_refl _⟩
  | succ bound ih =>
      rw [mergeFields] at read
      split at read
      next =>
        cases read
        exact ⟨known, Nat.le_refl _⟩
      next =>
        split at read
        next => cases read
        next tag wireType value keyed =>
          split at read
          next => cases read
          next taken after merged =>
            have fewer := length_of_readKey keyed
            have first := measured merged known
            have others := ih read first.1
            exact ⟨others.1, by omega⟩

theorem mergeNested_measured {merge : Merge μ} {Known : μ → Prop} {size : μ → Nat}
    (measured : Measured merge Known size) {depth : Nat} {message : μ}
    (read : mergeNested merge depth wireType message bytes = .ok (result, rest))
    (known : Known message) :
    Known result ∧ ∃ length, size result ≤ size message + 2 * length ∧
      (varint length).length + length + rest.length ≤ bytes.length := by
  cases depth with
  | zero =>
      rw [mergeNested] at read
      obtain ⟨_, _, read⟩ := Except.of_bind read
      cases read
  | succ depth =>
      rw [mergeNested] at read
      obtain ⟨_, _, read⟩ := Except.of_bind read
      obtain ⟨⟨length, after⟩, number, read⟩ := Except.of_bind read
      have taken := length_of_readVarint (Except.of_mapError number)
      dsimp only at read
      split at read
      next => cases read
      next enough =>
        obtain ⟨⟨filled, left⟩, fields, read⟩ := Except.of_bind read
        have inner := mergeFields_measured measured fields known
        dsimp only at read
        split at read
        next ends =>
          cases read
          exact ⟨inner.1, length, by omega, by omega⟩
        next => cases read

theorem store_eq_ok {α : Type} {put : α → μ} {outcome : Except Failure (α × List UInt8)}
    (stored : store name field put outcome = .ok (result, rest)) :
    ∃ value, outcome = .ok (value, rest) ∧ result = put value := by
  cases outcome with
  | error failure => cases stored
  | ok pair =>
      obtain ⟨value, after⟩ := pair
      cases stored
      exact ⟨value, rfl, rfl⟩

theorem textField_of_store (tag : Nat) (small : tag < 16) {put : String → μ}
    (stored : store name field put ((readText wireType bytes).mapError .bare) =
      .ok (result, rest)) :
    ∃ text, result = put text ∧ (textField tag text).length + rest.length ≤ bytes.length + 1 := by
  obtain ⟨text, read, same⟩ := store_eq_ok stored
  have taken := length_of_readText (Except.of_mapError read)
  refine ⟨text, same, ?_⟩
  rw [textField]
  split
  · rw [List.length_nil]
    omega
  · rw [delimitedField, List.length_append, List.length_append, length_key small]
    omega

theorem int64Field_of_store (tag : Nat) (small : tag < 16) {put : Int → μ}
    (stored : store name field put ((readSigned 64 wireType bytes).mapError .bare) =
      .ok (result, rest)) :
    ∃ i, result = put i ∧ fitsInt64 i = true ∧
      (signedField tag i).length + 2 * rest.length ≤ 2 * bytes.length + 2 := by
  obtain ⟨i, read, same⟩ := store_eq_ok stored
  obtain ⟨value, i_eq, taken⟩ := length_of_readSigned (Except.of_mapError read)
  have fits := fitsInt64_ofSignedBits value
  have bits := length_varint_mono (signedBits_ofSignedBits_64 value)
  rw [← i_eq] at fits bits
  have written := length_signedField small i
  exact ⟨i, same, fits, by omega⟩

theorem int32Field_of_store (tag : Nat) (small : tag < 16) {put : Int → μ}
    (stored : store name field put ((readSigned 32 wireType bytes).mapError .bare) =
      .ok (result, rest)) :
    ∃ i, result = put i ∧ fitsInt32 i = true ∧
      (signedField tag i).length + 2 * rest.length ≤ 2 * bytes.length + 2 := by
  obtain ⟨i, read, same⟩ := store_eq_ok stored
  obtain ⟨value, i_eq, taken⟩ := length_of_readSigned (Except.of_mapError read)
  have fits := fitsInt32_ofSignedBits value
  have bits := length_signedBits_32 value
  rw [← i_eq] at fits bits
  have written := length_signedField small i
  exact ⟨i, same, fits, by omega⟩

theorem length_delimitedField {tag : Nat} (small : tag < 16) (content : List UInt8) :
    (delimitedField tag content).length =
      1 + (varint content.length).length + content.length := by
  rw [delimitedField, List.length_append, List.length_append, length_key small]

/-- A nested message is merged into the one that was there before it, or into a blank one. -/
theorem nestedField_of_store (tag : Nat) (small : tag < 16) {inner : Merge ν} {Known : ν → Prop}
    {encode : ν → List UInt8} (measured : Measured inner Known fun value => (encode value).length)
    {blank : ν} (blankKnown : Known blank) (blankEmpty : encode blank = []) {old : Option ν}
    (oldKnown : ∀ value ∈ old, Known value) {depth : Nat} {put : ν → μ}
    (stored : store name field put (mergeNested inner depth wireType (old.getD blank) bytes) =
      .ok (result, rest)) :
    ∃ value, result = put value ∧ Known value ∧
      (nestedField tag encode (some value)).length + 2 * rest.length ≤
        (nestedField tag encode old).length + 2 * bytes.length + 2 := by
  obtain ⟨value, read, same⟩ := store_eq_ok stored
  cases old with
  | none =>
      obtain ⟨known, length, grown, taken⟩ := mergeNested_measured measured read blankKnown
      rw [Option.getD_none, blankEmpty, List.length_nil] at grown
      have longer := length_varint_mono (show (encode value).length ≤ length + length by omega)
      have sum := length_varint_add length length
      refine ⟨value, same, known, ?_⟩
      simp only [nestedField, length_delimitedField small, List.length_nil]
      omega
  | some before =>
      obtain ⟨known, length, grown, taken⟩ :=
        mergeNested_measured measured read (oldKnown before rfl)
      rw [Option.getD_some] at grown
      have longer := length_varint_mono
        (show (encode value).length ≤ (encode before).length + (length + length) by omega)
      have sum := length_varint_add (encode before).length (length + length)
      have twice := length_varint_add length length
      refine ⟨value, same, known, ?_⟩
      simp only [nestedField, length_delimitedField small]
      omega

end Messages

end Checkout.Wire

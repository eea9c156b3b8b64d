import Checkout.Text.Hex
import Checkout.Text.Utf8

/-!
# Texts read back

Hexadecimal digits are read back as their values, and a text is read back from its bytes.  So texts
with the same bytes are the same.  Any bytes are those of their symbols, which are all characters
exactly if the bytes are those of a text.
-/

set_option autoImplicit false

namespace Checkout.Text

theorem hexValue?_hexDigit : ∀ value : Fin 16, hexValue? (hexDigit value) = some value := by
  decide

theorem hexValue?_hexDigitUpper :
    ∀ value : Fin 16, hexValue? (hexDigitUpper value) = some value := by
  decide

theorem hexValues?_map_hexDigit (values : List (Fin 16)) :
    hexValues? (values.map hexDigit) = some values := by
  induction values with
  | nil => rfl
  | cons value values ih => simp [hexValues?, hexValue?_hexDigit, ih]

theorem ofUtf8?_utf8 (text : String) : ofUtf8? (utf8 text) = some text := by
  have valid : text.toByteArray.IsValidUTF8 := text.isValidUTF8
  have bytes_eq : (⟨text.toUTF8.data.toList.toArray⟩ : ByteArray) = text.toByteArray := rfl
  rw [ofUtf8?, utf8, bytes_eq, String.fromUTF8?, dif_pos valid]
  rfl

theorem utf8_inj {text other : String} (same : utf8 text = utf8 other) : text = other := by
  have read := congrArg ofUtf8? same
  rw [ofUtf8?_utf8, ofUtf8?_utf8] at read
  exact Option.some.inj read

theorem utf8_of_ofUtf8? {bytes : List UInt8} {text : String} (read : ofUtf8? bytes = some text) :
    utf8 text = bytes := by
  rw [ofUtf8?, String.fromUTF8?] at read
  split at read
  · cases read
    rfl
  · cases read

/-- The bytes of a text are those of its characters, one after the other. -/
theorem utf8_eq_flatMap (text : String) :
    utf8 text = text.toList.flatMap String.utf8EncodeChar := by
  have bytes : text.toUTF8 = text.toList.utf8Encode := String.utf8Encode_toList.symm
  rw [utf8, bytes, List.utf8Encode, List.data_toByteArray, List.toList_toArray]

theorem ofUInt8_of_narrow {c : Char} (narrow : c.utf8Size = 1) : Char.ofUInt8 c.val.toUInt8 = c := by
  rw [Char.utf8Size_eq_one_iff, UInt32.le_iff_toNat_le] at narrow
  have ascii : c.val.toNat < 256 := Nat.lt_of_le_of_lt narrow (by decide)
  apply Char.ext
  apply UInt32.toNat_inj.mp
  change c.val.toUInt8.toUInt32.toNat = c.val.toNat
  rw [UInt8.toNat_toUInt32, UInt32.toNat_toUInt8, Nat.mod_eq_of_lt ascii]

theorem map_ofUInt8_utf8 {text : String} (narrow : ∀ c ∈ text.toList, c.utf8Size = 1) :
    (utf8 text).map Char.ofUInt8 = text.toList := by
  rw [utf8_eq_flatMap]
  generalize text.toList = chars at narrow
  induction chars with
  | nil => rfl
  | cons c rest ih =>
      obtain ⟨first, others⟩ := List.forall_mem_cons.mp narrow
      rw [List.flatMap_cons, List.map_append, ih others, String.utf8EncodeChar_eq_singleton first,
        List.map_singleton, ofUInt8_of_narrow first, List.singleton_append]

/-! ## Symbols -/

theorem firstChar?_utf8EncodeChar (c : Char) (rest : List UInt8) :
    firstChar? (String.utf8EncodeChar c ++ rest) = some c := by
  have short : (String.utf8EncodeChar c).length ≤ 4 := by
    rw [String.length_utf8EncodeChar]
    exact c.utf8Size_le_four
  rw [firstChar?, List.take_append, List.take_of_length_le short, List.toByteArray_append]
  exact ByteArray.utf8DecodeChar?_utf8EncodeChar_append

theorem eq_append_of_firstChar? {bytes : List UInt8} {c : Char} (first : firstChar? bytes = some c) :
    bytes = String.utf8EncodeChar c ++ bytes.drop c.utf8Size := by
  have same := String.toByteArray_utf8EncodeChar_of_utf8DecodeChar?_eq_some first
  have encoded : String.utf8EncodeChar c = (bytes.take 4).take c.utf8Size := by
    have data := congrArg (fun array => array.data.toList) same
    simpa using data
  rw [encoded, List.take_take, Nat.min_eq_left c.utf8Size_le_four, List.take_append_drop]

theorem symbolsAfter_append (taken rest : List UInt8) :
    symbolsAfter taken.length (taken ++ rest) = symbols rest := by
  induction taken with
  | nil => rfl
  | cons byte taken ih => exact ih

theorem symbols_utf8EncodeChar (c : Char) (rest : List UInt8) :
    symbols (String.utf8EncodeChar c ++ rest) = .char c :: symbols rest := by
  have first := firstChar?_utf8EncodeChar c rest
  have size := String.length_utf8EncodeChar c
  cases bytes : String.utf8EncodeChar c with
  | nil =>
      rw [bytes] at size
      exact absurd size.symm (Nat.ne_of_gt c.utf8Size_pos)
  | cons byte others =>
      rw [bytes] at first size
      rw [List.cons_append] at first ⊢
      rw [symbols, symbolsAfter, first]
      simp only [← size, List.length_cons, Nat.add_sub_cancel]
      rw [symbolsAfter_append]

/-- The symbols of a text are its characters. -/
theorem symbols_utf8 (text : String) : symbols (utf8 text) = text.toList.map .char := by
  rw [utf8_eq_flatMap]
  induction text.toList with
  | nil => rfl
  | cons c rest ih => rw [List.flatMap_cons, symbols_utf8EncodeChar, ih, List.map_cons]

/-- The symbols say all about the bytes. -/
theorem flatMap_symbolsAfter (taken : Nat) (bytes : List UInt8) :
    (symbolsAfter taken bytes).flatMap Symbol.bytes = bytes.drop taken := by
  induction bytes generalizing taken with
  | nil => cases taken <;> rfl
  | cons byte rest ih =>
      cases taken with
      | succ taken => exact ih taken
      | zero =>
          rw [symbolsAfter]
          cases first : firstChar? (byte :: rest) with
          | none => exact congrArg (byte :: ·) (ih 0)
          | some c =>
              have parts := eq_append_of_firstChar? first
              obtain ⟨size, size_eq⟩ := Nat.exists_eq_succ_of_ne_zero (Nat.ne_of_gt c.utf8Size_pos)
              rw [size_eq, List.drop_succ_cons] at parts
              simp only [List.flatMap_cons, ih, size_eq, Nat.succ_sub_one]
              exact parts.symm

theorem flatMap_symbols (bytes : List UInt8) : (symbols bytes).flatMap Symbol.bytes = bytes :=
  flatMap_symbolsAfter 0 bytes

theorem symbols_eq_map_char_iff (bytes : List UInt8) (text : String) :
    symbols bytes = text.toList.map .char ↔ bytes = utf8 text := by
  constructor
  · intro same
    rw [← flatMap_symbols bytes, same, utf8_eq_flatMap, List.flatMap_map]
    rfl
  · rintro rfl
    exact symbols_utf8 text

end Checkout.Text

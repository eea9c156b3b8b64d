import Checkout.Proofs.HeaderTexts

/-!
# Numbers in a fixed number of places

What is read as a hexadecimal number is a run of digits in either case, and a plus sign may stand
before it.  Written in as many places again, the number has its digits in lower case and a zero for
the sign.
-/

set_option autoImplicit false

namespace Checkout.Text

/-! ## Digits -/

def IsHexDigit (c : Char) : Prop :=
  ('0' ≤ c ∧ c ≤ '9') ∨ ('a' ≤ c ∧ c ≤ 'f') ∨ ('A' ≤ c ∧ c ≤ 'F')

instance (c : Char) : Decidable (IsHexDigit c) :=
  inferInstanceAs (Decidable (_ ∨ _))

theorem isHexDigit_of_all {text : List Char} (all : (text.all fun c => IsHexDigit c) = true) :
    ∀ c ∈ text, IsHexDigit c := by
  simpa using all

theorem isHexDigit_iff_toNat (c : Char) : IsHexDigit c ↔
    (48 ≤ c.toNat ∧ c.toNat ≤ 57) ∨ (97 ≤ c.toNat ∧ c.toNat ≤ 102) ∨
      (65 ≤ c.toNat ∧ c.toNat ≤ 70) :=
  Iff.rfl

theorem isSome_hexValue?_iff (c : Char) : (hexValue? c).isSome ↔ IsHexDigit c := by
  rw [isHexDigit_iff_toNat, hexValue?]
  split
  next decimal => simp [decimal]
  next notDecimal =>
    split
    next lower => simp [lower]
    next notLower =>
      split
      next upper => simp [upper]
      next notUpper => simp [notDecimal, notLower, notUpper]

/-- What holds of the sixteen digits in both cases holds of every digit. -/
theorem IsHexDigit.of_forall {P : Char → Prop}
    (all : ∀ value, P (hexDigit value) ∧ P (hexDigitUpper value)) {c : Char}
    (isDigit : IsHexDigit c) : P c := by
  have table : ∀ code < 103, IsHexDigit (Char.ofNat code) →
      ∃ value, Char.ofNat code = hexDigit value ∨ Char.ofNat code = hexDigitUpper value := by
    decide
  have small : c.toNat < 103 := by
    rw [isHexDigit_iff_toNat] at isDigit
    omega
  have digit := table c.toNat small
  rw [Char.ofNat_toNat] at digit
  obtain ⟨value, same | same⟩ := digit isDigit
  · exact same ▸ (all value).1
  · exact same ▸ (all value).2

theorem hexDigit_of_hexValue? {c : Char} {value : Fin 16} (read : hexValue? c = some value) :
    hexDigit value = c.toLower := by
  have isDigit : IsHexDigit c := by
    rw [← isSome_hexValue?_iff, read]
    rfl
  have lower : ∀ value ∈ hexValue? c, hexDigit value = c.toLower :=
    IsHexDigit.of_forall (P := fun c => ∀ value ∈ hexValue? c, hexDigit value = c.toLower)
      (by decide) isDigit
  exact lower value read

theorem IsHexDigit.utf8Size_eq {c : Char} (isDigit : IsHexDigit c) : c.utf8Size = 1 :=
  IsHexDigit.of_forall (P := fun c => c.utf8Size = 1) (by decide) isDigit

theorem IsHexDigit.ne_plus {c : Char} (isDigit : IsHexDigit c) : c ≠ '+' :=
  IsHexDigit.of_forall (P := fun c => c ≠ '+') (by decide) isDigit

theorem IsHexDigit.ne_hyphen {c : Char} (isDigit : IsHexDigit c) : c ≠ '-' :=
  IsHexDigit.of_forall (P := fun c => c ≠ '-') (by decide) isDigit

/-! ## Runs of digits -/

theorem hexValues?_cons (c : Char) (rest : List Char) :
    hexValues? (c :: rest) =
      (hexValue? c).bind fun value => (hexValues? rest).map (value :: ·) := by
  rw [hexValues?]
  cases hexValue? c with
  | none => rfl
  | some value => cases hexValues? rest <;> rfl

/-- A run is read digit by digit, and its values are those of the digits in lower case. -/
theorem of_hexValues? {text : List Char} {values : List (Fin 16)}
    (read : hexValues? text = some values) :
    (∀ c ∈ text, IsHexDigit c) ∧ values.map hexDigit = text.map Char.toLower := by
  induction text generalizing values with
  | nil =>
      cases read
      exact ⟨List.forall_mem_nil _, rfl⟩
  | cons c rest ih =>
      rw [hexValues?_cons] at read
      obtain ⟨value, first, read⟩ := Option.bind_eq_some_iff.mp read
      obtain ⟨others, readRest, same⟩ := Option.map_eq_some_iff.mp read
      obtain ⟨digits, lower⟩ := ih readRest
      have isDigit : IsHexDigit c := by
        rw [← isSome_hexValue?_iff, first]
        rfl
      rw [← same, List.map_cons, List.map_cons, hexDigit_of_hexValue? first, lower]
      exact ⟨List.forall_mem_cons.mpr ⟨isDigit, digits⟩, rfl⟩

theorem length_of_hexValues? {text : List Char} {values : List (Fin 16)}
    (read : hexValues? text = some values) : values.length = text.length := by
  simpa using congrArg List.length (of_hexValues? read).2

theorem exists_hexValues? {text : List Char} (digits : ∀ c ∈ text, IsHexDigit c) :
    ∃ values, hexValues? text = some values := by
  induction text with
  | nil => exact ⟨[], rfl⟩
  | cons c rest ih =>
      obtain ⟨isDigit, others⟩ := List.forall_mem_cons.mp digits
      obtain ⟨value, first⟩ := Option.isSome_iff_exists.mp ((isSome_hexValue?_iff c).mpr isDigit)
      obtain ⟨values, readRest⟩ := ih others
      exact ⟨value :: values, by rw [hexValues?_cons, first, readRest]; rfl⟩

theorem ofHexValues_concat (values : List (Fin 16)) (value : Fin 16) :
    ofHexValues (values ++ [value]) = 16 * ofHexValues values + value.val := by
  rw [ofHexValues, List.foldl_append]
  rfl

theorem ofHexValues_lt (values : List (Fin 16)) :
    ofHexValues values < Nat.pow 16 values.length := by
  induction values using List.reverseRecOn with
  | nil => decide
  | append_singleton values value ih =>
      have power : Nat.pow 16 (values.length + 1) = 16 * Nat.pow 16 values.length := Nat.pow_succ'
      rw [ofHexValues_concat, List.length_append, List.length_singleton, power]
      omega

theorem ofHexValues_pos_iff (values : List (Fin 16)) :
    0 < ofHexValues values ↔ ∃ value ∈ values, value ≠ 0 := by
  induction values using List.reverseRecOn with
  | nil => simp [ofHexValues]
  | append_singleton values value ih =>
      have last : value ≠ 0 ↔ 0 < value.val := Fin.pos_iff_ne_zero.symm
      rw [ofHexValues_concat]
      simp only [List.mem_append, List.mem_singleton, or_and_right, exists_or, exists_eq_left, ← ih,
        last]
      omega

/-- A number in as many places as it was read from has the same digits. -/
theorem hexDigits_ofHexValues (values : List (Fin 16)) :
    hexDigits values.length (ofHexValues values) = values.map hexDigit := by
  induction values using List.reverseRecOn with
  | nil => rfl
  | append_singleton values value ih =>
      have small := value.isLt
      have upper : (16 * ofHexValues values + value.val) / 16 = ofHexValues values := by omega
      have last : lastHexDigit (16 * ofHexValues values + value.val) = value := by
        apply Fin.ext
        change (16 * ofHexValues values + value.val) % 16 = value.val
        omega
      rw [List.length_append, List.length_singleton, hexDigits, ofHexValues_concat, upper, last, ih,
        List.map_append]
      rfl

theorem readHex?_of_ne_plus {first : Char} (unsigned : first ≠ '+') (rest : List Char) :
    readHex? (first :: rest) = (hexValues? (first :: rest)).map ofHexValues := by
  rw [readHex?]
  · exact List.cons_ne_nil first rest
  · exact fun same => unsigned (List.cons.inj same).1
  · exact fun others same => unsigned (List.cons.inj same).1

/-! ## Numerals -/

/-- A number that fills so many places with digits, of which a plus sign may take the first. -/
structure Numeral (places : Nat) where
  signed : Bool
  digits : List Char
  isHexDigit : ∀ c ∈ digits, IsHexDigit c
  length_eq : digits.length + signed.toNat = places

namespace Numeral

variable {places : Nat} (numeral : Numeral places)

def text : List Char :=
  if numeral.signed then '+' :: numeral.digits else numeral.digits

def rewritten : List Char :=
  if numeral.signed then '0' :: numeral.digits.map Char.toLower
  else numeral.digits.map Char.toLower

def value : Nat :=
  ((hexValues? numeral.digits).map ofHexValues).getD 0

def IsZero : Prop :=
  ∀ c ∈ numeral.digits, c = '0'

theorem length_text : numeral.text.length = places := by
  have length := numeral.length_eq
  rw [text]
  cases signed : numeral.signed with
  | true => simpa [signed] using length
  | false => simpa [signed] using length

theorem length_rewritten : numeral.rewritten.length = places := by
  have length := numeral.length_eq
  rw [rewritten]
  cases signed : numeral.signed with
  | true => simpa [signed] using length
  | false => simpa [signed] using length

theorem byteLength_text : byteLength numeral.text = places := by
  rw [byteLength_of_narrow, length_text]
  intro c member
  rw [text] at member
  cases signed : numeral.signed with
  | true =>
      rw [signed, if_pos rfl] at member
      rcases List.mem_cons.mp member with same | digit
      · rw [same]
        rfl
      · exact (numeral.isHexDigit c digit).utf8Size_eq
  | false =>
      rw [signed, if_neg Bool.false_ne_true] at member
      exact (numeral.isHexDigit c member).utf8Size_eq

theorem not_mem_text : '-' ∉ numeral.text := by
  have digits : '-' ∉ numeral.digits := fun member =>
    (numeral.isHexDigit '-' member).ne_hyphen rfl
  rw [text]
  cases numeral.signed with
  | true => simpa using digits
  | false => exact digits

theorem exists_values : ∃ values, hexValues? numeral.digits = some values ∧
    numeral.value = ofHexValues values ∧
    values.map hexDigit = numeral.digits.map Char.toLower := by
  obtain ⟨values, read⟩ := exists_hexValues? numeral.isHexDigit
  exact ⟨values, read, by rw [value, read]; rfl, (of_hexValues? read).2⟩

theorem value_lt : numeral.value < Nat.pow 16 places := by
  obtain ⟨values, _, value_eq, lower⟩ := numeral.exists_values
  have length : values.length = numeral.digits.length := by
    simpa using congrArg List.length lower
  have fits := ofHexValues_lt values
  have filled := numeral.length_eq
  have wider : Nat.pow 16 values.length ≤ Nat.pow 16 places :=
    Nat.pow_le_pow_right (by decide) (by omega)
  rw [value_eq]
  exact Nat.lt_of_lt_of_le fits wider

theorem value_pos_iff : 0 < numeral.value ↔ ¬ numeral.IsZero := by
  obtain ⟨values, _, value_eq, lower⟩ := numeral.exists_values
  have zero : ∀ value, hexDigit value = '0' ↔ value = 0 := by decide
  have same : numeral.IsZero ↔ ∀ value ∈ values, hexDigit value = '0' := by
    have lowerZero : ∀ c ∈ numeral.digits, c.toLower = '0' ↔ c = '0' := fun c member =>
      IsHexDigit.of_forall (P := fun c => c.toLower = '0' ↔ c = '0') (by decide)
        (numeral.isHexDigit c member)
    rw [← List.forall_mem_map (f := hexDigit) (P := fun c => c = '0'), lower, List.forall_mem_map]
    exact forall₂_congr fun c member => (lowerZero c member).symm
  rw [value_eq, ofHexValues_pos_iff, same]
  simp [zero]

/-- Written in as many places, the number is the numeral rewritten. -/
theorem hexDigits_value : hexDigits places numeral.value = numeral.rewritten := by
  obtain ⟨values, _, value_eq, lower⟩ := numeral.exists_values
  have length : values.length = numeral.digits.length := by
    simpa using congrArg List.length lower
  have places_eq := numeral.length_eq
  rw [value_eq, rewritten, ← lower]
  cases signed : numeral.signed with
  | true =>
      -- The sign stands where a leading zero is written.
      have digits := hexDigits_ofHexValues (0 :: values)
      rw [signed] at places_eq
      rw [← places_eq, ← length, if_pos rfl]
      exact digits
  | false =>
      rw [signed] at places_eq
      rw [← places_eq, ← length, if_neg Bool.false_ne_true]
      exact hexDigits_ofHexValues values

theorem rewritten_eq_iff :
    numeral.rewritten = numeral.text.map Char.toLower ↔ numeral.signed = false := by
  rw [rewritten, text]
  cases numeral.signed with
  | true => simp
  | false => simp

theorem readHex?_text (wide : 1 < places) : readHex? numeral.text = some numeral.value := by
  obtain ⟨values, read, value_eq, _⟩ := numeral.exists_values
  have length := numeral.length_eq
  have digits := numeral.isHexDigit
  rw [text, value_eq]
  cases signed : numeral.signed with
  | true =>
      rw [signed, Bool.toNat_true] at length
      cases digits_eq : numeral.digits with
      | nil =>
          rw [digits_eq, List.length_nil] at length
          omega
      | cons first rest =>
          rw [if_pos rfl, readHex?, ← digits_eq, read]
          · rfl
          · exact List.cons_ne_nil first rest
  | false =>
      rw [signed, Bool.toNat_false] at length
      cases digits_eq : numeral.digits with
      | nil =>
          rw [digits_eq, List.length_nil] at length
          omega
      | cons first rest =>
          have unsigned : first ≠ '+' :=
            (digits first (digits_eq ▸ List.mem_cons_self)).ne_plus
          rw [if_neg Bool.false_ne_true, readHex?_of_ne_plus unsigned, ← digits_eq, read]
          rfl

/-- Whatever is read as a number is a numeral that fills its places. -/
theorem exists_of_readHex? {text : List Char} {number : Nat} (read : readHex? text = some number)
    (bytes : byteLength text = places) (wide : 1 < places) :
    ∃ numeral : Numeral places, numeral.text = text ∧ numeral.value = number := by
  have made : ∀ (signed : Bool) (digits : List Char) (isHexDigit : ∀ c ∈ digits, IsHexDigit c),
      (if signed then '+' :: digits else digits) = text →
      ∃ numeral : Numeral places, numeral.text = text ∧ numeral.value = number := by
    intro signed digits isHexDigit text_eq
    have filled := (⟨signed, digits, isHexDigit, rfl⟩ : Numeral _).byteLength_text
    change byteLength (if signed then '+' :: digits else digits) = _ at filled
    rw [text_eq, bytes] at filled
    let numeral : Numeral places := ⟨signed, digits, isHexDigit, filled.symm⟩
    have same : readHex? text = some numeral.value := text_eq ▸ numeral.readHex?_text wide
    exact ⟨numeral, text_eq, Option.some.inj (same.symm.trans read)⟩
  rw [readHex?.eq_def] at read
  split at read
  · cases read
  · cases read
  · next rest _ =>
      obtain ⟨values, readRest, _⟩ := Option.map_eq_some_iff.mp read
      exact made true rest (of_hexValues? readRest).1 rfl
  · obtain ⟨values, readAll, _⟩ := Option.map_eq_some_iff.mp read
    exact made false text (of_hexValues? readAll).1 rfl

/-- A sign is no digit, so the text of a numeral tells whether it has one. -/
theorem signed_eq_of_text_eq {other : Numeral places} (same : numeral.text = other.text)
    (wide : 0 < places) : numeral.signed = other.signed := by
  have first : ∀ numeral : Numeral places,
      numeral.signed = true ↔ numeral.text.head? = some '+' := by
    intro numeral
    have length := numeral.length_eq
    rw [text]
    cases signed : numeral.signed with
    | true => simp
    | false =>
        cases digits_eq : numeral.digits with
        | nil =>
            rw [digits_eq, signed] at length
            simp at length
            omega
        | cons c rest =>
            have unsigned := (numeral.isHexDigit c (digits_eq ▸ List.mem_cons_self)).ne_plus
            simp [unsigned]
  have signs : numeral.signed = true ↔ other.signed = true := by
    rw [first, first, same]
  exact Bool.eq_iff_iff.mpr signs

end Numeral

end Checkout.Text

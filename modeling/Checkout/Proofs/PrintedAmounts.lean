import Checkout.Proofs.Decimals
import Checkout.Proofs.ExactMoney
import Checkout.Proofs.HeaderTexts
import Checkout.Proofs.RepeatedSums
import Mathlib.Algebra.Order.Field.Rat
import Mathlib.Tactic.FieldSimp
import Mathlib.Tactic.Ring

/-!
# Printed amounts

An amount is printed as a decimal number and its currency code.  The number has no digit too many: no
leading zero, two digits after the point, and of the others no zero at the end.  Read as a fraction it
is the amount exactly, so no two amounts are printed alike.
-/

set_option autoImplicit false

namespace Checkout

/-- A decimal number as it is written: a minus sign or none, digits, a point, digits. -/
structure Decimal where
  negative : Bool
  whole : List Char
  fraction : List Char

namespace Decimal

def text (decimal : Decimal) : List Char :=
  (if decimal.negative then ['-'] else []) ++ decimal.whole ++ '.' :: decimal.fraction

def magnitude (decimal : Decimal) : ℚ :=
  Nat.ofDigitChars 10 decimal.whole 0 +
    Nat.ofDigitChars 10 decimal.fraction 0 / 10 ^ decimal.fraction.length

def value (decimal : Decimal) : ℚ :=
  if decimal.negative then -decimal.magnitude else decimal.magnitude

/-- No digit is missing, and none too many: the whole part does not begin with a zero, unless it is
one, and what follows the second digit after the point does not end with one. -/
structure Concise (decimal : Decimal) : Prop where
  whole : Text.IsDigits decimal.whole
  fraction : Text.IsDigits decimal.fraction
  no_leading_zero : ∀ rest, decimal.whole = '0' :: rest → rest = []
  two_le : 2 ≤ decimal.fraction.length
  le_nine : decimal.fraction.length ≤ 9
  no_trailing_zero : 2 < decimal.fraction.length → decimal.fraction.getLast? ≠ some '0'

/-! ## Reading -/

def ofUnsigned? (negative : Bool) (text : List Char) : Option Decimal :=
  (Text.splitOnce? '.' text).bind fun (whole, fraction) =>
    if Text.IsDigits whole ∧ Text.IsDigits fraction then some ⟨negative, whole, fraction⟩ else none

/-- Reads a decimal number: a minus sign or none, one or more digits, a point, one or more digits. -/
def ofText? : List Char → Option Decimal
  | '-' :: rest => ofUnsigned? true rest
  | text => ofUnsigned? false text

theorem ofText?_text {decimal : Decimal} (whole : Text.IsDigits decimal.whole)
    (fraction : Text.IsDigits decimal.fraction) : ofText? decimal.text = some decimal := by
  obtain ⟨negative, wholeDigits, fractionDigits⟩ := decimal
  have noPoint : '.' ∉ wholeDigits := fun member => absurd (whole.2 '.' member) (by decide)
  have read : ∀ negative, ofUnsigned? negative (wholeDigits ++ '.' :: fractionDigits) =
      some ⟨negative, wholeDigits, fractionDigits⟩ := by
    intro negative
    rw [ofUnsigned?, Text.splitOnce?_append noPoint]
    exact if_pos ⟨whole, fraction⟩
  cases negative with
  | true => exact read true
  | false =>
      have unsigned : ∀ rest, wholeDigits ++ '.' :: fractionDigits ≠ '-' :: rest := by
        intro rest same
        cases wholeDigits with
        | nil => exact whole.1 rfl
        | cons first others =>
            have isDigit := whole.2 first List.mem_cons_self
            rw [(List.cons.inj same).1] at isDigit
            cases isDigit
      change ofText? (wholeDigits ++ '.' :: fractionDigits) = _
      rw [ofText?]
      · exact read false
      · exact unsigned

theorem blank_not_mem_text {decimal : Decimal} (whole : Text.IsDigits decimal.whole)
    (fraction : Text.IsDigits decimal.fraction) : ' ' ∉ decimal.text := by
  have noDigit : ∀ digits, Text.IsDigits digits → ' ' ∉ digits := fun digits isDigits member =>
    absurd (isDigits.2 ' ' member) (by decide)
  have noSign : ' ' ∉ if decimal.negative then ['-'] else [] := by
    split
    · decide
    · decide
  rw [text, List.mem_append, List.mem_append, List.mem_cons]
  rintro ((sign | member) | point | member)
  · exact noSign sign
  · exact noDigit _ whole member
  · exact absurd point (by decide)
  · exact noDigit _ fraction member

end Decimal

namespace Money

/-! ## Fractions of a unit -/

/-- Of the nine digits only zeros are left out, and of those all but the first two places. -/
theorem fraction_eq_take {nanos : Nat} (small : nanos < 10 ^ 9) :
    ∃ count, 2 ≤ count ∧ count ≤ 9 ∧ fraction nanos = (Text.padded 9 nanos).take count ∧
      (∀ c ∈ (Text.padded 9 nanos).drop count, c = '0') ∧
      (2 < count → (fraction nanos).getLast? ≠ some '0') := by
  have length_eq : (Text.padded 9 nanos).length = 9 := Text.length_padded (by decide) small
  have fraction_eq : fraction nanos =
      if ((Text.padded 9 nanos).rdropWhile (· == '0')).length < 2 then (Text.padded 9 nanos).take 2
      else (Text.padded 9 nanos).rdropWhile (· == '0') := rfl
  generalize Text.padded 9 nanos = digits at length_eq fraction_eq
  have whole : digits.rdropWhile (· == '0') ++ digits.rtakeWhile (· == '0') = digits :=
    List.rdropWhile_append_rtakeWhile
  have zeros : ∀ c ∈ digits.rtakeWhile (· == '0'), c = '0' := fun c member => by
    simpa using List.mem_rtakeWhile_imp member
  have count_le : (digits.rdropWhile (· == '0')).length ≤ 9 :=
    length_eq ▸ (List.rdropWhile_prefix _ digits).length_le
  generalize kept_eq : digits.rdropWhile (· == '0') = kept at whole fraction_eq count_le
  have dropped : ∀ count, kept.length ≤ count → ∀ c ∈ digits.drop count, c = '0' := by
    intro count le c member
    rw [← whole, List.drop_append, List.drop_of_length_le le, List.nil_append] at member
    exact zeros c (List.mem_of_mem_drop member)
  split at fraction_eq
  next short =>
    refine ⟨2, Nat.le_refl 2, by decide, fraction_eq, dropped 2 (by omega), fun more => ?_⟩
    exact absurd more (by decide)
  next long =>
    refine ⟨kept.length, by omega, count_le, ?_, dropped _ (Nat.le_refl _), fun _ last => ?_⟩
    · rw [fraction_eq, ← whole, List.take_left]
    · have nonempty : kept ≠ [] := by
        rintro rfl
        exact absurd (Nat.zero_lt_two) long
      have nonzero := List.rdropWhile_last_not (· == '0') digits (kept_eq ▸ nonempty)
      rw [fraction_eq, ← kept_eq, List.getLast?_eq_some_getLast (kept_eq ▸ nonempty)] at last
      rw [Option.some.inj last] at nonzero
      exact nonzero rfl

theorem length_fraction {nanos : Nat} (small : nanos < 10 ^ 9) :
    2 ≤ (fraction nanos).length ∧ (fraction nanos).length ≤ 9 := by
  obtain ⟨count, two_le, le_nine, fraction_eq, _⟩ := fraction_eq_take small
  rw [fraction_eq, List.length_take, Text.length_padded (by decide) small]
  omega

theorem isDigits_fraction {nanos : Nat} (small : nanos < 10 ^ 9) :
    Text.IsDigits (fraction nanos) := by
  obtain ⟨count, _, _, fraction_eq, _⟩ := fraction_eq_take small
  refine ⟨fun empty => ?_, fun c member => ?_⟩
  · have := (length_fraction small).1
    rw [empty] at this
    exact absurd this (by decide)
  · rw [fraction_eq] at member
    exact Text.isDigit_of_mem_padded c (List.mem_of_mem_take member)

/-- The digits, with the zeros that were left out, are those of the nanos. -/
theorem ofDigitChars_fraction {nanos : Nat} (small : nanos < 10 ^ 9) :
    Nat.ofDigitChars 10 (fraction nanos) 0 * 10 ^ (9 - (fraction nanos).length) = nanos := by
  obtain ⟨count, _, le_nine, fraction_eq, zeros, _⟩ := fraction_eq_take small
  have length_eq : (Text.padded 9 nanos).length = 9 := Text.length_padded (by decide) small
  have length_fraction : (fraction nanos).length = count := by
    rw [fraction_eq, List.length_take, length_eq]
    omega
  have rest : (Text.padded 9 nanos).drop count = List.replicate (9 - count) '0' := by
    refine List.eq_replicate_iff.mpr ⟨?_, zeros⟩
    rw [List.length_drop, length_eq]
  have value := Text.ofDigitChars_padded 9 nanos
  rw [← List.take_append_drop count (Text.padded 9 nanos), rest, ← fraction_eq,
    Nat.ofDigitChars_append, Nat.ofDigitChars_replicate_zero] at value
  rw [length_fraction, Nat.mul_comm]
  exact value

theorem fraction_div {nanos : Nat} (small : nanos < 10 ^ 9) :
    (Nat.ofDigitChars 10 (fraction nanos) 0 : ℚ) / 10 ^ (fraction nanos).length =
      nanos / 10 ^ 9 := by
  have le_nine := (length_fraction small).2
  have powers : (10 : ℚ) ^ 9 =
      10 ^ (9 - (fraction nanos).length) * 10 ^ (fraction nanos).length := by
    rw [← pow_add, Nat.sub_add_cancel le_nine]
  conv => rhs; rw [← ofDigitChars_fraction small]
  push_cast
  rw [powers]
  field_simp

/-! ## Printed amounts -/

variable (money : Money)

theorem natAbs_nanos_lt : money.nanos.natAbs < 10 ^ 9 :=
  money.wellFormed.nanos_lt

def decimal : Decimal where
  negative := decide (money.units < 0 ∨ money.nanos < 0)
  whole := Nat.toDigits 10 money.units.natAbs
  fraction := fraction money.nanos.natAbs

theorem whole_decimal : money.decimal.whole = Nat.toDigits 10 money.units.natAbs :=
  rfl

theorem fraction_decimal : money.decimal.fraction = fraction money.nanos.natAbs :=
  rfl

theorem negative_decimal_iff : money.decimal.negative = true ↔ money.units < 0 ∨ money.nanos < 0 :=
  decide_eq_true_iff

theorem negative_iff : money.amount < 0 ↔ money.units < 0 ∨ money.nanos < 0 := by
  have split := money.split_units_nanos
  have sum := money.units_mul_add_nanos
  simp only [Split, nanosPerUnit] at split sum
  omega

theorem toList_display :
    money.display.toList = money.decimal.text ++ ' ' :: money.currency.text.toList := by
  have sign : (if money.amount < 0 then "-" else "").toList =
      if money.decimal.negative then ['-'] else [] := by
    by_cases negative : money.amount < 0
    · rw [if_pos negative, if_pos (by rwa [negative_decimal_iff, ← negative_iff])]
      rfl
    · rw [if_neg negative, if_neg (by rwa [negative_decimal_iff, ← negative_iff])]
      rfl
  have point : ".".toList = ['.'] := rfl
  have blank : " ".toList = [' '] := rfl
  simp only [display, String.toList_append, sign, Text.toList_natural, String.toList_ofList, point,
    blank, Decimal.text, whole_decimal, fraction_decimal, List.append_assoc, List.cons_append,
    List.nil_append]

theorem concise_decimal : money.decimal.Concise where
  whole := by
    rw [whole_decimal]
    exact Text.isDigits_toDigits _
  fraction := by
    rw [fraction_decimal]
    exact isDigits_fraction money.natAbs_nanos_lt
  no_leading_zero := by
    intro rest begins
    obtain ⟨first, others, written, _, zero⟩ := Text.toDigits_eq_cons money.units.natAbs
    rw [whole_decimal] at begins
    rw [zero (List.cons.inj (written.symm.trans begins)).1, Nat.toDigits_zero] at begins
    exact (List.cons.inj begins).2.symm
  two_le := by
    rw [fraction_decimal]
    exact (length_fraction money.natAbs_nanos_lt).1
  le_nine := by
    rw [fraction_decimal]
    exact (length_fraction money.natAbs_nanos_lt).2
  no_trailing_zero := by
    rw [fraction_decimal]
    intro more
    obtain ⟨count, _, _, fraction_eq, _, nonzero⟩ := fraction_eq_take money.natAbs_nanos_lt
    apply nonzero
    rw [fraction_eq, List.length_take] at more
    omega

/-- The sign that is printed is that of the units and of the nanos. -/
theorem value_decimal : money.decimal.value = (money.units : ℚ) + money.nanos / 10 ^ 9 := by
  have split := money.split_units_nanos
  have magnitude : money.decimal.magnitude =
      ((|money.units| : ℤ) : ℚ) + (|money.nanos| : ℤ) / 10 ^ 9 := by
    rw [Decimal.magnitude, decimal, fraction_div money.natAbs_nanos_lt,
      Nat.ofDigitChars_ten_toDigits, Nat.cast_natAbs, Nat.cast_natAbs]
  simp only [Split] at split
  rw [Decimal.value, magnitude]
  by_cases negative : money.units < 0 ∨ money.nanos < 0
  · rw [if_pos (money.negative_decimal_iff.mpr negative), abs_of_nonpos (by omega),
      abs_of_nonpos (by omega)]
    push_cast
    ring
  · rw [if_neg (mt money.negative_decimal_iff.mp negative), abs_of_nonneg (by omega),
      abs_of_nonneg (by omega)]

/-! ## Reading -/

/-- Reads what is printed for an amount: a decimal number, a blank, a currency code. -/
def readPrinted? (text : String) : Option (ℚ × String) :=
  (Text.splitOnce? ' ' text.toList).bind fun (number, code) =>
    (Decimal.ofText? number).map fun decimal => (decimal.value, String.ofList code)

theorem readPrinted?_display : readPrinted? money.display =
    some ((money.units : ℚ) + money.nanos / 10 ^ 9, money.currency.text) := by
  have concise := money.concise_decimal
  have unbroken := Decimal.blank_not_mem_text concise.whole concise.fraction
  rw [readPrinted?, toList_display, Text.splitOnce?_append unbroken, Option.bind_some]
  dsimp only
  rw [Decimal.ofText?_text concise.whole concise.fraction, Option.map_some, value_decimal,
    String.ofList_toList]

theorem units_add_nanos_div :
    (money.units : ℚ) + money.nanos / 10 ^ 9 = money.amount / 10 ^ 9 := by
  have sum : (money.units : ℚ) * 10 ^ 9 + money.nanos = money.amount := by
    exact_mod_cast money.units_mul_add_nanos
  rw [← sum]
  field_simp

theorem display_inj {other : Money} : money.display = other.display ↔ money = other := by
  constructor
  · intro same
    have read := money.readPrinted?_display
    rw [same, readPrinted?_display, Option.some.injEq, Prod.mk.injEq] at read
    obtain ⟨value, code⟩ := read
    rw [units_add_nanos_div, units_add_nanos_div, div_left_inj' (by norm_num)] at value
    apply eq_of_totalNanos (CurrencyCode.text_inj.mp code.symm)
    rw [totalNanos_eq, totalNanos_eq]
    exact_mod_cast value.symm
  · rintro rfl
    rfl

/-- An amount is printed as a decimal number without a digit too many, a blank and its currency code.
The number has a minus sign exactly if the units or the nanos are negative, and its whole part is that
of the units.  Read as a fraction it is the amount, and no other amount is printed alike. -/
theorem printed_exactly (money : Money) :
    (∃ decimal : Decimal,
      money.display.toList = decimal.text ++ ' ' :: money.currency.text.toList ∧
      decimal.Concise ∧ (decimal.negative = true ↔ money.units < 0 ∨ money.nanos < 0) ∧
      Nat.ofDigitChars 10 decimal.whole 0 = money.units.natAbs) ∧
    readPrinted? money.display =
      some ((money.units : ℚ) + money.nanos / 10 ^ 9, money.currency.text) ∧
    ∀ other : Money, money.display = other.display ↔ money = other := by
  refine ⟨⟨money.decimal, money.toList_display, money.concise_decimal,
    money.negative_decimal_iff, Nat.ofDigitChars_ten_toDigits⟩, money.readPrinted?_display, ?_⟩
  intro other
  exact money.display_inj

example : (⟨⟨"USD", rfl⟩, least, by decide⟩ : Money).display =
    "-9223372036854775808.999999999 USD" := by decide

example : (⟨⟨"USD", rfl⟩, -500000, by decide⟩ : Money).display = "-0.0005 USD" := by decide

end Money

end Checkout

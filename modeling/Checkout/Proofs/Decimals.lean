import Checkout.Text.Decimal
import Mathlib.Algebra.Group.Nat.Defs

/-!
# Decimal numbers written and read

A number is written in decimal digits of which the first is zero for the number zero only, and zeros
in front of them do not change what they are read as.  A number is read from one or more digits, maybe
after a plus sign, and it is read unless it is too large.
-/

set_option autoImplicit false

namespace Checkout.Text

def IsDigits (text : List Char) : Prop :=
  text ≠ [] ∧ ∀ c ∈ text, c.isDigit = true

instance (text : List Char) : Decidable (IsDigits text) :=
  inferInstanceAs (Decidable (_ ∧ _))

/-! ## Written numbers -/

/-- The digits of a number begin with a digit, which is zero for the number zero only. -/
theorem toDigits_eq_cons (n : Nat) :
    ∃ first others, Nat.toDigits 10 n = first :: others ∧ first.isDigit = true ∧
      (first = '0' → n = 0) := by
  induction n using Nat.strongRecOn with
  | ind n ih =>
      by_cases small : n < 10
      · have digit : ∀ digit : Fin 10, digit.val.digitChar.isDigit = true ∧
            (digit.val.digitChar = '0' → digit.val = 0) := by decide
        exact ⟨n.digitChar, [], Nat.toDigits_of_lt_base small, digit ⟨n, small⟩⟩
      · obtain ⟨first, others, written, isDigit, zero⟩ := ih (n / 10) (by omega)
        refine ⟨first, others ++ [(n % 10).digitChar], ?_, isDigit, fun same => ?_⟩
        · rw [Nat.toDigits_of_base_le (by decide) (by omega), written, List.cons_append]
        · have := zero same
          omega

theorem toList_natural (n : Nat) : (natural n).toList = Nat.toDigits 10 n := by
  rw [natural, Nat.repr_eq_ofList_toDigits, String.toList_ofList]

theorem isDigits_toDigits (n : Nat) : IsDigits (Nat.toDigits 10 n) :=
  ⟨Nat.toDigits_ne_nil, fun _ member => Nat.isDigit_of_mem_toDigits (by decide) (by decide) member⟩

theorem ofDigitChars_padded (width n : Nat) : Nat.ofDigitChars 10 (padded width n) 0 = n := by
  rw [padded, List.leftpad, Nat.ofDigitChars_append, Nat.ofDigitChars_replicate_zero,
    Nat.mul_zero, Nat.ofDigitChars_ten_toDigits]

theorem padded_inj {width first second : Nat}
    (same : padded width first = padded width second) : first = second := by
  rw [← ofDigitChars_padded width first, same, ofDigitChars_padded]

theorem isDigit_of_mem_padded {width n : Nat} : ∀ c ∈ padded width n, c.isDigit = true := by
  intro c member
  rcases List.mem_append.mp member with zero | digit
  · rw [List.eq_of_mem_replicate zero]
    rfl
  · exact (isDigits_toDigits n).2 c digit

theorem length_padded {width n : Nat} (positive : 0 < width) (fits : n < 10 ^ width) :
    (padded width n).length = width := by
  rw [padded, List.length_leftpad]
  exact Nat.max_eq_left ((Nat.length_toDigits_le_iff (by decide) positive).mpr fits)

/-! ## Numbers that are read -/

theorem le_ofDigitChars (value : Nat) (text : List Char) : value ≤ Nat.ofDigitChars 10 text value := by
  rw [Nat.ofDigitChars_eq_ofDigitChars_zero]
  exact Nat.le_add_right_of_le (Nat.le_mul_of_pos_left value (Nat.pow_pos (by decide)))

theorem readDigits_eq_ok_iff {bound value number : Nat} {text : List Char} (below : value < bound) :
    readDigits bound value text = .ok number ↔
      (∀ c ∈ text, c.isDigit = true) ∧ Nat.ofDigitChars 10 text value = number ∧ number < bound := by
  induction text generalizing value with
  | nil =>
      rw [readDigits, Nat.ofDigitChars_nil, Except.ok.injEq]
      constructor
      · rintro rfl
        exact ⟨List.forall_mem_nil _, rfl, below⟩
      · exact fun read => read.2.1
  | cons c rest ih =>
      rw [readDigits, digitValue?]
      by_cases isDigit : c.isDigit = true
      · rw [if_pos isDigit, Nat.ofDigitChars_cons]
        dsimp only
        split
        next small =>
          rw [ih small, List.forall_mem_cons]
          simp [isDigit]
        next large =>
          -- Further digits only make the number larger.
          have := le_ofDigitChars (10 * value + (c.toNat - 48)) rest
          constructor
          · rintro ⟨⟩
          · rintro ⟨_, same, fits⟩
            change Nat.ofDigitChars 10 rest (10 * value + (c.toNat - 48)) = number at same
            omega
      · rw [if_neg isDigit]
        constructor
        · rintro ⟨⟩
        · rintro ⟨digits, _⟩
          exact absurd (digits c List.mem_cons_self) isDigit

/-- Digits, maybe after a plus sign, that are read as the number. -/
def Names (text : List Char) (number : Nat) : Prop :=
  ∃ digits, (text = digits ∨ text = '+' :: digits) ∧ IsDigits digits ∧
    Nat.ofDigitChars 10 digits 0 = number

theorem names_plus_iff {rest : List Char} {number : Nat} :
    Names ('+' :: rest) number ↔ IsDigits rest ∧ Nat.ofDigitChars 10 rest 0 = number := by
  constructor
  · rintro ⟨digits, rfl | same, isDigits, number_eq⟩
    · exact absurd (isDigits.2 '+' List.mem_cons_self) (by decide)
    · cases same
      exact ⟨isDigits, number_eq⟩
  · intro named
    exact ⟨rest, Or.inr rfl, named⟩

theorem names_unsigned_iff {text : List Char} {number : Nat}
    (unsigned : ∀ rest, text ≠ '+' :: rest) :
    Names text number ↔ IsDigits text ∧ Nat.ofDigitChars 10 text 0 = number := by
  constructor
  · rintro ⟨digits, rfl | same, named⟩
    · exact named
    · exact absurd same (unsigned digits)
  · intro named
    exact ⟨text, Or.inl rfl, named⟩

/-- Numbers below the bound are read, whatever they are written with, and nothing else is. -/
theorem readNatural_eq_ok_iff {bound number : Nat} {text : List Char} (positive : 0 < bound) :
    readNatural bound text = .ok number ↔ Names text number ∧ number < bound := by
  have read : ∀ digits, digits ≠ [] → (readDigits bound 0 digits = .ok number ↔
      (IsDigits digits ∧ Nat.ofDigitChars 10 digits 0 = number) ∧ number < bound) := by
    intro digits nonempty
    rw [readDigits_eq_ok_iff positive, IsDigits, and_iff_right nonempty, and_assoc]
  rw [readNatural.eq_def]
  split
  · rw [names_unsigned_iff (by simp)]
    simp [IsDigits]
  · rw [names_plus_iff]
    simp [IsDigits]
  next rest nonempty => rw [read rest nonempty, names_plus_iff]
  next nonempty _ unsigned => rw [read _ nonempty, names_unsigned_iff unsigned]

end Checkout.Text

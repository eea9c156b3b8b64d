import Checkout.Proofs.ExactMoney

/-!
# Repeated sums

A multiple of an amount is what comes of adding the amount to nothing so many times.  Amounts fill
an interval with zero in it, and the partial sums run from zero to the multiple without turning
back.  So if the multiple is an amount all of them are, and if it is not the repeated sum fails as
well, at the latest at its last step.
-/

set_option autoImplicit false

namespace Checkout

theorem CurrencyCode.text_inj {left right : CurrencyCode} :
    left.text = right.text ↔ left = right := by
  cases left
  cases right
  simp

namespace Money

variable {left right total money : Money}

/-! ## When arithmetic succeeds -/

theorem ofExact_eq_ok_iff {operation : Operation} {currency : CurrencyCode} {amount : Int}
    (fits : fitsInt128 amount = true) :
    ofExact operation currency amount = .ok total ↔
      total.currency = currency ∧ total.amount = amount := by
  refine ⟨of_ofExact, ?_⟩
  rintro ⟨rfl, rfl⟩
  rw [ofExact, dif_pos ⟨fits, (representable_iff_fitsInt64 total.amount).mp total.representable⟩]

theorem ofExact_eq_error {operation : Operation} {currency : CurrencyCode} {amount : Int}
    (outside : ¬ Representable amount) :
    ofExact operation currency amount = .error (.overflow operation) := by
  rw [representable_iff_fitsInt64] at outside
  rw [ofExact, dif_neg fun both => outside both.2]

theorem sum_eq_ok_iff :
    left.sum right = .ok total ↔ right.currency = left.currency ∧
      total.currency = left.currency ∧ total.amount = left.amount + right.amount := by
  refine ⟨of_sum, ?_⟩
  rintro ⟨same, currency, amount⟩
  rw [sum, if_pos same.symm, ofExact_eq_ok_iff (fitsInt128_sum left right), totalNanos_eq,
    totalNanos_eq]
  exact ⟨currency, amount⟩

theorem sum_eq_overflow (same : right.currency = left.currency)
    (outside : ¬ Representable (left.amount + right.amount)) :
    left.sum right = .error (.overflow .sum) := by
  rw [sum, if_pos same.symm, totalNanos_eq, totalNanos_eq]
  exact ofExact_eq_error outside

theorem multiply_eq_ok_iff (quantity : UInt32) :
    money.multiply quantity.toNat = .ok total ↔
      total.currency = money.currency ∧ total.amount = money.amount * quantity.toNat := by
  rw [multiply, ofExact_eq_ok_iff (fitsInt128_multiple money quantity), totalNanos_eq]

theorem multiply_eq_overflow {quantity : Nat}
    (outside : ¬ Representable (money.amount * quantity)) :
    money.multiply quantity = .error (.overflow .multiply) := by
  rw [multiply, totalNanos_eq]
  exact ofExact_eq_error outside

theorem zero_eq_ok_iff {code : String} :
    zero code = .ok money ↔ money.currency.text = code ∧ money.amount = 0 := by
  refine ⟨of_zero, ?_⟩
  rintro ⟨rfl, amount⟩
  have made := money.make_units_nanos
  rw [units, nanos, amount] at made
  exact made

/-! ## Adding an amount again and again -/

def addedTimes (money : Money) : Nat → Except MoneyError Money
  | 0 => zero money.currency.text
  | count + 1 => do
    let before ← money.addedTimes count
    before.sum money

theorem representable_zero : Representable 0 := by
  decide

/-- The partial sums of an amount lie between zero and the last one. -/
theorem representable_of_le {amount : Int} {count last : Nat} (le : count ≤ last)
    (fits : Representable (amount * last)) : Representable (amount * count) := by
  have steps : (count : Int) ≤ last := Int.ofNat_le.mpr le
  have natural : (0 : Int) ≤ count := Int.natCast_nonneg count
  obtain ⟨zero_ge, zero_le⟩ := representable_zero
  rcases Int.le_total 0 amount with positive | negative
  · have upper := Int.mul_le_mul_of_nonneg_left steps positive
    have lower := Int.mul_nonneg positive natural
    exact ⟨Int.le_trans zero_ge lower, Int.le_trans upper fits.2⟩
  · have lower := Int.mul_le_mul_of_nonpos_left negative steps
    have upper := Int.mul_nonpos_of_nonpos_of_nonneg negative natural
    exact ⟨Int.le_trans fits.1 lower, Int.le_trans upper zero_le⟩

theorem addedTimes_eq_ok_iff (money : Money) (count : Nat) {total : Money} :
    money.addedTimes count = .ok total ↔
      total.currency = money.currency ∧ total.amount = money.amount * count := by
  induction count generalizing total with
  | zero =>
      rw [addedTimes, zero_eq_ok_iff, CurrencyCode.text_inj, Int.natCast_zero, Int.mul_zero]
  | succ count ih =>
      have step : money.amount * ↑(count + 1) = money.amount * count + money.amount := by
        rw [Int.natCast_succ, Int.mul_add, Int.mul_one]
      constructor
      · intro added
        obtain ⟨before, beforeMade, added⟩ := Except.of_bind added
        obtain ⟨currency, amount⟩ := ih.mp beforeMade
        obtain ⟨_, total_currency, total_amount⟩ := of_sum added
        rw [total_amount, amount, step]
        exact ⟨total_currency.trans currency, rfl⟩
      · rintro ⟨currency, amount⟩
        have fits : Representable (money.amount * count) := by
          apply representable_of_le (Nat.le_succ count)
          rw [← amount]
          exact total.representable
        let before : Money := ⟨money.currency, money.amount * count, fits⟩
        have beforeMade : money.addedTimes count = .ok before := ih.mpr ⟨rfl, rfl⟩
        have added : before.sum money = .ok total :=
          sum_eq_ok_iff.mpr ⟨rfl, currency, amount.trans step⟩
        exact Except.bind_eq_ok_iff.mpr ⟨before, beforeMade, added⟩

/-- A sum that leaves the range of amounts does so for good: it fails, and by overflow. -/
theorem addedTimes_eq_overflow (money : Money) (count : Nat)
    (outside : ¬ Representable (money.amount * count)) :
    money.addedTimes count = .error (.overflow .sum) := by
  induction count with
  | zero =>
      rw [Int.natCast_zero, Int.mul_zero] at outside
      exact absurd representable_zero outside
  | succ count ih =>
      rw [addedTimes]
      by_cases inside : Representable (money.amount * count)
      · let before : Money := ⟨money.currency, money.amount * count, inside⟩
        have beforeMade : money.addedTimes count = .ok before :=
          (addedTimes_eq_ok_iff money count).mpr ⟨rfl, rfl⟩
        rw [Int.natCast_succ, Int.mul_add, Int.mul_one] at outside
        have overflowed : before.sum money = .error (.overflow .sum) := sum_eq_overflow rfl outside
        rw [beforeMade]
        exact overflowed
      · rw [ih inside]
        rfl

theorem multiply_eq_ok_iff_addedTimes (money : Money) (quantity : UInt32) {total : Money} :
    money.multiply quantity.toNat = .ok total ↔ money.addedTimes quantity.toNat = .ok total := by
  rw [multiply_eq_ok_iff, addedTimes_eq_ok_iff]

theorem exists_addedTimes_iff (money : Money) (count : Nat) :
    (∃ total, money.addedTimes count = .ok total) ↔ Representable (money.amount * count) := by
  constructor
  · rintro ⟨total, added⟩
    obtain ⟨_, amount⟩ := (addedTimes_eq_ok_iff money count).mp added
    rw [← amount]
    exact total.representable
  · intro fits
    exact ⟨⟨money.currency, money.amount * count, fits⟩,
      (addedTimes_eq_ok_iff money count).mpr ⟨rfl, rfl⟩⟩

/-- A multiple is the repeated sum: it is an amount exactly if every one of the partial sums is, it
is then the last of them, and otherwise both overflow. -/
theorem multiply_eq_repeated_sum (money : Money) (quantity : UInt32) :
    (∀ total, money.multiply quantity.toNat = .ok total ↔
      money.addedTimes quantity.toNat = .ok total) ∧
    ((∃ total, money.multiply quantity.toNat = .ok total) ↔
      ∀ count ≤ quantity.toNat, ∃ reached, money.addedTimes count = .ok reached) ∧
    ((∃ total, money.multiply quantity.toNat = .ok total ∧
        money.addedTimes quantity.toNat = .ok total) ∨
      money.multiply quantity.toNat = .error (.overflow .multiply) ∧
        money.addedTimes quantity.toNat = .error (.overflow .sum)) := by
  refine ⟨fun total => multiply_eq_ok_iff_addedTimes money quantity, ⟨?_, ?_⟩, ?_⟩
  · rintro ⟨total, made⟩ count le
    have whole : Representable (money.amount * quantity.toNat) := by
      apply (exists_addedTimes_iff money quantity.toNat).mp
      exact ⟨total, (multiply_eq_ok_iff_addedTimes money quantity).mp made⟩
    exact (exists_addedTimes_iff money count).mpr (representable_of_le le whole)
  · intro reached
    obtain ⟨total, added⟩ := reached quantity.toNat (Nat.le_refl _)
    exact ⟨total, (multiply_eq_ok_iff_addedTimes money quantity).mpr added⟩
  · by_cases fits : Representable (money.amount * quantity.toNat)
    · obtain ⟨total, added⟩ := (exists_addedTimes_iff money quantity.toNat).mpr fits
      exact Or.inl ⟨total, (multiply_eq_ok_iff_addedTimes money quantity).mpr added, added⟩
    · exact Or.inr ⟨multiply_eq_overflow fits, addedTimes_eq_overflow money quantity.toNat fits⟩

/-- Half of the least amount, which has a double but is not to be had three times. -/
theorem multiply_eq_repeated_sum_at_bounds :
    ∃ half : Money, half.units = -4611686018427387904 ∧ half.nanos = -499999999 ∧
      (∃ total, half.multiply 2 = .ok total ∧ half.addedTimes 2 = .ok total) ∧
      half.multiply 3 = .error (.overflow .multiply) ∧
      half.addedTimes 3 = .error (.overflow .sum) := by
  let half : Money := ⟨⟨"USD", rfl⟩, -4611686018427387904499999999, by decide⟩
  have doubled : half.multiply (2 : UInt32).toNat ≠ .error (.overflow .multiply) := by
    rintro ⟨⟩
  have tripled : ∀ total, half.multiply (3 : UInt32).toNat ≠ .ok total := by
    rintro total ⟨⟩
  refine ⟨half, by decide, by decide, ?_, ?_⟩
  · rcases (multiply_eq_repeated_sum half 2).2.2 with both | ⟨failed, _⟩
    · exact both
    · exact absurd failed doubled
  · rcases (multiply_eq_repeated_sum half 3).2.2 with ⟨total, made, _⟩ | both
    · exact absurd made (tripled total)
    · exact both

end Money

end Checkout

import Checkout.Order.Json
import Checkout.Proofs.Totals
import Checkout.Wire.Order
import Mathlib.Algebra.Group.Int.Defs
import Mathlib.Algebra.Group.Nat.Defs
import Mathlib.Data.Set.Function

/-!
# Money as exact integers

Whole units of 64 bits and the nanos beside them stand for the integers of one interval, each of
them once for every currency.  Sums and multiples are those of the integers: they fail exactly if
their result lies outside the interval, and what is worked out on the way fits 128 bits.

The interval is lopsided like the units are.  Nothing but truncated division keeps the signs of
units and nanos together and finds the bounds: the results of arithmetic are not checked again.
-/

set_option autoImplicit false

namespace Checkout

namespace Money

/-- The values that can ever come about. -/
inductive Obtained : Money → Prop where
  | make {code : String} {units : Int64} {nanos : Int32} {money : Money}
      (made : make code units.toInt nanos.toInt = .ok money) : Obtained money
  | zero {code : String} {money : Money} (made : zero code = .ok money) : Obtained money
  | ofCents {code : String} {cents : Int64} {money : Money}
      (made : ofCents code cents.toInt = .ok money) : Obtained money
  | retag {money retagged : Money} {code : String} (obtained : Obtained money)
      (made : money.retag code = .ok retagged) : Obtained retagged
  | sum {left right total : Money} (obtainedLeft : Obtained left) (obtainedRight : Obtained right)
      (made : left.sum right = .ok total) : Obtained total
  | multiply {money total : Money} {quantity : UInt32} (obtained : Obtained money)
      (made : money.multiply quantity.toNat = .ok total) : Obtained total
  | json {text : String} {money : Money} (read : Json.decodeText ofJson text = .ok money) :
      Obtained money
  | shippingCost {bytes : List UInt8} {order : Order} (read : Order.decode bytes = .ok order) :
      Obtained order.shippingCost
  | lineCost {bytes : List UInt8} {order : Order} {line : OrderItem}
      (read : Order.decode bytes = .ok order) (member : line ∈ order.items) : Obtained line.cost

def interval : Set Int :=
  {amount | -(2 ^ 63 * 10 ^ 9 + 999999999) ≤ amount ∧
    amount ≤ (2 ^ 63 - 1) * 10 ^ 9 + 999999999}

theorem mem_interval_iff (amount : Int) : amount ∈ interval ↔ Representable amount := by
  simp only [interval, Set.mem_ofPred_eq, Representable, least, greatest, nanosPerUnit]
  omega

/-- What the type promises, in terms of units and nanos. -/
structure WellFormed (money : Money) : Prop where
  three_letters : money.currency.text.toList.length = 3
  letters : ∀ letter ∈ money.currency.text.toList, letter.isAlpha = true
  units_fit : fitsInt64 money.units = true
  nanos_lt : money.nanos.natAbs < 10 ^ 9
  signs_agree : ¬ (0 < money.units ∧ money.nanos < 0) ∧ ¬ (money.units < 0 ∧ 0 < money.nanos)

/-- The outcome of an operation whose exact result is `exact`. -/
def Yields (operation : Operation) (currency : CurrencyCode) (exact : Int)
    (outcome : Except MoneyError Money) : Prop :=
  (exact ∈ interval ∧ ∃ money, outcome = .ok money ∧ money.currency = currency ∧
    money.totalNanos = exact) ∨
  (exact ∉ interval ∧ outcome = .error (.overflow operation))

theorem wellFormed (money : Money) : WellFormed money := by
  have valid := money.currency.valid
  have split := money.split_units_nanos
  simp only [isCurrencyCode, Bool.and_eq_true, beq_iff_eq, List.all_eq_true] at valid
  simp only [Split] at split
  refine ⟨valid.1, valid.2, money.fitsInt64_units, ?_, ?_⟩
  · omega
  · omega

/-- Units and nanos that the constructor accepts are those of the value it makes. -/
theorem parts_of_make {code : String} {units nanos : Int} {money : Money}
    (made : make code units nanos = .ok money) :
    money.currency.text = code ∧ money.units = units ∧ money.nanos = nanos := by
  unfold make CurrencyCode.ofText? at made
  by_cases valid : isCurrencyCode code = true
  · simp only [dif_pos valid] at made
    by_cases fits : Split units nanos ∧ Representable (units * nanosPerUnit + nanos)
    · rw [dif_pos fits] at made
      cases made
      obtain ⟨⟨small, signs⟩, _⟩ := fits
      have split := split_tdiv_tmod (units * nanosPerUnit + nanos)
      have sum := Int.tdiv_mul_add_tmod (units * nanosPerUnit + nanos) nanosPerUnit
      simp only [Split, nanosPerUnit] at split sum
      simp only [Money.units, Money.nanos, nanosPerUnit]
      -- Two such pairs with one sum are the same pair.
      refine ⟨trivial, ?_, ?_⟩
      · omega
      · omega
    · rw [dif_neg fits] at made
      cases made
  · simp [dif_neg valid] at made

theorem totalNanos_mem_interval (money : Money) : money.totalNanos ∈ interval := by
  rw [mem_interval_iff, totalNanos_eq]
  exact money.representable

theorem eq_of_totalNanos {left right : Money} (currency : left.currency = right.currency)
    (total : left.totalNanos = right.totalNanos) : left = right := by
  rw [totalNanos_eq, totalNanos_eq] at total
  cases left
  cases right
  cases currency
  cases total
  rfl

/-- Every value is what the constructor makes of its own units and nanos. -/
theorem obtained (money : Money) : Obtained money := by
  have units := money.fitsInt64_units
  have nanos := money.fitsInt32_nanos
  simp only [fitsInt64, fitsInt32, Bool.and_eq_true, decide_eq_true_eq] at units nanos
  have units_eq : (Int64.ofInt money.units).toInt = money.units := by
    apply Int64.toInt_ofInt_of_le
    · omega
    · omega
  have nanos_eq : (Int32.ofInt money.nanos).toInt = money.nanos := by
    apply Int32.toInt_ofInt_of_le
    · omega
    · omega
  apply Obtained.make
  rw [units_eq, nanos_eq]
  exact money.make_units_nanos

theorem bijOn_totalNanos (currency : CurrencyCode) :
    Set.BijOn totalNanos {money | Obtained money ∧ money.currency = currency} interval := by
  refine ⟨?_, ?_, ?_⟩
  · intro money _
    exact money.totalNanos_mem_interval
  · intro left leftOf right rightOf total
    exact eq_of_totalNanos (leftOf.2.trans rightOf.2.symm) total
  · intro amount member
    let money : Money := ⟨currency, amount, (mem_interval_iff amount).mp member⟩
    exact ⟨money, ⟨money.obtained, rfl⟩, money.totalNanos_eq⟩

/-! ## Arithmetic -/

/-- A number that fits 128 bits is checked for its whole units alone. -/
theorem yields_ofExact {operation : Operation} {currency : CurrencyCode} {exact : Int}
    (fits : fitsInt128 exact = true) :
    Yields operation currency exact (ofExact operation currency exact) := by
  rw [ofExact]
  by_cases inside : fitsInt64 (exact.tdiv nanosPerUnit) = true
  · have member : exact ∈ interval := by
      rw [mem_interval_iff, representable_iff_fitsInt64]
      exact inside
    rw [dif_pos ⟨fits, inside⟩]
    exact Or.inl ⟨member, _, rfl, rfl, totalNanos_eq _⟩
  · have outside : exact ∉ interval := by
      rw [mem_interval_iff, representable_iff_fitsInt64]
      exact inside
    rw [dif_neg fun both => inside both.2]
    exact Or.inr ⟨outside, rfl⟩

theorem fitsInt128_units (money : Money) : fitsInt128 (money.units * nanosPerUnit) = true := by
  have fits := money.fitsInt64_units
  simp only [fitsInt64, fitsInt128, Bool.and_eq_true, decide_eq_true_eq] at fits ⊢
  rw [nanosPerUnit]
  omega

theorem fitsInt128_totalNanos (money : Money) : fitsInt128 money.totalNanos = true := by
  have bounds := money.representable
  rw [totalNanos_eq]
  simp only [Representable, least, greatest, nanosPerUnit] at bounds
  simp only [fitsInt128, Bool.and_eq_true, decide_eq_true_eq]
  omega

theorem fitsInt128_sum (left right : Money) :
    fitsInt128 (left.totalNanos + right.totalNanos) = true := by
  have leftBounds := left.representable
  have rightBounds := right.representable
  rw [totalNanos_eq, totalNanos_eq]
  simp only [Representable, least, greatest, nanosPerUnit] at leftBounds rightBounds
  simp only [fitsInt128, Bool.and_eq_true, decide_eq_true_eq]
  omega

theorem fitsInt128_multiple (money : Money) (quantity : UInt32) :
    fitsInt128 (money.totalNanos * quantity.toNat) = true := by
  have bounds := money.representable
  have small : (quantity.toNat : Int) < 4294967296 := by
    have := quantity.toNat_lt
    omega
  have natural : 0 ≤ (quantity.toNat : Int) := Int.natCast_nonneg _
  rw [totalNanos_eq]
  simp only [Representable, least, greatest, nanosPerUnit] at bounds
  simp only [fitsInt128, Bool.and_eq_true, decide_eq_true_eq]
  generalize (quantity.toNat : Int) = factor at small natural
  -- The product is not linear: it lies between the multiples of the bounds.
  have lower : (-9223372036854775808999999999) * factor ≤ money.amount * factor :=
    Int.mul_le_mul_of_nonneg_right (by omega) natural
  have upper : money.amount * factor ≤ 9223372036854775807999999999 * factor :=
    Int.mul_le_mul_of_nonneg_right (by omega) natural
  omega

theorem sum_eq_mismatch_iff (left right : Money) :
    left.sum right = .error (.currencyMismatch left.currency.text right.currency.text) ↔
      left.currency ≠ right.currency := by
  rw [sum]
  by_cases same : left.currency = right.currency
  · have yields : Yields .sum left.currency (left.totalNanos + right.totalNanos) _ :=
      yields_ofExact (fitsInt128_sum left right)
    rw [if_pos same]
    constructor
    · intro failed
      rcases yields with ⟨_, money, made, _⟩ | ⟨_, overflowed⟩
      · cases failed.symm.trans made
      · cases failed.symm.trans overflowed
    · intro different
      exact absurd same different
  · rw [if_neg same]
    simp [same]

/-- Units and nanos are a model of the integers in the interval, and sums and multiples are exact in
it: for every value that comes about, whatever the currencies and the quantity. -/
theorem exact_integers :
    (∀ money, Obtained money → WellFormed money) ∧
    (∀ code units nanos money, make code units nanos = .ok money →
      money.currency.text = code ∧ money.units = units ∧ money.nanos = nanos) ∧
    (∀ currency,
      Set.BijOn totalNanos {money | Obtained money ∧ money.currency = currency} interval) ∧
    (∀ left right : Money, Obtained left → Obtained right →
      (left.sum right = .error (.currencyMismatch left.currency.text right.currency.text) ↔
        left.currency ≠ right.currency) ∧
      (left.currency = right.currency →
        Yields .sum left.currency (left.totalNanos + right.totalNanos) (left.sum right)) ∧
      fitsInt128 (left.totalNanos + right.totalNanos) = true) ∧
    ∀ (money : Money) (quantity : UInt32), Obtained money →
      Yields .multiply money.currency (money.totalNanos * quantity.toNat)
        (money.multiply quantity.toNat) ∧
      fitsInt128 (money.units * nanosPerUnit) = true ∧ fitsInt128 money.totalNanos = true ∧
      fitsInt128 (money.totalNanos * quantity.toNat) = true := by
  refine ⟨fun money _ => money.wellFormed, ?_, bijOn_totalNanos, ?_, ?_⟩
  · intro code units nanos money made
    exact parts_of_make made
  · intro left right _ _
    refine ⟨sum_eq_mismatch_iff left right, ?_, fitsInt128_sum left right⟩
    intro same
    rw [sum, if_pos same]
    exact yields_ofExact (fitsInt128_sum left right)
  · intro money quantity _
    refine ⟨?_, money.fitsInt128_units, money.fitsInt128_totalNanos, ?_⟩
    · exact yields_ofExact (fitsInt128_multiple money quantity)
    · exact fitsInt128_multiple money quantity

/-- The amount one nano above the least one, and the least one itself, which has no double. -/
theorem exact_integers_at_bounds :
    ∃ bottom next nano : Money, Obtained bottom ∧ Obtained next ∧ Obtained nano ∧
      bottom.units = -9223372036854775808 ∧ bottom.nanos = -999999999 ∧
      next.sum nano = .ok bottom ∧ bottom.sum nano = .error (.overflow .sum) ∧
      bottom.multiply 2 = .error (.overflow .multiply) := by
  let dollar : CurrencyCode := ⟨"USD", rfl⟩
  let bottom : Money := ⟨dollar, least, by decide⟩
  let next : Money := ⟨dollar, least + 1, by decide⟩
  let nano : Money := ⟨dollar, -1, by decide⟩
  obtain ⟨_, _, bijective, sums, multiples⟩ := exact_integers
  have below : ∀ factor : Int, factor ≤ -1 → least + factor ∉ interval := by
    intro factor negative member
    have bounds := (mem_interval_iff _).mp member
    simp only [Representable, least, nanosPerUnit] at bounds
    omega
  refine ⟨bottom, next, nano, bottom.obtained, next.obtained, nano.obtained, by decide, by decide,
    ?_, ?_, ?_⟩
  · rcases (sums next nano next.obtained nano.obtained).2.1 rfl with
      ⟨_, total, made, currency, total_eq⟩ | ⟨outside, _⟩
    · have member : ∀ money : Money, money.currency = dollar → money ∈
          {money | Obtained money ∧ money.currency = dollar} :=
        fun money same => ⟨money.obtained, same⟩
      have same := (bijective dollar).injOn (member total currency) (member bottom rfl)
        (total_eq.trans (by decide))
      rw [made, same]
    · have inside : next.totalNanos + nano.totalNanos ∈ interval :=
        (mem_interval_iff _).mpr (by decide)
      exact absurd inside outside
  · rcases (sums bottom nano bottom.obtained nano.obtained).2.1 rfl with ⟨inside, _⟩ | ⟨_, failed⟩
    · rw [totalNanos_eq, totalNanos_eq] at inside
      exact absurd inside (below (-1) (by omega))
    · exact failed
  · rcases (multiples bottom 2 bottom.obtained).1 with ⟨inside, _⟩ | ⟨_, failed⟩
    · rw [totalNanos_eq] at inside
      have double : bottom.amount * (2 : UInt32).toNat = least + least := by decide
      rw [double] at inside
      exact absurd inside (below least (by decide))
    · exact failed

end Money

end Checkout

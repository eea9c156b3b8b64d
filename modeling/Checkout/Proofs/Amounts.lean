import Checkout.Money.Basic

/-!
# Amounts and their parts

The whole units of an amount and the nanos beside them make up the amount again.  They never have
opposite signs, and they fit the signed numbers of 64 and 32 bits in which they are written.
-/

set_option autoImplicit false

namespace Checkout

theorem CurrencyCode.ofText?_text (currency : CurrencyCode) :
    CurrencyCode.ofText? currency.text = some currency := by
  obtain ⟨text, valid⟩ := currency
  rw [CurrencyCode.ofText?, dif_pos valid]

namespace Money

theorem split_tdiv_tmod (amount : Int) :
    Split (amount.tdiv nanosPerUnit) (amount.tmod nanosPerUnit) := by
  by_cases negative : amount < 0
  · have units_eq : amount.tdiv nanosPerUnit = -((-amount) / nanosPerUnit) := by
      rw [← Int.tdiv_eq_ediv_of_nonneg (by omega), Int.neg_tdiv, Int.neg_neg]
    have nanos_eq : amount.tmod nanosPerUnit = -((-amount) % nanosPerUnit) := by
      rw [← Int.tmod_eq_emod_of_nonneg (by omega), Int.neg_tmod, Int.neg_neg]
    rw [units_eq, nanos_eq, Split, nanosPerUnit]
    omega
  · have units_eq : amount.tdiv nanosPerUnit = amount / nanosPerUnit :=
      Int.tdiv_eq_ediv_of_nonneg (by omega)
    have nanos_eq : amount.tmod nanosPerUnit = amount % nanosPerUnit :=
      Int.tmod_eq_emod_of_nonneg (by omega)
    rw [units_eq, nanos_eq, Split, nanosPerUnit]
    omega

variable (money : Money)

theorem units_mul_add_nanos : money.units * nanosPerUnit + money.nanos = money.amount :=
  Int.tdiv_mul_add_tmod money.amount nanosPerUnit

theorem totalNanos_eq : money.totalNanos = money.amount :=
  money.units_mul_add_nanos

theorem split_units_nanos : Split money.units money.nanos :=
  split_tdiv_tmod money.amount

theorem make_units_nanos : make money.currency.text money.units money.nanos = .ok money := by
  have sum := money.units_mul_add_nanos
  have fits : Split money.units money.nanos ∧
      Representable (money.units * nanosPerUnit + money.nanos) := by
    rw [sum]
    exact ⟨money.split_units_nanos, money.representable⟩
  rw [make, CurrencyCode.ofText?_text]
  simp only [dif_pos fits]
  congr 2

theorem fitsInt64_units : fitsInt64 money.units = true :=
  (representable_iff_fitsInt64 money.amount).mp money.representable

theorem fitsInt32_nanos : fitsInt32 money.nanos = true := by
  have split := money.split_units_nanos
  simp only [Split] at split
  simp only [fitsInt32, Bool.and_eq_true, decide_eq_true_eq]
  omega

end Money

end Checkout

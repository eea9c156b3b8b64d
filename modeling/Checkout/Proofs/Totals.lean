import Checkout.Order.Basic
import Checkout.Proofs.Amounts
import Checkout.Proofs.Steps

/-!
# Exact totals

The total of a preparation, if there is one, is the sum of integers that it stands for, and every
amount in that sum is of the one currency in which the total was asked for.  An amount of another
currency yields no total, wherever it stands.
-/

set_option autoImplicit false

namespace Checkout

namespace Money

variable {left right total money : Money} {code : String} {quantity : Nat}

theorem of_ofExact {operation : Operation} {currency : CurrencyCode} {amount : Int}
    (made : ofExact operation currency amount = .ok money) :
    money.currency = currency ∧ money.amount = amount := by
  unfold ofExact at made
  by_cases fits : fitsInt128 amount = true ∧ fitsInt64 (amount.tdiv nanosPerUnit) = true
  · rw [dif_pos fits] at made
    cases made
    exact ⟨rfl, rfl⟩
  · rw [dif_neg fits] at made
    cases made

theorem of_zero (made : zero code = .ok money) : money.currency.text = code ∧ money.amount = 0 := by
  unfold zero make at made
  cases found : CurrencyCode.ofText? code with
  | none => simp [found] at made
  | some currency =>
      have text_eq : currency.text = code := by
        unfold CurrencyCode.ofText? at found
        by_cases valid : isCurrencyCode code = true
        · rw [dif_pos valid] at found
          cases found
          rfl
        · rw [dif_neg valid] at found
          cases found
      have fits : Split 0 0 ∧ Representable (0 * nanosPerUnit + 0) := by decide
      simp only [found] at made
      rw [dif_pos fits] at made
      cases made
      exact ⟨text_eq, by simp⟩

theorem of_sum (made : left.sum right = .ok total) :
    right.currency = left.currency ∧ total.currency = left.currency ∧
      total.amount = left.amount + right.amount := by
  unfold sum at made
  by_cases same : left.currency = right.currency
  · rw [if_pos same] at made
    obtain ⟨currency_eq, amount_eq⟩ := of_ofExact made
    rw [totalNanos_eq, totalNanos_eq] at amount_eq
    exact ⟨same.symm, currency_eq, amount_eq⟩
  · rw [if_neg same] at made
    cases made

theorem of_multiply (made : money.multiply quantity = .ok total) :
    total.currency = money.currency ∧ total.amount = money.amount * quantity := by
  obtain ⟨currency_eq, amount_eq⟩ := of_ofExact made
  rw [totalNanos_eq] at amount_eq
  exact ⟨currency_eq, amount_eq⟩

end Money

def OrderItem.exactTotal (line : OrderItem) : Int :=
  line.cost.amount * line.item.quantity.toNat

/-- The costs of lines together, as an integer that need not be an amount. -/
def OrderItem.exactSum : List OrderItem → Int
  | [] => 0
  | line :: rest => line.exactTotal + OrderItem.exactSum rest

/-- A total is the exact sum of what it adds up, and all of that is of one currency. -/
structure ExactTotal (code : String) (shippingCost : Money) (lines : List OrderItem)
    (total : Money) : Prop where
  total_currency : total.currency.text = code
  shipping_currency : shippingCost.currency.text = code
  line_currency : ∀ line ∈ lines, line.cost.currency.text = code
  amount_eq : total.amount = shippingCost.amount + OrderItem.exactSum lines

namespace Preparation

theorem of_addLines {start total : Money} {lines : List OrderItem}
    (added : addLines start lines = .ok total) :
    total.currency = start.currency ∧
      (∀ line ∈ lines, line.cost.currency = start.currency) ∧
      total.amount = start.amount + OrderItem.exactSum lines := by
  induction lines generalizing start with
  | nil =>
      cases added
      exact ⟨rfl, by simp, by simp [OrderItem.exactSum]⟩
  | cons line rest ih =>
      obtain ⟨lineTotal, lineMade, added⟩ := Except.of_bind added
      obtain ⟨next, nextMade, added⟩ := Except.of_bind added
      obtain ⟨line_currency, line_amount⟩ := Money.of_multiply lineMade
      obtain ⟨same, next_currency, next_amount⟩ := Money.of_sum nextMade
      obtain ⟨total_currency, rest_currency, total_amount⟩ := ih added
      refine ⟨total_currency.trans next_currency, ?_, ?_⟩
      · intro other member
        rcases List.mem_cons.mp member with here | later
        · rw [here, ← line_currency, same]
        · rw [rest_currency other later, next_currency]
      · rw [total_amount, next_amount, line_amount, OrderItem.exactSum, OrderItem.exactTotal,
          Int.add_assoc]

/-- A preparation has no other total than the exact one. -/
theorem of_total {preparation : Preparation} {code : String} {total : Money}
    (computed : preparation.total code = .ok total) :
    ExactTotal code preparation.shippingCost preparation.orderItems total := by
  obtain ⟨zero, zeroMade, computed⟩ := Except.of_bind computed
  obtain ⟨shipping, shippingMade, computed⟩ := Except.of_bind computed
  obtain ⟨zero_currency, zero_amount⟩ := Money.of_zero zeroMade
  obtain ⟨same, shipping_currency, shipping_amount⟩ := Money.of_sum shippingMade
  obtain ⟨total_currency, line_currency, total_amount⟩ := of_addLines computed
  refine ⟨?_, ?_, ?_, ?_⟩
  · rw [total_currency, shipping_currency, zero_currency]
  · rw [same, zero_currency]
  · intro line member
    rw [line_currency line member, shipping_currency, zero_currency]
  · rw [total_amount, shipping_amount, zero_amount, Int.zero_add]

end Preparation

end Checkout

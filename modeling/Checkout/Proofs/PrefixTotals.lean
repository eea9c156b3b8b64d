import Checkout.Proofs.RepeatedSums

/-!
# Totals and what they pass through

A total is added up line by line, and every amount on the way has to be one.  Amounts of both signs
can leave the interval and come back to it, so that the order of the lines tells whether there is a
total.  Amounts that are not negative never turn back: the last sum is the greatest, and it alone
decides.
-/

set_option autoImplicit false

open scoped List

namespace Checkout

namespace OrderItem

theorem exactSum_append (before after : List OrderItem) :
    exactSum (before ++ after) = exactSum before + exactSum after := by
  induction before with
  | nil => exact (Int.zero_add _).symm
  | cons line rest ih => rw [List.cons_append, exactSum, exactSum, ih, Int.add_assoc]

theorem exactSum_perm {lines others : List OrderItem} (arranged : others ~ lines) :
    exactSum others = exactSum lines := by
  induction arranged with
  | nil => rfl
  | cons line _ ih => rw [exactSum, exactSum, ih]
  | swap first second rest =>
      rw [exactSum, exactSum, exactSum, exactSum, Int.add_left_comm]
  | trans _ _ earlier later => exact earlier.trans later

theorem exactTotal_nonneg {line : OrderItem} (cost : 0 ≤ line.cost.amount) :
    0 ≤ line.exactTotal :=
  Int.mul_nonneg cost (Int.natCast_nonneg _)

theorem exactSum_nonneg {lines : List OrderItem} (costs : ∀ line ∈ lines, 0 ≤ line.cost.amount) :
    0 ≤ exactSum lines := by
  induction lines with
  | nil => exact Int.le_refl 0
  | cons line rest ih =>
      have first := exactTotal_nonneg (costs line List.mem_cons_self)
      have others := ih fun other member => costs other (List.mem_cons_of_mem _ member)
      exact Int.add_nonneg first others

theorem exactTotal_le_exactSum {lines : List OrderItem} {line : OrderItem}
    (costs : ∀ other ∈ lines, 0 ≤ other.cost.amount) (member : line ∈ lines) :
    line.exactTotal ≤ exactSum lines := by
  obtain ⟨before, after, rfl⟩ := List.append_of_mem member
  have earlier : 0 ≤ exactSum before := by
    apply exactSum_nonneg
    intro other here
    exact costs other (List.mem_append_left _ here)
  have later : 0 ≤ exactSum after := by
    apply exactSum_nonneg
    intro other here
    exact costs other (List.mem_append_right _ (List.mem_cons_of_mem _ here))
  rw [exactSum_append, exactSum]
  omega

theorem exactSum_le_of_prefix {before lines : List OrderItem}
    (costs : ∀ line ∈ lines, 0 ≤ line.cost.amount) (cut : before <+: lines) :
    exactSum before ≤ exactSum lines := by
  obtain ⟨after, rfl⟩ := cut
  have later : 0 ≤ exactSum after := by
    apply exactSum_nonneg
    intro line member
    exact costs line (List.mem_append_right _ member)
  rw [exactSum_append]
  omega

end OrderItem

namespace Preparation

open Money OrderItem

variable {start total : Money} {line : OrderItem} {lines rest : List OrderItem}
  {preparation : Preparation} {code : String}

/-! ## When the lines add up -/

/-- The lines can be added to an amount one after the other. -/
structure AddTo (start : Money) (lines : List OrderItem) : Prop where
  currencies : ∀ line ∈ lines, line.cost.currency = start.currency
  line_totals : ∀ line ∈ lines, Representable line.exactTotal
  prefix_sums : ∀ before, before <+: lines → Representable (start.amount + exactSum before)

theorem addTo_nil : AddTo start [] := by
  refine ⟨by simp, by simp, ?_⟩
  intro before cut
  rw [List.prefix_nil.mp cut, exactSum, Int.add_zero]
  exact start.representable

theorem addTo_cons_iff :
    AddTo start (line :: rest) ↔
      line.cost.currency = start.currency ∧ Representable line.exactTotal ∧
        ∃ next : Money, next.currency = start.currency ∧
          next.amount = start.amount + line.exactTotal ∧ AddTo next rest := by
  have shift : ∀ before,
      start.amount + exactSum (line :: before) = start.amount + line.exactTotal + exactSum before :=
    fun before => (Int.add_assoc _ _ _).symm
  constructor
  · rintro ⟨currencies, line_totals, prefix_sums⟩
    have first : Representable (start.amount + line.exactTotal) := by
      have alone := prefix_sums [line] (by simp)
      rwa [exactSum, exactSum, Int.add_zero] at alone
    refine ⟨currencies line List.mem_cons_self, line_totals line List.mem_cons_self,
      ⟨start.currency, start.amount + line.exactTotal, first⟩, rfl, rfl, ?_, ?_, ?_⟩
    · intro other member
      exact currencies other (List.mem_cons_of_mem _ member)
    · intro other member
      exact line_totals other (List.mem_cons_of_mem _ member)
    · intro before cut
      rw [← shift]
      exact prefix_sums (line :: before) (List.cons_prefix_cons.mpr ⟨rfl, cut⟩)
  · rintro ⟨currency, fits, next, next_currency, next_amount, later⟩
    refine ⟨?_, ?_, ?_⟩
    · intro other member
      rcases List.mem_cons.mp member with rfl | member
      · exact currency
      · exact (later.currencies other member).trans next_currency
    · intro other member
      rcases List.mem_cons.mp member with rfl | member
      · exact fits
      · exact later.line_totals other member
    · intro before cut
      rcases List.prefix_cons_iff.mp cut with rfl | ⟨before, rfl, inner⟩
      · rw [exactSum, Int.add_zero]
        exact start.representable
      · rw [shift, ← next_amount]
        exact later.prefix_sums before inner

theorem lineTotal_eq_ok (line : OrderItem) (fits : Representable line.exactTotal) :
    line.lineTotal = .ok ⟨line.cost.currency, line.exactTotal, fits⟩ :=
  (multiply_eq_ok_iff line.item.quantity).mpr ⟨rfl, rfl⟩

theorem addLines_cons {next : Money} (currency : line.cost.currency = start.currency)
    (fits : Representable line.exactTotal) (next_currency : next.currency = start.currency)
    (next_amount : next.amount = start.amount + line.exactTotal) :
    addLines start (line :: rest) = addLines next rest := by
  have added : start.sum ⟨line.cost.currency, line.exactTotal, fits⟩ = .ok next :=
    sum_eq_ok_iff.mpr ⟨currency, next_currency, next_amount⟩
  rw [addLines, lineTotal_eq_ok line fits]
  change (start.sum _ >>= fun next => addLines next rest) = _
  rw [added]
  rfl

theorem addLines_eq_ok_iff :
    addLines start lines = .ok total ↔
      AddTo start lines ∧ total.currency = start.currency ∧
        total.amount = start.amount + exactSum lines := by
  induction lines generalizing start with
  | nil =>
      constructor
      · rintro ⟨⟩
        exact ⟨addTo_nil, rfl, (Int.add_zero _).symm⟩
      · rintro ⟨_, currency, amount⟩
        have same : start = total := by
          apply eq_of_totalNanos currency.symm
          rw [totalNanos_eq, totalNanos_eq, amount, exactSum, Int.add_zero]
        rw [same]
        rfl
  | cons line rest ih =>
      rw [addTo_cons_iff]
      constructor
      · intro added
        obtain ⟨lineTotal, lineMade, added⟩ := Except.of_bind added
        obtain ⟨next, nextMade, added⟩ := Except.of_bind added
        obtain ⟨line_currency, line_amount⟩ := of_multiply lineMade
        obtain ⟨same, next_currency, next_amount⟩ := of_sum nextMade
        obtain ⟨later, total_currency, total_amount⟩ := ih.mp added
        have exact_line : lineTotal.amount = line.exactTotal := line_amount
        rw [exact_line] at next_amount
        refine ⟨⟨line_currency.symm.trans same, ?_, next, next_currency, next_amount, later⟩,
          total_currency.trans next_currency, ?_⟩
        · rw [← exact_line]
          exact lineTotal.representable
        · rw [total_amount, next_amount, exactSum, Int.add_assoc]
      · rintro ⟨⟨currency, fits, next, next_currency, next_amount, later⟩, total_currency, amount⟩
        rw [addLines_cons currency fits next_currency next_amount, ih]
        refine ⟨later, total_currency.trans next_currency.symm, ?_⟩
        rw [amount, next_amount, exactSum, Int.add_assoc]

/-- What a total needs: a currency code that all costs share, lines whose totals are amounts, and
amounts all the way from the cost of shipping to the sum of everything. -/
structure AddsUp (code : String) (preparation : Preparation) : Prop where
  three_letters : code.toList.length = 3
  letters : ∀ letter ∈ code.toList, letter.isAlpha = true
  shipping_currency : preparation.shippingCost.currency.text = code
  line_currency : ∀ line ∈ preparation.orderItems, line.cost.currency.text = code
  line_totals : ∀ line ∈ preparation.orderItems, Representable line.exactTotal
  prefix_sums : ∀ before, before <+: preparation.orderItems →
    Representable (preparation.shippingCost.amount + exactSum before)

theorem total_eq_addLines (same : preparation.shippingCost.currency.text = code) :
    preparation.total code = addLines preparation.shippingCost preparation.orderItems := by
  let nothing : Money := ⟨preparation.shippingCost.currency, 0, representable_zero⟩
  have zeroMade : zero code = .ok nothing := zero_eq_ok_iff.mpr ⟨same, rfl⟩
  have summed : nothing.sum preparation.shippingCost = .ok preparation.shippingCost :=
    sum_eq_ok_iff.mpr ⟨rfl, rfl, (Int.zero_add _).symm⟩
  rw [total, zeroMade]
  change (nothing.sum preparation.shippingCost >>= fun shipping =>
    addLines shipping preparation.orderItems) = _
  rw [summed]
  rfl

theorem addsUp_iff :
    AddsUp code preparation ↔ preparation.shippingCost.currency.text = code ∧
      AddTo preparation.shippingCost preparation.orderItems := by
  constructor
  · intro sums
    refine ⟨sums.shipping_currency, ?_, sums.line_totals, sums.prefix_sums⟩
    intro line member
    apply CurrencyCode.text_inj.mp
    rw [sums.line_currency line member, sums.shipping_currency]
  · rintro ⟨rfl, currencies, line_totals, prefix_sums⟩
    have priced := preparation.shippingCost.wellFormed
    refine ⟨priced.three_letters, priced.letters, rfl, ?_, line_totals, prefix_sums⟩
    intro line member
    rw [currencies line member]

theorem total_eq_ok_iff :
    preparation.total code = .ok total ↔
      AddsUp code preparation ∧ total.currency.text = code ∧
        total.amount = preparation.shippingCost.amount + exactSum preparation.orderItems := by
  rw [addsUp_iff]
  constructor
  · intro computed
    have shipping_currency := (of_total computed).shipping_currency
    rw [total_eq_addLines shipping_currency] at computed
    obtain ⟨sums, currency, amount⟩ := addLines_eq_ok_iff.mp computed
    refine ⟨⟨shipping_currency, sums⟩, ?_, amount⟩
    rw [currency, shipping_currency]
  · rintro ⟨⟨shipping_currency, sums⟩, currency, amount⟩
    rw [total_eq_addLines shipping_currency]
    refine addLines_eq_ok_iff.mpr ⟨sums, ?_, amount⟩
    exact CurrencyCode.text_inj.mp (currency.trans shipping_currency.symm)

theorem exists_total_iff :
    (∃ total, preparation.total code = .ok total) ↔ AddsUp code preparation := by
  constructor
  · rintro ⟨total, computed⟩
    exact (total_eq_ok_iff.mp computed).1
  · intro sums
    exact ⟨⟨preparation.shippingCost.currency, _, sums.prefix_sums _ (List.prefix_refl _)⟩,
      total_eq_ok_iff.mpr ⟨sums, sums.shipping_currency, rfl⟩⟩

/-! ## Amounts that are not negative -/

structure Priced (code : String) (preparation : Preparation) : Prop where
  shipping_currency : preparation.shippingCost.currency.text = code
  line_currency : ∀ line ∈ preparation.orderItems, line.cost.currency.text = code
  shipping_nonneg : 0 ≤ preparation.shippingCost.amount
  line_nonneg : ∀ line ∈ preparation.orderItems, 0 ≤ line.cost.amount

theorem Priced.currencies (priced : Priced code preparation) :
    ∀ line ∈ preparation.orderItems, line.cost.currency = preparation.shippingCost.currency := by
  intro line member
  apply CurrencyCode.text_inj.mp
  rw [priced.line_currency line member, priced.shipping_currency]

theorem representable_of_nonneg {amount greater : Int} (nonneg : 0 ≤ amount)
    (le : amount ≤ greater) (fits : Representable greater) : Representable amount :=
  ⟨Int.le_trans representable_zero.1 nonneg, Int.le_trans le fits.2⟩

/-- Only the last of the sums has to be looked at: it is the greatest. -/
theorem Priced.addsUp_iff (priced : Priced code preparation) :
    AddsUp code preparation ↔
      Representable (preparation.shippingCost.amount + exactSum preparation.orderItems) := by
  have shipping := priced.shipping_nonneg
  constructor
  · intro sums
    exact sums.prefix_sums _ (List.prefix_refl _)
  · intro fits
    apply Preparation.addsUp_iff.mpr
    refine ⟨priced.shipping_currency, priced.currencies, ?_, ?_⟩
    · intro line member
      have least := exactTotal_nonneg (priced.line_nonneg line member)
      have most := exactTotal_le_exactSum priced.line_nonneg member
      exact representable_of_nonneg least (by omega) fits
    · intro before cut
      have least : 0 ≤ exactSum before := by
        apply exactSum_nonneg
        intro line member
        exact priced.line_nonneg line (cut.subset member)
      have most := exactSum_le_of_prefix priced.line_nonneg cut
      exact representable_of_nonneg (by omega) (by omega) fits

theorem Priced.rearranged {other : Preparation} (priced : Priced code preparation)
    (shipping : other.shippingCost = preparation.shippingCost)
    (arranged : other.orderItems ~ preparation.orderItems) : Priced code other := by
  refine ⟨?_, ?_, ?_, ?_⟩
  · rw [shipping]
    exact priced.shipping_currency
  · intro line member
    exact priced.line_currency line (arranged.subset member)
  · rw [shipping]
    exact priced.shipping_nonneg
  · intro line member
    exact priced.line_nonneg line (arranged.subset member)

theorem Priced.total_eq_ok_iff (priced : Priced code preparation) :
    preparation.total code = .ok total ↔ total.currency.text = code ∧
      total.amount = preparation.shippingCost.amount + exactSum preparation.orderItems := by
  rw [Preparation.total_eq_ok_iff, priced.addsUp_iff]
  constructor
  · rintro ⟨_, currency, amount⟩
    exact ⟨currency, amount⟩
  · rintro ⟨currency, amount⟩
    rw [← amount]
    exact ⟨total.representable, currency, rfl⟩

/-- Where all costs are of one currency, only the range of amounts is left to fail. -/
theorem addLines_cases (currencies : ∀ line ∈ lines, line.cost.currency = start.currency) :
    (∃ total, addLines start lines = .ok total) ∨
      ∃ operation, addLines start lines = .error (.overflow operation) := by
  induction lines generalizing start with
  | nil => exact Or.inl ⟨start, rfl⟩
  | cons line rest ih =>
      have currency := currencies line List.mem_cons_self
      by_cases line_fits : Representable line.exactTotal
      · by_cases next_fits : Representable (start.amount + line.exactTotal)
        · let next : Money := ⟨start.currency, start.amount + line.exactTotal, next_fits⟩
          rw [@addLines_cons start line rest next currency line_fits rfl rfl]
          exact ih fun other member => currencies other (List.mem_cons_of_mem _ member)
        · have overflowed :
              start.sum ⟨line.cost.currency, line.exactTotal, line_fits⟩ =
                .error (.overflow .sum) :=
            sum_eq_overflow currency next_fits
          refine Or.inr ⟨.sum, ?_⟩
          rw [addLines, lineTotal_eq_ok line line_fits]
          change (start.sum _ >>= fun next => addLines next rest) = _
          rw [overflowed]
          rfl
      · have overflowed : line.lineTotal = .error (.overflow .multiply) :=
          multiply_eq_overflow line_fits
        refine Or.inr ⟨.multiply, ?_⟩
        rw [addLines, overflowed]
        rfl

theorem Priced.total_overflows_iff (priced : Priced code preparation) :
    (∃ operation, preparation.total code = .error (.overflow operation)) ↔
      ¬ Representable (preparation.shippingCost.amount + exactSum preparation.orderItems) := by
  rw [← priced.addsUp_iff, ← exists_total_iff, total_eq_addLines priced.shipping_currency]
  constructor
  · rintro ⟨operation, failed⟩ ⟨total, added⟩
    rw [added] at failed
    cases failed
  · intro none
    exact (addLines_cases priced.currencies).resolve_left none

/-- There is a total exactly if everything that is added up, and every sum on the way, is an amount
of the one currency; the total is then the exact sum.  Amounts that are not negative have the same
total in any order, and none only if the exact sum is no amount. -/
theorem total_of_prefix_sums (code : String) (preparation : Preparation) :
    ((∃ total, preparation.total code = .ok total) ↔ AddsUp code preparation) ∧
    (∀ total, preparation.total code = .ok total → total.currency.text = code ∧
      total.amount = preparation.shippingCost.amount + exactSum preparation.orderItems) ∧
    (Priced code preparation →
      (∀ other : Preparation, other.shippingCost = preparation.shippingCost →
        other.orderItems ~ preparation.orderItems →
        ∀ total, other.total code = .ok total ↔ preparation.total code = .ok total) ∧
      ((∃ operation, preparation.total code = .error (.overflow operation)) ↔
        ¬ Representable (preparation.shippingCost.amount + exactSum preparation.orderItems))) := by
  refine ⟨exists_total_iff, fun total computed => (total_eq_ok_iff.mp computed).2, ?_⟩
  intro priced
  refine ⟨?_, priced.total_overflows_iff⟩
  intro other shipping arranged total
  have other_priced := priced.rearranged shipping arranged
  rw [priced.total_eq_ok_iff, other_priced.total_eq_ok_iff, shipping, exactSum_perm arranged]

/-- Shipping at the greatest amount, with a nano more to pay and a nano to get back: the order of
the two lines decides, and the nano more alone is too much. -/
theorem total_of_prefix_sums_of_refund :
    ∃ (shipping : Money) (paid refunded : OrderItem),
      (∃ total, Preparation.total ⟨[refunded, paid], [], shipping⟩ "USD" = .ok total ∧
        total.amount = shipping.amount) ∧
      (¬ ∃ total, Preparation.total ⟨[paid, refunded], [], shipping⟩ "USD" = .ok total) ∧
      ∃ operation,
        Preparation.total ⟨[paid], [], shipping⟩ "USD" = .error (.overflow operation) := by
  let dollar : CurrencyCode := ⟨"USD", rfl⟩
  let shipping : Money := ⟨dollar, greatest, by decide⟩
  let paid : OrderItem := ⟨⟨⟨"mug"⟩, 1⟩, ⟨dollar, 1, by decide⟩⟩
  let refunded : OrderItem := ⟨⟨⟨"mug"⟩, 1⟩, ⟨dollar, -1, by decide⟩⟩
  have greater : ∀ change : Int, Representable (greatest + change) ↔ change ≤ 0 ∧
      least ≤ greatest + change := by
    intro change
    rw [Representable]
    omega
  have too_much : ¬ Representable (shipping.amount + exactSum [paid]) := by
    intro fits
    exact absurd ((greater 1).mp fits).1 (by decide)
  refine ⟨shipping, paid, refunded, ?_, ?_, ?_⟩
  · have sums : AddsUp "USD" ⟨[refunded, paid], [], shipping⟩ := by
      refine addsUp_iff.mpr ⟨rfl, ?_, ?_, ?_⟩
      · simp [refunded, paid, shipping]
      · simp only [List.forall_mem_cons]
        exact ⟨by decide, by decide, by simp⟩
      · simp only [List.prefix_cons_iff]
        rintro before (rfl | ⟨_, rfl, rfl | ⟨_, rfl, cut⟩⟩)
        · exact (greater 0).mpr (by decide)
        · exact (greater (-1)).mpr (by decide)
        · rw [List.prefix_nil.mp cut]
          exact (greater 0).mpr (by decide)
    obtain ⟨total, computed⟩ :=
      (total_of_prefix_sums "USD" ⟨[refunded, paid], [], shipping⟩).1.mpr sums
    have found := (total_of_prefix_sums "USD" ⟨[refunded, paid], [], shipping⟩).2.1 total computed
    have settled : exactSum [refunded, paid] = 0 := by
      rfl
    refine ⟨total, computed, ?_⟩
    rw [found.2, settled, Int.add_zero]
  · intro found
    have sums := (total_of_prefix_sums "USD" ⟨[paid, refunded], [], shipping⟩).1.mp found
    exact too_much (sums.prefix_sums [paid] ⟨[refunded], rfl⟩)
  · have priced : Priced "USD" ⟨[paid], [], shipping⟩ := by
      refine ⟨rfl, ?_, by decide, ?_⟩
      · simp [paid, dollar]
      · simp [paid]
    exact ((total_of_prefix_sums "USD" ⟨[paid], [], shipping⟩).2.2 priced).2.mpr too_much

end Preparation

end Checkout

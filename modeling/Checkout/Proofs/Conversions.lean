import Checkout.Proofs.RepeatedSums
import Checkout.Services.Tables
import Mathlib.Data.Rat.Floor
import Mathlib.Tactic.FieldSimp
import Mathlib.Tactic.Linarith
import Mathlib.Tactic.Positivity
import Mathlib.Tactic.Ring

/-!
# Conversions

An amount at two rates is worth a fraction of nanos, and a conversion yields the integer that is left
of it when its digits behind the point are dropped, if that is an amount at all.  Dropping them goes
toward zero for both signs, so a conversion is monotone, turns round with its argument, and never
yields more than the amount is worth: whoever converts out and back has gained nothing.
-/

set_option autoImplicit false

namespace Checkout

/-! ## Dropping what stands behind the point -/

def truncate (fraction : ℚ) : ℤ :=
  if 0 ≤ fraction then ⌊fraction⌋ else ⌈fraction⌉

section Truncation

variable {fraction other : ℚ}

theorem truncate_of_nonneg (nonneg : 0 ≤ fraction) : truncate fraction = ⌊fraction⌋ :=
  if_pos nonneg

theorem truncate_neg (fraction : ℚ) : truncate (-fraction) = -truncate fraction := by
  rcases lt_trichotomy fraction 0 with negative | rfl | positive
  · rw [truncate, truncate, if_pos (by linarith), if_neg (by linarith), Int.floor_neg]
  · simp [truncate]
  · rw [truncate, truncate, if_neg (by linarith), if_pos (by linarith), Int.ceil_neg]

@[simp] theorem truncate_intCast (integer : ℤ) : truncate integer = integer := by
  simp [truncate]

theorem truncate_nonneg (nonneg : 0 ≤ fraction) : 0 ≤ truncate fraction := by
  rw [truncate_of_nonneg nonneg]
  exact Int.floor_nonneg.mpr nonneg

theorem truncate_nonpos (nonpos : fraction ≤ 0) : truncate fraction ≤ 0 := by
  have opposite := truncate_nonneg (neg_nonneg.mpr nonpos)
  rw [truncate_neg] at opposite
  omega

theorem truncate_mono (le : fraction ≤ other) : truncate fraction ≤ truncate other := by
  by_cases nonneg : 0 ≤ fraction
  · rw [truncate_of_nonneg nonneg, truncate_of_nonneg (nonneg.trans le)]
    exact Int.floor_le_floor le
  · have nonpos := truncate_nonpos (le_of_not_ge nonneg)
    by_cases otherNonneg : 0 ≤ other
    · exact nonpos.trans (truncate_nonneg otherNonneg)
    · rw [truncate, truncate, if_neg nonneg, if_neg otherNonneg]
      exact Int.ceil_le_ceil le

theorem abs_truncate_le (fraction : ℚ) : |(truncate fraction : ℚ)| ≤ |fraction| := by
  have below : ∀ fraction : ℚ, 0 ≤ fraction → |(truncate fraction : ℚ)| ≤ |fraction| := by
    intro fraction nonneg
    have reached : (0 : ℚ) ≤ truncate fraction := Int.cast_nonneg (truncate_nonneg nonneg)
    rw [abs_of_nonneg reached, abs_of_nonneg nonneg, truncate_of_nonneg nonneg]
    exact Int.floor_le fraction
  rcases le_total 0 fraction with nonneg | nonpos
  · exact below fraction nonneg
  · have opposite := below (-fraction) (neg_nonneg.mpr nonpos)
    rwa [truncate_neg, Int.cast_neg, abs_neg, abs_neg] at opposite

theorem truncate_eq_zero_iff : truncate fraction = 0 ↔ |fraction| < 1 := by
  have near : ∀ fraction : ℚ, 0 ≤ fraction → (truncate fraction = 0 ↔ |fraction| < 1) := by
    intro fraction nonneg
    rw [truncate_of_nonneg nonneg, abs_of_nonneg nonneg, Int.floor_eq_zero_iff, Set.mem_Ico,
      and_iff_right nonneg]
  rcases le_total 0 fraction with nonneg | nonpos
  · exact near fraction nonneg
  · have opposite := near (-fraction) (neg_nonneg.mpr nonpos)
    rwa [truncate_neg, neg_eq_zero, abs_neg] at opposite

/-- Truncated division drops what stands behind the point of the exact quotient. -/
theorem truncate_div {dividend divisor : ℤ} (positive : 0 < divisor) :
    truncate (dividend / divisor) = dividend.tdiv divisor := by
  obtain ⟨size, rfl⟩ := Int.eq_ofNat_of_zero_le positive.le
  have divided : ∀ dividend : ℤ, 0 ≤ dividend →
      truncate (dividend / (size : ℤ)) = dividend.tdiv size := by
    intro dividend nonneg
    have quotient : (0 : ℚ) ≤ dividend / (size : ℤ) := by positivity
    rw [truncate_of_nonneg quotient, Int.tdiv_eq_ediv_of_nonneg nonneg]
    exact Rat.floor_intCast_div_natCast dividend size
  rcases le_total 0 dividend with nonneg | nonpos
  · exact divided dividend nonneg
  · have opposite := divided (-dividend) (neg_nonneg.mpr nonpos)
    rwa [Int.cast_neg, neg_div, truncate_neg, Int.neg_tdiv, neg_inj] at opposite

end Truncation

/-! ## What a conversion yields -/

theorem Money.make_eq_ok_iff {code : String} {units nanos : Int} {money : Money} :
    Money.make code units nanos = .ok money ↔
      money.currency.text = code ∧ money.units = units ∧ money.nanos = nanos := by
  refine ⟨parts_of_make, ?_⟩
  rintro ⟨rfl, rfl, rfl⟩
  exact money.make_units_nanos

namespace Exchange

/-- The currency is exchanged at this rate: it is set, and positive. -/
def Quotes (exchange : Exchange) (code : String) (rate : Int) : Prop :=
  exchange.rates.get? code = some rate ∧ 0 < rate

/-- What an amount is worth at two rates, exactly. -/
def worth (amount source target : Int) : ℚ :=
  amount * target / source

/-- The product that a conversion works out, if it comes to that, fits 128 bits. -/
def Fits (exchange : Exchange) (amount : Money) (code : String) : Prop :=
  ∀ target, exchange.rates.get? code = some target →
    fitsInt128 (amount.totalNanos * target) = true

structure Converts (exchange : Exchange) (amount : Money) (code : String) (converted : Money) :
    Prop where
  fits : exchange.Fits amount code
  answer_eq : (exchange.convert amount code).1 = .ok converted

/-- All that is worked out on the way to a conversion fits the signed numbers that it is worked out
in: 128 bits, and 32 for the nanos that are left beside the whole units. -/
structure WorkedOut (amount : Money) (source target : Int) : Prop where
  units : fitsInt128 (amount.units * nanosPerUnit) = true
  total : fitsInt128 amount.totalNanos = true
  product : fitsInt128 (amount.totalNanos * target) = true
  quotient : fitsInt128 ((amount.totalNanos * target).tdiv source) = true
  nanos : fitsInt32 (((amount.totalNanos * target).tdiv source).tmod nanosPerUnit) = true

section Quotients

variable {exchange : Exchange} {amount converted : Money} {code : String}
  {rate source target : Int}

theorem Quotes.eq {other : Int} (quotes : exchange.Quotes code rate)
    (also : exchange.Quotes code other) : other = rate :=
  Option.some.inj (also.1.symm.trans quotes.1)

theorem rate_eq_ok_iff : exchange.rate code = .ok rate ↔ exchange.Quotes code rate := by
  unfold Exchange.rate Quotes
  cases found : exchange.rates.get? code with
  | none => simp
  | some other =>
      by_cases positive : 0 < other
      · simp only [Option.filter_some, positive, decide_true, if_true, Except.ok.injEq,
          Option.some.injEq]
        constructor
        · rintro rfl
          exact ⟨rfl, positive⟩
        · exact And.left
      · simp only [Option.filter_some, positive, decide_false, Option.some.injEq]
        constructor
        · rintro ⟨⟩
        · rintro ⟨rfl, also⟩
          exact absurd also positive

/-- What is worked out is the exact worth, less what stands behind the point. -/
theorem truncate_worth (amount target : Int) (positive : 0 < source) :
    truncate (worth amount source target) = (amount * target).tdiv source := by
  rw [worth, ← truncate_div positive, Int.cast_mul]

theorem ofConverted_eq_ok_iff {worked : Int} :
    ofConverted code worked = .ok converted ↔
      converted.currency.text = code ∧ converted.amount = worked := by
  unfold ofConverted
  constructor
  · intro made
    split at made
    · obtain ⟨currency, units, nanos⟩ := Money.make_eq_ok_iff.mp (Except.of_mapError made)
      refine ⟨currency, ?_⟩
      rw [← converted.units_mul_add_nanos, units, nanos, Int.tdiv_mul_add_tmod]
    · cases made
  · rintro ⟨rfl, rfl⟩
    have fits := converted.fitsInt64_units
    have made := converted.make_units_nanos
    rw [Money.units] at fits
    rw [Money.units, Money.nanos] at made
    rw [if_pos fits, made]
    rfl

theorem wrapInt128_eq {i : Int} (fits : fitsInt128 i = true) : wrapInt128 i = i := by
  simp only [fitsInt128, Bool.and_eq_true, decide_eq_true_eq] at fits
  have size : Nat.pow 2 128 = 340282366920938463463374607431768211456 := by decide
  rw [wrapInt128, size]
  apply Int.bmod_eq_of_le <;> omega

theorem answer_eq_ok_iff (fits : exchange.Fits amount code) :
    exchange.answer amount code = .ok converted ↔
      exchange.fails = false ∧ ∃ source target, exchange.Quotes amount.currency.text source ∧
        exchange.Quotes code target ∧ converted.currency.text = code ∧
        converted.totalNanos = truncate (worth amount.totalNanos source target) := by
  rw [converted.totalNanos_eq]
  unfold answer
  cases failing : exchange.fails with
  | true =>
      constructor
      · rintro ⟨⟩
      · rintro ⟨⟨⟩, _⟩
  | false =>
      change (exchange.rate amount.currency.text >>= fun source => exchange.rate code >>= fun target =>
        ofConverted code ((wrapInt128 (amount.amount * target)).tdiv source)) = .ok converted ↔ _
      have whole : ∀ {source target : Int}, exchange.Quotes amount.currency.text source →
          exchange.Quotes code target → (wrapInt128 (amount.amount * target)).tdiv source =
            truncate (worth amount.totalNanos source target) := by
        intro source target sourceQuoted targetQuoted
        have product := fits target targetQuoted.1
        rw [truncate_worth _ target sourceQuoted.2]
        rw [amount.totalNanos_eq] at product ⊢
        rw [wrapInt128_eq product]
      simp only [Except.bind_eq_ok_iff, rate_eq_ok_iff, ofConverted_eq_ok_iff, true_and]
      constructor
      · rintro ⟨source, sourceQuoted, target, targetQuoted, currency, amount_eq⟩
        rw [whole sourceQuoted targetQuoted] at amount_eq
        exact ⟨source, target, sourceQuoted, targetQuoted, currency, amount_eq⟩
      · rintro ⟨source, target, sourceQuoted, targetQuoted, currency, amount_eq⟩
        refine ⟨source, sourceQuoted, target, targetQuoted, currency, ?_⟩
        rw [whole sourceQuoted targetQuoted, amount_eq]

theorem converts_iff :
    exchange.Converts amount code converted ↔ exchange.Fits amount code ∧
      exchange.fails = false ∧ ∃ source target, exchange.Quotes amount.currency.text source ∧
        exchange.Quotes code target ∧ converted.currency.text = code ∧
        converted.totalNanos = truncate (worth amount.totalNanos source target) := by
  constructor
  · rintro ⟨fits, answered⟩
    exact ⟨fits, (answer_eq_ok_iff fits).mp answered⟩
  · rintro ⟨fits, exactly⟩
    exact ⟨fits, (answer_eq_ok_iff fits).mpr exactly⟩

theorem Converts.yields (converts : exchange.Converts amount code converted)
    (sourceQuoted : exchange.Quotes amount.currency.text source)
    (targetQuoted : exchange.Quotes code target) :
    converted.currency.text = code ∧
      converted.totalNanos = truncate (worth amount.totalNanos source target) := by
  obtain ⟨_, _, otherSource, otherTarget, sourceFound, targetFound, currency, amount_eq⟩ :=
    converts_iff.mp converts
  rw [sourceQuoted.eq sourceFound, targetQuoted.eq targetFound] at amount_eq
  exact ⟨currency, amount_eq⟩

end Quotients

section Worth

variable {amount other source target : Int}

theorem worth_nonneg (sourcePositive : 0 < source) (targetPositive : 0 < target)
    (nonneg : 0 ≤ amount) : 0 ≤ worth amount source target := by
  unfold worth
  positivity

theorem worth_neg (amount source target : Int) :
    worth (-amount) source target = -worth amount source target := by
  rw [worth, worth, Int.cast_neg, neg_mul, neg_div]

theorem worth_nonpos (sourcePositive : 0 < source) (targetPositive : 0 < target)
    (nonpos : amount ≤ 0) : worth amount source target ≤ 0 := by
  have opposite := worth_nonneg sourcePositive targetPositive (neg_nonneg.mpr nonpos)
  rw [worth_neg] at opposite
  linarith

theorem worth_mono (sourcePositive : 0 < source) (targetPositive : 0 < target)
    (le : amount ≤ other) : worth amount source target ≤ worth other source target := by
  unfold worth
  gcongr

theorem worth_same (amount : Int) {rate : Int} (positive : 0 < rate) :
    worth amount rate rate = amount := by
  have nonzero : (rate : ℚ) ≠ 0 := by exact_mod_cast positive.ne'
  rw [worth, mul_div_cancel_right₀ _ nonzero]

/-- What is worth no more than an amount is, at the reverse rates, worth no more than the amount. -/
theorem abs_worth_le_of_abs_le (sourcePositive : 0 < source) (targetPositive : 0 < target)
    (le : |(other : ℚ)| ≤ |worth amount source target|) :
    |worth other target source| ≤ |(amount : ℚ)| := by
  have sourceSize : (0 : ℚ) < source := by exact_mod_cast sourcePositive
  have targetSize : (0 : ℚ) < target := by exact_mod_cast targetPositive
  rw [worth, abs_div, abs_mul, abs_of_pos sourceSize, abs_of_pos targetSize] at le ⊢
  rw [div_le_iff₀ targetSize]
  rwa [le_div_iff₀ sourceSize] at le

/-! ### Out and back -/

theorem truncate_worth_nonneg (sourcePositive : 0 < source) (targetPositive : 0 < target)
    (nonneg : 0 ≤ amount) : 0 ≤ truncate (worth amount source target) :=
  truncate_nonneg (worth_nonneg sourcePositive targetPositive nonneg)

theorem truncate_worth_nonpos (sourcePositive : 0 < source) (targetPositive : 0 < target)
    (nonpos : amount ≤ 0) : truncate (worth amount source target) ≤ 0 :=
  truncate_nonpos (worth_nonpos sourcePositive targetPositive nonpos)

theorem abs_truncate_back_le (sourcePositive : 0 < source) (targetPositive : 0 < target) :
    |truncate (worth (truncate (worth amount source target)) target source)| ≤ |amount| := by
  have outward := abs_truncate_le (worth amount source target)
  have backward := (abs_truncate_le (worth (truncate (worth amount source target)) target source)).trans
    (abs_worth_le_of_abs_le sourcePositive targetPositive outward)
  exact_mod_cast backward

/-- What comes back lies between zero and the amount, so it is an amount again. -/
theorem representable_back (sourcePositive : 0 < source) (targetPositive : 0 < target)
    (fits : Money.Representable amount) : Money.Representable
      (truncate (worth (truncate (worth amount source target)) target source)) := by
  have shrinks : |truncate (worth (truncate (worth amount source target)) target source)| ≤ |amount| :=
    abs_truncate_back_le sourcePositive targetPositive
  simp only [Money.Representable, Money.least, Money.greatest, nanosPerUnit] at fits ⊢
  rcases le_total 0 amount with nonneg | nonpos
  · have back := truncate_worth_nonneg targetPositive sourcePositive
      (truncate_worth_nonneg sourcePositive targetPositive nonneg)
    rw [abs_of_nonneg nonneg, abs_of_nonneg back] at shrinks
    omega
  · have back := truncate_worth_nonpos targetPositive sourcePositive
      (truncate_worth_nonpos sourcePositive targetPositive nonpos)
    rw [abs_of_nonpos nonpos, abs_of_nonpos back] at shrinks
    omega

end Worth

/-! ## Room for what is worked out -/

theorem fitsInt128_of_between {bound number : Int} (fits : fitsInt128 bound = true)
    (between : (0 ≤ number ∧ number ≤ bound) ∨ (bound ≤ number ∧ number ≤ 0)) :
    fitsInt128 number = true := by
  simp only [fitsInt128, Bool.and_eq_true, decide_eq_true_eq] at fits ⊢
  omega

/-- A truncated quotient, and what comes of multiplying it by the divisor again, lie between zero and
the dividend. -/
theorem tdiv_between (dividend : Int) {divisor : Int} (positive : 0 < divisor) :
    (0 ≤ dividend.tdiv divisor ∧ dividend.tdiv divisor ≤ dividend.tdiv divisor * divisor ∧
        dividend.tdiv divisor * divisor ≤ dividend) ∨
      (dividend ≤ dividend.tdiv divisor * divisor ∧
        dividend.tdiv divisor * divisor ≤ dividend.tdiv divisor ∧ dividend.tdiv divisor ≤ 0) := by
  have upper : ∀ dividend : Int, 0 ≤ dividend → 0 ≤ dividend.tdiv divisor ∧
      dividend.tdiv divisor ≤ dividend.tdiv divisor * divisor ∧
      dividend.tdiv divisor * divisor ≤ dividend := by
    intro dividend nonneg
    have quotient := Int.tdiv_nonneg nonneg positive.le
    have rest := Int.tmod_nonneg divisor nonneg
    have whole := Int.tdiv_mul_add_tmod dividend divisor
    exact ⟨quotient, le_mul_of_one_le_right quotient positive, by omega⟩
  rcases le_total 0 dividend with nonneg | nonpos
  · exact Or.inl (upper dividend nonneg)
  · have opposite := upper (-dividend) (neg_nonneg.mpr nonpos)
    rw [Int.neg_tdiv, neg_mul] at opposite
    exact Or.inr ⟨by omega, by omega, by omega⟩

theorem fitsInt128_tdiv {dividend divisor : Int} (positive : 0 < divisor)
    (fits : fitsInt128 dividend = true) :
    fitsInt128 (dividend.tdiv divisor) = true ∧
      fitsInt128 (dividend.tdiv divisor * divisor) = true := by
  have between : _ ∨ _ := tdiv_between dividend positive
  constructor
  · apply fitsInt128_of_between fits
    omega
  · apply fitsInt128_of_between fits
    omega

theorem fitsInt32_tmod (number : Int) : fitsInt32 (number.tmod nanosPerUnit) = true := by
  have split := Money.split_tdiv_tmod number
  simp only [Money.Split] at split
  simp only [fitsInt32, Bool.and_eq_true, decide_eq_true_eq]
  omega

theorem workedOut {exchange : Exchange} {amount : Money} {code : String} {source target : Int}
    (fits : exchange.Fits amount code) (sourceQuoted : exchange.Quotes amount.currency.text source)
    (targetQuoted : exchange.Quotes code target) : WorkedOut amount source target where
  units := amount.fitsInt128_units
  total := amount.fitsInt128_totalNanos
  product := fits target targetQuoted.1
  quotient := (fitsInt128_tdiv sourceQuoted.2 (fits target targetQuoted.1)).1
  nanos := fitsInt32_tmod _

/-! ## Conversions -/

/-- A conversion of an amount into a currency is exact up to what stands behind the point. -/
structure Exact (exchange : Exchange) (amount : Money) (code : String) : Prop where
  worked_out : ∀ source target, exchange.Quotes amount.currency.text source →
    exchange.Quotes code target → WorkedOut amount source target
  succeeds_iff : (∃ converted, exchange.Converts amount code converted) ↔
    exchange.fails = false ∧
      (code.toList.length = 3 ∧ ∀ c ∈ code.toList, c.isAlpha = true) ∧
      ∃ source target, exchange.Quotes amount.currency.text source ∧
        exchange.Quotes code target ∧
        Money.Representable (truncate (worth amount.totalNanos source target))
  yields : ∀ converted source target, exchange.Converts amount code converted →
    exchange.Quotes amount.currency.text source → exchange.Quotes code target →
    converted.currency.text = code ∧
      converted.totalNanos = truncate (worth amount.totalNanos source target)
  identity : code = amount.currency.text → exchange.fails = false →
    (∃ rate, exchange.Quotes code rate) → exchange.Converts amount code amount
  sign_kept : ∀ converted source target, exchange.Converts amount code converted →
    exchange.Quotes amount.currency.text source → exchange.Quotes code target →
    converted.totalNanos.sign = amount.totalNanos.sign ∨
      (converted.totalNanos = 0 ∧ |worth amount.totalNanos source target| < 1)
  negated : ∀ converted opposite reversed, exchange.Converts amount code converted →
    opposite.currency = amount.currency → opposite.totalNanos = -amount.totalNanos →
    exchange.Converts opposite code reversed → reversed.totalNanos = -converted.totalNanos
  monotone : ∀ converted more increased, exchange.Converts amount code converted →
    more.currency = amount.currency → amount.totalNanos ≤ more.totalNanos →
    exchange.Converts more code increased → converted.totalNanos ≤ increased.totalNanos
  back : ∀ converted, exchange.Converts amount code converted →
    (exchange.convert amount code).2.Fits converted amount.currency.text ∧
      ∃ returned, (exchange.convert amount code).2.Converts converted amount.currency.text returned ∧
        returned.currency = amount.currency ∧ |returned.totalNanos| ≤ |amount.totalNanos|

section Laws

variable {exchange : Exchange} {amount converted : Money} {code : String} {source target : Int}

theorem exists_converts_iff (fits : exchange.Fits amount code) :
    (∃ converted, exchange.Converts amount code converted) ↔
      exchange.fails = false ∧
        (code.toList.length = 3 ∧ ∀ c ∈ code.toList, c.isAlpha = true) ∧
        ∃ source target, exchange.Quotes amount.currency.text source ∧
          exchange.Quotes code target ∧
          Money.Representable (truncate (worth amount.totalNanos source target)) := by
  constructor
  · rintro ⟨converted, converts⟩
    obtain ⟨_, working, source, target, sourceQuoted, targetQuoted, rfl, exact_eq⟩ :=
      converts_iff.mp converts
    have formed := converted.wellFormed
    refine ⟨working, ⟨formed.three_letters, formed.letters⟩, source, target, sourceQuoted,
      targetQuoted, ?_⟩
    rw [← exact_eq, converted.totalNanos_eq]
    exact converted.representable
  · rintro ⟨working, ⟨length_eq, letters⟩, source, target, sourceQuoted, targetQuoted, within⟩
    have valid : isCurrencyCode code = true := by
      simpa [isCurrencyCode] using And.intro length_eq letters
    let converted : Money := ⟨⟨code, valid⟩, _, within⟩
    exact ⟨converted, converts_iff.mpr ⟨fits, working, source, target, sourceQuoted, targetQuoted,
      rfl, converted.totalNanos_eq⟩⟩

theorem converts_self (fits : exchange.Fits amount amount.currency.text)
    (working : exchange.fails = false)
    (quotes : exchange.Quotes amount.currency.text source) :
    exchange.Converts amount amount.currency.text amount := by
  refine converts_iff.mpr ⟨fits, working, source, source, quotes, quotes, rfl, ?_⟩
  rw [worth_same _ quotes.2, truncate_intCast]

theorem Converts.sign_kept (converts : exchange.Converts amount code converted)
    (sourceQuoted : exchange.Quotes amount.currency.text source)
    (targetQuoted : exchange.Quotes code target) :
    converted.totalNanos.sign = amount.totalNanos.sign ∨
      (converted.totalNanos = 0 ∧ |worth amount.totalNanos source target| < 1) := by
  have exact_eq := (converts.yields sourceQuoted targetQuoted).2
  by_cases vanishes : converted.totalNanos = 0
  · refine Or.inr ⟨vanishes, ?_⟩
    rw [← truncate_eq_zero_iff, ← exact_eq, vanishes]
  · refine Or.inl ?_
    rcases lt_trichotomy amount.totalNanos 0 with negative | zero | positive
    · have nonpos := truncate_worth_nonpos sourceQuoted.2 targetQuoted.2 negative.le
      rw [Int.sign_eq_neg_one_of_neg negative, Int.sign_eq_neg_one_of_neg (by omega)]
    · rw [zero, worth] at exact_eq
      simp [truncate] at exact_eq
      exact absurd exact_eq vanishes
    · have nonneg := truncate_worth_nonneg sourceQuoted.2 targetQuoted.2 positive.le
      rw [Int.sign_eq_one_of_pos positive, Int.sign_eq_one_of_pos (by omega)]

theorem Converts.negated {opposite reversed : Money}
    (converts : exchange.Converts amount code converted)
    (currency : opposite.currency = amount.currency)
    (negative : opposite.totalNanos = -amount.totalNanos)
    (also : exchange.Converts opposite code reversed) :
    reversed.totalNanos = -converted.totalNanos := by
  obtain ⟨_, _, source, target, sourceQuoted, targetQuoted, _, exact_eq⟩ := converts_iff.mp converts
  rw [← currency] at sourceQuoted
  rw [(also.yields sourceQuoted targetQuoted).2, exact_eq, negative, worth_neg, truncate_neg]

theorem Converts.monotone {more increased : Money}
    (converts : exchange.Converts amount code converted)
    (currency : more.currency = amount.currency) (le : amount.totalNanos ≤ more.totalNanos)
    (also : exchange.Converts more code increased) :
    converted.totalNanos ≤ increased.totalNanos := by
  obtain ⟨_, _, source, target, sourceQuoted, targetQuoted, _, exact_eq⟩ := converts_iff.mp converts
  have moreQuoted := sourceQuoted
  rw [← currency] at moreQuoted
  rw [(also.yields moreQuoted targetQuoted).2, exact_eq]
  exact truncate_mono (worth_mono sourceQuoted.2 targetQuoted.2 le)

/-- What comes of a conversion can be converted back, and the way back works out nothing that would
be larger than on the way out. -/
theorem Converts.back (converts : exchange.Converts amount code converted) :
    exchange.Fits converted amount.currency.text ∧
      ∃ returned, exchange.Converts converted amount.currency.text returned ∧
        returned.currency = amount.currency ∧ |returned.totalNanos| ≤ |amount.totalNanos| := by
  obtain ⟨fits, working, source, target, sourceQuoted, targetQuoted, rfl, exact_eq⟩ :=
    converts_iff.mp converts
  have fitsBack : exchange.Fits converted amount.currency.text := by
    intro rate found
    have same : rate = source := Option.some.inj (found.symm.trans sourceQuoted.1)
    rw [same, exact_eq, truncate_worth _ target sourceQuoted.2]
    exact (fitsInt128_tdiv sourceQuoted.2 (fits target targetQuoted.1)).2
  refine ⟨fitsBack, ?_⟩
  · have within : Money.Representable amount.totalNanos := by
      rw [amount.totalNanos_eq]
      exact amount.representable
    let returned : Money := ⟨amount.currency, truncate (worth converted.totalNanos target source), by
      rw [exact_eq]
      exact representable_back sourceQuoted.2 targetQuoted.2 within⟩
    refine ⟨returned, ?_, rfl, ?_⟩
    · exact converts_iff.mpr ⟨fitsBack, working, target, source, targetQuoted, sourceQuoted, rfl,
        returned.totalNanos_eq⟩
    · rw [returned.totalNanos_eq]
      change |truncate (worth converted.totalNanos target source)| ≤ _
      rw [exact_eq]
      exact abs_truncate_back_le sourceQuoted.2 targetQuoted.2

end Laws

/-- For every amount, every table of rates and every currency. -/
theorem conversions_exact (exchange : Exchange) (amount : Money) (code : String)
    (fits : exchange.Fits amount code) : exchange.Exact amount code where
  worked_out := fun _ _ => workedOut fits
  succeeds_iff := exists_converts_iff fits
  yields := fun _ _ _ converts => converts.yields
  identity := by
    rintro rfl working ⟨rate, quotes⟩
    exact converts_self fits working quotes
  sign_kept := fun _ _ _ converts => converts.sign_kept
  negated := fun _ _ _ converts => converts.negated
  monotone := fun _ _ _ converts => converts.monotone
  back := by
    -- A conversion counts itself, and nothing else is changed.
    intro converted converts
    obtain ⟨fitsBack, returned, returns, same⟩ := converts.back
    exact ⟨fitsBack, returned, ⟨returns.fits, returns.answer_eq⟩, same⟩

end Exchange

namespace Sample

def bureau : Exchange := (Exchange.par.setRate "DKK" 6871234567).setRate "EUR" 912345678

def refund : Money := ⟨⟨"DKK", rfl⟩, -19990000000, by decide⟩

end Sample

/-- A refund goes out and back at rates that do not divide it. -/
theorem conversions_exact_of_refund :
    ∃ converted returned : Money, Sample.bureau.Converts Sample.refund "EUR" converted ∧
      converted.totalNanos = -2654223185 ∧
      (Sample.bureau.convert Sample.refund "EUR").2.Converts converted "DKK" returned ∧
      |returned.totalNanos| ≤ 19990000000 := by
  have rate : Sample.bureau.rates.get? "EUR" = some 912345678 := by decide
  have fits : Sample.bureau.Fits Sample.refund "EUR" := by
    intro target found
    cases rate.symm.trans found
    decide
  have exactly := Exchange.conversions_exact Sample.bureau Sample.refund "EUR" fits
  let converted : Money := ⟨⟨"EUR", rfl⟩, -2654223185, by decide⟩
  have converts : Sample.bureau.Converts Sample.refund "EUR" converted := ⟨fits, rfl⟩
  obtain ⟨_, returned, returns, _, le⟩ := exactly.back converted converts
  exact ⟨converted, returned, converts, by decide, returns, le⟩

end Checkout

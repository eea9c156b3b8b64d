import Checkout.Text.Decimal
import Checkout.Text.Quoted

/-!
# Money

An amount of money is an exact number of nanos (billionths of a unit) in one currency.  The
amounts are those whose whole units fit a signed 64-bit integer, so they fill one interval of
the integers.  Whole units and the remaining nanos are two views of the same number: the
quotient and the remainder of its division by a billion, both truncated toward zero, which is
why they never have opposite signs.
-/

set_option autoImplicit false

namespace Checkout

/-- Whether a text is a currency code: three ASCII letters in either case. -/
def isCurrencyCode (text : String) : Bool :=
  text.toList.length == 3 && text.toList.all Char.isAlpha

/-- A currency code; codes that differ in case are different codes. -/
structure CurrencyCode where
  text : String
  valid : isCurrencyCode text = true
deriving DecidableEq

def CurrencyCode.ofText? (text : String) : Option CurrencyCode :=
  if valid : isCurrencyCode text = true then some ⟨text, valid⟩ else none

def nanosPerUnit : Int := 1000000000

def fitsInt64 (i : Int) : Bool :=
  -9223372036854775808 ≤ i && i ≤ 9223372036854775807

def fitsInt32 (i : Int) : Bool :=
  -2147483648 ≤ i && i ≤ 2147483647

def fitsInt128 (i : Int) : Bool :=
  -170141183460469231731687303715884105728 ≤ i && i ≤ 170141183460469231731687303715884105727

namespace Money

def least : Int := -9223372036854775808 * nanosPerUnit - 999999999

def greatest : Int := 9223372036854775807 * nanosPerUnit + 999999999

def Representable (amount : Int) : Prop :=
  least ≤ amount ∧ amount ≤ greatest

instance (amount : Int) : Decidable (Representable amount) :=
  inferInstanceAs (Decidable (_ ∧ _))

theorem representable_iff_fitsInt64 (amount : Int) :
    Representable amount ↔ fitsInt64 (amount.tdiv nanosPerUnit) = true := by
  simp only [Representable, least, greatest, fitsInt64, Bool.and_eq_true, decide_eq_true_eq]
  by_cases negative : amount < 0
  -- Truncation rounds the negative amounts up, which is what makes the bounds lopsided.
  · have units_eq : amount.tdiv nanosPerUnit = -((-amount) / nanosPerUnit) := by
      rw [← Int.tdiv_eq_ediv_of_nonneg (by omega), Int.neg_tdiv, Int.neg_neg]
    rw [units_eq, nanosPerUnit]
    omega
  · have units_eq : amount.tdiv nanosPerUnit = amount / nanosPerUnit :=
      Int.tdiv_eq_ediv_of_nonneg (by omega)
    rw [units_eq, nanosPerUnit]
    omega

end Money

structure Money where
  currency : CurrencyCode
  amount : Int
  representable : Money.Representable amount
deriving DecidableEq

namespace Money

/-- The arithmetic that can leave the range of amounts. -/
inductive Operation where
  | sum
  | multiply
deriving DecidableEq

def Operation.name : Operation → String
  | .sum => "sum"
  | .multiply => "multiply"

end Money

inductive MoneyError where
  | currencyMismatch (left right : String)
  | overflow (operation : Money.Operation)
  | invalidValue (units nanos : Int)
  | invalidCurrencyCode (code : String)
deriving DecidableEq

def MoneyError.message : MoneyError → String
  | .currencyMismatch left right => "currency mismatch: " ++ left ++ " vs " ++ right
  | .overflow operation => "money overflow while computing " ++ operation.name
  | .invalidValue units nanos =>
    "invalid money value: units=" ++ Text.integer units ++ ", nanos=" ++ Text.integer nanos
  | .invalidCurrencyCode code => "invalid currency code: " ++ Text.quoted code

namespace Money

def units (money : Money) : Int :=
  money.amount.tdiv nanosPerUnit

def nanos (money : Money) : Int :=
  money.amount.tmod nanosPerUnit

/-- Whether units and nanos are the two views of one number: fewer nanos than make a unit, and
no sign against the sign of the units. -/
def Split (units nanos : Int) : Prop :=
  nanos.natAbs < 1000000000 ∧ ((0 ≤ units ∧ 0 ≤ nanos) ∨ (units ≤ 0 ∧ nanos ≤ 0))

instance (units nanos : Int) : Decidable (Split units nanos) :=
  inferInstanceAs (Decidable (_ ∧ _))

/-- The amount with the given whole units and nanos.  The code is checked first. -/
def make (code : String) (units nanos : Int) : Except MoneyError Money :=
  match CurrencyCode.ofText? code with
  | none => .error (.invalidCurrencyCode code)
  | some currency =>
    if fits : Split units nanos ∧ Representable (units * nanosPerUnit + nanos) then
      .ok ⟨currency, units * nanosPerUnit + nanos, fits.2⟩
    else .error (.invalidValue units nanos)

def zero (code : String) : Except MoneyError Money :=
  make code 0 0

def ofCents (code : String) (cents : Int) : Except MoneyError Money :=
  make code (cents.tdiv 100) (cents.tmod 100 * 10000000)

def totalNanos (money : Money) : Int :=
  money.units * nanosPerUnit + money.nanos

/-- The result of an operation with the exact value `amount`, which is worked out in 128 bits and
must have whole units of 64 bits. -/
def ofExact (operation : Operation) (currency : CurrencyCode) (amount : Int) :
    Except MoneyError Money :=
  if fits : fitsInt128 amount = true ∧ fitsInt64 (amount.tdiv nanosPerUnit) = true then
    .ok ⟨currency, amount, (representable_iff_fitsInt64 amount).mpr fits.2⟩
  else .error (.overflow operation)

def retag (money : Money) (code : String) : Except MoneyError Money :=
  make code money.units money.nanos

def sum (left right : Money) : Except MoneyError Money :=
  if left.currency = right.currency then
    ofExact .sum left.currency (left.totalNanos + right.totalNanos)
  else .error (.currencyMismatch left.currency.text right.currency.text)

def multiply (money : Money) (quantity : Nat) : Except MoneyError Money :=
  ofExact .multiply money.currency (money.totalNanos * quantity)

/-- The fraction digits of an amount: nine digits without trailing zeros, but at least two. -/
def fraction (nanos : Nat) : List Char :=
  let digits := Text.padded 9 nanos
  let short := (digits.reverse.dropWhile (· == '0')).reverse
  if short.length < 2 then digits.take 2 else short

/-- The text of an amount: sign, units, point, fraction, blank, currency code. -/
def display (money : Money) : String :=
  (if money.amount < 0 then "-" else "") ++ Text.natural money.units.natAbs ++ "."
    ++ String.ofList (fraction money.nanos.natAbs) ++ " " ++ money.currency.text

end Money

end Checkout

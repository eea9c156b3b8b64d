/-!
# Decimal numbers in texts

Numbers are written with the fewest decimal digits and read back from ASCII digits alone, with
an optional leading plus sign.  A reader has a bound; it stops at the first character that is
no digit or that carries the value to the bound, and reports which of the two it was.
-/

set_option autoImplicit false

namespace Checkout.Text

/-- Why a text does not name a number below the reader's bound. -/
inductive NumberFault where
  | empty
  | invalidDigit
  | tooLarge
deriving DecidableEq

def NumberFault.message : NumberFault → String
  | .empty => "cannot parse integer from empty string"
  | .invalidDigit => "invalid digit found in string"
  | .tooLarge => "number too large to fit in target type"

def natural (n : Nat) : String :=
  n.repr

/-- An integer in decimal: a minus sign if it is negative, then its magnitude. -/
def integer (i : Int) : String :=
  if i < 0 then "-" ++ natural i.natAbs else natural i.natAbs

def padded (width n : Nat) : List Char :=
  List.leftpad width '0' (Nat.toDigits 10 n)

def digitValue? (c : Char) : Option Nat :=
  if c.isDigit then some (c.toNat - 48) else none

/-- Continues a number whose digits so far have the value `value`. -/
def readDigits (bound : Nat) : Nat → List Char → Except NumberFault Nat
  | value, [] => .ok value
  | value, c :: rest =>
    match digitValue? c with
    | none => .error .invalidDigit
    | some digit =>
      let next := 10 * value + digit
      if next < bound then readDigits bound next rest else .error .tooLarge

/-- Reads a natural number below `bound`: an optional plus sign, then one or more digits. -/
def readNatural (bound : Nat) : List Char → Except NumberFault Nat
  | [] => .error .empty
  | ['+'] => .error .invalidDigit
  | '+' :: rest => readDigits bound 0 rest
  | text => readDigits bound 0 text

end Checkout.Text

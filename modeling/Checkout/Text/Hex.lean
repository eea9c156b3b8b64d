/-!
# Hexadecimal digits

Hexadecimal text is written in lower case and read in either case.  Fixed-width numbers are
written most significant digit first; bytes are written as two digits each.
-/

set_option autoImplicit false

namespace Checkout.Text

def hexDigit (value : Fin 16) : Char :=
  if value.val < 10 then Char.ofNat (48 + value.val) else Char.ofNat (87 + value.val)

def hexDigitUpper (value : Fin 16) : Char :=
  if value.val < 10 then Char.ofNat (48 + value.val) else Char.ofNat (55 + value.val)

def hexValue? (c : Char) : Option (Fin 16) :=
  let code := c.toNat
  if 48 ≤ code ∧ code ≤ 57 then some (Fin.ofNat 16 (code - 48))
  else if 97 ≤ code ∧ code ≤ 102 then some (Fin.ofNat 16 (code - 87))
  else if 65 ≤ code ∧ code ≤ 70 then some (Fin.ofNat 16 (code - 55))
  else none

/-- The values of a run of hexadecimal digits, or `none` if some character is no digit. -/
def hexValues? : List Char → Option (List (Fin 16))
  | [] => some []
  | c :: rest => do
    let value ← hexValue? c
    let values ← hexValues? rest
    pure (value :: values)

/-- The number with the given hexadecimal digits, most significant first. -/
def ofHexValues (values : List (Fin 16)) : Nat :=
  values.foldl (fun number value => 16 * number + value.val) 0

/-- Reads a hexadecimal number: an optional plus sign, then one or more digits. -/
def readHex? : List Char → Option Nat
  | [] => none
  | ['+'] => none
  | '+' :: rest => (hexValues? rest).map ofHexValues
  | text => (hexValues? text).map ofHexValues

def lastHexDigit (number : Nat) : Fin 16 :=
  Fin.ofNat 16 number

def hexDigits : Nat → Nat → List Char
  | 0, _ => []
  | width + 1, number => hexDigits width (number / 16) ++ [hexDigit (lastHexDigit number)]

def hexNumber (number : Nat) : List Char :=
  Nat.toDigits 16 number

def hexOfBytes : List UInt8 → List Char
  | [] => []
  | byte :: rest => hexDigits 2 byte.toNat ++ hexOfBytes rest

def bytesOfHex? : List Char → Option (List UInt8)
  | [] => some []
  | high :: low :: rest => do
    let highValue ← hexValue? high
    let lowValue ← hexValue? low
    let bytes ← bytesOfHex? rest
    pure (UInt8.ofNat (16 * highValue.val + lowValue.val) :: bytes)
  | [_] => none

end Checkout.Text

import Checkout.Json.Basic
import Checkout.Text.Hex
import Checkout.Text.Utf8

/-!
# Reading JSON text

Strict JSON: one value, blanks around tokens, nothing after it.  Each reader consumes a front
part of the text and returns the rest.  The readers of nested values carry a bound on the number
of their own calls; the bound that `parse?` computes from the text is never reached, because
between two calls a reader consumes a character.
-/

set_option autoImplicit false

namespace Checkout.Json

def isSpace (c : Char) : Bool :=
  c == ' ' || c == '\t' || c == '\n' || c == '\r'

def skipSpace (text : List Char) : List Char :=
  text.dropWhile isSpace

/-- A part of a string literal: a character, or a code unit that is half of a surrogate pair. -/
inductive Piece where
  | char (c : Char)
  | half (unit : Nat)
deriving DecidableEq

/-- The part that an escape of four hexadecimal digits names. -/
def Piece.ofUnit (unit : Nat) : Piece :=
  if 0xD800 ≤ unit ∧ unit ≤ 0xDFFF then .half unit else .char (Char.ofNat unit)

def escapedLetter? (c : Char) : Option Char :=
  if c == '"' then some '"'
  else if c == '\\' then some '\\'
  else if c == '/' then some '/'
  else if c == 'b' then some (Char.ofNat 8)
  else if c == 'f' then some (Char.ofNat 12)
  else if c == 'n' then some '\n'
  else if c == 'r' then some '\r'
  else if c == 't' then some '\t'
  else none

/-- Reads a string literal after its opening quote, up to and with its closing quote. -/
def readPieces : List Char → Option (List Piece × List Char)
  | [] => none
  | '"' :: rest => some ([], rest)
  | '\\' :: 'u' :: a :: b :: c :: d :: rest => do
    let digits ← Text.hexValues? [a, b, c, d]
    let (pieces, rest) ← readPieces rest
    pure (Piece.ofUnit (Text.ofHexValues digits) :: pieces, rest)
  | '\\' :: letter :: rest => do
    let c ← escapedLetter? letter
    let (pieces, rest) ← readPieces rest
    pure (.char c :: pieces, rest)
  | c :: rest =>
    if c == '\\' || c.toNat < 32 then none
    else do
      let (pieces, rest) ← readPieces rest
      pure (.char c :: pieces, rest)

/-- The character beyond the basic plane that two halves name. -/
def joinHalves? (high low : Nat) : Option Char :=
  if high < 0xDC00 ∧ 0xDC00 ≤ low then
    some (Char.ofNat (0x10000 + (high - 0xD800) * 0x400 + (low - 0xDC00)))
  else none

/-- The text of a literal, unless some half has no partner. -/
def joinPieces? : List Piece → Option (List Char)
  | [] => some []
  | .char c :: rest => (joinPieces? rest).map (c :: ·)
  | .half high :: .half low :: rest => do
    let c ← joinHalves? high low
    let cs ← joinPieces? rest
    pure (c :: cs)
  | .half _ :: _ => none

def readString (text : List Char) : Option (Option String × List Char) := do
  let (pieces, rest) ← readPieces text
  pure ((joinPieces? pieces).map String.ofList, rest)

def readDigitRun (text : List Char) : Option (List Char × List Char) :=
  let digits := text.takeWhile Char.isDigit
  if digits.isEmpty then none else some (digits, text.dropWhile Char.isDigit)

def readWhole : List Char → Option (List Char × List Char)
  | '0' :: rest => some (['0'], rest)
  | text => readDigitRun text

def readFraction : List Char → Option (List Char × List Char)
  | '.' :: rest => readDigitRun rest
  | text => some ([], text)

def readExponentDigits : List Char → Option (Int × List Char)
  | '+' :: rest => (readDigitRun rest).map fun (digits, rest) =>
      ((Nat.ofDigitChars 10 digits 0 : Int), rest)
  | '-' :: rest => (readDigitRun rest).map fun (digits, rest) =>
      (-(Nat.ofDigitChars 10 digits 0 : Int), rest)
  | text => (readDigitRun text).map fun (digits, rest) =>
      ((Nat.ofDigitChars 10 digits 0 : Int), rest)

def readExponent : List Char → Option (Option Int × List Char)
  | 'e' :: rest => (readExponentDigits rest).map fun (exponent, rest) => (some exponent, rest)
  | 'E' :: rest => (readExponentDigits rest).map fun (exponent, rest) => (some exponent, rest)
  | text => some (none, text)

def readUnsigned (negative : Bool) (text : List Char) : Option (Numeral × List Char) := do
  let (whole, rest) ← readWhole text
  let (fraction, rest) ← readFraction rest
  let (exponent, rest) ← readExponent rest
  if fraction.isEmpty && exponent.isNone then
    pure (.integer negative (Nat.ofDigitChars 10 whole 0), rest)
  else
    pure (.decimal negative (Nat.ofDigitChars 10 (whole ++ fraction) 0)
      (exponent.getD 0 - fraction.length), rest)

def readNumeral : List Char → Option (Numeral × List Char)
  | '-' :: rest => readUnsigned true rest
  | text => readUnsigned false text

mutual

def readValue : Nat → List Char → Option (Json × List Char)
  | 0, _ => none
  | bound + 1, text =>
    match skipSpace text with
    | 'n' :: 'u' :: 'l' :: 'l' :: rest => some (.null, rest)
    | 't' :: 'r' :: 'u' :: 'e' :: rest => some (.bool true, rest)
    | 'f' :: 'a' :: 'l' :: 's' :: 'e' :: rest => some (.bool false, rest)
    | '"' :: rest => (readString rest).map fun (text, rest) => (.string text, rest)
    | '[' :: rest =>
      match skipSpace rest with
      | ']' :: rest => some (.array [], rest)
      | rest => (readElements bound rest).map fun (elements, rest) => (.array elements, rest)
    | '\x7b' :: rest =>
      match skipSpace rest with
      | '\x7d' :: rest => some (.object [], rest)
      | rest => (readMembers bound rest).map fun (members, rest) => (.object members, rest)
    | text => (readNumeral text).map fun (numeral, rest) => (.number numeral, rest)

def readElements : Nat → List Char → Option (List Json × List Char)
  | 0, _ => none
  | bound + 1, text => do
    let (first, rest) ← readValue bound text
    match skipSpace rest with
    | ']' :: rest => pure ([first], rest)
    | ',' :: rest =>
      let (others, rest) ← readElements bound rest
      pure (first :: others, rest)
    | _ => none

def readMembers : Nat → List Char → Option (List (Option String × Json) × List Char)
  | 0, _ => none
  | bound + 1, text => do
    let '"' :: rest := skipSpace text | none
    let (name, rest) ← readString rest
    let ':' :: rest := skipSpace rest | none
    let (value, rest) ← readValue bound rest
    match skipSpace rest with
    | '\x7d' :: rest => pure ([(name, value)], rest)
    | ',' :: rest =>
      let (others, rest) ← readMembers bound rest
      pure ((name, value) :: others, rest)
    | _ => none

end

def parse? (text : List Char) : Option Json := do
  let (value, rest) ← readValue (2 * text.length + 2) text
  if (skipSpace rest).isEmpty then some value else none

/-! ## JSON in bytes -/

/-- How a reader of characters sees a byte that belongs to none: as a letter that begins no token and
no escape, and then a half without a partner.  So the byte fits only in a string literal, which it
leaves without a text. -/
def strayMark : List Char := ['x', '\\', 'u', 'd', 'c', '0', '0']

def written : Text.Symbol → List Char
  | .char c => [c]
  | .stray _ => strayMark

def parseBytes? (bytes : List UInt8) : Option Json :=
  parse? ((Text.symbols bytes).flatMap written)

end Checkout.Json

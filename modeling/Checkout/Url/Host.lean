import Checkout.Text.Decimal
import Checkout.Url.Domain

/-!
# Hosts

A host is a domain name, an address of 32 bits, an address of 128 bits in brackets, or, where the
scheme is not special, any text without the characters that end a host.  A domain whose last label
is a number is an address of 32 bits: up to four numbers in decimal, octal or hexadecimal form, the
last of which fills all bytes that are left.
-/

set_option autoImplicit false

namespace Checkout.Url

inductive Host where
  | domain (name : String)
  | address4 (value : Nat)
  | address6 (pieces : List Nat)
  | plain (text : String)
deriving DecidableEq

namespace Host

/-! ## Addresses of 32 bits -/

/-- The value of a run of digits in a base, if all of them are digits of that base. -/
def digits? (base : Nat) (text : List Char) : Option Nat := do
  let values ← Text.hexValues? text
  if values.all fun value => value.val < base then
    some (values.foldl (fun number value => base * number + value.val) 0)
  else none

/-- A number in decimal form, after a zero in octal form, or after `0x` in hexadecimal form. -/
def number? : List Char → Option Nat
  | [] => none
  | '0' :: 'x' :: rest => digits? 16 rest
  | '0' :: 'X' :: rest => digits? 16 rest
  | '0' :: c :: rest => digits? 8 (c :: rest)
  | text => digits? 10 text

def labels (domain : List Char) : List (List Char) :=
  let parts := Text.fields '.' domain
  if parts.getLast? = some [] then parts.dropLast else parts

def endsInNumber (domain : List Char) : Bool :=
  match (labels domain).getLast? with
  | some last => (! last.isEmpty && last.all Char.isDigit) || (number? last).isSome
  | none => false

/-- The address of numbers, each but the last of which is one byte. -/
def ofNumbers? (numbers : List Nat) : Option Nat :=
  match numbers.reverse with
  | [] => none
  | last :: others =>
    if 4 < numbers.length ∨ others.any (fun number => 255 < number)
        ∨ Nat.pow 256 (5 - numbers.length) ≤ last then none
    else
      some (others.reverse.foldl (fun value number => 256 * value + number) 0
        * Nat.pow 256 (5 - numbers.length) + last)

/-- The address that a domain whose last label is a number names. -/
def address4? (domain : List Char) : Option Nat := do
  ofNumbers? (← (labels domain).mapM number?)

def bytes4 (value : Nat) : List Nat :=
  [value / 16777216 % 256, value / 65536 % 256, value / 256 % 256, value % 256]

/-! ## Addresses of 128 bits -/

/-- A piece of an address: at most four hexadecimal digits. -/
def piece? (text : List Char) : Option Nat :=
  if text.isEmpty || 4 < text.length then none else (Text.hexValues? text).map Text.ofHexValues

def octet? (text : List Char) : Option Nat :=
  match text with
  | ['0'] => some 0
  | '0' :: _ => none
  | text => (Text.readDigits 256 0 text).toOption.filter fun _ => ! text.isEmpty

/-- The last two pieces of an address in the form of an address of 32 bits. -/
def tail4? (text : List Char) : Option (List Nat) :=
  match (Text.fields '.' text).mapM octet? with
  | some [a, b, c, d] => some [256 * a + b, 256 * c + d]
  | _ => none

def pieces? (mayEnd : Bool) : List (List Char) → Option (List Nat)
  | [] => some []
  | [last] =>
    if mayEnd && last.contains '.' then tail4? last else (piece? last).map fun piece => [piece]
  | first :: rest => do
    let piece ← piece? first
    let pieces ← pieces? mayEnd rest
    pure (piece :: pieces)

/-- The text before and the text after the first two colons in a row. -/
def splitGap? : List Char → Option (List Char × List Char)
  | [] => none
  | ':' :: ':' :: rest => some ([], rest)
  | c :: rest => (splitGap? rest).map fun (before, after) => (c :: before, after)

/-- The pieces of a side of a gap, which may be empty. -/
def side? (mayEnd : Bool) (text : List Char) : Option (List Nat) :=
  if text.isEmpty then some [] else pieces? mayEnd (Text.fields ':' text)

/-- The eight pieces of an address.  A gap stands for one or more zeros. -/
def address6? (text : List Char) : Option (List Nat) :=
  match splitGap? text with
  | none => (pieces? true (Text.fields ':' text)).filter fun pieces => pieces.length == 8
  | some (before, after) => do
    let left ← side? false before
    let right ← side? true after
    if left.length + right.length ≤ 7 then
      some (left ++ List.replicate (8 - left.length - right.length) 0 ++ right)
    else none

def zeroRun (pieces : List Nat) : Nat :=
  (pieces.takeWhile (· == 0)).length

def longestZeroRun : List Nat → Nat × Nat
  | [] => (0, 0)
  | piece :: rest =>
    let here := zeroRun (piece :: rest)
    let (start, length) := longestZeroRun rest
    if length ≤ here then (0, here) else (start + 1, length)

def writePieces (pieces : List Nat) : List Char :=
  (":".intercalate (pieces.map fun piece => String.ofList (Text.hexNumber piece))).toList

/-- An address of 128 bits; the first longest run of two or more zeros becomes a gap. -/
def write6 (pieces : List Nat) : List Char :=
  let (start, length) := longestZeroRun pieces
  if length < 2 then writePieces pieces
  else writePieces (pieces.take start) ++ "::".toList ++ writePieces (pieces.drop (start + length))

/-! ## Hosts -/

def isForbidden (c : Char) : Bool :=
  c.toNat ≤ 32 || c.toNat == 127 || "%#/:<>?@[\\]^|".toList.contains c

/-- Characters that end or break a host of any kind. -/
def isForbiddenPlain (c : Char) : Bool :=
  c.toNat == 0 || c == '\t' || c == '\n' || c == '\r' || c == ' '
    || "#/:<>?@[\\]^|".toList.contains c

def bracketed? (text : List Char) : Option Host :=
  match text, text.getLast? with
  | '[' :: rest, some ']' => (address6? rest.dropLast).map address6
  | _, _ => none

def ofDomain? (domain : List Char) : Option Host :=
  if domain.isEmpty || domain.any isForbidden then none
  else if endsInNumber domain then (address4? domain).map address4
  else some (.domain (String.ofList domain))

def ofText? (text : List Char) : Option Host :=
  if text.head? = some '[' then bracketed? text else (Domain.read? text).bind ofDomain?

/-- The host that a text names where the scheme is not special. -/
def ofPlain? (text : List Char) : Option Host :=
  if text.head? = some '[' then bracketed? text
  else if text.any isForbiddenPlain then none
  else some (.plain (String.ofList (percentEncode (fun _ => false) text)))

def text : Host → String
  | .domain name => name
  | .address4 value => ".".intercalate ((bytes4 value).map Text.natural)
  | .address6 pieces => String.ofList (['['] ++ write6 pieces ++ [']'])
  | .plain text => text

def isEmpty (host : Host) : Bool :=
  host = .plain "" || host = .domain ""

end Host

end Checkout.Url

import Checkout.Text.Hex

/-!
# Percent encoding

A character that may not stand for itself is written as its UTF-8 bytes, each as a percent sign and
two upper-case hexadecimal digits.  Which ASCII characters are written so depends on the part of the
URL; control characters and characters outside ASCII always are.
-/

set_option autoImplicit false

namespace Checkout.Url

def percentByte (byte : UInt8) : List Char :=
  ['%', Text.hexDigitUpper (Text.lastHexDigit (byte.toNat / 16)),
    Text.hexDigitUpper (Text.lastHexDigit byte.toNat)]

def isUnprintable (c : Char) : Bool :=
  c.toNat < 32 || 127 ≤ c.toNat

def percentChar (reserved : Char → Bool) (c : Char) : List Char :=
  if isUnprintable c || reserved c then (String.utf8EncodeChar c).flatMap percentByte else [c]

/-- A text where the characters that satisfy `reserved` are not written as themselves. -/
def percentEncode (reserved : Char → Bool) (text : List Char) : List Char :=
  text.flatMap (percentChar reserved)

/-- The bytes of a text in which percent signs before two digits name bytes. -/
def percentDecode : List Char → List UInt8
  | '%' :: high :: low :: rest =>
    match Text.hexValue? high, Text.hexValue? low with
    | some highValue, some lowValue =>
      UInt8.ofNat (16 * highValue.val + lowValue.val) :: percentDecode rest
    | _, _ => String.utf8EncodeChar '%' ++ percentDecode (high :: low :: rest)
  | c :: rest => String.utf8EncodeChar c ++ percentDecode rest
  | [] => []

def inFragment (c : Char) : Bool :=
  c == ' ' || c == '"' || c == '<' || c == '>' || c.toNat == 96

def inPath (c : Char) : Bool :=
  inFragment c || c == '#' || c == '?' || c == '\x7b' || c == '\x7d'

def inUserInfo (c : Char) : Bool :=
  inPath c || c == '/' || c == ':' || c == ';' || c == '=' || c == '@' || c == '[' || c == '\\'
    || c == ']' || c == '^' || c == '|'

/-- Reserved in a segment that is added to a path.  A backslash separates segments where the scheme
is special. -/
def inSegment (special : Bool) (c : Char) : Bool :=
  inPath c || c == '/' || c == '%' || (special && c == '\\')

def inQuery (special : Bool) (c : Char) : Bool :=
  c == ' ' || c == '"' || c == '#' || c == '<' || c == '>' || (special && c == '\'')

end Checkout.Url

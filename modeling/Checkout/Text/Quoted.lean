import Checkout.Text.GraphemeExtend
import Checkout.Text.Hex
import Checkout.Text.Unprintable

/-!
# Quoted texts

A text inside a message stands between double quotes.  Quotes and backslashes are escaped, the
four usual control characters have escapes of one letter, and every other character without a
visible form of its own is written as its code point in hexadecimal.
-/

set_option autoImplicit false

namespace Checkout.Text

def codePointEscape (c : Char) : List Char :=
  ['\\', 'u', '\x7b'] ++ hexNumber c.toNat ++ ['\x7d']

/-- How one character is written between double quotes. -/
def quotedChar (c : Char) : List Char :=
  if c == '\x00' then ['\\', '0']
  else if c == '\t' then ['\\', 't']
  else if c == '\r' then ['\\', 'r']
  else if c == '\n' then ['\\', 'n']
  else if c == '\\' then ['\\', '\\']
  else if c == '"' then ['\\', '"']
  else if isGraphemeExtend c || isUnprintable c then codePointEscape c
  else [c]

/-- A text between double quotes, with every character that could mislead a reader escaped. -/
def quoted (text : String) : String :=
  String.ofList ('"' :: text.toList.flatMap quotedChar ++ ['"'])

end Checkout.Text

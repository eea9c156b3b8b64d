import Checkout.Text.GraphemeExtend
import Checkout.Text.LowerCase
import Checkout.Text.Unprintable
import Checkout.Text.Utf8
import Checkout.Url.Percent
import Checkout.Url.Punycode

/-!
# Domains

A domain is a row of labels between full stops.  Case does not count, forms of a character that
differ only in width are one character, and characters that only join or vary others are left out.
A label with characters beyond ASCII is written in Punycode after the mark `xn--`; a label with that
mark has to be the written form of such a label.
-/

set_option autoImplicit false

namespace Checkout.Url.Domain

/-- Whether a character has no meaning in a domain: soft hyphens, joiners without width and the
selectors of variants. -/
def isIgnored (c : Char) : Bool :=
  let code := c.toNat
  code == 0xAD || code == 0x34F || (0x180B ≤ code && code ≤ 0x180D) || code == 0x180F
    || code == 0x200B || code == 0x2060 || code == 0x2064 || (0xFE00 ≤ code && code ≤ 0xFE0F)
    || code == 0xFEFF || (0x1BCA0 ≤ code && code ≤ 0x1BCA3) || (0xE0100 ≤ code && code ≤ 0xE01EF)

/-- The ASCII character of which a character is the wide form; ideographic full stops count as full
stops. -/
def narrow (c : Char) : Char :=
  let code := c.toNat
  if 0xFF01 ≤ code ∧ code ≤ 0xFF5E then Char.ofNat (code - 0xFEE0)
  else if code = 0x3002 ∨ code = 0xFF61 then '.'
  else c

/-- The form of a character in which domains are compared.  Two capital letters have lower-case forms
of two characters. -/
def fold (c : Char) : List Char :=
  match c.toNat with
  | 0x130 => ['i', '\u0307']
  | 0x1E9E => ['s', 's']
  | _ => if isIgnored c then [] else [Text.toLower (narrow c)]

/-- The characters of a domain in the form in which domains are compared. -/
def foldAll (text : List Char) : List Char :=
  text.flatMap fold

def isAscii (c : Char) : Bool :=
  c.toNat < 128

/-- Whether a label beyond ASCII is well formed: its characters are printable and in the form in
which domains are compared, and the first one does not attach to another. -/
def isWellFormed (label : List Char) : Bool :=
  foldAll label == label
    && label.all (fun c => isAscii c || (! Text.isUnprintable c && c.toNat != 0xFFFD))
    && ! (label.head?.any Text.isGraphemeExtend)

/-- The mark of labels in Punycode. -/
def mark : List Char := ['x', 'n', '-', '-']

/-- Whether what stands after the mark of a label is the written form of a label beyond ASCII. -/
def isEncoded (text : List Char) : Bool :=
  match Punycode.decode? text with
  | some label => ! label.all isAscii && isWellFormed label
  | none => false

/-- A label in ASCII. -/
def writeLabel? (label : List Char) : Option (List Char) :=
  if label.take 4 = mark then
    if label.all isAscii ∧ isEncoded (label.drop 4) then some label else none
  else if label.all isAscii then some label
  else if isWellFormed label then some (mark ++ Punycode.encode label)
  else none

def read? (text : List Char) : Option (List Char) := do
  let decoded ← Text.ofUtf8? (percentDecode text)
  let labels ← (Text.fields '.' (foldAll decoded.toList)).mapM writeLabel?
  pure (['.'].intercalate labels)

end Checkout.Url.Domain

import Checkout.Text.Hex
import Checkout.Text.Quoted
import Checkout.Text.Utf8

/-!
# Order identifiers

An order id is a UUID: thirty-two hexadecimal digits, written in lower case with hyphens after
the eighth, twelfth, sixteenth and twentieth.  The reader of UUIDs takes digits in either case and
three more layouts, but for an order id it is given texts of thirty-six bytes only.
-/

set_option autoImplicit false

namespace Checkout

/-- The thirty-two hexadecimal digits of a UUID. -/
structure OrderId where
  digits : List (Fin 16)
  length_digits : digits.length = 32
deriving DecidableEq

structure InvalidOrderId where
  text : String
deriving DecidableEq

def InvalidOrderId.message (error : InvalidOrderId) : String :=
  "invalid order id " ++ Text.quoted error.text

namespace OrderId

def groups : List Nat := [8, 4, 4, 4, 12]

def writeGroups : List Nat → List (Fin 16) → List Char
  | [], _ => []
  | [size], digits => (digits.take size).map Text.hexDigit
  | size :: sizes, digits =>
    (digits.take size).map Text.hexDigit ++ '-' :: writeGroups sizes (digits.drop size)

/-- Reads groups of digits of the given sizes, with a hyphen between two groups and nothing after
the last. -/
def readGroups : List Nat → List Char → Option (List (Fin 16))
  | [], text => if text.isEmpty then some [] else none
  | [size], text => if text.length = size then Text.hexValues? text else none
  | size :: sizes, text =>
    match text.drop size with
    | '-' :: rest => do
      let group ← Text.hexValues? (text.take size)
      let others ← readGroups sizes rest
      pure (group ++ others)
    | _ => none

def text (id : OrderId) : String :=
  String.ofList (writeGroups groups id.digits)

def betweenBraces? : List Char → Option (List Char)
  | '\x7b' :: rest => if rest.getLast? = some '\x7d' then some rest.dropLast else none
  | _ => none

def urnPrefix : List Char := "urn:uuid:".toList

/-- Reads a UUID.  Its length tells the layout: digits alone, digits in groups, and such groups
between braces or behind the prefix of a URN. -/
def readUuid? (text : List Char) : Option (List (Fin 16)) :=
  if text.length = 32 then Text.hexValues? text
  else if text.length = 36 then readGroups groups text
  else if text.length = 38 then (betweenBraces? text).bind (readGroups groups)
  else if text.length = 45 then (urnPrefix.isPrefixOf? text).bind (readGroups groups)
  else none

def byteLength : Nat := 36

def ofText (text : String) : Except InvalidOrderId OrderId :=
  if (Text.utf8 text).length = byteLength then
    match readUuid? ((Text.utf8 text).map Char.ofUInt8) with
    | none => .error ⟨text⟩
    | some digits =>
      if fits : digits.length = 32 then .ok ⟨digits, fits⟩ else .error ⟨text⟩
  else .error ⟨text⟩

/-- Digit `index` of an id made from random digits: the version and the variant are fixed, every
other digit is free. -/
def randomDigit (random : Nat → Fin 16) (index : Nat) : Fin 16 :=
  if index = 12 then Text.lastHexDigit 4
  else if index = 16 then Text.lastHexDigit (8 + (random index).val % 4)
  else random index

/-- A random id: version four, the usual variant, and the source's digits elsewhere. -/
def ofRandom (random : Nat → Fin 16) : OrderId :=
  ⟨(List.range 32).map (randomDigit random), by simp⟩

end OrderId

end Checkout

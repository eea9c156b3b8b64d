import Checkout.Text.Decimal

/-!
# JSON values

The values that JSON text denotes.  Numerals keep the form in which they were written, because a
reader of integers accepts integer literals only.  A string literal may name half of a surrogate
pair; it then has no text, and such a literal is refused only where its text is wanted.  The
members of an object keep their order and may repeat a name.
-/

set_option autoImplicit false

namespace Checkout

/-- A number as it is written: an integer literal, or a literal with a fraction or an exponent,
whose value is the significand times that power of ten. -/
inductive Json.Numeral where
  | integer (negative : Bool) (magnitude : Nat)
  | decimal (negative : Bool) (significand : Nat) (exponent : Int)
deriving DecidableEq

inductive Json where
  | null
  | bool (value : Bool)
  | number (numeral : Json.Numeral)
  | string (text : Option String)
  | array (elements : List Json)
  | object (members : List (Option String × Json))

namespace Json

def ofString (text : String) : Json :=
  .string (some text)

def ofInt (i : Int) : Json :=
  .number (.integer (i < 0) i.natAbs)

def ofNat (n : Nat) : Json :=
  .number (.integer false n)

/-- An object with distinct member names. -/
def record (members : List (String × Json)) : Json :=
  .object (members.map fun (name, value) => (some name, value))

def member? (name : String) : Json → Option Json
  | .object members => (members.find? fun (key, _) => key == some name).map Prod.snd
  | _ => none

end Json

end Checkout

import Checkout.Json.Parser

/-!
# Typed values from JSON

A decoder turns a JSON value into a typed one.  It fails in two ways: the text is malformed, or it
is JSON of another shape.  Records are read from objects, whose unknown members are ignored, or
from arrays of the fields in order.
-/

set_option autoImplicit false

namespace Checkout.Json

inductive Fault where
  | malformed
  | mismatched
deriving DecidableEq

abbrev Decoder (α : Type) := Json → Except Fault α

/-- The first number that is too large for a double: half a step above the largest one. -/
def doubleBound : Nat := Nat.pow 2 1024 - Nat.pow 2 970

/-- Whether a number is within the range of doubles.  Numbers with very many or very few places
are decided by the count of their places. -/
def Numeral.inDoubleRange : Numeral → Bool
  | .integer _ magnitude => magnitude < doubleBound
  | .decimal _ significand exponent =>
    if significand == 0 then true
    else
      let places : Int := (Nat.toDigits 10 significand).length + exponent
      if places ≤ 300 then true
      else if 310 < places then false
      else if 0 ≤ exponent then significand * Nat.pow 10 exponent.toNat < doubleBound
      else significand < doubleBound * Nat.pow 10 (-exponent).toNat

/-- The fault of a value that is not of the wanted type.  A scalar that has no value of its own is
a fault of the text. -/
def unexpected : Json → Fault
  | .number numeral => if numeral.inDoubleRange then .mismatched else .malformed
  | .string none => .malformed
  | _ => .mismatched

/-- The value of an integer literal.  Minus zero is not an integer. -/
def Numeral.toInt? : Numeral → Option Int
  | .integer true magnitude => if magnitude = 0 then none else some (-magnitude)
  | .integer false magnitude => some magnitude
  | .decimal .. => none

def decodeInt (least greatest : Int) : Decoder Int
  | .number numeral =>
    match numeral.toInt? with
    | some i =>
      if least ≤ i ∧ i ≤ greatest then .ok i else .error (unexpected (.number numeral))
    | none => .error (unexpected (.number numeral))
  | json => .error (unexpected json)

def decodeInt64 : Decoder Int :=
  decodeInt (-9223372036854775808) 9223372036854775807

def decodeInt32 : Decoder Int32 := fun json =>
  (decodeInt (-2147483648) 2147483647 json).map Int32.ofInt

def decodeUInt32 : Decoder UInt32 := fun json =>
  (decodeInt 0 4294967295 json).map fun i => UInt32.ofNat i.toNat

def decodeString : Decoder String
  | .string (some text) => .ok text
  | json => .error (unexpected json)

def decodeList {α : Type} (decoder : Decoder α) : Decoder (List α)
  | .array elements => elements.mapM decoder
  | json => .error (unexpected json)

/-- The members whose names are among `names`.  None of these may be repeated. -/
def knownMembers (names : List String) :
    List (Option String × Json) → Except Fault (List (String × Json))
  | [] => .ok []
  | (none, _) :: _ => .error .malformed
  | (some name, value) :: rest => do
    let others ← knownMembers names rest
    if name ∈ names then
      if others.any fun (other, _) => other == name then .error .mismatched
      else .ok ((name, value) :: others)
    else .ok others

/-- The values given for the fields `names`, in the order of the fields. -/
def slots (names : List String) : Decoder (List (Option Json))
  | .array elements =>
    if elements.length ≤ names.length then
      .ok (elements.map some ++ List.replicate (names.length - elements.length) none)
    else .error .mismatched
  | .object members => do
    let known ← knownMembers names members
    pure (names.map fun name => (known.find? fun (other, _) => other == name).map Prod.snd)
  | json => .error (unexpected json)

def required {α : Type} (decoder : Decoder α) : Option Json → Except Fault α
  | some json => decoder json
  | none => .error .mismatched

def optional {α : Type} (default : α) (decoder : Decoder α) : Option Json → Except Fault α
  | some json => decoder json
  | none => .ok default

mutual

/-- Whether a value can be taken over as it is: every string has a text, every number is in range,
and containers are nested at most `depth` deep. -/
def isPlain : Nat → Json → Bool
  | _, .null => true
  | _, .bool _ => true
  | _, .number numeral => numeral.inDoubleRange
  | _, .string text => text.isSome
  | 0, .array _ => false
  | depth + 1, .array elements => arePlain depth elements
  | 0, .object _ => false
  | depth + 1, .object members => arePlainMembers depth members

def arePlain : Nat → List Json → Bool
  | _, [] => true
  | depth, first :: rest => isPlain depth first && arePlain depth rest

def arePlainMembers : Nat → List (Option String × Json) → Bool
  | _, [] => true
  | depth, (name, value) :: rest =>
    name.isSome && isPlain depth value && arePlainMembers depth rest

end

def decodePlain (depth : Nat) : Decoder Json := fun json =>
  if isPlain depth json then .ok json else .error .malformed

def decodeParsed {α : Type} (decoder : Decoder α) : Option Json → Except Fault α
  | none => .error .malformed
  | some json => decoder json

def decodeText {α : Type} (decoder : Decoder α) (text : String) : Except Fault α :=
  decodeParsed decoder (parse? text.toList)

def decodeBytes {α : Type} (decoder : Decoder α) (bytes : List UInt8) : Except Fault α :=
  decodeParsed decoder (parseBytes? bytes)

end Checkout.Json

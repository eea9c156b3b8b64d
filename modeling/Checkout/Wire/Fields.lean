import Checkout.Text.Decimal
import Checkout.Text.Utf8
import Checkout.Wire.Varint

/-!
# Fields of messages

A message is a row of fields, each a key and a value.  They are written in the order of their numbers;
a number that is zero and a text that is empty are not written, nested messages always are.

Every reader consumes a front part of the bytes and returns the rest.  A length is checked against all remaining bytes, not against the
enclosing message; that the fields of a nested message end where its length says is checked when
they have been read.  Fields with an unknown number are skipped.

A failure carries its cause and the fields whose values were being read, innermost first.
-/

set_option autoImplicit false

namespace Checkout.Wire

inductive WireType where
  | varint
  | sixtyFourBit
  | lengthDelimited
  | startGroup
  | endGroup
  | thirtyTwoBit
deriving DecidableEq

namespace WireType

def code : WireType → Nat
  | .varint => 0
  | .sixtyFourBit => 1
  | .lengthDelimited => 2
  | .startGroup => 3
  | .endGroup => 4
  | .thirtyTwoBit => 5

def ofCode? : Nat → Option WireType
  | 0 => some .varint
  | 1 => some .sixtyFourBit
  | 2 => some .lengthDelimited
  | 3 => some .startGroup
  | 4 => some .endGroup
  | 5 => some .thirtyTwoBit
  | _ => none

def name : WireType → String
  | .varint => "Varint"
  | .sixtyFourBit => "SixtyFourBit"
  | .lengthDelimited => "LengthDelimited"
  | .startGroup => "StartGroup"
  | .endGroup => "EndGroup"
  | .thirtyTwoBit => "ThirtyTwoBit"

end WireType

inductive Cause where
  | invalidVarint
  | invalidKey (value : Nat)
  | invalidWireType (value : Nat)
  | invalidTag
  | unexpectedWireType (actual expected : WireType)
  | bufferUnderflow
  | delimitedLengthExceeded
  | invalidText
  | unexpectedEndGroup
  | recursionLimit
deriving DecidableEq

def Cause.message : Cause → String
  | .invalidVarint => "invalid varint"
  | .invalidKey value => "invalid key value: " ++ Text.natural value
  | .invalidWireType value => "invalid wire type value: " ++ Text.natural value
  | .invalidTag => "invalid tag value: 0"
  | .unexpectedWireType actual expected =>
    "invalid wire type: " ++ actual.name ++ " (expected " ++ expected.name ++ ")"
  | .bufferUnderflow => "buffer underflow"
  | .delimitedLengthExceeded => "delimited length exceeded"
  | .invalidText => "invalid string value: data is not UTF-8 encoded"
  | .unexpectedEndGroup => "unexpected end group tag"
  | .recursionLimit => "recursion limit reached"

/-- A cause and the fields, innermost first, whose values were being read. -/
structure Failure where
  path : List (String × String)
  cause : Cause
deriving DecidableEq

namespace Failure

def message (failure : Failure) : String :=
  "failed to decode Protobuf message: "
    ++ String.join (failure.path.map fun (message, field) => message ++ "." ++ field ++ ": ")
    ++ failure.cause.message

def bare (cause : Cause) : Failure := ⟨[], cause⟩

def within (message field : String) (failure : Failure) : Failure :=
  { failure with path := failure.path ++ [(message, field)] }

end Failure

/-- How deep messages and groups may be nested. -/
def depthLimit : Nat := 100

def readVarint (bytes : List UInt8) : Except Cause (Nat × List UInt8) :=
  match readVarint? bytes with
  | some result => .ok result
  | none => .error .invalidVarint

/-- Reads a key: the number of the field and the layout of its value. -/
def readKey (bytes : List UInt8) : Except Cause (Nat × WireType × List UInt8) := do
  let (key, rest) ← readVarint bytes
  if 4294967295 < key then .error (.invalidKey key)
  else
    match WireType.ofCode? (key % 8) with
    | none => .error (.invalidWireType (key % 8))
    | some wireType =>
      if key / 8 = 0 then .error .invalidTag else .ok (key / 8, wireType, rest)

def expect (expected actual : WireType) : Except Cause Unit :=
  if actual = expected then .ok () else .error (.unexpectedWireType actual expected)

def skipBytes (count : Nat) (bytes : List UInt8) : Except Cause (List UInt8) :=
  if bytes.length < count then .error .bufferUnderflow else .ok (bytes.drop count)

mutual

/-- Skips the value of a field.  `depth` is the nesting that is left, `bound` exceeds the number
of calls that the bytes can ask for. -/
def skipValue : Nat → Nat → WireType → Nat → List UInt8 → Except Cause (List UInt8)
  | 0, _, _, _, _ => .error .bufferUnderflow
  | _ + 1, 0, _, _, _ => .error .recursionLimit
  | bound + 1, depth + 1, wireType, tag, bytes =>
    match wireType with
    | .varint => (readVarint bytes).map Prod.snd
    | .thirtyTwoBit => skipBytes 4 bytes
    | .sixtyFourBit => skipBytes 8 bytes
    | .lengthDelimited =>
      match readVarint bytes with
      | .error cause => .error cause
      | .ok (length, rest) => skipBytes length rest
    | .startGroup => skipGroup bound depth tag bytes
    | .endGroup => .error .unexpectedEndGroup

def skipGroup : Nat → Nat → Nat → List UInt8 → Except Cause (List UInt8)
  | 0, _, _, _ => .error .bufferUnderflow
  | bound + 1, depth, tag, bytes =>
    match readKey bytes with
    | .error cause => .error cause
    | .ok (innerTag, .endGroup, rest) =>
      if innerTag = tag then .ok rest else .error .unexpectedEndGroup
    | .ok (innerTag, innerType, rest) =>
      match skipValue bound depth innerType innerTag rest with
      | .error cause => .error cause
      | .ok rest => skipGroup bound depth tag rest

end

def skipField (depth : Nat) (wireType : WireType) (tag : Nat) (bytes : List UInt8) :
    Except Cause (List UInt8) :=
  skipValue (2 * bytes.length + 2) depth wireType tag bytes

def readSigned (width : Nat) (wireType : WireType) (bytes : List UInt8) :
    Except Cause (Int × List UInt8) := do
  expect .varint wireType
  let (value, rest) ← readVarint bytes
  pure (ofSignedBits width value, rest)

def readDelimited (wireType : WireType) (bytes : List UInt8) :
    Except Cause (List UInt8 × List UInt8) := do
  expect .lengthDelimited wireType
  let (length, rest) ← readVarint bytes
  if rest.length < length then .error .bufferUnderflow
  else pure (rest.take length, rest.drop length)

def readText (wireType : WireType) (bytes : List UInt8) :
    Except Cause (String × List UInt8) := do
  let (content, rest) ← readDelimited wireType bytes
  match Text.ofUtf8? content with
  | none => .error .invalidText
  | some text => pure (text, rest)

/-- How a message takes in one field: nesting that is left, number, layout, message, bytes. -/
abbrev Merge (μ : Type) :=
  Nat → Nat → WireType → μ → List UInt8 → Except Failure (μ × List UInt8)

/-- Takes in fields until no more than `limit` bytes remain. -/
def mergeFields {μ : Type} (merge : Merge μ) (depth limit : Nat) :
    Nat → μ → List UInt8 → Except Failure (μ × List UInt8)
  | 0, message, bytes => .ok (message, bytes)
  | bound + 1, message, bytes =>
    if bytes.length ≤ limit then .ok (message, bytes)
    else
      match readKey bytes with
      | .error cause => .error (.bare cause)
      | .ok (tag, wireType, rest) =>
        match merge depth tag wireType message rest with
        | .error failure => .error failure
        | .ok (message, rest) => mergeFields merge depth limit bound message rest

def mergeNested {μ : Type} (merge : Merge μ) (depth : Nat) (wireType : WireType) (message : μ)
    (bytes : List UInt8) : Except Failure (μ × List UInt8) := do
  (expect .lengthDelimited wireType).mapError .bare
  match depth with
  | 0 => .error (.bare .recursionLimit)
  | depth + 1 =>
    let (length, rest) ← (readVarint bytes).mapError .bare
    if rest.length < length then .error (.bare .bufferUnderflow)
    else
      let limit := rest.length - length
      let (message, after) ← mergeFields merge depth limit rest.length message rest
      if after.length = limit then pure (message, after)
      else .error (.bare .delimitedLengthExceeded)

/-- The message that all of the bytes make up, starting from `message`. -/
def mergeAll {μ : Type} (merge : Merge μ) (message : μ) (bytes : List UInt8) :
    Except Failure μ :=
  (mergeFields merge depthLimit 0 bytes.length message bytes).map Prod.fst

/-! ## Writing -/

def key (tag : Nat) (wireType : WireType) : List UInt8 :=
  varint (8 * tag + wireType.code)

def delimitedField (tag : Nat) (content : List UInt8) : List UInt8 :=
  key tag .lengthDelimited ++ varint content.length ++ content

def textField (tag : Nat) (text : String) : List UInt8 :=
  if text = "" then [] else delimitedField tag (Text.utf8 text)

def signedField (tag : Nat) (i : Int) : List UInt8 :=
  if i = 0 then [] else key tag .varint ++ varint (signedBits i)

end Checkout.Wire

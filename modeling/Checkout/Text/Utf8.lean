/-!
# Texts as bytes

The UTF-8 bytes of a text as a list, and the text back from its bytes.  Bytes that need not be those
of a text are read as far as they go: a byte that begins no character stands for itself.
-/

set_option autoImplicit false

namespace Checkout.Text

def utf8 (text : String) : List UInt8 :=
  text.toUTF8.data.toList

def ofUtf8? (bytes : List UInt8) : Option String :=
  String.fromUTF8? ⟨bytes.toArray⟩

/-- A character, or a byte that belongs to none. -/
inductive Symbol where
  | char (c : Char)
  | stray (byte : UInt8)
deriving DecidableEq

def Symbol.bytes : Symbol → List UInt8
  | .char c => String.utf8EncodeChar c
  | .stray byte => [byte]

/-- The character that some bytes begin with; none has more than four bytes. -/
def firstChar? (bytes : List UInt8) : Option Char :=
  (bytes.take 4).toByteArray.utf8DecodeChar? 0

/-- The symbols after so many bytes, which belong to the character before. -/
def symbolsAfter : Nat → List UInt8 → List Symbol
  | _, [] => []
  | taken + 1, _ :: rest => symbolsAfter taken rest
  | 0, byte :: rest =>
    match firstChar? (byte :: rest) with
    | some c => .char c :: symbolsAfter (c.utf8Size - 1) rest
    | none => .stray byte :: symbolsAfter 0 rest

def symbols (bytes : List UInt8) : List Symbol :=
  symbolsAfter 0 bytes

end Checkout.Text

import Checkout.Json.Basic
import Checkout.Text.Hex

/-!
# JSON text

Compact JSON: no blanks, members in order, and only those characters escaped that JSON does not
allow in a string.
-/

set_option autoImplicit false

namespace Checkout.Json

def escapedChar (c : Char) : List Char :=
  if c == '"' then ['\\', '"']
  else if c == '\\' then ['\\', '\\']
  else if c.toNat == 8 then ['\\', 'b']
  else if c.toNat == 9 then ['\\', 't']
  else if c.toNat == 10 then ['\\', 'n']
  else if c.toNat == 12 then ['\\', 'f']
  else if c.toNat == 13 then ['\\', 'r']
  else if c.toNat < 32 then ['\\', 'u'] ++ Text.hexDigits 4 c.toNat
  else [c]

def writeText (text : String) : List Char :=
  '"' :: text.toList.flatMap escapedChar ++ ['"']

/-- A string literal; one without a text names half of a surrogate pair. -/
def writeString : Option String → List Char
  | some text => writeText text
  | none => "\"\\ud800\"".toList

def writeNumeral : Numeral → List Char
  | .integer negative magnitude =>
    (if negative then ['-'] else []) ++ Nat.toDigits 10 magnitude
  | .decimal negative significand exponent =>
    (if negative then ['-'] else []) ++ Nat.toDigits 10 significand ++ ['e']
      ++ (Text.integer exponent).toList

mutual

def write : Json → List Char
  | .null => "null".toList
  | .bool true => "true".toList
  | .bool false => "false".toList
  | .number numeral => writeNumeral numeral
  | .string text => writeString text
  | .array [] => ['[', ']']
  | .array (first :: rest) => '[' :: write first ++ writeElements rest
  | .object [] => ['\x7b', '\x7d']
  | .object ((name, value) :: rest) =>
    '\x7b' :: writeString name ++ ':' :: write value ++ writeMembers rest

def writeElements : List Json → List Char
  | [] => [']']
  | first :: rest => ',' :: write first ++ writeElements rest

def writeMembers : List (Option String × Json) → List Char
  | [] => ['\x7d']
  | (name, value) :: rest =>
    ',' :: writeString name ++ ':' :: write value ++ writeMembers rest

end

def text (json : Json) : String :=
  String.ofList json.write

end Checkout.Json

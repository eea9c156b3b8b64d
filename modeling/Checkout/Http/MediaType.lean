import Checkout.Http.Message

/-!
# Media types

What a `content-type` header names: a type and a subtype, of which a last part after a plus sign is
the suffix, and parameters.  A malformed parameter makes the whole header malformed.
-/

set_option autoImplicit false

namespace Checkout.Http

/-- A type, a subtype without its suffix, and the suffix, in lower case. -/
structure MediaType where
  type : String
  subtype : String
  suffix : Option String
deriving DecidableEq

namespace MediaType

def isTokenChar (c : Char) : Bool :=
  c.isAlphanum || "!#$%&*+-.^_|~".toList.contains c || c == '\'' || c.toNat == 96

/-- The characters between the quotes of a parameter's value; a quote may only be the first. -/
def isQuotedChar (c : Char) : Bool :=
  31 < c.toNat && c.toNat != 127

/-- What a quoted value leaves: nothing, or the parameters after a semicolon. -/
def afterQuoted? (text : List Char) : Option (List Char) :=
  match text.dropWhile (· == ' ') with
  | [] => some []
  | ';' :: rest => some rest
  | _ => none

def readValue? (text : List Char) : Option (List Char) :=
  match text with
  | '"' :: first :: rest =>
    match isQuotedChar first, rest.dropWhile fun c => isQuotedChar c && c != '"' with
    | true, '"' :: rest => afterQuoted? rest
    | _, _ => none
  | text =>
    let value := text.takeWhile isTokenChar
    match value, text.dropWhile isTokenChar with
    | _, [] => some []
    | _ :: _, ';' :: rest => some rest
    | _, _ => none

/-- Reads the name and the value of a parameter and returns the parameters after it. -/
def readParameter? (text : List Char) : Option (List Char) :=
  match text.takeWhile isTokenChar, text.dropWhile isTokenChar with
  | _ :: _, '=' :: rest => readValue? rest
  | _, _ => none

/-- Whether a text is a row of parameters.  The bound exceeds the number of parameters. -/
def areParameters : Nat → List Char → Bool
  | 0, _ => false
  | bound + 1, text =>
    match text.dropWhile (· == ' ') with
    | [] => true
    | text =>
      match readParameter? text with
      | none => false
      | some rest => areParameters bound rest

/-- The media type of a type and a subtype.  The last plus sign starts the suffix. -/
def ofNames (type subtype : List Char) : MediaType :=
  let suffix := (subtype.reverse.takeWhile (· != '+')).reverse
  let lower := fun text => lowercase (String.ofList text)
  let stem := subtype.take (subtype.length - suffix.length - 1)
  if stem.isEmpty then ⟨lower type, lower subtype, none⟩
  else ⟨lower type, lower stem, some (lower suffix)⟩

def parse? (value : String) : Option MediaType :=
  let text := value.toList
  match text.takeWhile isTokenChar, text.dropWhile isTokenChar with
  | type@(_ :: _), '/' :: rest =>
    match rest.takeWhile isTokenChar, rest.dropWhile isTokenChar with
    | [], [] => some (ofNames type [])
    | subtype, [] => some (ofNames type subtype)
    | subtype@(_ :: _), ';' :: parameters =>
      if areParameters (parameters.length + 1) parameters then some (ofNames type subtype) else none
    | _, _ => none
  | _, _ => none

def isJson (media : MediaType) : Bool :=
  media.type == "application" && (media.subtype == "json" || media.suffix == some "json")

end MediaType

end Checkout.Http

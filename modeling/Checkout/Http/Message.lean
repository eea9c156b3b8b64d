import Checkout.Json.Printer

/-!
# Messages over HTTP

Requests and responses as a service sees them.  Header names do not depend on case; of several
headers with one name the first counts, and only if its value is readable.
-/

set_option autoImplicit false

namespace Checkout.Http

/-- A request: its target is a path, perhaps with a query, or a whole URL. -/
structure Request where
  method : String
  target : String
  headers : List (String × String)
  body : List UInt8
deriving DecidableEq

inductive Content where
  | none
  | json (value : Json)
  | lines (lines : List String)

structure Response where
  status : Nat
  headers : List (String × String)
  content : Content

def lowercase (text : String) : String :=
  String.ofList (text.toList.map Char.toLower)

/-- Whether a header value is readable: visible ASCII, blanks and tabs. -/
def isReadable (value : String) : Bool :=
  value.toList.all fun c => c == '\t' || (32 ≤ c.toNat && c.toNat < 127)

namespace Request

/-- The readable value of a header, given its name in lower case. -/
def header? (request : Request) (name : String) : Option String :=
  match request.headers.find? fun (key, _) => lowercase key == name with
  | some (_, value) => if isReadable value then some value else none
  | none => none

/-- What follows the host in a URL, if a text is one. -/
def afterHost? : List Char → Option (List Char)
  | [] => none
  | ':' :: '/' :: '/' :: rest => some (rest.dropWhile fun c => c != '/' && c != '?' && c != '#')
  | _ :: rest => afterHost? rest

/-- The target without the scheme and the host of a URL. -/
def localTarget (request : Request) : List Char :=
  let target := request.target.toList
  if target.head? = some '/' then target else (afterHost? target).getD target

def path (request : Request) : String :=
  match request.localTarget.takeWhile fun c => c != '?' && c != '#' with
  | [] => "/"
  | path => String.ofList path

end Request

def isSuccess (status : Nat) : Bool :=
  200 ≤ status && status < 300

end Checkout.Http

import Checkout.Url.Host
import Checkout.Url.Path

/-!
# URLs

A URL with a path: scheme, user, host, port, path, query and fragment, each in its written form.
Blanks around a URL and line breaks and tabs in it do not count.  Special schemes always have a host,
write slashes in either direction, and have a default port, which is not written.  URLs whose scheme
is followed by something other than a path are not read.
-/

set_option autoImplicit false

namespace Checkout

structure Url where
  scheme : String
  user : String
  password : String
  host : Option Url.Host
  port : Option Nat
  path : Url.Path
  query : Option String
  fragment : Option String
deriving DecidableEq

namespace Url

/-- Whether a scheme always has a host and a path. -/
def isSpecialScheme (scheme : String) : Bool :=
  scheme == "http" || scheme == "https" || scheme == "ws" || scheme == "wss" || scheme == "ftp"
    || scheme == "file"

def defaultPort? (scheme : String) : Option Nat :=
  if scheme = "http" ∨ scheme = "ws" then some 80
  else if scheme = "https" ∨ scheme = "wss" then some 443
  else if scheme = "ftp" then some 21
  else none

/-! ## Writing -/

def userInfo (url : Url) : String :=
  let password := if url.password = "" then "" else ":" ++ url.password
  if url.user = "" ∧ url.password = "" then "" else url.user ++ password ++ "@"

/-- What stands between scheme and path.  Without a host, a path with an empty first segment is kept
apart from the scheme. -/
def authority (url : Url) : String :=
  match url.host with
  | some host =>
    "//" ++ url.userInfo ++ host.text
      ++ (match url.port with
        | some port => ":" ++ Text.natural port
        | none => "")
  | none =>
    match url.path with
    | "" :: _ :: _ => "/."
    | _ => ""

def queryText (url : Url) : String :=
  match url.query with
  | some query => "?" ++ query
  | none => ""

def fragmentText (url : Url) : String :=
  match url.fragment with
  | some fragment => "#" ++ fragment
  | none => ""

def text (url : Url) : String :=
  url.scheme ++ ":" ++ url.authority ++ url.path.text ++ url.queryText ++ url.fragmentText

/-! ## Reading -/

/-- The text without blanks and control characters at its ends, and without line breaks and tabs. -/
def clean (text : List Char) : List Char :=
  ((text.dropWhile fun c => c.toNat ≤ 32).reverse.dropWhile fun c => c.toNat ≤ 32).reverse.filter
    fun c => ! (c == '\t' || c == '\n' || c == '\r')

/-- The scheme in lower case and the text after its colon. -/
def splitScheme? (text : List Char) : Option (String × List Char) :=
  let isSchemeChar := fun (c : Char) => c.isAlphanum || c == '+' || c == '-' || c == '.'
  match text.takeWhile isSchemeChar, text.dropWhile isSchemeChar with
  | first :: others, ':' :: rest =>
    if first.isAlpha then some (String.ofList ((first :: others).map Char.toLower), rest) else none
  | _, _ => none

def splitMark (mark : Char) (text : List Char) : List Char × Option (List Char) :=
  match Text.splitOnce? mark text with
  | some (before, after) => (before, some after)
  | none => (text, none)

/-- Whether a character is a slash; a backslash is one where the scheme is special. -/
def isSlash (special : Bool) (c : Char) : Bool :=
  c == '/' || (special && c == '\\')

/-- The text before and the text after the last mark. -/
def splitLast? (mark : Char) (text : List Char) : Option (List Char × List Char) :=
  (Text.splitOnce? mark text.reverse).map fun (after, before) => (before.reverse, after.reverse)

/-- User and password in front of a host, and the rest. -/
def splitUserInfo (text : List Char) : (String × String) × List Char :=
  match splitLast? '@' text with
  | none => (("", ""), text)
  | some (info, rest) =>
    let (user, password) := splitMark ':' info
    ((String.ofList (percentEncode inUserInfo user),
      String.ofList (percentEncode inUserInfo (password.getD []))), rest)

def splitPort (brackets : Bool) : List Char → List Char × Option (List Char)
  | [] => ([], none)
  | c :: rest =>
    if c = ':' ∧ ¬ brackets then ([], some rest)
    else
      let inside := if c = '[' then true else if c = ']' then false else brackets
      let (host, port) := splitPort inside rest
      (c :: host, port)

def readPort? (scheme : String) (text : List Char) : Option (Option Nat) :=
  if text.isEmpty then some none
  else
    match Text.readDigits 65536 0 text with
    | .ok port => some (if defaultPort? scheme = some port then none else some port)
    | .error _ => none

/-- The host that a text names; the name of the own machine is left out of a file. -/
def readHost? (scheme : String) (text : List Char) : Option Host :=
  if scheme = "file" then
    if text.isEmpty then some (.domain "")
    else (Host.ofText? text).map fun host => if host = .domain "localhost" then .domain "" else host
  else if isSpecialScheme scheme then Host.ofText? text
  else Host.ofPlain? text

structure Authority where
  user : String
  password : String
  host : Host
  port : Option Nat

/-- The authority that a text names.  A host is needed before a port, after a user, and where the
scheme is special; a file has neither user nor port. -/
def readAuthority? (scheme : String) (text : List Char) : Option Authority :=
  if scheme = "file" then do
    let host ← readHost? scheme text
    pure ⟨"", "", host, none⟩
  else do
    let ((user, password), rest) := splitUserInfo text
    let (hostText, portText) := splitPort false rest
    let host ← readHost? scheme hostText
    let port ← readPort? scheme (portText.getD [])
    if host.isEmpty ∧ (user ≠ "" ∨ password ≠ "" ∨ portText.isSome) then none
    else pure ⟨user, password, host, port⟩

def cutAtSlash (special : Bool) (text : List Char) : Option (List Char) × List Char :=
  let isHostChar := fun c => ! isSlash special c
  (some (text.takeWhile isHostChar), text.dropWhile isHostChar)

/-- The text between scheme and path, and the path from its slash on; none if there is no authority.
Where a host is needed, slashes in front of it do not count; elsewhere it follows two slashes.  The
drive of a file is no host. -/
def splitAuthority (scheme : String) (text : List Char) : Option (List Char) × List Char :=
  let special := isSpecialScheme scheme
  if special && scheme != "file" then cutAtSlash special (text.dropWhile (isSlash special))
  else
    match text with
    | first :: second :: rest =>
      if isSlash special first && isSlash special second then
        if special && Path.isDrive (rest.takeWhile fun c => ! isSlash special c) then (some [], rest)
        else cutAtSlash special rest
      else (none, text)
    | text => (none, text)

/-- The path that the text after the authority names.  Only where the scheme is special does a path
need no slash. -/
def readPath? (scheme : String) (hasHost : Bool) (text : List Char) : Option Path :=
  let special := isSpecialScheme scheme
  let file := scheme == "file"
  match text with
  | [] => if special then some [""] else if hasHost then some [] else none
  | c :: rest =>
    if isSlash special c then some (Path.ofText special file rest)
    else if special then some (Path.ofText special file (c :: rest))
    else none

def parse? (text : String) : Option Url := do
  let (scheme, rest) ← splitScheme? (clean text.toList)
  let special := isSpecialScheme scheme
  let (rest, fragment) := splitMark '#' rest
  let (rest, query) := splitMark '?' rest
  let (authorityText, pathText) := splitAuthority scheme rest
  let path ← readPath? scheme authorityText.isSome pathText
  let query := query.map fun query => String.ofList (percentEncode (inQuery special) query)
  let fragment := fragment.map fun text => String.ofList (percentEncode inFragment text)
  match authorityText with
  | none =>
    pure ⟨scheme, "", "", if scheme = "file" then some (.domain "") else none, none, path, query,
      fragment⟩
  | some authorityText =>
    let authority ← readAuthority? scheme authorityText
    pure ⟨scheme, authority.user, authority.password, some authority.host, authority.port, path,
      query, fragment⟩

def extend (url : Url) (segments : List String) : Url :=
  { url with
    path := url.path.extend (isSpecialScheme url.scheme) (url.scheme == "file") segments }

def withoutUser (url : Url) : Url :=
  { url with user := "", password := "" }

end Url

end Checkout

import Checkout.Text.Fields
import Checkout.Url.Percent

/-!
# Paths

A path is a list of segments, each of which follows a slash in its text.  A segment of one dot stands
for the segments before it, a segment of two dots for all but the last of these; a path that ends in
such a segment ends in a slash.
-/

set_option autoImplicit false

namespace Checkout.Url

/-- The segments in order, percent-encoded. -/
abbrev Path : Type := List String

namespace Path

def text (path : Path) : String :=
  String.join (path.map fun segment => "/" ++ segment)

def isDot : List Char → Bool
  | ['.'] => true
  | ['%', '2', 'e'] => true
  | ['%', '2', 'E'] => true
  | _ => false

def isTwoDots : List Char → Bool
  | '.' :: rest => isDot rest
  | '%' :: '2' :: e :: rest => (e == 'e' || e == 'E') && isDot rest
  | _ => false

def isDrive : List Char → Bool
  | [letter, mark] => letter.isAlpha && (mark == ':' || mark == '|')
  | _ => false

/-- The path without its last segment.  A drive of a file stays. -/
def pop (file : Bool) (path : Path) : Path :=
  match path with
  | [only] => if file && isDrive only.toList then [only] else []
  | path => path.dropLast

/-- The text of a segment; the drive of a file is written with a colon. -/
def segmentText (file : Bool) (segment : List Char) : String :=
  if file && isDrive segment then String.ofList (segment.take 1 ++ [':']) else String.ofList segment

/-- The path after one more segment; `last` tells whether the segment ends the path. -/
def step (file last : Bool) (path : Path) (segment : List Char) : Path :=
  if isTwoDots segment then if last then pop file path ++ [""] else pop file path
  else if isDot segment then if last then path ++ [""] else path
  else path ++ [segmentText file segment]

/-- The path after more segments, the last of which ends it. -/
def resolve (file : Bool) : Path → List (List Char) → Path
  | path, [] => path
  | path, [segment] => step file true path segment
  | path, segment :: rest => resolve file (step file false path segment) rest

def split (special : Bool) (text : List Char) : List (List Char) :=
  Text.fields '/' (if special then text.map fun c => if c = '\\' then '/' else c else text)

def ofText (special file : Bool) (text : List Char) : Path :=
  let path := resolve file [] ((split special text).map (percentEncode inPath))
  if file then
    match path.dropWhile (· == "") with
    | [] => [""]
    | path => path
  else path

/-- The path without an empty segment at its end.  The path that is one slash stays. -/
def popEmpty (path : Path) : Path :=
  if path.length ≤ 1 then path else if path.getLast? = some "" then path.dropLast else path

/-- The segments that more segments are added to: none if the path is one slash. -/
def stem (path : Path) : Path :=
  if path = [""] then [] else path

/-- Adds a segment, with all in it escaped that could end it.  One or two dots are not added. -/
def add (special file : Bool) (path : Path) (segment : String) : Path :=
  if segment = "." ∨ segment = ".." then path
  else
    let text := segment.toList.filter fun c => ! (c == '\t' || c == '\n' || c == '\r')
    step file true (stem path) (percentEncode (inSegment special) text)

/-- Adds segments, after an empty one at the end is taken away. -/
def extend (special file : Bool) (path : Path) (segments : List String) : Path :=
  segments.foldl (add special file) (popEmpty path)

end Path

end Checkout.Url

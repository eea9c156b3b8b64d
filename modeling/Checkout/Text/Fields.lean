/-!
# Blanks and fields of a text

White space as the character standard defines it, and its removal from both ends of a text.  A text
cut at a separator: the pieces, with the separator between every two of them, make up the text again.
-/

set_option autoImplicit false

namespace Checkout.Text

def isBlank (c : Char) : Bool :=
  let code := c.toNat
  (0x09 ≤ code && code ≤ 0x0D) || code == 0x20 || code == 0x85 || code == 0xA0
    || code == 0x1680 || (0x2000 ≤ code && code ≤ 0x200A) || code == 0x2028 || code == 0x2029
    || code == 0x202F || code == 0x205F || code == 0x3000

def dropTrailing (drop : Char → Bool) (text : List Char) : List Char :=
  (text.reverse.dropWhile drop).reverse

def trimList (text : List Char) : List Char :=
  dropTrailing isBlank (text.dropWhile isBlank)

def isBlankText (text : String) : Bool :=
  text.toList.all isBlank

/-- The pieces between the separators; a text without one is a single piece. -/
def fields (separator : Char) : List Char → List (List Char)
  | [] => [[]]
  | c :: rest =>
    if c = separator then [] :: fields separator rest
    else
      match fields separator rest with
      | [] => [[c]]
      | piece :: pieces => (c :: piece) :: pieces

def splitOnce? (separator : Char) : List Char → Option (List Char × List Char)
  | [] => none
  | c :: rest =>
    if c = separator then some ([], rest)
    else (splitOnce? separator rest).map fun (before, after) => (c :: before, after)

def byteLength (text : List Char) : Nat :=
  text.foldr (fun c length => c.utf8Size + length) 0

end Checkout.Text

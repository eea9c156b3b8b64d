import Checkout.Text.Fields

/-!
# Punycode

A label with characters beyond ASCII, written in ASCII.  Its ASCII characters come first, then a
hyphen if there are any, then one number for each other character.  These characters are put into
the label one after the other, in increasing order of code point and, of one code point, from left
to right.  A number tells how many possible insertions are passed over before the next one is made.
-/

set_option autoImplicit false

namespace Checkout.Url.Punycode

/-! ## Numbers -/

/-- The digit of a value below 36: letters first, then the digits of decimal numbers. -/
def digit (value : Nat) : Char :=
  if value < 26 then Char.ofNat (97 + value) else Char.ofNat (22 + value)

def digitValue? (c : Char) : Option Nat :=
  if c.isLower then some (c.toNat - 97)
  else if c.isDigit then some (c.toNat - 22)
  else none

/-- The least value of a digit after which a number goes on, at a distance of `reach` from its start;
each digit adds 36 to that distance. -/
def threshold (bias reach : Nat) : Nat :=
  if reach ≤ bias then 1 else if bias + 26 ≤ reach then 26 else reach - bias

theorem threshold_pos (bias reach : Nat) : 1 ≤ threshold bias reach := by
  unfold threshold
  split
  · omega
  · split <;> omega

def writeNumber (bias reach value : Nat) : List Char :=
  let least := threshold bias reach
  if value < least then [digit value]
  else
    digit (least + (value - least) % (36 - least))
      :: writeNumber bias (reach + 36) ((value - least) / (36 - least))
termination_by value
decreasing_by
  have := threshold_pos bias reach
  exact Nat.lt_of_le_of_lt (Nat.div_le_self _ _) (by omega)

/-- Reads a number whose digits so far have the value `value` and whose next digit counts `weight`
times, and returns the text after it. -/
def readNumber? (bias reach weight value : Nat) : List Char → Option (Nat × List Char)
  | [] => none
  | c :: rest => do
    let found ← digitValue? c
    let least := threshold bias reach
    let value := value + weight * found
    if found < least then pure (value, rest)
    else readNumber? bias (reach + 36) (weight * (36 - least)) value rest

/-- The bias for numbers of about the size of `value`. -/
def biasFor (value reach : Nat) : Nat :=
  if 455 < value then biasFor (value / 35) (reach + 36) else reach + 36 * value / (value + 38)
termination_by value
decreasing_by exact Nat.div_lt_self (by omega) (by omega)

/-- The bias after a number, when the label has grown to `length` characters. -/
def adapt (first : Bool) (value length : Nat) : Nat :=
  let value := if first then value / 700 else value / 2
  biasFor (value + value / length) 0

/-! ## Labels -/

/-- A code point and the place where it is put into the label. -/
structure Insertion where
  code : Nat
  place : Nat
deriving DecidableEq

/-- The insertions of one code point, given the characters on the left that are in the label already:
those with a smaller code point and those of the same code point. -/
def insertionsOf (code : Nat) (place : Nat) : List Char → List Insertion
  | [] => []
  | c :: rest =>
    if c.toNat = code then ⟨code, place⟩ :: insertionsOf code (place + 1) rest
    else insertionsOf code (if c.toNat < code then place + 1 else place) rest

def codes (label : List Char) : List Nat :=
  ((label.map Char.toNat).filter (128 ≤ ·)).eraseDups.mergeSort

def insertions (label : List Char) : List Insertion :=
  (codes label).flatMap fun code => insertionsOf code 0 label

/-- The state between two insertions: the length of the label, the first possible insertion, and the
bias. -/
structure Progress where
  first : Bool
  length : Nat
  next : Insertion
  bias : Nat

/-- The state in which a label holds only its ASCII characters. -/
def Progress.start (length : Nat) : Progress :=
  ⟨true, length, ⟨128, 0⟩, 72⟩

def Progress.after (progress : Progress) (skipped : Nat) (insertion : Insertion) : Progress :=
  let length := progress.length + 1
  ⟨false, length, { insertion with place := insertion.place + 1 },
    adapt progress.first skipped length⟩

def Progress.skipped (progress : Progress) (insertion : Insertion) : Nat :=
  (insertion.code - progress.next.code) * (progress.length + 1) + insertion.place
    - progress.next.place

def Progress.insertion (progress : Progress) (skipped : Nat) : Insertion :=
  let total := progress.next.place + skipped
  ⟨progress.next.code + total / (progress.length + 1), total % (progress.length + 1)⟩

def writeInsertions (progress : Progress) : List Insertion → List Char
  | [] => []
  | insertion :: rest =>
    let skipped := progress.skipped insertion
    writeNumber progress.bias 36 skipped
      ++ writeInsertions (progress.after skipped insertion) rest

def encode (label : List Char) : List Char :=
  let ascii := label.filter fun c => c.toNat < 128
  (if ascii.isEmpty then [] else ascii ++ ['-'])
    ++ writeInsertions (Progress.start ascii.length) (insertions label)

/-- Makes the insertions that numbers tell.  The bound exceeds the number of digits. -/
def readInsertions? : Nat → Progress → List Char → List Char → Option (List Char)
  | 0, _, _, _ => none
  | _ + 1, _, label, [] => some label
  | bound + 1, progress, label, text => do
    let (skipped, rest) ← readNumber? progress.bias 36 1 0 text
    let insertion := progress.insertion skipped
    if insertion.code.isValidChar then
      readInsertions? bound (progress.after skipped insertion)
        (label.insertIdx insertion.place (Char.ofNat insertion.code)) rest
    else none

/-- The ASCII characters and the numbers of a label; the last hyphen is between them. -/
def split (text : List Char) : List Char × List Char :=
  let numbers := (text.reverse.takeWhile (· != '-')).reverse
  (text.take (text.length - numbers.length - 1), numbers)

def decode? (text : List Char) : Option (List Char) :=
  let (ascii, numbers) := split text
  if text.head? = some '-' ∧ ascii.isEmpty then none
  else readInsertions? (numbers.length + 1) (Progress.start ascii.length) ascii numbers

end Checkout.Url.Punycode

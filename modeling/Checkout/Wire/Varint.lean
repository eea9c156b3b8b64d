/-!
# Variable-length integers

A 64-bit number as groups of seven bits, the low group first.  Every byte but the last has its
high bit set.  Ten bytes hold ten groups, so the tenth byte may carry one bit only; longer forms
than needed are read, but never written.
-/

set_option autoImplicit false

namespace Checkout.Wire

/-- The groups of a number, at most `groups` of them. -/
def varintGroups : Nat → Nat → List UInt8
  | 0, _ => []
  | groups + 1, value =>
    if value < 128 then [UInt8.ofNat value]
    else UInt8.ofNat (128 + value % 128) :: varintGroups groups (value / 128)

def varint (value : Nat) : List UInt8 :=
  varintGroups 10 value

/-- Reads at most `groups` groups; the last of them may carry one bit only. -/
def readGroups? : Nat → List UInt8 → Option (Nat × List UInt8)
  | 0, _ => none
  | _ + 1, [] => none
  | groups + 1, byte :: rest =>
    if byte.toNat < 128 then
      if groups = 0 ∧ 1 < byte.toNat then none else some (byte.toNat, rest)
    else do
      let (high, rest) ← readGroups? groups rest
      pure (byte.toNat - 128 + 128 * high, rest)

def readVarint? (bytes : List UInt8) : Option (Nat × List UInt8) :=
  readGroups? 10 bytes

/-- The 64 bits of a signed number, as written for both 32-bit and 64-bit fields. -/
def signedBits (i : Int) : Nat :=
  (i % Nat.pow 2 64).toNat

/-- The signed number in the low `width` bits of a number. -/
def ofSignedBits (width value : Nat) : Int :=
  Int.bmod value (Nat.pow 2 width)

end Checkout.Wire

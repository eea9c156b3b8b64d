import Checkout.Wire.Varint

/-!
# Numbers read back

A number below `2 ^ 64` is read back from its groups whatever bytes follow them, also if they are more
than it needs.  So is a signed number of 32 or 64 bits, since its sign is extended over the groups.
-/

set_option autoImplicit false

namespace Checkout.Wire

/-! ## Groups -/

/-- The bytes are the groups of a number; all of them but the last are marked. -/
inductive Groups : List UInt8 → Nat → Prop where
  | last {byte : UInt8} (unmarked : byte.toNat < 128) : Groups [byte] byte.toNat
  | more {byte : UInt8} {bytes : List UInt8} {high : Nat} (marked : 128 ≤ byte.toNat)
      (rest : Groups bytes high) : Groups (byte :: bytes) (byte.toNat - 128 + 128 * high)

theorem Groups.length_pos {bytes : List UInt8} {value : Nat} (spelled : Groups bytes value) :
    0 < bytes.length := by
  cases spelled with
  | last unmarked => exact Nat.one_pos
  | more marked rest => exact Nat.succ_pos _

theorem readGroups?_of_groups {bytes : List UInt8} {value : Nat} (spelled : Groups bytes value)
    {groups : Nat} (short : bytes.length ≤ groups + 1) (fits : value < 2 * Nat.pow 128 groups)
    (rest : List UInt8) : readGroups? (groups + 1) (bytes ++ rest) = some (value, rest) := by
  induction spelled generalizing groups with
  | @last byte unmarked =>
      have bit : ¬ (groups = 0 ∧ 1 < byte.toNat) := by
        rintro ⟨rfl, large⟩
        have two : Nat.pow 128 0 = 1 := rfl
        omega
      rw [List.cons_append, readGroups?, if_pos unmarked, if_neg bit]
      rfl
  | @more byte bytes high marked others ih =>
      have some_bytes := others.length_pos
      rw [List.length_cons] at short
      cases groups with
      | zero => omega
      | succ groups =>
          have power : Nat.pow 128 (groups + 1) = Nat.pow 128 groups * 128 := rfl
          have read : readGroups? (groups + 1) (bytes ++ rest) = some (high, rest) :=
            ih (by omega) (by omega)
          rw [List.cons_append, readGroups?, if_neg (Nat.not_lt.mpr marked), read]
          rfl

theorem length_varintGroups_le (groups value : Nat) :
    (varintGroups groups value).length ≤ groups := by
  induction groups generalizing value with
  | zero => exact Nat.le_refl 0
  | succ groups ih =>
      rw [varintGroups]
      split
      · exact Nat.succ_le_succ (Nat.zero_le groups)
      · exact Nat.succ_le_succ (ih (value / 128))

theorem groups_varintGroups (groups value : Nat) (fits : value < Nat.pow 128 (groups + 1)) :
    Groups (varintGroups (groups + 1) value) value := by
  have single : ∀ value, value < 128 → Groups [UInt8.ofNat value] value := by
    intro value small
    have byte : (UInt8.ofNat value).toNat = value :=
      UInt8.toNat_ofNat_of_lt' (Nat.lt_trans small (by decide))
    have last := Groups.last (byte.symm ▸ small)
    rwa [byte] at last
  induction groups generalizing value with
  | zero =>
      have small : value < 128 := fits
      rw [varintGroups, if_pos small]
      exact single value small
  | succ groups ih =>
      rw [varintGroups]
      by_cases small : value < 128
      · rw [if_pos small]
        exact single value small
      · have byte : (UInt8.ofNat (128 + value % 128)).toNat = 128 + value % 128 :=
          UInt8.toNat_ofNat_of_lt' (by
            change 128 + value % 128 < 256
            omega)
        have high := ih (value / 128) (Nat.div_lt_of_lt_mul (by
          rw [Nat.mul_comm]
          exact fits))
        have marked : 128 ≤ (UInt8.ofNat (128 + value % 128)).toNat := by omega
        have more := Groups.more marked high
        have sum : 128 + value % 128 - 128 + 128 * (value / 128) = value := by omega
        rw [byte, sum] at more
        rwa [if_neg small]

/-- The last group holds one bit, so the bound is twice what the other groups hold. -/
theorem readGroups?_varintGroups (groups value : Nat) (rest : List UInt8)
    (fits : value < 2 * Nat.pow 128 groups) :
    readGroups? (groups + 1) (varintGroups (groups + 1) value ++ rest) = some (value, rest) := by
  have power : Nat.pow 128 (groups + 1) = Nat.pow 128 groups * 128 := rfl
  have spelled := groups_varintGroups groups value (by omega)
  exact readGroups?_of_groups spelled (length_varintGroups_le (groups + 1) value) fits rest

theorem readVarint?_varint (value : Nat) (rest : List UInt8)
    (fits : value < 18446744073709551616) :
    readVarint? (varint value ++ rest) = some (value, rest) :=
  readGroups?_varintGroups 9 value rest fits

/-! ## Signed numbers -/

theorem signedBits_lt (i : Int) : signedBits i < 18446744073709551616 := by
  have positive : (0 : Int) < Nat.pow 2 64 := by decide
  have below := Int.emod_lt_of_pos i positive
  have above := Int.emod_nonneg i (Int.ne_of_gt positive)
  have limit : ((Nat.pow 2 64 : Nat) : Int) = 18446744073709551616 := by decide
  rw [signedBits]
  omega

/-- The low bits of the 64 that are written are those of the number itself. -/
theorem ofSignedBits_signedBits (width : Nat) (i : Int) (narrow : width ≤ 64)
    (least : -(Nat.pow 2 width : Int) ≤ 2 * i) (greatest : 2 * i < Nat.pow 2 width) :
    ofSignedBits width (signedBits i) = i := by
  have above := Int.emod_nonneg i (show (Nat.pow 2 64 : Int) ≠ 0 by decide)
  have divides : ((Nat.pow 2 width : Nat) : Int) ∣ (Nat.pow 2 64 : Nat) :=
    Int.natCast_dvd_natCast.mpr (Nat.pow_dvd_pow 2 narrow)
  rw [ofSignedBits, signedBits, Int.toNat_of_nonneg above, Int.bmod, Int.emod_emod_of_dvd i divides]
  change Int.bmod i (Nat.pow 2 width) = i
  apply Int.bmod_eq_of_le_mul_two
  · omega
  · omega

end Checkout.Wire

import Checkout.Proofs.Identifiers
import Checkout.Proofs.Numerals
import Mathlib.Data.List.Forall2

/-!
# The texts of identifiers

An order id is read from exactly the texts of one layout: thirty-six bytes with a hyphen at each of
four places and a hexadecimal digit at every other.  The text of the id is that text in lower case, and
the id is read back from it.  So the texts of an id are those that differ from its own in case only.
-/

set_option autoImplicit false

namespace Checkout

namespace Text

/-! ## Bytes of ASCII characters -/

/-- The last byte of a character beyond ASCII is beyond ASCII too. -/
theorem narrow_of_forall_lt {c : Char} (ascii : ∀ byte ∈ String.utf8EncodeChar c, byte.toNat < 128) :
    c.utf8Size = 1 := by
  have continues : ∀ code : Nat, ¬ (UInt8.ofNat (code % 64 + 128)).toNat < 128 := by
    intro code
    rw [UInt8.toNat_ofNat']
    omega
  rw [← String.length_utf8EncodeChar]
  rw [String.utf8EncodeChar.eq_1] at ascii ⊢
  split
  · rfl
  next wide =>
    rw [if_neg wide] at ascii
    split_ifs at ascii
    all_goals exact absurd (ascii _ (by simp)) (continues c.val.toNat)

theorem narrow_of_utf8 {text : String} (ascii : ∀ byte ∈ utf8 text, byte.toNat < 128) :
    ∀ c ∈ text.toList, c.utf8Size = 1 := by
  intro c member
  refine narrow_of_forall_lt fun byte inside => ascii byte ?_
  rw [utf8_eq_flatMap]
  exact List.mem_flatMap.mpr ⟨c, member, inside⟩

theorem toLower_eq_iff {text lower : String} :
    text.toLower = lower ↔ text.toList.map Char.toLower = lower.toList := by
  change text.map Char.toLower = lower ↔ _
  rw [← String.toList_inj, String.toList_map]

end Text

namespace OrderId

/-! ## The layout -/

/-- For groups of the given sizes, whether a place holds the hyphen between two of them. -/
def hyphens : List Nat → List Bool
  | [] => []
  | [size] => List.replicate size false
  | size :: sizes => List.replicate size false ++ true :: hyphens sizes

theorem hyphens_cons (size next : Nat) (others : List Nat) :
    hyphens (size :: next :: others) = List.replicate size false ++ true :: hyphens (next :: others) :=
  rfl

def Fits (c : Char) (isHyphen : Bool) : Prop :=
  if isHyphen then c = '-' else Text.IsHexDigit c

theorem fits_replicate_iff {size : Nat} {text : List Char} :
    List.Forall₂ Fits text (List.replicate size false) ↔
      text.length = size ∧ ∀ c ∈ text, Text.IsHexDigit c := by
  induction text generalizing size with
  | nil =>
      rw [List.forall₂_nil_left_iff, List.replicate_eq_nil_iff, List.length_nil]
      simp [eq_comm]
  | cons c rest ih =>
      cases size with
      | zero => simp [List.forall₂_nil_right_iff]
      | succ size =>
          have digit : Fits c false ↔ Text.IsHexDigit c := Iff.rfl
          rw [List.replicate_succ, List.forall₂_cons, ih, digit, List.length_cons,
            Nat.add_right_cancel_iff, List.forall_mem_cons, and_left_comm]

/-- Texts of the layout are read, -/
theorem exists_readGroups {sizes : List Nat} {text : List Char}
    (fits : List.Forall₂ Fits text (hyphens sizes)) : ∃ digits, readGroups sizes text = some digits := by
  induction sizes generalizing text with
  | nil =>
      rw [List.forall₂_nil_right_iff.mp fits]
      exact ⟨[], rfl⟩
  | cons size sizes ih =>
      cases sizes with
      | nil =>
          obtain ⟨length_eq, digits⟩ := fits_replicate_iff.mp fits
          obtain ⟨values, read⟩ := Text.exists_hexValues? digits
          exact ⟨values, by rw [readGroups, if_pos length_eq, read]⟩
      | cons next others =>
          rw [hyphens_cons] at fits
          have front := List.forall₂_take_append _ _ _ fits
          have back := List.forall₂_drop_append _ _ _ fits
          rw [List.length_replicate] at front back
          obtain ⟨length_front, isDigit⟩ := fits_replicate_iff.mp front
          obtain ⟨group, readGroup⟩ := Text.exists_hexValues? isDigit
          obtain ⟨hyphen, rest, isHyphen, fitsRest, dropped⟩ := List.forall₂_cons_right_iff.mp back
          obtain ⟨values, readRest⟩ := ih fitsRest
          rw [show hyphen = '-' from isHyphen] at dropped
          refine ⟨group ++ values, readGroups_cons_eq_some_iff.mpr ?_⟩
          refine ⟨text.take size, rest, group, values, ?_, length_front, readGroup, readRest, rfl⟩
          rw [← dropped, List.take_append_drop]

/-- and nothing else is; the digits that are read are those of the text in lower case. -/
theorem of_readGroups {sizes : List Nat} {text : List Char} {digits : List (Fin 16)}
    (read : readGroups sizes text = some digits) :
    List.Forall₂ Fits text (hyphens sizes) ∧ digits.length = sizes.foldr (· + ·) 0 ∧
      writeGroups sizes digits = text.map Char.toLower := by
  induction sizes generalizing text digits with
  | nil =>
      rw [readGroups] at read
      split at read
      next empty =>
        cases read
        rw [List.isEmpty_iff.mp empty]
        exact ⟨.nil, rfl, rfl⟩
      next => cases read
  | cons size sizes ih =>
      cases sizes with
      | nil =>
          rw [readGroups] at read
          split at read
          next length_eq =>
            obtain ⟨isDigit, lower⟩ := Text.of_hexValues? read
            have count : digits.length = size := (Text.length_of_hexValues? read).trans length_eq
            refine ⟨fits_replicate_iff.mpr ⟨length_eq, isDigit⟩, by simpa using count, ?_⟩
            rw [writeGroups, List.take_of_length_le (Nat.le_of_eq count), lower]
          next => cases read
      | cons next others =>
          obtain ⟨front, rest, group, values, rfl, length_front, readGroup, readRest, rfl⟩ :=
            readGroups_cons_eq_some_iff.mp read
          obtain ⟨fitsRest, countRest, lowerRest⟩ := ih readRest
          obtain ⟨isDigit, lower⟩ := Text.of_hexValues? readGroup
          have count : group.length = size := (Text.length_of_hexValues? readGroup).trans length_front
          refine ⟨?_, ?_, ?_⟩
          · exact List.rel_append (fits_replicate_iff.mpr ⟨length_front, isDigit⟩) (.cons rfl fitsRest)
          · rw [List.length_append, count, countRest]
            rfl
          · rw [writeGroups_cons, List.take_left' count, List.drop_left' count, lowerRest, lower,
              List.map_append, List.map_cons]
            rfl

/-! ## The layout in bytes -/

/-- Thirty-six bytes: a hyphen at each of four places, and at every other a hexadecimal digit in
either case. -/
structure Hyphenated (bytes : List UInt8) : Prop where
  length_eq : bytes.length = 36
  hyphen : ∀ place (inside : place < bytes.length), place ∈ [8, 13, 18, 23] →
    Char.ofUInt8 bytes[place] = '-'
  digit : ∀ place (inside : place < bytes.length), place ∉ [8, 13, 18, 23] →
    Text.IsHexDigit (Char.ofUInt8 bytes[place])

theorem hyphens_groups :
    hyphens groups = (List.range 36).map fun place => decide (place ∈ [8, 13, 18, 23]) := by
  decide

theorem hyphenated_iff (bytes : List UInt8) :
    Hyphenated bytes ↔ List.Forall₂ Fits (bytes.map Char.ofUInt8) (hyphens groups) := by
  rw [hyphens_groups, List.forall₂_map_left_iff, List.forall₂_map_right_iff, List.forall₂_iff_get]
  simp only [List.length_range, List.get_eq_getElem, List.getElem_range, Fits, decide_eq_true_eq]
  constructor
  · intro hyphenated
    refine ⟨hyphenated.length_eq, fun place inside _ => ?_⟩
    split
    next isPlace => exact hyphenated.hyphen place inside isPlace
    next noPlace => exact hyphenated.digit place inside noPlace
  · rintro ⟨length_eq, fits⟩
    refine ⟨length_eq, fun place inside isPlace => ?_, fun place inside noPlace => ?_⟩
    · have fitsHere := fits place inside (length_eq ▸ inside)
      rwa [if_pos isPlace] at fitsHere
    · have fitsHere := fits place inside (length_eq ▸ inside)
      rwa [if_neg noPlace] at fitsHere

/-- Every character of the layout is a byte of its own. -/
theorem narrow_of_fits {text : List Char} {marks : List Bool} (fits : List.Forall₂ Fits text marks) :
    ∀ c ∈ text, c.utf8Size = 1 := by
  induction fits with
  | nil => exact List.forall_mem_nil _
  | @cons c isHyphen rest marks fitsHere _ ih =>
      refine List.forall_mem_cons.mpr ⟨?_, ih⟩
      cases isHyphen with
      | true =>
          rw [show c = '-' from fitsHere]
          rfl
      | false => exact Text.IsHexDigit.utf8Size_eq fitsHere

/-! ## Reading and writing -/

theorem exists_ofText_iff (text : String) :
    (∃ id, ofText text = .ok id) ↔ Hyphenated (Text.utf8 text) := by
  rw [hyphenated_iff]
  constructor
  · rintro ⟨id, read⟩
    exact (of_readGroups (ofText_eq_ok_iff.mp read)).1
  · intro fits
    obtain ⟨digits, read⟩ := exists_readGroups fits
    exact ⟨⟨digits, (of_readGroups read).2.1⟩, ofText_eq_ok_iff.mpr read⟩

/-- Digits alone make a UUID, but no order id. -/
example : (readUuid? "6f9619ff8b864d01b42d00c04fc964ff".toList).isSome ∧
    (ofText "6f9619ff8b864d01b42d00c04fc964ff").toOption = none := by
  decide +kernel

theorem ofText_cases (text : String) : (∃ id, ofText text = .ok id) ∨ ofText text = .error ⟨text⟩ := by
  unfold ofText
  repeat' split
  · exact Or.inr rfl
  · exact Or.inl ⟨_, rfl⟩
  · exact Or.inr rfl
  · exact Or.inr rfl

theorem text_of_ofText {text : String} {id : OrderId} (read : ofText text = .ok id) :
    id.text = text.toLower := by
  obtain ⟨fits, _, lower⟩ := of_readGroups (ofText_eq_ok_iff.mp read)
  have ascii : ∀ byte ∈ Text.utf8 text, byte.toNat < 128 := fun byte member => by
    have size := narrow_of_fits fits (Char.ofUInt8 byte) (List.mem_map_of_mem member)
    rw [Char.utf8Size_eq_one_iff, UInt32.le_iff_toNat_le] at size
    exact Nat.lt_succ_of_le size
  rw [Text.map_ofUInt8_utf8 (Text.narrow_of_utf8 ascii)] at lower
  rw [eq_comm, Text.toLower_eq_iff, OrderId.text, lower, String.toList_ofList]

theorem text_inj {id other : OrderId} : id.text = other.text ↔ id = other := by
  constructor
  · intro same
    have read := id.ofText_text
    rw [same, other.ofText_text] at read
    exact (Except.ok.inj read).symm
  · rintro rfl
    rfl

/-- An id is read from exactly the texts of the layout, and of any other text it is said that it is
none.  Its own text is the one it was read from, in lower case, and it is read back from that.  So two
texts name the same id exactly if they are the same in lower case. -/
theorem identifier_texts :
    (∀ text, (∃ id, ofText text = .ok id) ↔ Hyphenated (Text.utf8 text)) ∧
    (∀ text, ¬ Hyphenated (Text.utf8 text) → ofText text = .error ⟨text⟩) ∧
    (∀ text id, ofText text = .ok id → id.text = text.toLower) ∧
    (∀ id : OrderId, ofText id.text = .ok id) ∧
    ∀ text other id otherId, ofText text = .ok id → ofText other = .ok otherId →
      (id = otherId ↔ text.toLower = other.toLower) := by
  refine ⟨exists_ofText_iff, ?_, ?_, ofText_text, ?_⟩
  · intro text otherwise
    rw [← exists_ofText_iff] at otherwise
    exact (ofText_cases text).resolve_left otherwise
  · intro text id read
    exact text_of_ofText read
  · intro text other id otherId read readOther
    rw [← text_of_ofText read, ← text_of_ofText readOther, text_inj]

/-- One id by two texts, and a text of thirty-six bytes of which the last two are one character. -/
theorem identifier_texts_of_case :
    (∃ id : OrderId, id.text = "6f9619ff-8b86-4d01-b42d-00c04fc964ff" ∧
      ofText "6F9619FF-8B86-4D01-B42D-00C04FC964FF" = .ok id ∧
      ofText "6f9619ff-8B86-4d01-b42D-00c04fC964fF" = .ok id) ∧
    ofText "6f9619ff-8b86-4d01-b42d-00c04fc964é" =
      .error ⟨"6f9619ff-8b86-4d01-b42d-00c04fc964é"⟩ := by
  obtain ⟨accepts, refuses, lower, _, same⟩ := identifier_texts
  have bytes := Text.utf8_eq_flatMap
  obtain ⟨id, read⟩ := (accepts "6F9619FF-8B86-4D01-B42D-00C04FC964FF").mpr (by
    rw [bytes]
    exact ⟨by decide +kernel, by decide +kernel, by decide +kernel⟩)
  obtain ⟨otherId, readOther⟩ := (accepts "6f9619ff-8B86-4d01-b42D-00c04fC964fF").mpr (by
    rw [bytes]
    exact ⟨by decide +kernel, by decide +kernel, by decide +kernel⟩)
  have lowerCase : "6F9619FF-8B86-4D01-B42D-00C04FC964FF".toLower =
      "6f9619ff-8b86-4d01-b42d-00c04fc964ff" := Text.toLower_eq_iff.mpr (by decide +kernel)
  have lowerOther : "6f9619ff-8B86-4d01-b42D-00c04fC964fF".toLower =
      "6f9619ff-8b86-4d01-b42d-00c04fc964ff" := Text.toLower_eq_iff.mpr (by decide +kernel)
  have one : id = otherId := (same _ _ _ _ read readOther).mpr (lowerCase.trans lowerOther.symm)
  refine ⟨⟨id, (lower _ _ read).trans lowerCase, read, one ▸ readOther⟩, refuses _ ?_⟩
  intro hyphenated
  rw [bytes] at hyphenated
  exact absurd (hyphenated.digit 34 (by decide +kernel) (by decide)) (by decide +kernel)

end OrderId

end Checkout

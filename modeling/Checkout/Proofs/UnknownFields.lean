import Checkout.Proofs.MessageRows

/-!
# Fields that are not known

What a reader passes over: a key whose number the message does not use, and then a number, four or
eight bytes, bytes behind their length, or the fields of a group up to the key that ends it.  Numbers
may be spelled with more groups than they need.  A field of this kind leaves the message as it is,
whatever bytes follow.
-/

set_option autoImplicit false

namespace Checkout.Wire

/-! ## Spelled numbers -/

/-- The bytes spell a number of 64 bits with at most ten groups, perhaps more than it needs. -/
structure Spells (bytes : List UInt8) (value : Nat) : Prop where
  groups : Groups bytes value
  short : bytes.length ≤ 10
  fits : value < lengthLimit

theorem readVarint_of_spells {bytes : List UInt8} {value : Nat} (spelled : Spells bytes value)
    (rest : List UInt8) : readVarint (bytes ++ rest) = .ok (value, rest) := by
  have read : readGroups? (9 + 1) (bytes ++ rest) = some (value, rest) :=
    readGroups?_of_groups spelled.groups spelled.short spelled.fits rest
  rw [readVarint, readVarint?, read]

theorem readKey_of_spells {bytes : List UInt8} {tag : Nat} {wireType : WireType}
    (isTag : IsTag tag) (spelled : Spells bytes (8 * tag + wireType.code)) (rest : List UInt8) :
    readKey (bytes ++ rest) = .ok (tag, wireType, rest) := by
  have keyed := readKey_key tag wireType rest isTag
  have written : readVarint (key tag wireType ++ rest) = _ :=
    readVarint_varint (8 * tag + wireType.code) rest spelled.fits
  -- Only the number that is read counts.
  rw [readKey, readVarint_of_spells spelled rest, ← written, ← readKey, keyed]

/-! ## Values of one piece -/

inductive IsScalar : WireType → List UInt8 → Prop where
  | varint {bytes : List UInt8} {value : Nat} (spelled : Spells bytes value) :
      IsScalar .varint bytes
  | sixtyFourBit {bytes : List UInt8} (length_eq : bytes.length = 8) :
      IsScalar .sixtyFourBit bytes
  | thirtyTwoBit {bytes : List UInt8} (length_eq : bytes.length = 4) :
      IsScalar .thirtyTwoBit bytes
  | lengthDelimited {length content : List UInt8} (spelled : Spells length content.length) :
      IsScalar .lengthDelimited (length ++ content)

theorem skipBytes_append {count : Nat} {bytes : List UInt8} (length_eq : bytes.length = count)
    (rest : List UInt8) : skipBytes count (bytes ++ rest) = .ok rest := by
  have enough : ¬ ((bytes ++ rest).length < count) := by
    rw [List.length_append]
    omega
  rw [skipBytes, if_neg enough, ← length_eq, List.drop_left]

theorem skipValue_of_isScalar {wireType : WireType} {bytes : List UInt8}
    (isScalar : IsScalar wireType bytes) (bound depth tag : Nat) (rest : List UInt8) :
    skipValue (bound + 1) (depth + 1) wireType tag (bytes ++ rest) = .ok rest := by
  cases isScalar with
  | varint spelled =>
      rw [skipValue, readVarint_of_spells spelled rest]
      rfl
  | sixtyFourBit length_eq => exact skipBytes_append length_eq rest
  | thirtyTwoBit length_eq => exact skipBytes_append length_eq rest
  | lengthDelimited spelled =>
      rw [skipValue, List.append_assoc, readVarint_of_spells spelled]
      exact skipBytes_append rfl rest

/-! ## Groups -/

/-- What follows the key that starts a group with a number: fields whose groups are nested no deeper
than `depth`, and the key that ends the group. -/
inductive IsGroup : Nat → Nat → List UInt8 → Prop where
  | stop {depth tag : Nat} {key : List UInt8}
      (spelled : Spells key (8 * tag + WireType.endGroup.code)) : IsGroup depth tag key
  | scalar {depth tag inner : Nat} {wireType : WireType} {key value rest : List UInt8}
      (isTag : IsTag inner) (spelled : Spells key (8 * inner + wireType.code))
      (isScalar : IsScalar wireType value) (others : IsGroup (depth + 1) tag rest) :
      IsGroup (depth + 1) tag (key ++ (value ++ rest))
  | group {depth tag inner : Nat} {key content rest : List UInt8} (isTag : IsTag inner)
      (spelled : Spells key (8 * inner + WireType.startGroup.code))
      (nested : IsGroup depth inner content) (others : IsGroup (depth + 1) tag rest) :
      IsGroup (depth + 1) tag (key ++ (content ++ rest))

theorem IsGroup.length_pos {depth tag : Nat} {bytes : List UInt8}
    (isGroup : IsGroup depth tag bytes) : 0 < bytes.length := by
  cases isGroup with
  | stop spelled => exact spelled.groups.length_pos
  | scalar isTag spelled isScalar others =>
      have key_length := spelled.groups.length_pos
      rw [List.length_append]
      omega
  | group isTag spelled nested others =>
      have key_length := spelled.groups.length_pos
      rw [List.length_append]
      omega

theorem IsScalar.ne_endGroup {wireType : WireType} {bytes : List UInt8}
    (isScalar : IsScalar wireType bytes) : wireType ≠ .endGroup := by
  cases isScalar <;> exact nofun

/-- A group goes on behind a field of it that is skipped. -/
theorem skipGroup_of_skipValue {bound depth tag inner : Nat} {wireType : WireType}
    {bytes value rest : List UInt8} (keyed : readKey bytes = .ok (inner, wireType, value))
    (inside : wireType ≠ .endGroup)
    (skipped : skipValue bound depth wireType inner value = .ok rest) :
    skipGroup (bound + 1) depth tag bytes = skipGroup bound depth tag rest := by
  rw [skipGroup, keyed]
  cases wireType with
  | endGroup => exact absurd rfl inside
  | _ => simp only [skipped]

theorem skipGroup_of_isGroup {depth tag : Nat} {bytes : List UInt8}
    (isGroup : IsGroup depth tag bytes) (isTag : IsTag tag) (rest : List UInt8) {bound : Nat}
    (enough : 2 * bytes.length ≤ bound) : skipGroup bound depth tag (bytes ++ rest) = .ok rest := by
  induction isGroup generalizing rest bound with
  | stop spelled =>
      have some_bytes := spelled.groups.length_pos
      obtain ⟨less, rfl⟩ : ∃ less, bound = less + 1 := ⟨bound - 1, by omega⟩
      rw [skipGroup, readKey_of_spells isTag spelled rest]
      exact if_pos rfl
  | @scalar depth tag inner wireType key value others innerTag spelled isScalar isGroup ih =>
      have key_length := spelled.groups.length_pos
      have others_length := isGroup.length_pos
      rw [List.length_append, List.length_append] at enough
      -- One call takes the key, one the value.
      obtain ⟨less, rfl⟩ : ∃ less, bound = less + 2 := ⟨bound - 2, by omega⟩
      rw [List.append_assoc, List.append_assoc, skipGroup_of_skipValue
        (readKey_of_spells innerTag spelled _) isScalar.ne_endGroup
        (skipValue_of_isScalar isScalar less depth inner _)]
      exact ih isTag rest (by omega)
  | @group depth tag inner key content others innerTag spelled nested isGroup ihNested ih =>
      have key_length := spelled.groups.length_pos
      have others_length := isGroup.length_pos
      rw [List.length_append, List.length_append] at enough
      obtain ⟨less, rfl⟩ : ∃ less, bound = less + 2 := ⟨bound - 2, by omega⟩
      have skipped : skipValue (less + 1) (depth + 1) .startGroup inner
          (content ++ (others ++ rest)) = .ok (others ++ rest) := by
        rw [skipValue]
        exact ihNested innerTag (others ++ rest) (by omega)
      rw [List.append_assoc, List.append_assoc, skipGroup_of_skipValue
        (readKey_of_spells innerTag spelled _) (by decide) skipped]
      exact ih isTag rest (by omega)

/-! ## Fields -/

/-- A whole field with one of the given numbers, whose groups are nested within the limit. -/
inductive IsUnknown (numbers : Nat → Prop) : List UInt8 → Prop where
  | scalar {tag : Nat} {wireType : WireType} {key value : List UInt8} (isTag : IsTag tag)
      (unknown : numbers tag) (spelled : Spells key (8 * tag + wireType.code))
      (isScalar : IsScalar wireType value) : IsUnknown numbers (key ++ value)
  | group {tag : Nat} {key content : List UInt8} (isTag : IsTag tag) (unknown : numbers tag)
      (spelled : Spells key (8 * tag + WireType.startGroup.code))
      (isGroup : IsGroup (depthLimit - 1) tag content) : IsUnknown numbers (key ++ content)

theorem skipField_append {wireType : WireType} {tag : Nat} {value : List UInt8} {rest : List UInt8}
    (isTag : IsTag tag)
    (skippable : IsScalar wireType value ∨
      wireType = .startGroup ∧ IsGroup (depthLimit - 1) tag value) :
    skipField depthLimit wireType tag (value ++ rest) = .ok rest := by
  rcases skippable with isScalar | ⟨rfl, isGroup⟩
  · exact skipValue_of_isScalar isScalar _ _ tag rest
  · have enough : 2 * value.length ≤ 2 * (value ++ rest).length + 1 := by
      rw [List.length_append]
      omega
    exact skipGroup_of_isGroup isGroup isTag rest enough

/-- A field whose number a message passes over leaves the message as it is. -/
theorem isField_of_isUnknown {μ : Type} {merge : Merge μ} {numbers : Nat → Prop}
    (passes : ∀ depth tag wireType message bytes, numbers tag →
      merge depth tag wireType message bytes = pass depth tag wireType message bytes)
    {field : List UInt8} (isUnknown : IsUnknown numbers field) (message : μ) :
    IsField merge depthLimit field message message := by
  intro rest
  cases isUnknown with
  | @scalar tag wireType key value isTag unknown spelled isScalar =>
      refine ⟨tag, wireType, value ++ rest, ?_, ?_⟩
      · rw [List.append_assoc]
        exact readKey_of_spells isTag spelled _
      · rw [passes _ _ _ _ _ unknown, pass, skipField_append isTag (.inl isScalar)]
  | @group tag key content isTag unknown spelled isGroup =>
      refine ⟨tag, .startGroup, content ++ rest, ?_, ?_⟩
      · rw [List.append_assoc]
        exact readKey_of_spells isTag spelled _
      · rw [passes _ _ _ _ _ unknown, pass, skipField_append isTag (.inr ⟨rfl, isGroup⟩)]

end Checkout.Wire

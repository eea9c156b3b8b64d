import Checkout.OrderId
import Checkout.Proofs.Texts

/-!
# Identifiers read back

An order id is read back from its text: its digits are written in groups, and each group is read back
from its digits and the hyphen after it.  So the text of an id has one layout, whatever text the id
was read from.
-/

set_option autoImplicit false

namespace Checkout.OrderId

theorem writeGroups_cons (size next : Nat) (others : List Nat) (digits : List (Fin 16)) :
    writeGroups (size :: next :: others) digits =
      (digits.take size).map Text.hexDigit ++ '-' :: writeGroups (next :: others) (digits.drop size) :=
  rfl

/-- The first of several groups is read from as many digits, the others from what is after a hyphen. -/
theorem readGroups_cons_eq_some_iff {size next : Nat} {others : List Nat} {text : List Char}
    {digits : List (Fin 16)} : readGroups (size :: next :: others) text = some digits ↔
      ∃ front rest group values, text = front ++ '-' :: rest ∧ front.length = size ∧
        Text.hexValues? front = some group ∧ readGroups (next :: others) rest = some values ∧
        digits = group ++ values := by
  constructor
  · intro read
    rw [readGroups] at read
    · split at read
      next rest dropped =>
        obtain ⟨group, readGroup, read⟩ := Option.bind_eq_some_iff.mp read
        obtain ⟨values, readRest, same⟩ := Option.bind_eq_some_iff.mp read
        cases same
        refine ⟨text.take size, rest, group, values, ?_, ?_, readGroup, readRest, rfl⟩
        · rw [← dropped, List.take_append_drop]
        · have length_eq := congrArg List.length dropped
          rw [List.length_drop, List.length_cons] at length_eq
          rw [List.length_take]
          omega
      next => cases read
    · simp
  · rintro ⟨front, rest, group, values, rfl, rfl, readGroup, readRest, rfl⟩
    rw [readGroups, List.drop_left' rfl]
    · simp only [List.take_left' rfl, readGroup, readRest]
      rfl
    · simp

theorem readGroups_writeGroups (sizes : List Nat) (digits : List (Fin 16))
    (length_eq : digits.length = sizes.foldr (· + ·) 0) :
    readGroups sizes (writeGroups sizes digits) = some digits := by
  induction sizes generalizing digits with
  | nil =>
      have empty : digits = [] := List.length_eq_zero_iff.mp length_eq
      rw [empty]
      rfl
  | cons size sizes ih =>
      cases sizes with
      | nil =>
          have whole : digits.take size = digits := List.take_of_length_le (by simp_all)
          have count : digits.length = size := by simpa using length_eq
          simp [readGroups, writeGroups, whole, count, Text.hexValues?_map_hexDigit]
      | cons next others =>
          have bound : size ≤ digits.length := by
            rw [length_eq, List.foldr_cons]
            omega
          have rest := ih (digits.drop size) (by
            rw [List.length_drop, length_eq, List.foldr_cons]
            omega)
          have length_group : ((digits.take size).map Text.hexDigit).length = size := by
            rw [List.length_map, List.length_take]
            omega
          rw [writeGroups_cons, readGroups_cons_eq_some_iff]
          exact ⟨_, _, _, _, rfl, length_group, Text.hexValues?_map_hexDigit _, rest,
            (List.take_append_drop size digits).symm⟩

theorem length_of_readGroups {size : Nat} {sizes : List Nat} {text : List Char}
    {digits : List (Fin 16)} (read : readGroups (size :: sizes) text = some digits) :
    text.length = size + sizes.foldr (· + ·) 0 + sizes.length := by
  induction sizes generalizing size text digits with
  | nil =>
      rw [readGroups] at read
      split at read
      next length_eq => exact length_eq
      next => cases read
  | cons next sizes ih =>
      obtain ⟨front, rest, group, values, rfl, length_front, _, readRest, _⟩ :=
        readGroups_cons_eq_some_iff.mp read
      have length_rest := ih readRest
      rw [List.length_append, List.length_cons, List.foldr_cons, List.length_cons]
      omega

theorem narrow_of_mem_writeGroups {sizes : List Nat} {digits : List (Fin 16)} :
    ∀ c ∈ writeGroups sizes digits, c.utf8Size = 1 := by
  have narrow : ∀ value : Fin 16, (Text.hexDigit value).utf8Size = 1 := by decide
  have group : ∀ values : List (Fin 16), ∀ c ∈ values.map Text.hexDigit, c.utf8Size = 1 := by
    intro values c member
    obtain ⟨value, _, rfl⟩ := List.mem_map.mp member
    exact narrow value
  induction sizes generalizing digits with
  | nil =>
      intro c member
      cases member
  | cons size sizes ih =>
      cases sizes with
      | nil => exact group (digits.take size)
      | cons next others =>
          intro c member
          rw [writeGroups_cons] at member
          rcases List.mem_append.mp member with inGroup | later
          · exact group _ c inGroup
          · rcases List.mem_cons.mp later with rfl | inOthers
            · decide
            · exact ih c inOthers

/-- The guard leaves one layout of those that are read as UUIDs. -/
theorem ofText_eq_ok_iff {text : String} {id : OrderId} : ofText text = .ok id ↔
    readGroups groups ((Text.utf8 text).map Char.ofUInt8) = some id.digits := by
  have length_eq : ((Text.utf8 text).map Char.ofUInt8).length = (Text.utf8 text).length :=
    List.length_map _
  rw [ofText, byteLength]
  by_cases whole : (Text.utf8 text).length = 36
  · rw [← length_eq] at whole
    have layout : readUuid? ((Text.utf8 text).map Char.ofUInt8) =
        readGroups groups ((Text.utf8 text).map Char.ofUInt8) := by
      rw [readUuid?, if_neg (by omega), if_pos whole]
    rw [length_eq] at whole
    rw [if_pos whole, layout]
    cases readGroups groups ((Text.utf8 text).map Char.ofUInt8) with
    | none => simp
    | some digits =>
        have length_digits := id.length_digits
        by_cases fits : digits.length = 32
        · simp only [dif_pos fits, Except.ok.injEq, Option.some.injEq]
          cases id
          simp
        · simp only [dif_neg fits, reduceCtorEq, Option.some.injEq, false_iff]
          rintro rfl
          exact fits length_digits
  · rw [if_neg whole]
    refine ⟨nofun, fun read => absurd ?_ whole⟩
    rw [← length_eq]
    exact length_of_readGroups read

theorem length_utf8_of_ofText {text : String} {id : OrderId} (read : ofText text = .ok id) :
    (Text.utf8 text).length = 36 := by
  rw [← List.length_map Char.ofUInt8]
  exact length_of_readGroups (ofText_eq_ok_iff.mp read)

theorem narrow_text (id : OrderId) : ∀ c ∈ id.text.toList, c.utf8Size = 1 := by
  rw [text, String.toList_ofList]
  exact narrow_of_mem_writeGroups

theorem ofText_text (id : OrderId) : ofText id.text = .ok id := by
  have length_eq : id.digits.length = groups.foldr (· + ·) 0 := id.length_digits
  rw [ofText_eq_ok_iff, Text.map_ofUInt8_utf8 id.narrow_text, text, String.toList_ofList]
  exact readGroups_writeGroups groups id.digits length_eq

theorem length_utf8_text (id : OrderId) : (Text.utf8 id.text).length = 36 :=
  length_utf8_of_ofText id.ofText_text

def groupTexts : List Nat → List (Fin 16) → List (List Char)
  | [], _ => []
  | size :: sizes, digits =>
    (digits.take size).map Text.hexDigit :: groupTexts sizes (digits.drop size)

theorem writeGroups_eq_intercalate (sizes : List Nat) (digits : List (Fin 16)) :
    writeGroups sizes digits = ['-'].intercalate (groupTexts sizes digits) := by
  induction sizes generalizing digits with
  | nil => rfl
  | cons size sizes ih =>
      cases sizes with
      | nil => simp [writeGroups, groupTexts]
      | cons next others =>
          rw [writeGroups_cons, ih (digits.drop size)]
          simp [groupTexts, List.intercalate]

theorem length_groupTexts (sizes : List Nat) (digits : List (Fin 16))
    (length_eq : digits.length = sizes.foldr (· + ·) 0) :
    (groupTexts sizes digits).map List.length = sizes := by
  induction sizes generalizing digits with
  | nil => rfl
  | cons size sizes ih =>
      rw [List.foldr_cons] at length_eq
      rw [groupTexts, List.map_cons, ih (digits.drop size) (by rw [List.length_drop]; omega),
        List.length_map, List.length_take]
      congr 1
      omega

theorem lower_of_mem_groupTexts {sizes : List Nat} {digits : List (Fin 16)} {group : List Char}
    (member : group ∈ groupTexts sizes digits) :
    ∀ c ∈ group, c.isDigit ∨ ('a' ≤ c ∧ c ≤ 'f') := by
  have lower : ∀ value : Fin 16, (Text.hexDigit value).isDigit ∨
      ('a' ≤ Text.hexDigit value ∧ Text.hexDigit value ≤ 'f') := by decide
  induction sizes generalizing digits with
  | nil => cases member
  | cons size sizes ih =>
      rcases List.mem_cons.mp member with rfl | later
      · intro c inside
        obtain ⟨value, _, rfl⟩ := List.mem_map.mp inside
        exact lower value
      · exact ih later

/-- What the type promises, in terms of the text: five groups of digits in lower case, and the id
is what the text names. -/
structure WellFormed (id : OrderId) : Prop where
  layout : ∃ parts : List (List Char), id.text.toList = ['-'].intercalate parts ∧
    parts.map List.length = [8, 4, 4, 4, 12] ∧
    ∀ part ∈ parts, ∀ c ∈ part, c.isDigit ∨ ('a' ≤ c ∧ c ≤ 'f')
  named : ofText id.text = .ok id

theorem wellFormed (id : OrderId) : WellFormed id where
  layout := by
    refine ⟨groupTexts groups id.digits, ?_, ?_, fun part member => lower_of_mem_groupTexts member⟩
    · rw [text, String.toList_ofList, writeGroups_eq_intercalate]
    · exact length_groupTexts groups id.digits id.length_digits
  named := ofText_text id

end Checkout.OrderId

import Checkout.Proofs.Texts
import Checkout.Text.Fields
import Mathlib.Data.List.DropRight

/-!
# Texts in headers

Pieces that are joined by a separator which none of them holds are cut apart again at it, and pieces
that were cut hold none.  A text has no blank at either end exactly if nothing is lost when blanks are
removed there.  A number that fits a width is read back from that many hexadecimal digits.
-/

set_option autoImplicit false

namespace Checkout.Text

/-! ## Pieces -/

theorem fields_eq_splitOn (separator : Char) (text : List Char) :
    fields separator text = text.splitOn separator := by
  rw [List.splitOn_eq_splitOnP]
  induction text with
  | nil => rfl
  | cons c rest ih =>
      rw [fields, List.splitOnP_cons_eq_if_modifyHead, ih]
      by_cases separates : c = separator
      · simp [separates]
      · rw [if_neg separates, if_neg (by simpa using separates)]
        cases pieces : rest.splitOnP (· == separator) with
        | nil => exact absurd pieces (List.splitOnP_ne_nil _ rest)
        | cons piece others => rfl

theorem fields_intercalate {separator : Char} {pieces : List (List Char)}
    (free : ∀ piece ∈ pieces, separator ∉ piece) (some_piece : pieces ≠ []) :
    fields separator ([separator].intercalate pieces) = pieces := by
  rw [fields_eq_splitOn]
  exact List.splitOn_intercalate separator free some_piece

theorem fields_append (separator : Char) (before after : List Char) :
    fields separator (before ++ separator :: after) =
      fields separator before ++ fields separator after := by
  rw [fields_eq_splitOn, fields_eq_splitOn, fields_eq_splitOn, List.splitOn_eq_splitOnP,
    List.splitOn_eq_splitOnP, List.splitOn_eq_splitOnP]
  exact List.splitOnP_append_cons before after (beq_self_eq_true separator)

theorem fields_of_not_mem {separator : Char} {text : List Char} (free : separator ∉ text) :
    fields separator text = [text] := by
  rw [fields_eq_splitOn, List.splitOn_eq_splitOnP]
  refine List.splitOnP_eq_singleton fun c member => ?_
  exact beq_eq_false_iff_ne.mpr fun same => free (same ▸ member)

theorem intercalate_fields (separator : Char) (text : List Char) :
    [separator].intercalate (fields separator text) = text := by
  rw [fields_eq_splitOn]
  exact List.intercalate_splitOn separator

/-- A piece holds no separator, and nothing that is not in the text. -/
theorem of_mem_fields {separator : Char} {text piece : List Char}
    (member : piece ∈ fields separator text) :
    separator ∉ piece ∧ ∀ c ∈ piece, c ∈ text := by
  induction text generalizing piece with
  | nil =>
      rw [List.mem_singleton.mp member]
      exact ⟨List.not_mem_nil, fun c inside => inside⟩
  | cons first rest ih =>
      rw [fields] at member
      by_cases separates : first = separator
      · rw [if_pos separates] at member
        rcases List.mem_cons.mp member with rfl | later
        · exact ⟨List.not_mem_nil, List.forall_mem_nil _⟩
        · exact ⟨(ih later).1, fun c inside => List.mem_cons_of_mem first ((ih later).2 c inside)⟩
      · rw [if_neg separates] at member
        cases pieces : fields separator rest with
        | nil =>
            rw [pieces] at member
            rw [List.mem_singleton.mp member, List.mem_singleton]
            exact ⟨fun same => separates same.symm, fun c inside =>
              List.mem_singleton.mp inside ▸ List.mem_cons_self⟩
        | cons piece others =>
            rw [pieces] at member
            rcases List.mem_cons.mp member with rfl | later
            · -- The first piece of the rest has grown by one character.
              have before := ih (pieces ▸ List.mem_cons_self)
              refine ⟨fun inside => ?_, fun c inside => ?_⟩
              · rcases List.mem_cons.mp inside with same | inPiece
                · exact separates same.symm
                · exact before.1 inPiece
              · rcases List.mem_cons.mp inside with rfl | inPiece
                · exact List.mem_cons_self
                · exact List.mem_cons_of_mem first (before.2 c inPiece)
            · have before := ih (pieces ▸ List.mem_cons_of_mem piece later)
              exact ⟨before.1, fun c inside => List.mem_cons_of_mem first (before.2 c inside)⟩

theorem splitOnce?_append {separator : Char} {before : List Char} (free : separator ∉ before)
    (after : List Char) :
    splitOnce? separator (before ++ separator :: after) = some (before, after) := by
  induction before with
  | nil => exact if_pos rfl
  | cons c rest ih =>
      have different : c ≠ separator := fun same => free (same ▸ List.mem_cons_self)
      rw [List.cons_append, splitOnce?, if_neg different,
        ih fun inside => free (List.mem_cons_of_mem c inside)]
      rfl

theorem eq_of_splitOnce? {separator : Char} {text before after : List Char}
    (cut : splitOnce? separator text = some (before, after)) :
    text = before ++ separator :: after ∧ separator ∉ before := by
  induction text generalizing before with
  | nil => cases cut
  | cons c rest ih =>
      rw [splitOnce?] at cut
      by_cases separates : c = separator
      · rw [if_pos separates] at cut
        cases cut
        exact ⟨by rw [separates]; rfl, List.not_mem_nil⟩
      · rw [if_neg separates] at cut
        obtain ⟨⟨found, others⟩, cutRest, same⟩ := Option.map_eq_some_iff.mp cut
        cases same
        obtain ⟨rest_eq, free⟩ := ih cutRest
        refine ⟨by rw [rest_eq]; rfl, fun inside => ?_⟩
        rcases List.mem_cons.mp inside with same | inFound
        · exact separates same.symm
        · exact free inFound

/-! ## Blanks -/

/-- A text that neither begins nor ends with a blank. -/
structure Trimmed (text : List Char) : Prop where
  head : ∀ c, text.head? = some c → isBlank c = false
  last : ∀ c, text.getLast? = some c → isBlank c = false

instance (text : List Char) : Decidable (Trimmed text) :=
  decidable_of_iff (text.head?.all (isBlank · = false) ∧ text.getLast?.all (isBlank · = false))
    ⟨fun ⟨head, last⟩ => ⟨by simpa [Option.all_eq_true] using head,
        by simpa [Option.all_eq_true] using last⟩,
      fun ⟨head, last⟩ => ⟨by simpa [Option.all_eq_true] using head,
        by simpa [Option.all_eq_true] using last⟩⟩

theorem dropTrailing_eq_rdropWhile (drop : Char → Bool) (text : List Char) :
    dropTrailing drop text = text.rdropWhile drop :=
  rfl

theorem dropTrailing_append {drop : Char → Bool} {kept dropped : List Char} {last : Char}
    (stays : drop last = false) (goes : ∀ c ∈ dropped, drop c = true) :
    dropTrailing drop (kept ++ last :: dropped) = kept ++ [last] := by
  have reversed : (kept ++ last :: dropped).reverse = dropped.reverse ++ last :: kept.reverse := by
    simp
  rw [dropTrailing, reversed, List.dropWhile_append_of_pos (by simpa using goes),
    List.dropWhile_cons_of_neg (by simpa using stays)]
  simp

theorem trimList_of_trimmed {text : List Char} (trimmed : Trimmed text) : trimList text = text := by
  have front : text.dropWhile isBlank = text := by
    cases text with
    | nil => rfl
    | cons c rest => rw [List.dropWhile_cons_of_neg (by rw [trimmed.head c rfl]; decide)]
  rw [trimList, front, dropTrailing_eq_rdropWhile, List.rdropWhile_eq_self_iff]
  intro nonempty
  rw [trimmed.last _ (List.getLast?_eq_some_getLast nonempty)]
  decide

theorem mem_of_mem_trimList {text : List Char} {c : Char} (member : c ∈ trimList text) :
    c ∈ text := by
  have inFront := (List.rdropWhile_prefix isBlank (text.dropWhile isBlank)).subset member
  exact (List.dropWhile_suffix isBlank).subset inFront

theorem length_trimList_le (text : List Char) : (trimList text).length ≤ text.length :=
  Nat.le_trans (List.rdropWhile_prefix isBlank (text.dropWhile isBlank)).length_le
    (List.dropWhile_suffix isBlank).length_le

theorem trimmed_trimList (text : List Char) : Trimmed (trimList text) where
  head := by
    intro c first
    have nonempty : text.dropWhile isBlank ≠ [] := fun empty => by
      rw [trimList, empty] at first
      cases first
    have kept := List.rdropWhile_prefix isBlank (text.dropWhile isBlank)
    -- What is left begins as the text does without the blanks in front.
    obtain ⟨dropped, whole⟩ := kept
    have same : (text.dropWhile isBlank).head? = some c := by
      rw [← whole, List.head?_append]
      exact congrArg (Option.or · dropped.head?) first
    have front := List.head_dropWhile_not isBlank nonempty
    rw [List.head?_eq_some_head nonempty] at same
    rwa [Option.some.inj same] at front
  last := by
    intro c final
    have nonempty : (text.dropWhile isBlank).rdropWhile isBlank ≠ [] := fun empty => by
      rw [trimList, dropTrailing_eq_rdropWhile, empty] at final
      cases final
    have last := List.rdropWhile_last_not isBlank (text.dropWhile isBlank) nonempty
    rw [trimList, dropTrailing_eq_rdropWhile, List.getLast?_eq_some_getLast nonempty] at final
    rw [Option.some.inj final] at last
    exact Bool.eq_false_iff.mpr last

/-! ## Numbers of a fixed width -/

/-- The digits of a number are those of its remainder, and there are as many as asked for. -/
theorem hexDigits_eq_map (width number : Nat) :
    ∃ values, hexDigits width number = values.map hexDigit ∧ values.length = width ∧
      ofHexValues values = number % Nat.pow 16 width := by
  induction width generalizing number with
  | zero => exact ⟨[], rfl, rfl, (Nat.mod_one number).symm⟩
  | succ width ih =>
      obtain ⟨values, digits_eq, length_eq, number_eq⟩ := ih (number / 16)
      refine ⟨values ++ [lastHexDigit number], ?_, by rw [List.length_append, length_eq]; rfl, ?_⟩
      · rw [hexDigits, digits_eq, List.map_append]
        rfl
      · have last : (lastHexDigit number).val = number % 16 := rfl
        have sum : ofHexValues (values ++ [lastHexDigit number]) =
            16 * ofHexValues values + (lastHexDigit number).val := by
          rw [ofHexValues, List.foldl_append]
          rfl
        have power : Nat.pow 16 (width + 1) = 16 * Nat.pow 16 width := Nat.pow_succ'
        rw [sum, number_eq, last, power, Nat.mod_mul]
        omega

theorem length_hexDigits (width number : Nat) : (hexDigits width number).length = width := by
  obtain ⟨values, digits_eq, length_eq, _⟩ := hexDigits_eq_map width number
  rw [digits_eq, List.length_map, length_eq]

theorem exists_of_mem_hexDigits {width number : Nat} {c : Char}
    (member : c ∈ hexDigits width number) : ∃ value, c = hexDigit value := by
  obtain ⟨values, digits_eq, _, _⟩ := hexDigits_eq_map width number
  rw [digits_eq] at member
  obtain ⟨value, _, same⟩ := List.mem_map.mp member
  exact ⟨value, same.symm⟩

theorem not_mem_hexDigits {c : Char} (noDigit : ∀ value, hexDigit value ≠ c) (width number : Nat) :
    c ∉ hexDigits width number := by
  intro member
  obtain ⟨value, same⟩ := exists_of_mem_hexDigits member
  exact noDigit value same.symm

/-- Digits are digits, so no sign is taken for one. -/
theorem readHex?_hexDigits {width number : Nat} (positive : 0 < width)
    (fits : number < Nat.pow 16 width) : readHex? (hexDigits width number) = some number := by
  obtain ⟨values, digits_eq, length_eq, number_eq⟩ := hexDigits_eq_map width number
  have unsigned : ∀ value, hexDigit value ≠ '+' := by decide
  have read : readHex? (values.map hexDigit) = (hexValues? (values.map hexDigit)).map ofHexValues := by
    cases values with
    | nil =>
        rw [← length_eq] at positive
        cases positive
    | cons value rest =>
        rw [List.map_cons, readHex?]
        · simp
        · simp [unsigned value]
        · simp [unsigned value]
  rw [digits_eq, read, hexValues?_map_hexDigit, Option.map_some, number_eq, Nat.mod_eq_of_lt fits]

theorem byteLength_of_narrow {text : List Char} (narrow : ∀ c ∈ text, c.utf8Size = 1) :
    byteLength text = text.length := by
  induction text with
  | nil => rfl
  | cons c rest ih =>
      have first := narrow c List.mem_cons_self
      have others := ih fun other member => narrow other (List.mem_cons_of_mem c member)
      rw [byteLength, List.foldr_cons, first, List.length_cons, Nat.add_comm]
      exact congrArg (· + 1) others

theorem byteLength_hexDigits (width number : Nat) : byteLength (hexDigits width number) = width := by
  have narrow : ∀ value : Fin 16, (hexDigit value).utf8Size = 1 := by decide
  rw [byteLength_of_narrow, length_hexDigits]
  intro c member
  obtain ⟨value, rfl⟩ := exists_of_mem_hexDigits member
  exact narrow value

end Checkout.Text

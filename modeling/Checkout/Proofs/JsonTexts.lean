import Checkout.Json.Parser
import Checkout.Json.Printer
import Checkout.Proofs.Decimals
import Checkout.Proofs.Texts
import Mathlib.Tactic.SplitIfs

/-!
# JSON text read back

Every JSON value is read back from the text that is written for it.  Each reader takes what the
writer of its part has written off the front of the text, whatever follows; only a numeral depends
on what follows, which must not continue it.  The bound on the readers' calls is no obstacle: of
every two calls at least one takes a character.
-/

set_option autoImplicit false

namespace Checkout.Json

/-! ## String literals -/

/-- A character is written behind a backslash by a letter, by its number, or as it is. -/
inductive Escaping (c : Char) : List Char → Prop where
  | letter {letter : Char} (named : escapedLetter? letter = some c) : Escaping c ['\\', letter]
  | number (control : c.toNat < 32) : Escaping c ('\\' :: 'u' :: Text.hexDigits 4 c.toNat)
  | plain (quote : c ≠ '"') (backslash : c ≠ '\\') (visible : 32 ≤ c.toNat) : Escaping c [c]

theorem escaping_escapedChar (c : Char) : Escaping c (escapedChar c) := by
  have named : ∀ code, c.toNat = code → c = Char.ofNat code := by
    intro code same
    rw [← same, Char.ofNat_toNat]
  simp only [escapedChar, beq_iff_eq]
  split_ifs with quote backslash backspace tab newline page back control
  · exact .letter (by rw [quote]; rfl)
  · exact .letter (by rw [backslash]; rfl)
  · exact .letter (by rw [named 8 backspace]; rfl)
  · exact .letter (by rw [named 9 tab]; rfl)
  · exact .letter (by rw [named 10 newline]; rfl)
  · exact .letter (by rw [named 12 page]; rfl)
  · exact .letter (by rw [named 13 back]; rfl)
  · exact .number control
  · exact .plain quote backslash (by omega)

theorem readUnit_hexDigits : ∀ unit : Fin 32,
    (Text.hexValues? (Text.hexDigits 4 unit)).map (fun digits =>
      Piece.ofUnit (Text.ofHexValues digits)) = some (.char (Char.ofNat unit)) := by
  decide

theorem readPieces_of_escaping {c : Char} {written : List Char} (escaping : Escaping c written)
    (text : List Char) :
    readPieces (written ++ text) =
      (readPieces text).map fun (pieces, rest) => (.char c :: pieces, rest) := by
  cases escaping with
  | @letter letter named =>
      have other : letter ≠ 'u' := by
        intro same
        rw [same] at named
        cases named
      rw [List.cons_append, List.cons_append, List.nil_append, readPieces.eq_4, named]
      · cases readPieces text <;> rfl
      · intro a b c d rest same
        exact absurd same other
  | number control =>
      have unit := readUnit_hexDigits ⟨c.toNat, control⟩
      rw [Char.ofNat_toNat] at unit
      obtain ⟨digits, read, piece⟩ := Option.map_eq_some_iff.mp unit
      have four : Text.hexDigits 4 c.toNat =
          [Text.hexDigit (Text.lastHexDigit (c.toNat / 16 / 16 / 16)),
            Text.hexDigit (Text.lastHexDigit (c.toNat / 16 / 16)),
            Text.hexDigit (Text.lastHexDigit (c.toNat / 16)),
            Text.hexDigit (Text.lastHexDigit c.toNat)] := rfl
      change Text.hexValues? (Text.hexDigits 4 c.toNat) = some digits at read
      rw [four] at read ⊢
      simp only [List.cons_append, List.nil_append, readPieces, read]
      cases readPieces text with
      | none => rfl
      | some pair => simp [piece]
  | plain quote backslash visible =>
      have allowed : (c == '\\' || decide (c.toNat < 32)) = false := by simp [backslash, visible]
      rw [List.cons_append, List.nil_append, readPieces.eq_5, allowed]
      · cases readPieces text <;> rfl
      · exact quote
      · intro a b c d rest same
        exact absurd same backslash
      · intro letter rest same
        exact absurd same backslash

theorem readPieces_escaped (chars text : List Char) :
    readPieces (chars.flatMap escapedChar ++ '"' :: text) = some (chars.map .char, text) := by
  induction chars with
  | nil => rfl
  | cons c chars ih =>
      rw [List.flatMap_cons, List.append_assoc, readPieces_of_escaping (escaping_escapedChar c), ih]
      rfl

theorem joinPieces?_map_char (chars : List Char) : joinPieces? (chars.map .char) = some chars := by
  induction chars with
  | nil => rfl
  | cons c chars ih => rw [List.map_cons, joinPieces?, ih, Option.map_some]

/-- A literal is read back, also one that has no text. -/
theorem readString_writeString (literal : Option String) (rest : List Char) :
    ∃ text, writeString literal ++ rest = '"' :: text ∧ readString text = some (literal, rest) := by
  cases literal with
  | none =>
      have half : writeString none = ['"', '\\', 'u', 'd', '8', '0', '0', '"'] := by decide
      have digits : Text.hexValues? ['d', '8', '0', '0'] = some [13, 8, 0, 0] := by decide
      have unit : Piece.ofUnit (Text.ofHexValues [13, 8, 0, 0]) = .half 0xD800 := by decide
      refine ⟨'\\' :: 'u' :: 'd' :: '8' :: '0' :: '0' :: '"' :: rest, ?_, ?_⟩
      · rw [half]
        rfl
      · simp [readString, readPieces, digits, unit, joinPieces?]
  | some text =>
      refine ⟨text.toList.flatMap escapedChar ++ '"' :: rest, ?_, ?_⟩
      · change writeText text ++ rest = _
        simp [writeText]
      · simp [readString, readPieces_escaped, joinPieces?_map_char]

/-! ## Numerals -/

def NoDigit (rest : List Char) : Prop :=
  ∀ c ∈ rest.head?, c.isDigit = false

def EndsNumeral (rest : List Char) : Prop :=
  ∀ c ∈ rest.head?, c.isDigit = false ∧ c ≠ '.' ∧ c ≠ 'e' ∧ c ≠ 'E'

theorem EndsNumeral.noDigit {rest : List Char} (ends : EndsNumeral rest) : NoDigit rest :=
  fun c member => (ends c member).1

theorem readDigitRun_append {digits rest : List Char} (nonempty : digits ≠ [])
    (isDigit : ∀ c ∈ digits, c.isDigit = true) (stops : NoDigit rest) :
    readDigitRun (digits ++ rest) = some (digits, rest) := by
  have taken : rest.takeWhile Char.isDigit = [] ∧ rest.dropWhile Char.isDigit = rest := by
    cases rest with
    | nil => exact ⟨rfl, rfl⟩
    | cons c rest =>
        have other := stops c rfl
        simp [other]
  rw [readDigitRun, List.takeWhile_append_of_pos isDigit, List.dropWhile_append_of_pos isDigit,
    taken.1, taken.2, List.append_nil]
  simp [nonempty]

theorem readDigitRun_toDigits (n : Nat) {rest : List Char} (stops : NoDigit rest) :
    readDigitRun (Nat.toDigits 10 n ++ rest) = some (Nat.toDigits 10 n, rest) :=
  readDigitRun_append Nat.toDigits_ne_nil (Text.isDigits_toDigits n).2 stops

theorem readWhole_toDigits (n : Nat) {rest : List Char} (stops : NoDigit rest) :
    readWhole (Nat.toDigits 10 n ++ rest) = some (Nat.toDigits 10 n, rest) := by
  rcases Nat.eq_zero_or_pos n with rfl | positive
  · rfl
  · rw [readWhole.eq_2, readDigitRun_toDigits n stops]
    intro others same
    obtain ⟨first, more, written, -, zero⟩ := Text.toDigits_eq_cons n
    rw [written, List.cons_append] at same
    have := zero (List.cons.inj same).1
    omega

theorem readExponentDigits_integer (i : Int) {rest : List Char} (stops : NoDigit rest) :
    readExponentDigits ((Text.integer i).toList ++ rest) = some (i, rest) := by
  have digits := Text.toList_natural i.natAbs
  by_cases negative : i < 0
  · rw [Text.integer, if_pos negative, String.toList_append, digits]
    change readExponentDigits ('-' :: (Nat.toDigits 10 i.natAbs ++ rest)) = _
    simp only [readExponentDigits, readDigitRun_toDigits _ stops, Option.map_some,
      Nat.ofDigitChars_ten_toDigits]
    congr 2
    omega
  · have unsigned : ∀ sign more, sign.isDigit = false →
        Nat.toDigits 10 i.natAbs ++ rest ≠ sign :: more := by
      intro sign more noDigit same
      obtain ⟨first, others, written, isDigit, -⟩ := Text.toDigits_eq_cons i.natAbs
      rw [written, List.cons_append] at same
      rw [(List.cons.inj same).1, noDigit] at isDigit
      cases isDigit
    rw [Text.integer, if_neg negative, digits, readExponentDigits.eq_3]
    · simp only [readDigitRun_toDigits _ stops, Option.map_some, Nat.ofDigitChars_ten_toDigits]
      congr 2
      omega
    · exact fun more => unsigned '+' more rfl
    · exact fun more => unsigned '-' more rfl

def writeUnsigned : Numeral → List Char
  | .integer _ magnitude => Nat.toDigits 10 magnitude
  | .decimal _ significand exponent =>
    Nat.toDigits 10 significand ++ 'e' :: (Text.integer exponent).toList

def Numeral.negative : Numeral → Bool
  | .integer negative _ => negative
  | .decimal negative _ _ => negative

theorem writeUnsigned_eq_cons (numeral : Numeral) :
    ∃ first others, writeUnsigned numeral = first :: others ∧ first.isDigit = true := by
  cases numeral with
  | integer negative magnitude =>
      obtain ⟨first, others, written, isDigit, -⟩ := Text.toDigits_eq_cons magnitude
      exact ⟨first, others, written, isDigit⟩
  | decimal negative significand exponent =>
      obtain ⟨first, others, written, isDigit, -⟩ := Text.toDigits_eq_cons significand
      exact ⟨first, _, by rw [writeUnsigned, written, List.cons_append], isDigit⟩

theorem readUnsigned_writeUnsigned (numeral : Numeral) {rest : List Char}
    (ends : EndsNumeral rest) :
    readUnsigned numeral.negative (writeUnsigned numeral ++ rest) = some (numeral, rest) := by
  cases numeral with
  | integer negative magnitude =>
      have noFraction : readFraction rest = some ([], rest) := by
        rw [readFraction.eq_2]
        rintro more rfl
        exact (ends '.' rfl).2.1 rfl
      have noExponent : readExponent rest = some (none, rest) := by
        rw [readExponent.eq_3]
        · rintro more rfl
          exact (ends 'e' rfl).2.2.1 rfl
        · rintro more rfl
          exact (ends 'E' rfl).2.2.2 rfl
      simp [Numeral.negative, writeUnsigned, readUnsigned,
        readWhole_toDigits magnitude ends.noDigit, noFraction, noExponent]
  | decimal negative significand exponent =>
      have stops : NoDigit ('e' :: ((Text.integer exponent).toList ++ rest)) := by
        intro c member
        cases member
        rfl
      simp [Numeral.negative, writeUnsigned, readUnsigned, readWhole_toDigits significand stops,
        readFraction, readExponent, readExponentDigits_integer exponent ends.noDigit]

theorem writeNumeral_eq (numeral : Numeral) :
    writeNumeral numeral = (if numeral.negative then ['-'] else []) ++ writeUnsigned numeral := by
  cases numeral with
  | integer negative magnitude => rfl
  | decimal negative significand exponent =>
      simp only [writeNumeral, writeUnsigned, List.append_assoc, List.cons_append, List.nil_append]
      rfl

theorem readNumeral_writeNumeral (numeral : Numeral) {rest : List Char} (ends : EndsNumeral rest) :
    readNumeral (writeNumeral numeral ++ rest) = some (numeral, rest) := by
  have read := readUnsigned_writeUnsigned numeral ends
  rw [writeNumeral_eq]
  cases sign : numeral.negative with
  | true =>
      rw [sign] at read
      simpa [readNumeral] using read
  | false =>
      rw [sign] at read
      rw [if_neg Bool.false_ne_true, List.nil_append, readNumeral.eq_2, read]
      obtain ⟨first, others, written, isDigit⟩ := writeUnsigned_eq_cons numeral
      intro more same
      rw [written, List.cons_append] at same
      rw [(List.cons.inj same).1] at isDigit
      cases isDigit

/-! ## Values -/

theorem skipSpace_cons {c : Char} (visible : isSpace c = false) (text : List Char) :
    skipSpace (c :: text) = c :: text := by
  rw [skipSpace, List.dropWhile_cons_of_neg (by simp [visible])]

theorem isSpace_of_isDigit {c : Char} (isDigit : c.isDigit = true) : isSpace c = false := by
  cases space : isSpace c with
  | false => rfl
  | true =>
      simp only [isSpace, Bool.or_eq_true, beq_iff_eq] at space
      rcases space with ((rfl | rfl) | rfl) | rfl <;> cases isDigit

theorem writeNumeral_eq_cons (numeral : Numeral) :
    ∃ first others, writeNumeral numeral = first :: others ∧
      (first = '-' ∨ first.isDigit = true) := by
  obtain ⟨first, others, written, isDigit⟩ := writeUnsigned_eq_cons numeral
  rw [writeNumeral_eq]
  cases numeral.negative with
  | true => exact ⟨'-', writeUnsigned numeral, rfl, .inl rfl⟩
  | false => exact ⟨first, others, written, .inr isDigit⟩

theorem readValue_writeNumeral (bound : Nat) (numeral : Numeral) {rest : List Char}
    (ends : EndsNumeral rest) :
    readValue (bound + 1) (writeNumeral numeral ++ rest) = some (.number numeral, rest) := by
  have read := readNumeral_writeNumeral numeral ends
  obtain ⟨first, others, written, start⟩ := writeNumeral_eq_cons numeral
  have visible : isSpace first = false := by
    rcases start with rfl | isDigit
    · rfl
    · exact isSpace_of_isDigit isDigit
  -- No keyword, quote or bracket begins with a minus sign or a digit.
  have other : ∀ c : Char, c ≠ '-' → c.isDigit = false → first ≠ c := by
    rintro c noSign noDigit rfl
    rcases start with sign | isDigit
    · exact noSign sign
    · rw [noDigit] at isDigit
      cases isDigit
  rw [written, List.cons_append] at read ⊢
  rw [readValue.eq_2, skipSpace_cons visible]
  split
  case h_7 => rw [read, Option.map_some]
  all_goals
    rename_i same
    exact absurd (List.cons.inj same).1 (other _ (by decide) (by decide))

/-- The text of a value begins with a character that no reader passes over or takes for a closing
bracket. -/
theorem write_eq_cons (json : Json) :
    ∃ c text, json.write = c :: text ∧ isSpace c = false ∧ c ≠ ']' := by
  cases json with
  | null => exact ⟨'n', ['u', 'l', 'l'], by decide, rfl, by decide⟩
  | bool value =>
      cases value with
      | true => exact ⟨'t', ['r', 'u', 'e'], by decide, rfl, by decide⟩
      | false => exact ⟨'f', ['a', 'l', 's', 'e'], by decide, rfl, by decide⟩
  | number numeral =>
      obtain ⟨first, others, written, start⟩ := writeNumeral_eq_cons numeral
      refine ⟨first, others, written, ?_, ?_⟩
      · rcases start with rfl | isDigit
        · rfl
        · exact isSpace_of_isDigit isDigit
      · rintro rfl
        rcases start with sign | isDigit
        · cases sign
        · cases isDigit
  | string literal =>
      obtain ⟨text, written, -⟩ := readString_writeString literal []
      rw [List.append_nil] at written
      exact ⟨'"', text, written, rfl, by decide⟩
  | array elements =>
      cases elements with
      | nil => exact ⟨'[', _, rfl, rfl, by decide⟩
      | cons first others => exact ⟨'[', _, rfl, rfl, by decide⟩
  | object members =>
      cases members with
      | nil => exact ⟨'\x7b', _, rfl, rfl, by decide⟩
      | cons first others => exact ⟨'\x7b', _, rfl, rfl, by decide⟩

def ReadsBack (json : Json) : Prop :=
  ∀ (bound : Nat) (rest : List Char), 2 * json.write.length ≤ bound → EndsNumeral rest →
    readValue bound (json.write ++ rest) = some (json, rest)

theorem writeElements_endsNumeral (others : List Json) (rest : List Char) :
    EndsNumeral (writeElements others ++ rest) := by
  cases others <;> rintro c ⟨⟩ <;> decide

theorem writeMembers_endsNumeral (others : List (Option String × Json)) (rest : List Char) :
    EndsNumeral (writeMembers others ++ rest) := by
  cases others <;> rintro c ⟨⟩ <;> decide

theorem readElements_write {first : Json} {others : List Json} (back : ReadsBack first)
    (allBack : ∀ json ∈ others, ReadsBack json) {bound : Nat} (rest : List Char)
    (enough : 2 * (first.write.length + (writeElements others).length) < bound) :
    readElements bound (first.write ++ (writeElements others ++ rest)) =
      some (first :: others, rest) := by
  induction others generalizing first bound with
  | nil =>
      cases bound with
      | zero => omega
      | succ bound =>
          have read := back bound _ (by omega) (writeElements_endsNumeral [] rest)
          rw [readElements.eq_2, read]
          rfl
  | cons second others ih =>
      cases bound with
      | zero => omega
      | succ bound =>
          have length_eq : (writeElements (second :: others)).length =
              1 + second.write.length + (writeElements others).length := by
            simp [writeElements]
            omega
          have written : writeElements (second :: others) ++ rest =
              ',' :: (second.write ++ (writeElements others ++ rest)) := by
            simp [writeElements]
          have read := back bound _ (by omega) (writeElements_endsNumeral (second :: others) rest)
          have readOthers : readElements bound
              (second.write ++ (writeElements others ++ rest)) = some (second :: others, rest) :=
            ih (allBack second List.mem_cons_self)
              (fun json member => allBack json (List.mem_cons_of_mem _ member)) (by omega)
          rw [readElements.eq_2, read, written]
          simp [skipSpace_cons (c := ',') rfl, readOthers]

theorem readMembers_write {name : Option String} {value : Json}
    {others : List (Option String × Json)} (back : ReadsBack value)
    (allBack : ∀ member ∈ others, ReadsBack member.2) {bound : Nat} (rest : List Char)
    (enough : 2 * (value.write.length + (writeMembers others).length) < bound) :
    readMembers bound
        (writeString name ++ ':' :: (value.write ++ (writeMembers others ++ rest))) =
      some ((name, value) :: others, rest) := by
  induction others generalizing name value bound with
  | nil =>
      cases bound with
      | zero => omega
      | succ bound =>
          have read := back bound _ (by omega) (writeMembers_endsNumeral [] rest)
          obtain ⟨text, written, readName⟩ := readString_writeString name
            (':' :: (value.write ++ (writeMembers [] ++ rest)))
          rw [readMembers.eq_2, written]
          simp only [skipSpace_cons (c := '"') rfl, readName, skipSpace_cons (c := ':') rfl,
            bind, Option.bind, read]
          rfl
  | cons second others ih =>
      obtain ⟨nextName, nextValue⟩ := second
      cases bound with
      | zero => omega
      | succ bound =>
          have length_eq : (writeMembers ((nextName, nextValue) :: others)).length =
              2 + (writeString nextName).length + nextValue.write.length +
                (writeMembers others).length := by
            simp [writeMembers]
            omega
          have written : writeMembers ((nextName, nextValue) :: others) ++ rest = ',' ::
              (writeString nextName ++
                ':' :: (nextValue.write ++ (writeMembers others ++ rest))) := by
            simp [writeMembers]
          have read := back bound _ (by omega)
            (writeMembers_endsNumeral ((nextName, nextValue) :: others) rest)
          have readOthers := @ih nextName nextValue (allBack _ List.mem_cons_self)
            (fun member inside => allBack member (List.mem_cons_of_mem _ inside)) bound (by omega)
          obtain ⟨text, writtenName, readName⟩ := readString_writeString name
            (':' :: (value.write ++ (writeMembers ((nextName, nextValue) :: others) ++ rest)))
          rw [readMembers.eq_2, writtenName]
          simp only [skipSpace_cons (c := '"') rfl, readName, skipSpace_cons (c := ':') rfl,
            bind, Option.bind, read]
          simp only [written, skipSpace_cons (c := ',') rfl, readOthers]
          rfl

theorem ReadsBack.of_succ {json : Json}
    (read : ∀ (bound : Nat) (rest : List Char), 2 * json.write.length ≤ bound + 1 →
      EndsNumeral rest → readValue (bound + 1) (json.write ++ rest) = some (json, rest)) :
    ReadsBack json := by
  intro bound rest enough ends
  cases bound with
  | zero =>
      obtain ⟨c, text, written, -⟩ := write_eq_cons json
      rw [written, List.length_cons] at enough
      omega
  | succ bound => exact read bound rest enough ends

theorem readsBack_null : ReadsBack .null := by
  refine .of_succ fun bound rest _ _ => ?_
  have written : write .null = ['n', 'u', 'l', 'l'] := by decide
  rw [written, readValue.eq_2]
  rfl

theorem readsBack_bool (value : Bool) : ReadsBack (.bool value) := by
  refine .of_succ fun bound rest _ _ => ?_
  cases value with
  | true =>
      have written : write (.bool true) = ['t', 'r', 'u', 'e'] := by decide
      rw [written, readValue.eq_2]
      rfl
  | false =>
      have written : write (.bool false) = ['f', 'a', 'l', 's', 'e'] := by decide
      rw [written, readValue.eq_2]
      rfl

theorem readsBack_string (literal : Option String) : ReadsBack (.string literal) := by
  refine .of_succ fun bound rest _ _ => ?_
  obtain ⟨text, written, read⟩ := readString_writeString literal rest
  change readValue (bound + 1) (writeString literal ++ rest) = _
  rw [written, readValue.eq_2, skipSpace_cons rfl]
  simp only [read, Option.map_some]

theorem readsBack_array {elements : List Json} (back : ∀ json ∈ elements, ReadsBack json) :
    ReadsBack (.array elements) := by
  refine .of_succ fun bound rest enough _ => ?_
  cases elements with
  | nil => rfl
  | cons first others =>
      have written : write (.array (first :: others)) ++ rest =
          '[' :: (first.write ++ (writeElements others ++ rest)) := by
        simp [write]
      have length_eq : (write (.array (first :: others))).length =
          1 + first.write.length + (writeElements others).length := by
        simp [write]
        omega
      have read : readElements bound (first.write ++ (writeElements others ++ rest)) =
          some (first :: others, rest) :=
        readElements_write (back first List.mem_cons_self)
          (fun json member => back json (List.mem_cons_of_mem _ member)) rest (by omega)
      obtain ⟨c, text, start, visible, noBracket⟩ := write_eq_cons first
      rw [written, readValue.eq_2, skipSpace_cons rfl]
      rw [start, List.cons_append] at read ⊢
      simp only [skipSpace_cons visible]
      split
      next same => exact absurd (List.cons.inj same).1 noBracket
      next => rw [read, Option.map_some]

theorem readsBack_object {members : List (Option String × Json)}
    (back : ∀ member ∈ members, ReadsBack member.2) : ReadsBack (.object members) := by
  refine .of_succ fun bound rest enough _ => ?_
  cases members with
  | nil => rfl
  | cons first others =>
      obtain ⟨name, value⟩ := first
      have written : write (.object ((name, value) :: others)) ++ rest = '\x7b' ::
          (writeString name ++ ':' :: (value.write ++ (writeMembers others ++ rest))) := by
        simp [write]
      have length_eq : (write (.object ((name, value) :: others))).length =
          2 + (writeString name).length + value.write.length + (writeMembers others).length := by
        simp [write]
        omega
      have read := @readMembers_write name value others (back _ List.mem_cons_self)
        (fun member inside => back member (List.mem_cons_of_mem _ inside)) bound rest (by omega)
      obtain ⟨text, start, -⟩ := readString_writeString name
        (':' :: (value.write ++ (writeMembers others ++ rest)))
      rw [written, readValue.eq_2, skipSpace_cons rfl]
      rw [start] at read ⊢
      simp only [skipSpace_cons (c := '"') rfl]
      split
      next same => cases (List.cons.inj same).1
      next => rw [read, Option.map_some]

theorem sizeOf_member_lt {member : Option String × Json} {members : List (Option String × Json)}
    (inside : member ∈ members) : sizeOf member.2 < sizeOf members := by
  have smaller := List.sizeOf_lt_of_mem inside
  have size : sizeOf member = 1 + sizeOf member.1 + sizeOf member.2 := rfl
  omega

theorem readsBack (json : Json) : ReadsBack json :=
  match json with
  | .null => readsBack_null
  | .bool value => readsBack_bool value
  | .number numeral => .of_succ fun bound _ _ ends => readValue_writeNumeral bound numeral ends
  | .string literal => readsBack_string literal
  | .array elements => readsBack_array fun element _ => readsBack element
  | .object members => readsBack_object fun member inside =>
      have := sizeOf_member_lt inside
      readsBack member.2
termination_by sizeOf json

/-- JSON text that was written is read back as the value it was written for. -/
theorem parse?_write (json : Json) : parse? json.write = some json := by
  have read := readsBack json (2 * json.write.length + 2) [] (by omega) (by rintro c ⟨⟩)
  rw [List.append_nil] at read
  rw [parse?, read]
  rfl

theorem parse?_text (json : Json) : parse? json.text.toList = some json := by
  rw [text, String.toList_ofList, parse?_write]

end Checkout.Json

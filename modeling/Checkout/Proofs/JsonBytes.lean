import Checkout.Json.Decode
import Checkout.Proofs.JsonTexts
import Checkout.Proofs.Numerals

/-!
# JSON in bytes

The bytes of a text denote what the text denotes.  A byte that belongs to no character is no part of
a token but a string literal, and a literal that holds one has no text: it is refused where its text
is wanted, and only there.
-/

set_option autoImplicit false

namespace Checkout.Json

theorem flatMap_written_char (chars : List Char) :
    (chars.map Text.Symbol.char).flatMap written = chars := by
  rw [List.flatMap_map]
  exact List.flatMap_singleton' chars

/-- The bytes of a text denote what the text denotes. -/
theorem parseBytes?_utf8 (text : String) : parseBytes? (Text.utf8 text) = parse? text.toList := by
  rw [parseBytes?, Text.symbols_utf8, flatMap_written_char]

theorem decodeBytes_utf8 {α : Type} (decoder : Decoder α) (text : String) :
    decodeBytes decoder (Text.utf8 text) = decodeText decoder text := by
  rw [decodeBytes, parseBytes?_utf8, decodeText]

theorem parseBytes?_text (json : Json) : parseBytes? (Text.utf8 json.text) = some json := by
  rw [parseBytes?_utf8, parse?_text]

/-! ## Characters behind what is read -/

theorem of_flatMap_written {symbols : List Text.Symbol} {c : Char} {rest : List Char}
    (begins : symbols.flatMap written = c :: rest) (other : c ≠ 'x') :
    ∃ others, symbols = .char c :: others ∧ others.flatMap written = rest := by
  cases symbols with
  | nil => cases begins
  | cons symbol others =>
      cases symbol with
      | char c =>
          cases begins
          exact ⟨others, rfl, rfl⟩
      | stray byte => exact absurd (List.cons.inj begins).1.symm other

/-- Only the letter that a mark begins with can stand for something else than itself. -/
theorem of_flatMap_written_append {front rest : List Char} (others : ∀ c ∈ front, c ≠ 'x')
    {symbols : List Text.Symbol} (begins : symbols.flatMap written = front ++ rest) :
    ∃ back, symbols = front.map .char ++ back ∧ back.flatMap written = rest := by
  induction front generalizing symbols with
  | nil => exact ⟨symbols, rfl, begins⟩
  | cons c front ih =>
      obtain ⟨other, others⟩ := List.forall_mem_cons.mp others
      obtain ⟨symbols', same, begins'⟩ := of_flatMap_written begins other
      obtain ⟨back, same', follows⟩ := ih others begins'
      exact ⟨back, by rw [same, same', List.map_cons, List.cons_append], follows⟩

theorem ne_x_of_hexValues? {digits : List Char} {values : List (Fin 16)}
    (hex : Text.hexValues? digits = some values) : ∀ c ∈ digits, c ≠ 'x' := by
  rintro _ inside rfl
  have isDigit : Text.IsHexDigit 'x' := (Text.of_hexValues? hex).1 _ inside
  exact absurd isDigit (by decide)

theorem readValue_strayMark (bound : Nat) (text : List Char) :
    readValue bound (strayMark ++ text) = none := by
  cases bound <;> rfl

/-! ## Literals -/

def strayPieces : List Piece := [.char 'x', .half 0xDC00]

theorem readPieces_strayMark (text : List Char) :
    readPieces (strayMark ++ text) =
      (readPieces text).map (Prod.map (strayPieces ++ ·) id) := by
  have escape : readPieces (strayMark.tail ++ text) =
      (readPieces text).map (Prod.map (.half 0xDC00 :: ·) id) := by
    have unit : Text.hexValues? ['d', 'c', '0', '0'] = some [13, 12, 0, 0] := by decide
    refine (readPieces.eq_3 'd' 'c' '0' '0' text).trans ?_
    rw [unit]
    cases readPieces text <;> rfl
  have letter : readPieces (strayMark ++ text) = _ :=
    readPieces.eq_5 'x' (strayMark.tail ++ text) (by simp) (by simp) (by simp)
  rw [letter, escape]
  cases readPieces text <;> rfl

theorem joinPieces?_of_stray {pieces : List Piece} (stray : strayPieces <:+: pieces) :
    joinPieces? pieces = none := by
  induction pieces using joinPieces?.induct with
  | case1 => cases List.infix_nil.mp stray
  | case2 c rest ih =>
      rcases List.infix_cons_iff.mp stray with ⟨after, same⟩ | stray
      -- The half that stands for a byte has no partner, whatever follows it.
      · have rest_eq : rest = .half 0xDC00 :: after := (List.cons.inj same).2.symm
        have half : joinPieces? (.half 0xDC00 :: after) = none := by
          cases after with
          | nil => rfl
          | cons piece after => cases piece <;> rfl
        rw [joinPieces?, rest_eq, half]
        rfl
      · rw [joinPieces?, ih stray]
        rfl
  | case3 high low rest ih =>
      rcases List.infix_cons_iff.mp stray with ⟨after, ⟨⟩⟩ | stray
      rcases List.infix_cons_iff.mp stray with ⟨after, ⟨⟩⟩ | stray
      rw [joinPieces?, ih stray]
      cases joinHalves? high low <;> rfl
  | case4 unit tail single => rw [joinPieces?.eq_4 _ _ single]

/-- A literal that is read without the parts of a stray byte has taken none. -/
theorem readPieces_characters {text rest : List Char} {pieces : List Piece}
    (read : readPieces text = some (pieces, rest)) (clean : ¬ strayPieces <:+: pieces)
    {symbols : List Text.Symbol} (same : symbols.flatMap written = text) :
    ∃ (front : List Char) (back : List Text.Symbol),
      symbols = front.map .char ++ back ∧ back.flatMap written = rest := by
  induction text using readPieces.induct generalizing pieces rest symbols with
  | case1 => cases read
  | case2 rest =>
      cases read
      obtain ⟨back, begins, follows⟩ := of_flatMap_written same (by decide)
      exact ⟨['"'], back, begins, follows⟩
  | case3 a b c d rest ih =>
      simp only [readPieces.eq_3, Option.bind_eq_bind, Option.bind_eq_some_iff, Prod.exists,
        Option.pure_def, Option.some.injEq, Prod.mk.injEq] at read
      obtain ⟨digits, hex, others, after, inRest, rfl, rfl⟩ := read
      have letters : ∀ letter ∈ ['\\', 'u', a, b, c, d], letter ≠ 'x' :=
        List.forall_mem_cons.mpr ⟨by decide,
          List.forall_mem_cons.mpr ⟨by decide, ne_x_of_hexValues? hex⟩⟩
      obtain ⟨symbols', begins, follows⟩ := of_flatMap_written_append letters same
      obtain ⟨front, back, rfl, end_eq⟩ :=
        ih inRest (fun stray => clean (List.infix_cons stray)) follows
      exact ⟨['\\', 'u', a, b, c, d] ++ front, back, by simp [begins], end_eq⟩
  | case4 letter rest single ih =>
      simp only [readPieces.eq_4 _ _ single, Option.bind_eq_bind, Option.bind_eq_some_iff,
        Prod.exists, Option.pure_def, Option.some.injEq, Prod.mk.injEq] at read
      obtain ⟨c, named, others, after, inRest, rfl, rfl⟩ := read
      have letters : ∀ c ∈ ['\\', letter], c ≠ 'x' := by
        have other : letter ≠ 'x' := by
          rintro rfl
          cases named
        simp [other]
      obtain ⟨symbols', begins, follows⟩ := of_flatMap_written_append letters same
      obtain ⟨front, back, rfl, end_eq⟩ :=
        ih inRest (fun stray => clean (List.infix_cons stray)) follows
      exact ⟨['\\', letter] ++ front, back, by simp [begins], end_eq⟩
  | case5 c rest quote long short bad =>
      rw [readPieces.eq_5 _ _ quote long short, if_pos bad] at read
      cases read
  | case6 c rest quote long short good ih =>
      cases symbols with
      | nil => cases same
      | cons symbol symbols =>
          cases symbol with
          | char c =>
              cases same
              simp only [readPieces.eq_5 _ _ quote long short, if_neg good, Option.bind_eq_bind,
                Option.bind_eq_some_iff, Prod.exists, Option.pure_def, Option.some.injEq,
                Prod.mk.injEq] at read
              obtain ⟨others, after, inRest, rfl, rfl⟩ := read
              obtain ⟨front, back, rfl, end_eq⟩ :=
                ih inRest (fun stray => clean (List.infix_cons stray)) rfl
              exact ⟨c :: front, back, rfl, end_eq⟩
          -- The parts of the byte would be the first ones.
          | stray byte =>
              rw [← same, List.flatMap_cons, written, readPieces_strayMark] at read
              obtain ⟨⟨others, after⟩, -, same⟩ := Option.map_eq_some_iff.mp read
              cases same
              exact absurd (List.prefix_append strayPieces others).isInfix clean

/-- A literal with a text holds characters only. -/
theorem readString_characters {symbols : List Text.Symbol} {text : String} {rest : List Char}
    (read : readString (symbols.flatMap written) = some (some text, rest)) :
    ∃ (front : List Char) (back : List Text.Symbol),
      symbols = front.map .char ++ back ∧ back.flatMap written = rest := by
  simp only [readString, Option.bind_eq_bind, Option.bind_eq_some_iff, Prod.exists,
    Option.pure_def, Option.some.injEq, Prod.mk.injEq] at read
  obtain ⟨pieces, after, inText, joined, rfl⟩ := read
  refine readPieces_characters inText (fun stray => ?_) rfl
  rw [joinPieces?_of_stray stray] at joined
  cases joined

example : parseBytes? (Text.utf8 "[7,\"" ++ 0xFF :: Text.utf8 "\"]") =
    some (.array [.ofInt 7, .string none]) :=
  rfl

end Checkout.Json

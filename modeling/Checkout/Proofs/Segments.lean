import Checkout.Http.Client
import Checkout.Proofs.Texts

/-!
# Identifiers in paths

An identifier is added to the path of a base URL as one segment, and its bytes are read back from the
percent-encoded text of that segment.  This holds of every identifier but those that are one or two
dots and those with a tab or a line break in it, which is dropped before the segment is added.
-/

set_option autoImplicit false

namespace Checkout.Url

/-! ## Percent encoding -/

theorem percentDecode_percentByte (byte : UInt8) (rest : List Char) :
    percentDecode (percentByte byte ++ rest) = byte :: percentDecode rest := by
  have bound : byte.toNat < 256 := byte.toNat_lt
  have value : 16 * (Text.lastHexDigit (byte.toNat / 16)).val +
      (Text.lastHexDigit byte.toNat).val = byte.toNat := by
    simp only [Text.lastHexDigit, Fin.ofNat]
    omega
  simp only [percentByte, List.cons_append, List.nil_append, percentDecode,
    Text.hexValue?_hexDigitUpper, value, UInt8.ofNat_toNat]

theorem percentDecode_percentBytes (bytes : List UInt8) (rest : List Char) :
    percentDecode (bytes.flatMap percentByte ++ rest) = bytes ++ percentDecode rest := by
  induction bytes with
  | nil => rfl
  | cons byte bytes ih =>
      rw [List.flatMap_cons, List.append_assoc, percentDecode_percentByte, ih, List.cons_append]

theorem percentDecode_cons {c : Char} (plain : c ≠ '%') (rest : List Char) :
    percentDecode (c :: rest) = String.utf8EncodeChar c ++ percentDecode rest := by
  rw [percentDecode]
  intro high low others same
  exact absurd same plain

/-- What was encoded is decoded to its bytes, if percent signs were not left as they are. -/
theorem percentDecode_percentEncode {reserved : Char → Bool} (escapes : reserved '%' = true)
    (text : List Char) :
    percentDecode (percentEncode reserved text) = text.flatMap String.utf8EncodeChar := by
  induction text with
  | nil => rfl
  | cons c text ih =>
      rw [percentEncode, List.flatMap_cons, List.flatMap_cons, percentChar]
      by_cases escaped : (isUnprintable c || reserved c) = true
      · rw [if_pos escaped, percentDecode_percentBytes]
        exact congrArg _ ih
      · have plain : c ≠ '%' := by
          intro same
          rw [same, escapes, Bool.or_true] at escaped
          exact escaped rfl
        rw [if_neg escaped, List.cons_append, List.nil_append, percentDecode_cons plain]
        exact congrArg _ ih

namespace Path

/-! ## Dots -/

theorem percentDecode_of_isDot {text : List Char} (dot : isDot text = true) :
    percentDecode text = Text.utf8 "." := by
  unfold isDot at dot
  split at dot
  · decide
  · decide
  · decide
  · cases dot

theorem percentDecode_of_isTwoDots {text : List Char} (dots : isTwoDots text = true) :
    percentDecode text = Text.utf8 ".." := by
  unfold isTwoDots at dots
  split at dots
  · rename_i rest
    rw [percentDecode_cons (by decide), percentDecode_of_isDot dots]
    decide
  · rename_i e rest
    obtain ⟨digit, dot⟩ := (Bool.and_eq_true _ _).mp dots
    rcases (Bool.or_eq_true _ _).mp digit with lower | upper
    · rw [beq_iff_eq.mp lower]
      change 46 :: percentDecode rest = _
      rw [percentDecode_of_isDot dot]
      decide
    · rw [beq_iff_eq.mp upper]
      change 46 :: percentDecode rest = _
      rw [percentDecode_of_isDot dot]
      decide
  · cases dots

theorem percentDecode_segment (special : Bool) (text : List Char) :
    percentDecode (percentEncode (inSegment special) text) = Text.utf8 (String.ofList text) := by
  have escapes : inSegment special '%' = true := by
    cases special
    · decide
    · decide
  rw [percentDecode_percentEncode escapes, Text.utf8_eq_flatMap, String.toList_ofList]

theorem eq_of_percentDecode {special : Bool} {text : List Char} {other : String}
    (same : percentDecode (percentEncode (inSegment special) text) = Text.utf8 other) :
    String.ofList text = other := by
  rw [percentDecode_segment] at same
  exact Text.utf8_inj same

/-! ## Segments -/

def withoutEmptyEnd (path : Path) : Path :=
  if path.getLast? = some "" then path.dropLast else path

/-- The characters of an identifier that are not dropped. -/
def kept (identifier : String) : List Char :=
  identifier.toList.filter fun c => ! (c == '\t' || c == '\n' || c == '\r')

/-- An identifier that is neither one dot nor two, and of which no character is dropped. -/
structure IsPlain (identifier : String) : Prop where
  not_dot : identifier ≠ "."
  not_two_dots : identifier ≠ ".."
  all_kept : ∀ c ∈ identifier.toList, c ≠ '\t' ∧ c ≠ '\n' ∧ c ≠ '\r'

theorem kept_eq_toList_iff (identifier : String) :
    kept identifier = identifier.toList ↔
      ∀ c ∈ identifier.toList, c ≠ '\t' ∧ c ≠ '\n' ∧ c ≠ '\r' := by
  rw [kept, List.filter_eq_self]
  simp only [Bool.not_eq_true', Bool.or_eq_false_iff, beq_eq_false_iff_ne, and_assoc, ne_eq]

/-- More segments are added to the path without an empty segment at its end; only a path of two empty
segments loses both. -/
theorem stem_popEmpty (path : Path) :
    stem (popEmpty path) = if path = ["", ""] then [] else withoutEmptyEnd path := by
  have popped : ∀ first second rest, popEmpty (first :: second :: rest) =
      withoutEmptyEnd (first :: second :: rest) := by
    intro first second rest
    exact if_neg (Nat.not_le.mpr (Nat.succ_lt_succ (Nat.succ_pos _)))
  match path with
  | [] => rfl
  | [only] =>
      by_cases empty : only = ""
      · rw [empty]
        decide
      · simp [stem, popEmpty, withoutEmptyEnd, empty]
  | [first, second] =>
      rw [popped]
      by_cases empty : second = ""
      · by_cases both : first = ""
        · rw [both, empty]
          decide
        · simp [stem, withoutEmptyEnd, empty, both]
      · simp [stem, withoutEmptyEnd, empty]
  | first :: second :: third :: rest =>
      have long : withoutEmptyEnd (first :: second :: third :: rest) ≠ [""] := by
        unfold withoutEmptyEnd
        split
        · simp
        · simp
      rw [popped, stem, if_neg long, if_neg (by simp)]

theorem pop_append (base : Path) (last : String) : pop false (base ++ [last]) = base := by
  match base with
  | [] => rfl
  | [first] => rfl
  | first :: second :: rest =>
      have dropped : ((first :: second :: rest) ++ [last]).dropLast = first :: second :: rest :=
        List.dropLast_concat
      exact dropped

/-- What the segments `first` and `identifier` add to a path. -/
inductive Adds (first identifier : String) : List String → Prop where
  | skipped (dots : identifier = "." ∨ identifier = "..") : Adds first identifier [first]
  | emptied (dot : kept identifier = ['.']) : Adds first identifier [first, ""]
  | removed (dots : kept identifier = ['.', '.']) : Adds first identifier [""]
  | added (segment : String) (not_dot : identifier ≠ ".") (not_two_dots : identifier ≠ "..")
      (decoded : percentDecode segment.toList = Text.utf8 (String.ofList (kept identifier))) :
      Adds first identifier [first, segment]

theorem adds_of_add {first : String} (named : first ≠ "") (base : Path) (identifier : String) :
    ∃ tail, Adds first identifier tail ∧
      add true false (base ++ [first]) identifier = base ++ tail := by
  by_cases dots : identifier = "." ∨ identifier = ".."
  -- An identifier of one or two dots is passed over before anything is dropped from it.
  · refine ⟨_, .skipped dots, ?_⟩
    rw [add, if_pos dots]
  · have stem_eq : stem (base ++ [first]) = base ++ [first] := by
      rw [stem, if_neg]
      intro same
      have last := congrArg List.getLast? same
      rw [List.getLast?_concat] at last
      exact named (Option.some.inj last)
    let text := percentEncode (inSegment true) (kept identifier)
    have add_eq : add true false (base ++ [first]) identifier =
        step false true (base ++ [first]) text := by
      rw [add, if_neg dots, stem_eq]
      rfl
    rw [add_eq, step]
    -- What is left of the identifier may still be dots, and is then taken as a step in the path.
    by_cases twoDots : isTwoDots text = true
    · have kept_eq := eq_of_percentDecode (percentDecode_of_isTwoDots twoDots)
      refine ⟨_, .removed ?_, ?_⟩
      · rw [← String.toList_ofList (l := kept identifier), kept_eq]
        rfl
      · rw [if_pos twoDots, if_pos rfl, pop_append]
    · rw [if_neg twoDots]
      by_cases dot : isDot text = true
      · have kept_eq := eq_of_percentDecode (percentDecode_of_isDot dot)
        refine ⟨_, .emptied ?_, ?_⟩
        · rw [← String.toList_ofList (l := kept identifier), kept_eq]
          rfl
        · rw [if_pos dot, if_pos rfl, List.append_assoc]
          rfl
      · rw [if_neg dot]
        refine ⟨_, .added (String.ofList text) ?_ ?_ ?_, ?_⟩
        · exact fun same => dots (Or.inl same)
        · exact fun same => dots (Or.inr same)
        · rw [String.toList_ofList]
          exact percentDecode_segment true (kept identifier)
        · rw [List.append_assoc]
          rfl

structure IsWord (first : String) : Prop where
  not_empty : first ≠ ""
  unchanged : ∀ base, add true false base first = stem base ++ [first]

theorem isWord_of_mem {first : String} (word : first = "carts" ∨ first = "products") :
    IsWord first := by
  rcases word with rfl | rfl
  · exact ⟨by decide, fun base => rfl⟩
  · exact ⟨by decide, fun base => rfl⟩

theorem extend_pair (path : Path) {first : String} (word : IsWord first) (identifier : String) :
    ∃ tail, Adds first identifier tail ∧
      extend true false path [first, identifier] = stem (popEmpty path) ++ tail := by
  obtain ⟨tail, adds, added⟩ := adds_of_add word.not_empty (stem (popEmpty path)) identifier
  refine ⟨tail, adds, ?_⟩
  rw [← added, ← word.unchanged]
  rfl

theorem Adds.of_plain {first identifier : String} {tail : List String}
    (adds : Adds first identifier tail) (plain : IsPlain identifier) :
    ∃ segment, tail = [first, segment] ∧ percentDecode segment.toList = Text.utf8 identifier := by
  have all_kept := (kept_eq_toList_iff identifier).mpr plain.all_kept
  have text_eq : String.ofList (kept identifier) = identifier := by
    rw [all_kept, String.ofList_toList]
  cases adds with
  | skipped dots =>
      rcases dots with dot | twoDots
      · exact absurd dot plain.not_dot
      · exact absurd twoDots plain.not_two_dots
  | emptied dot =>
      rw [dot] at text_eq
      exact absurd text_eq.symm plain.not_dot
  | removed dots =>
      rw [dots] at text_eq
      exact absurd text_eq.symm plain.not_two_dots
  | added segment not_dot not_two_dots decoded =>
      rw [text_eq] at decoded
      exact ⟨segment, rfl, decoded⟩

/-- Nothing but a plain identifier adds the two segments that tell it. -/
theorem Adds.isPlain {first identifier segment : String}
    (adds : Adds first identifier [first, segment])
    (decoded : percentDecode segment.toList = Text.utf8 identifier) : IsPlain identifier := by
  cases adds with
  | emptied dot =>
      have empty : "" = identifier := Text.utf8_inj decoded
      rw [← empty] at dot
      cases dot
  | added _ not_dot not_two_dots keptDecoded =>
      have text_eq := Text.utf8_inj (keptDecoded.symm.trans decoded)
      have all_kept : kept identifier = identifier.toList := by
        rw [← text_eq, String.toList_ofList, text_eq]
      exact ⟨not_dot, not_two_dots, (kept_eq_toList_iff identifier).mp all_kept⟩

/-- An identifier is added unchanged exactly if it is plain, and the path is not of two empty
segments. -/
theorem added_unchanged_iff (path : Path) {first : String} (word : IsWord first)
    (identifier : String) :
    (∃ segment, extend true false path [first, identifier] =
        withoutEmptyEnd path ++ [first, segment] ∧
      percentDecode segment.toList = Text.utf8 identifier) ↔
    path ≠ ["", ""] ∧ IsPlain identifier := by
  obtain ⟨tail, adds, extended⟩ := extend_pair path word identifier
  rw [extended, stem_popEmpty]
  constructor
  · rintro ⟨segment, same, decoded⟩
    -- Of a path of two empty segments nothing is left, so it comes out one segment short.
    have single : path ≠ ["", ""] := by
      intro double
      rw [if_pos double, double] at same
      have lengths := congrArg List.length same
      cases adds <;> simp [withoutEmptyEnd] at lengths
    rw [if_neg single] at same
    rw [List.append_cancel_left same] at adds
    exact ⟨single, adds.isPlain decoded⟩
  · rintro ⟨single, plain⟩
    obtain ⟨segment, tail_eq, decoded⟩ := adds.of_plain plain
    rw [if_neg single, tail_eq]
    exact ⟨segment, rfl, decoded⟩

/-- Plain identifiers that are added to one path can be told apart. -/
theorem extend_pair_inj (path : Path) {first : String} (word : IsWord first)
    {identifier other : String} (plain : IsPlain identifier) (plainOther : IsPlain other)
    (same : extend true false path [first, identifier] = extend true false path [first, other]) :
    identifier = other := by
  obtain ⟨tail, adds, extended⟩ := extend_pair path word identifier
  obtain ⟨tailOther, addsOther, extendedOther⟩ := extend_pair path word other
  obtain ⟨segment, tail_eq, decoded⟩ := adds.of_plain plain
  obtain ⟨segmentOther, tailOther_eq, decodedOther⟩ := addsOther.of_plain plainOther
  rw [extended, extendedOther, tail_eq, tailOther_eq] at same
  have segments := List.append_cancel_left same
  simp only [List.cons.injEq, true_and, and_true] at segments
  rw [segments] at decoded
  exact Text.utf8_inj (decoded.symm.trans decodedOther)

end Path

theorem extend_http {url : Url} (http : url.scheme = "http" ∨ url.scheme = "https")
    (segments : List String) :
    (url.extend segments).path = url.path.extend true false segments := by
  rcases http with scheme | scheme
  · rw [extend, scheme]
    rfl
  · rw [extend, scheme]
    rfl

end Checkout.Url

namespace Checkout

open Url.Path

/-- Under an HTTP address, an identifier of a cart or a product is one segment of the path, from
which it can be read back, exactly if it is plain and the path is not of two empty segments; and
plain identifiers have different URLs. -/
theorem identifier_unchanged_iff {base first : String} {url : Url}
    (parsed : Url.parse? base = some url) (http : url.scheme = "http" ∨ url.scheme = "https")
    (named : first = "carts" ∨ first = "products") (identifier : String) :
    ∃ extended, Http.urlUnder base [first, identifier] = .ok extended ∧
      ((∃ segment, extended.path = withoutEmptyEnd url.path ++ [first, segment] ∧
          Url.percentDecode segment.toList = Text.utf8 identifier) ↔
        url.path ≠ ["", ""] ∧ IsPlain identifier) ∧
      ∀ other, IsPlain identifier → IsPlain other →
        Http.urlUnder base [first, other] = .ok extended → identifier = other := by
  have under : ∀ segments, Http.urlUnder base segments = .ok (url.extend segments) := by
    intro segments
    rw [Http.urlUnder, parsed]
  have word := isWord_of_mem named
  refine ⟨_, under _, ?_, ?_⟩
  · rw [Url.extend_http http]
    exact added_unchanged_iff url.path word identifier
  · intro other plain plainOther same
    rw [under] at same
    have paths := congrArg Url.path (Except.ok.inj same)
    rw [Url.extend_http http, Url.extend_http http] at paths
    exact extend_pair_inj url.path word plain plainOther paths.symm

namespace Sample

def cartAddress : Url :=
  ⟨"http", "", "", some (.domain "cart"), some 7070, ["api", ""], none, none⟩

theorem parse_cartAddress : Url.parse? "http://cart:7070/api/" = some cartAddress := by
  decide +kernel

end Sample

/-- A plain identifier, with marks of its own. -/
theorem identifier_unchanged_iff_of_marks :
    ∃ extended segment,
      Http.urlUnder "http://cart:7070/api/" ["carts", "x/../bob?y=1#z"] = .ok extended ∧
      extended.path = ["api", "carts", segment] ∧
      Url.percentDecode segment.toList = Text.utf8 "x/../bob?y=1#z" := by
  obtain ⟨extended, under, unchanged, told⟩ := identifier_unchanged_iff Sample.parse_cartAddress
    (Or.inl rfl) (Or.inl rfl) "x/../bob?y=1#z"
  have all_kept := (kept_eq_toList_iff "x/../bob?y=1#z").mp (by decide)
  obtain ⟨segment, path_eq, decoded⟩ := unchanged.mpr ⟨by decide, by decide, by decide, all_kept⟩
  exact ⟨extended, segment, under, path_eq, decoded⟩

/-- An identifier with a tab in it is changed: the tab is dropped. -/
theorem identifier_changed :
    ¬ ∀ (base : String) (url : Url) (identifier : String), Url.parse? base = some url →
      url.scheme = "http" ∨ url.scheme = "https" → Text.isBlankText identifier = false →
      ∃ extended segment, Http.urlUnder base ["carts", identifier] = .ok extended ∧
        extended.path = withoutEmptyEnd url.path ++ ["carts", segment] ∧
        Url.percentDecode segment.toList = Text.utf8 identifier := by
  intro claimed
  obtain ⟨extended, segment, under, path_eq, decoded⟩ := claimed "http://cart:7070/api/"
    Sample.cartAddress "a\tb" Sample.parse_cartAddress (Or.inl rfl) (by decide)
  rw [Http.urlUnder, Sample.parse_cartAddress] at under
  cases under
  rw [Url.extend_http (Or.inl rfl)] at path_eq
  obtain ⟨single, plain⟩ := (added_unchanged_iff Sample.cartAddress.path
    (isWord_of_mem (Or.inl rfl)) "a\tb").mp ⟨segment, path_eq, decoded⟩
  exact (plain.all_kept '\t' (by decide)).1 rfl

end Checkout

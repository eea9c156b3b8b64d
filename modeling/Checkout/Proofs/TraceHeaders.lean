import Checkout.Proofs.HeaderTexts
import Checkout.TraceContext

/-!
# Headers of traces

The headers of a trace are read back as the same trace exactly if its baggage is clean: nothing in a
key or a value stands for the layout of the header, and neither begins or ends with a blank.  Baggage
that was read is always clean, so headers that are not read back are never repaired by reading: no
unclean entries, in whatever order they are joined, come out as what they were.
-/

set_option autoImplicit false

namespace Checkout

open Text

/-! ## Clean baggage -/

namespace Baggage

/-- A text that can stand for a key between commas and before an equals sign. -/
structure CleanKey (key : String) : Prop where
  nonempty : key ≠ ""
  trimmed : Trimmed key.toList
  free : ∀ c ∈ key.toList, c ≠ ',' ∧ c ≠ ';' ∧ c ≠ '='

/-- A text that can stand for a value; it may hold equals signs, which follow the first one. -/
structure CleanValue (value : String) : Prop where
  trimmed : Trimmed value.toList
  free : ∀ c ∈ value.toList, c ≠ ',' ∧ c ≠ ';'

structure Clean (baggage : Baggage) : Prop where
  keys : ∀ entry ∈ baggage.entries, CleanKey entry.1
  values : ∀ entry ∈ baggage.entries, CleanValue entry.2

instance (key : String) : Decidable (CleanKey key) :=
  decidable_of_iff (key ≠ "" ∧ Trimmed key.toList ∧
      key.toList.all fun c => c ≠ ',' ∧ c ≠ ';' ∧ c ≠ '=')
    ⟨fun ⟨nonempty, trimmed, free⟩ => ⟨nonempty, trimmed, by simpa using free⟩,
      fun ⟨nonempty, trimmed, free⟩ => ⟨nonempty, trimmed, by simpa using free⟩⟩

instance (value : String) : Decidable (CleanValue value) :=
  decidable_of_iff (Trimmed value.toList ∧ value.toList.all fun c => c ≠ ',' ∧ c ≠ ';')
    ⟨fun ⟨trimmed, free⟩ => ⟨trimmed, by simpa using free⟩,
      fun ⟨trimmed, free⟩ => ⟨trimmed, by simpa using free⟩⟩

instance (baggage : Baggage) : Decidable baggage.Clean :=
  decidable_of_iff ((∀ entry ∈ baggage.entries, CleanKey entry.1) ∧
      ∀ entry ∈ baggage.entries, CleanValue entry.2)
    ⟨fun ⟨keys, values⟩ => ⟨keys, values⟩, fun ⟨keys, values⟩ => ⟨keys, values⟩⟩

def member (entry : String × String) : List Char :=
  entry.1.toList ++ '=' :: entry.2.toList

theorem toList_header (baggage : Baggage) :
    baggage.header.toList = [','].intercalate (baggage.entries.map member) := by
  rw [header, String.toList_intercalate, List.map_map]
  congr 1
  refine List.map_congr_left fun entry _ => ?_
  simp [member]

theorem not_mem_member {entry : String × String} {c : Char} (different : c ≠ '=')
    (key : c ∉ entry.1.toList) (value : c ∉ entry.2.toList) : c ∉ member entry := by
  simp [member, different, key, value]

theorem ofMember?_member {entry : String × String} (key : CleanKey entry.1)
    (value : CleanValue entry.2) : ofMember? (member entry) = some entry := by
  have whole : (member entry).takeWhile (· != ';') = member entry := by
    refine List.takeWhile_eq_self_iff.mpr fun c inside => bne_iff_ne.mpr fun same => ?_
    subst same
    exact not_mem_member (by decide) (fun inKey => (key.free _ inKey).2.1 rfl)
      (fun inValue => (value.free _ inValue).2 rfl) inside
  have cut : splitOnce? '=' (member entry) = some (entry.1.toList, entry.2.toList) :=
    splitOnce?_append (fun inKey => (key.free _ inKey).2.2 rfl) entry.2.toList
  have named : entry.1.toList.isEmpty = false := by
    simpa using key.nonempty
  rw [ofMember?, whole, cut]
  simp only [trimList_of_trimmed key.trimmed, trimList_of_trimmed value.trimmed, named,
    String.ofList_toList, Bool.false_eq_true, if_false]

theorem of_ofMember? {text : List Char} {entry : String × String} (free : ',' ∉ text)
    (read : ofMember? text = some entry) :
    CleanKey entry.1 ∧ CleanValue entry.2 ∧
      ∀ c, c ∈ entry.1.toList ∨ c ∈ entry.2.toList → c ∈ text := by
  rw [ofMember?] at read
  cases cut : splitOnce? '=' (text.takeWhile (· != ';')) with
  | none =>
      rw [cut] at read
      cases read
  | some pair =>
      obtain ⟨rawKey, rawValue⟩ := pair
      obtain ⟨pair_eq, noEquals⟩ := eq_of_splitOnce? cut
      have inPair : ∀ c, c ∈ rawKey ∨ c ∈ rawValue → c ∈ text ∧ c ≠ ';' := by
        intro c inside
        have there : c ∈ text.takeWhile (· != ';') := by
          rw [pair_eq]
          rcases inside with inKey | inValue
          · exact List.mem_append_left _ inKey
          · exact List.mem_append_right _ (List.mem_cons_of_mem _ inValue)
        have before : (c != ';') = true := List.mem_takeWhile_imp (p := (· != ';')) there
        exact ⟨(List.takeWhile_prefix _).subset there, bne_iff_ne.mp before⟩
      have noComma : ∀ c, c ∈ text → c ≠ ',' := fun c inside same => free (same ▸ inside)
      rw [cut] at read
      simp only at read
      split at read
      next => cases read
      next named =>
        cases read
        simp only [String.toList_ofList]
        refine ⟨⟨?_, ?_, ?_⟩, ⟨?_, ?_⟩, ?_⟩
        · intro empty
          rw [← String.toList_inj, String.toList_ofList] at empty
          exact named (by rw [empty]; rfl)
        · rw [String.toList_ofList]
          exact trimmed_trimList rawKey
        · intro c inside
          rw [String.toList_ofList] at inside
          have inKey := mem_of_mem_trimList inside
          obtain ⟨inText, noSemicolon⟩ := inPair c (.inl inKey)
          exact ⟨noComma c inText, noSemicolon, fun same => noEquals (same ▸ inKey)⟩
        · rw [String.toList_ofList]
          exact trimmed_trimList rawValue
        · intro c inside
          rw [String.toList_ofList] at inside
          obtain ⟨inText, noSemicolon⟩ := inPair c (.inr (mem_of_mem_trimList inside))
          exact ⟨noComma c inText, noSemicolon⟩
        · intro c inside
          exact (inPair c (inside.imp mem_of_mem_trimList mem_of_mem_trimList)).1

/-! ## Reading what was written -/

def listed (value : String) : List (String × String) :=
  (fields ',' value.toList).filterMap ofMember?

theorem of_mem_listed {value : String} {entry : String × String} (member : entry ∈ listed value) :
    CleanKey entry.1 ∧ CleanValue entry.2 ∧
      ∀ c, c ∈ entry.1.toList ∨ c ∈ entry.2.toList → c ∈ value.toList := by
  obtain ⟨piece, inFields, read⟩ := List.mem_filterMap.mp member
  obtain ⟨free, inside⟩ := of_mem_fields inFields
  obtain ⟨key, clean, characters⟩ := of_ofMember? free read
  exact ⟨key, clean, fun c inEntry => inside c (characters c inEntry)⟩

theorem listed_header {baggage : Baggage} (clean : baggage.Clean)
    (some_entry : baggage.entries ≠ []) : listed baggage.header = baggage.entries := by
  have free : ∀ piece ∈ baggage.entries.map member, ',' ∉ piece := by
    intro piece inside
    obtain ⟨entry, inEntries, rfl⟩ := List.mem_map.mp inside
    exact not_mem_member (by decide)
      (fun inKey => ((clean.keys entry inEntries).free _ inKey).1 rfl)
      (fun inValue => ((clean.values entry inEntries).free _ inValue).1 rfl)
  rw [listed, toList_header, fields_intercalate free (by simpa using some_entry),
    List.filterMap_map]
  have each : ∀ entry ∈ baggage.entries, (ofMember? ∘ member) entry = some entry :=
    fun entry inEntries => ofMember?_member (clean.keys entry inEntries)
      (clean.values entry inEntries)
  rw [List.filterMap_congr each, List.filterMap_some]

theorem mem_of_mem_foldl {read : List (String × String)} {baggage : Baggage}
    {entry : String × String}
    (member : entry ∈
      (read.foldl (fun baggage (key, value) => baggage.insert key value) baggage).entries) :
    entry ∈ read ∨ entry ∈ baggage.entries := by
  induction read generalizing baggage with
  | nil => exact .inr member
  | cons first rest ih =>
      rcases ih member with later | before
      · exact .inl (List.mem_cons_of_mem first later)
      · rcases mem_put before with same | inBaggage
        · exact .inl (List.mem_cons.mpr (.inl same))
        · exact .inr inBaggage

theorem mem_listed_of_mem_ofHeader {value : String} {entry : String × String}
    (member : entry ∈ (ofHeader value).entries) : entry ∈ listed value :=
  (mem_of_mem_foldl member).resolve_right List.not_mem_nil

theorem clean_ofHeader (value : String) : (ofHeader value).Clean where
  keys _ member := (of_mem_listed (mem_listed_of_mem_ofHeader member)).1
  values _ member := (of_mem_listed (mem_listed_of_mem_ofHeader member)).2.1

theorem clean_empty : empty.Clean :=
  ⟨List.forall_mem_nil _, List.forall_mem_nil _⟩

theorem put_of_forall_lt {key : String} (value : String) {entries : List (String × String)}
    (below : ∀ entry ∈ entries, entry.1 < key) :
    put key value entries = entries ++ [(key, value)] := by
  induction entries with
  | nil => rfl
  | cons first rest ih =>
      have less := below first List.mem_cons_self
      have notLess : ¬ key < first.1 := fun greater =>
        String.lt_irrefl key (String.lt_trans greater less)
      have different : key ≠ first.1 := fun same => String.lt_irrefl key (same ▸ less)
      rw [put, if_neg notLess, if_neg different,
        ih fun entry member => below entry (List.mem_cons_of_mem first member)]
      rfl

/-- Entries that are put one after the other in the order of their keys stay in that order. -/
theorem entries_foldl_insert (entries : List (String × String)) (baggage : Baggage)
    (ordered : (baggage.entries ++ entries).Pairwise fun left right => left.1 < right.1) :
    (entries.foldl (fun baggage (key, value) => baggage.insert key value) baggage).entries =
      baggage.entries ++ entries := by
  induction entries generalizing baggage with
  | nil => rw [List.append_nil]; rfl
  | cons first rest ih =>
      have below : ∀ entry ∈ baggage.entries, entry.1 < first.1 := fun entry member =>
        (List.pairwise_append.mp ordered).2.2 entry member first List.mem_cons_self
      have put_eq : (baggage.insert first.1 first.2).entries = baggage.entries ++ [first] :=
        put_of_forall_lt first.2 below
      rw [List.foldl_cons, ih, put_eq, List.append_assoc]
      · rfl
      · rw [put_eq, List.append_assoc]
        exact ordered

theorem ofHeader_header {baggage : Baggage} (clean : baggage.Clean)
    (some_entry : baggage.entries ≠ []) : ofHeader baggage.header = baggage := by
  have read : (ofHeader baggage.header).entries = baggage.entries := by
    change ((listed baggage.header).foldl _ empty).entries = _
    rw [listed_header clean some_entry]
    exact entries_foldl_insert baggage.entries empty baggage.ordered
  cases baggage with
  | mk entries ordered =>
      cases made : ofHeader (header ⟨entries, ordered⟩) with
      | mk others _ =>
          rw [made] at read
          cases read
          rfl

end Baggage

/-! ## Traces -/

namespace TraceContext

variable (context : TraceContext)

theorem header?_parentHeader :
    headerValue? context.headers parentHeader = some context.parent :=
  rfl

theorem header?_baggageHeader :
    headerValue? context.headers baggageHeader =
      if context.baggage.entries = [] then none else some context.baggage.header := by
  cases entries : context.baggage.entries with
  | nil =>
      rw [headers, entries]
      rfl
  | cons entry rest =>
      rw [headers, entries]
      rfl

def parts : List (List Char) :=
  [['0', '0'], hexDigits 32 context.traceId.value, hexDigits 16 context.spanId.value,
    hexDigits 2 context.flags.toNat]

theorem toList_parent : context.parent.toList = ['-'].intercalate context.parts := by
  simp [parent, TraceId.text, SpanId.text, parts, List.intercalate_cons_cons]

theorem not_mem_parts : ∀ part ∈ context.parts, '-' ∉ part := by
  have noHyphen : ∀ value, hexDigit value ≠ '-' := by decide
  have digits := not_mem_hexDigits noHyphen
  rw [parts, List.forall_mem_cons, List.forall_mem_cons, List.forall_mem_cons,
    List.forall_mem_singleton]
  exact ⟨by decide, digits 32 _, digits 16 _, digits 2 _⟩

theorem trimmed_parent : Trimmed context.parent.toList := by
  have noBlank : ∀ value, isBlank (hexDigit value) = false := by decide
  rw [toList_parent]
  refine ⟨?_, ?_⟩
  · intro c first
    cases first
    rfl
  · intro c last
    obtain ⟨init, digits⟩ : ∃ init, hexDigits 2 context.flags.toNat =
        init ++ [hexDigit (lastHexDigit context.flags.toNat)] := ⟨_, rfl⟩
    rw [parts, digits] at last
    simp only [List.intercalate_cons_cons, List.intercalate_singleton, ← List.append_assoc,
      List.getLast?_concat, Option.some.injEq] at last
    rw [← last]
    exact noBlank _

theorem readParent?_parent :
    readParent? context.parent = some (context.traceId, context.spanId, context.flags) := by
  have cut : fields '-' (trimList context.parent.toList) = context.parts := by
    rw [trimList_of_trimmed context.trimmed_parent, toList_parent]
    exact fields_intercalate context.not_mem_parts (List.cons_ne_nil _ _)
  have trace : readHex? (hexDigits 32 context.traceId.value) = _ :=
    readHex?_hexDigits (by decide) context.traceId.lt
  have span : readHex? (hexDigits 16 context.spanId.value) = _ :=
    readHex?_hexDigits (by decide) context.spanId.lt
  have flags : readHex? (hexDigits 2 context.flags.toNat) = _ :=
    readHex?_hexDigits (by decide) context.flags.toNat_lt
  have traceId : TraceId.ofNat? context.traceId.value = some context.traceId :=
    dif_pos ⟨context.traceId.pos, context.traceId.lt⟩
  have spanId : SpanId.ofNat? context.spanId.value = some context.spanId :=
    dif_pos ⟨context.spanId.pos, context.spanId.lt⟩
  have version : byteLength ['0', '0'] = 2 ∧ ['0', '0'] ≠ ['f', 'f'] := by decide
  rw [readParent?, cut, parts]
  simp only [List.isEmpty_nil, not_true_eq_false, and_false, if_false, ofParts?, version.1,
    version.2, byteLength_hexDigits, ne_eq, not_false_eq_true, and_true, if_true, trace, span,
    flags, Option.bind_eq_bind, Option.bind_some, traceId, spanId, UInt8.ofNat_toNat,
    Option.pure_def]

/-- The trace that headers are read back as has the ids and flags of the one that was written, and
the baggage that is read from its header. -/
theorem extract?_headers :
    extract? (headerValue? context.headers) = some { context with
      baggage := if context.baggage.entries = [] then .empty
        else .ofHeader context.baggage.header } := by
  rw [extract?, header?_parentHeader, header?_baggageHeader]
  simp only [Option.bind_eq_bind, Option.bind_some, readParent?_parent, Option.pure_def]
  split
  · rfl
  · rfl

theorem clean_of_extract? {header : String → Option String} {context : TraceContext}
    (extracted : extract? header = some context) : context.baggage.Clean := by
  obtain ⟨value, _, extracted⟩ := Option.bind_eq_some_iff.mp extracted
  obtain ⟨⟨traceId, spanId, flags⟩, _, same⟩ := Option.bind_eq_some_iff.mp extracted
  cases same
  cases header baggageHeader with
  | none => exact Baggage.clean_empty
  | some value => exact Baggage.clean_ofHeader value

variable {context}

theorem extract?_headers_of_clean (clean : context.baggage.Clean) :
    extract? (headerValue? context.headers) = some context := by
  rw [extract?_headers]
  by_cases empty : context.baggage.entries = []
  · obtain ⟨traceId, spanId, flags, ⟨entries, ordered⟩⟩ := context
    cases empty
    rfl
  · rw [if_neg empty, Baggage.ofHeader_header clean empty]

end TraceContext

/-- The headers of a trace are read back as that trace exactly if its baggage is clean.  Whatever
headers are read, the baggage is clean, and a new span has the same baggage. -/
theorem headers_faithful :
    (∀ context : TraceContext,
      TraceContext.extract? (headerValue? context.headers) = some context ↔
        context.baggage.Clean) ∧
    (∀ (header : String → Option String) (context : TraceContext),
      TraceContext.extract? header = some context → context.baggage.Clean) ∧
    ∀ (context : TraceContext) (span : SpanId),
      context.baggage.Clean → (context.child span).baggage.Clean :=
  ⟨fun _ => ⟨TraceContext.clean_of_extract?, TraceContext.extract?_headers_of_clean⟩,
    fun _ _ => TraceContext.clean_of_extract?, fun _ _ clean => clean⟩

def Sample.tagged (key value : String) : TraceContext :=
  (TraceContext.root ⟨3, by decide, by decide⟩ ⟨4, by decide, by decide⟩).withBaggage key value

/-- A value may hold an equals sign, but a comma makes two entries of one. -/
theorem headers_faithful_of_marks :
    TraceContext.extract? (headerValue? (Sample.tagged "user" "a=b").headers) =
        some (Sample.tagged "user" "a=b") ∧
      TraceContext.extract? (headerValue? (Sample.tagged "user" "a,b=c").headers) ≠
        some (Sample.tagged "user" "a,b=c") := by
  obtain ⟨faithful, _, _⟩ := headers_faithful
  have clean : (Sample.tagged "user" "a=b").baggage.Clean := by decide +kernel
  have unclean : ¬ (Sample.tagged "user" "a,b=c").baggage.Clean := by decide +kernel
  exact ⟨(faithful _).mpr clean, fun same => unclean ((faithful _).mp same)⟩

end Checkout

import Checkout.Proofs.Numerals
import Checkout.Proofs.TraceHeaders

/-!
# Headers that name a parent

A header that names the parent of a span consists of a version and three hexadecimal numbers, and
versions other than zero may go on after a further hyphen.  Every header of the grammar is read, and
one of version zero is written again as it was, in lower case.

More than the grammar allows is read as well: the version need not be a hexadecimal number and may
be the one that is ruled out, written in capitals, and a plus sign may take the first place of a
number.  The sign is written again as a zero.
-/

set_option autoImplicit false

namespace Checkout

open Text

theorem TraceId.ofNat?_eq_some_iff {value : Nat} {id : TraceId} :
    TraceId.ofNat? value = some id ↔ value = id.value := by
  rw [TraceId.ofNat?]
  constructor
  · intro made
    split at made
    next => cases made; rfl
    next => cases made
  · rintro rfl
    exact dif_pos ⟨id.pos, id.lt⟩

theorem SpanId.ofNat?_eq_some_iff {value : Nat} {id : SpanId} :
    SpanId.ofNat? value = some id ↔ value = id.value := by
  rw [SpanId.ofNat?]
  constructor
  · intro made
    split at made
    next => cases made; rfl
    next => cases made
  · rintro rfl
    exact dif_pos ⟨id.pos, id.lt⟩

/-- The parts of a header that names a parent: the version, three numbers, and what follows them
after another hyphen, if anything does. -/
structure ParentForm where
  version : List Char
  traceId : Numeral 32
  spanId : Numeral 16
  flags : Numeral 2
  rest : Option (List Char)

namespace ParentForm

variable (form : ParentForm)

def tail : List Char :=
  form.rest.elim [] ('-' :: ·)

def text : List Char :=
  form.version ++ '-' :: (form.traceId.text ++ '-' :: (form.spanId.text ++ '-' ::
    (form.flags.text ++ form.tail)))

def rewritten : List Char :=
  ['0', '0'] ++ '-' :: (form.traceId.rewritten ++ '-' :: (form.spanId.rewritten ++ '-' ::
    form.flags.rewritten))

structure Unsigned : Prop where
  traceId : form.traceId.signed = false
  spanId : form.spanId.signed = false
  flags : form.flags.signed = false

/-- Two hexadecimal digits, which are not both the letter F in whatever case. -/
structure IsVersion (version : List Char) : Prop where
  length_eq : version.length = 2
  isHexDigit : ∀ c ∈ version, IsHexDigit c
  allowed : version.map Char.toLower ≠ ['f', 'f']

structure Conforms : Prop where
  isVersion : IsVersion form.version
  unsigned : form.Unsigned
  traceId_ne_zero : ¬ form.traceId.IsZero
  spanId_ne_zero : ¬ form.spanId.IsZero
  final : form.version = ['0', '0'] → form.rest = none

structure Admitted : Prop where
  version_bytes : byteLength form.version = 2
  version_whole : '-' ∉ form.version
  allowed : form.version ≠ ['f', 'f']
  traceId_ne_zero : ¬ form.traceId.IsZero
  spanId_ne_zero : ¬ form.spanId.IsZero
  final : form.version = ['0', '0'] → form.rest = none

variable {form}

theorem Conforms.admitted (conforms : form.Conforms) : form.Admitted where
  version_bytes := by
    rw [byteLength_of_narrow fun c member => (conforms.isVersion.isHexDigit c member).utf8Size_eq,
      conforms.isVersion.length_eq]
  version_whole member := (conforms.isVersion.isHexDigit '-' member).ne_hyphen rfl
  allowed same := conforms.isVersion.allowed (by rw [same]; decide)
  traceId_ne_zero := conforms.traceId_ne_zero
  spanId_ne_zero := conforms.spanId_ne_zero
  final := conforms.final

/-! ## Cutting a header -/

def restPieces (form : ParentForm) : List (List Char) :=
  form.rest.elim [] (fields '-')

theorem restPieces_eq_nil_iff : form.restPieces = [] ↔ form.rest = none := by
  rw [restPieces]
  cases form.rest with
  | none => simp
  | some more =>
      have some_piece : fields '-' more ≠ [] := by
        rw [fields_eq_splitOn]
        exact List.splitOn_ne_nil '-' more
      simp [some_piece]

theorem fields_text (whole : '-' ∉ form.version) :
    fields '-' form.text = form.version :: form.traceId.text :: form.spanId.text ::
      form.flags.text :: form.restPieces := by
  have flags : fields '-' (form.flags.text ++ form.tail) =
      form.flags.text :: form.restPieces := by
    rw [tail, restPieces]
    cases form.rest with
    | none =>
        rw [Option.elim_none, Option.elim_none, List.append_nil,
          fields_of_not_mem form.flags.not_mem_text]
    | some more =>
        rw [Option.elim_some, Option.elim_some, fields_append,
          fields_of_not_mem form.flags.not_mem_text]
        rfl
  rw [text, fields_append, fields_append, fields_append, flags, fields_of_not_mem whole,
    fields_of_not_mem form.traceId.not_mem_text, fields_of_not_mem form.spanId.not_mem_text]
  rfl

/-- A cut tells the parts apart, so two forms with one text differ in nothing. -/
theorem eq_of_text_eq {other : ParentForm} (whole : '-' ∉ form.version)
    (otherWhole : '-' ∉ other.version) (same : form.text = other.text) :
    form.version = other.version ∧ (form.Unsigned ↔ other.Unsigned) ∧
      (form.rest = none ↔ other.rest = none) := by
  have pieces := congrArg (fields '-') same
  rw [fields_text whole, fields_text otherWhole] at pieces
  obtain ⟨version, pieces⟩ := List.cons.inj pieces
  obtain ⟨traceId, pieces⟩ := List.cons.inj pieces
  obtain ⟨spanId, pieces⟩ := List.cons.inj pieces
  obtain ⟨flags, rest⟩ := List.cons.inj pieces
  have traceSign := form.traceId.signed_eq_of_text_eq traceId (by decide)
  have spanSign := form.spanId.signed_eq_of_text_eq spanId (by decide)
  have flagSign := form.flags.signed_eq_of_text_eq flags (by decide)
  refine ⟨version, ⟨fun ⟨first, second, third⟩ => ?_, fun ⟨first, second, third⟩ => ?_⟩, ?_⟩
  · exact ⟨traceSign ▸ first, spanSign ▸ second, flagSign ▸ third⟩
  · exact ⟨traceSign ▸ first, spanSign ▸ second, flagSign ▸ third⟩
  · rw [← restPieces_eq_nil_iff, ← restPieces_eq_nil_iff, rest]

/-! ## Reading a header -/

theorem Admitted.readParent? (admitted : form.Admitted) {value : String}
    (text_eq : form.text = trimList value.toList) :
    ∃ traceId spanId, TraceContext.readParent? value =
        some (traceId, spanId, UInt8.ofNat form.flags.value) ∧
      traceId.value = form.traceId.value ∧ spanId.value = form.spanId.value := by
  have tracePos := form.traceId.value_pos_iff.mpr admitted.traceId_ne_zero
  have spanPos := form.spanId.value_pos_iff.mpr admitted.spanId_ne_zero
  let traceId : TraceId := ⟨form.traceId.value, tracePos, form.traceId.value_lt⟩
  let spanId : SpanId := ⟨form.spanId.value, spanPos, form.spanId.value_lt⟩
  have traceMade : TraceId.ofNat? form.traceId.value = some traceId :=
    TraceId.ofNat?_eq_some_iff.mpr rfl
  have spanMade : SpanId.ofNat? form.spanId.value = some spanId :=
    SpanId.ofNat?_eq_some_iff.mpr rfl
  refine ⟨traceId, spanId, ?_, rfl, rfl⟩
  have complete : ¬ (form.version = ['0', '0'] ∧ ¬ form.restPieces.isEmpty = true) := by
    rintro ⟨first, more⟩
    exact more (List.isEmpty_iff.mpr (restPieces_eq_nil_iff.mpr (admitted.final first)))
  have shaped : byteLength form.version = 2 ∧ form.version ≠ ['f', 'f'] ∧
      byteLength form.traceId.text = 32 ∧ byteLength form.spanId.text = 16 ∧
      byteLength form.flags.text = 2 :=
    ⟨admitted.version_bytes, admitted.allowed, form.traceId.byteLength_text,
      form.spanId.byteLength_text, form.flags.byteLength_text⟩
  rw [TraceContext.readParent?, ← text_eq, fields_text admitted.version_whole]
  simp only [if_neg complete, TraceContext.ofParts?, if_pos shaped,
    form.traceId.readHex?_text (by decide), form.spanId.readHex?_text (by decide),
    form.flags.readHex?_text (by decide), Option.bind_eq_bind, Option.bind_some, traceMade,
    spanMade, Option.pure_def]

/-- Whatever is read is of an admitted form. -/
theorem exists_of_readParent? {value : String} {ids : TraceId × SpanId × UInt8}
    (read : TraceContext.readParent? value = some ids) :
    ∃ form : ParentForm, form.Admitted ∧ form.text = trimList value.toList := by
  have whole := intercalate_fields '-' (trimList value.toList)
  have free : ∀ piece ∈ fields '-' (trimList value.toList), '-' ∉ piece :=
    fun piece member => (of_mem_fields member).1
  rw [TraceContext.readParent?] at read
  split at read
  next version traceId spanId flags others pieces =>
    rw [pieces] at whole free
    split at read
    next => cases read
    next complete =>
      rw [TraceContext.ofParts?] at read
      split at read
      next shaped =>
        obtain ⟨versionBytes, allowed, traceBytes, spanBytes, flagBytes⟩ := shaped
        obtain ⟨trace, traceRead, read⟩ := Option.bind_eq_some_iff.mp read
        obtain ⟨span, spanRead, read⟩ := Option.bind_eq_some_iff.mp read
        obtain ⟨bits, bitsRead, read⟩ := Option.bind_eq_some_iff.mp read
        obtain ⟨madeTrace, traceMade, read⟩ := Option.bind_eq_some_iff.mp read
        obtain ⟨madeSpan, spanMade, _⟩ := Option.bind_eq_some_iff.mp read
        obtain ⟨traceNumeral, traceText, trace_eq⟩ :=
          Numeral.exists_of_readHex? traceRead traceBytes (by decide)
        obtain ⟨spanNumeral, spanText, span_eq⟩ :=
          Numeral.exists_of_readHex? spanRead spanBytes (by decide)
        obtain ⟨flagNumeral, flagText, _⟩ :=
          Numeral.exists_of_readHex? bitsRead flagBytes (by decide)
        rw [TraceId.ofNat?_eq_some_iff] at traceMade
        rw [SpanId.ofNat?_eq_some_iff] at spanMade
        let rest := if others = [] then none else some (['-'].intercalate others)
        refine ⟨⟨version, traceNumeral, spanNumeral, flagNumeral, rest⟩, ?_, ?_⟩
        · refine ⟨versionBytes, free version List.mem_cons_self, allowed, ?_, ?_, ?_⟩
          · rw [← traceNumeral.value_pos_iff, trace_eq, traceMade]
            exact madeTrace.pos
          · rw [← spanNumeral.value_pos_iff, span_eq, spanMade]
            exact madeSpan.pos
          · intro first
            have finished : version = ['0', '0'] → others = [] := by simpa using complete
            exact if_pos (finished first)
        · rw [← whole, ← traceText, ← spanText, ← flagText]
          cases others with
          | nil => simp [text, tail, rest, List.intercalate_cons_cons]
          | cons other more => simp [text, tail, rest, List.intercalate_cons_cons]
      next => cases read
  next => cases read

/-- A header is read exactly if it is of an admitted form. -/
theorem isSome_extract?_iff {header : String → Option String} {value : String}
    (given : header TraceContext.parentHeader = some value) :
    (TraceContext.extract? header).isSome ↔
      ∃ form : ParentForm, form.Admitted ∧ form.text = trimList value.toList := by
  rw [TraceContext.extract?, given]
  constructor
  · intro extracted
    obtain ⟨context, made⟩ := Option.isSome_iff_exists.mp extracted
    rw [Option.bind_eq_bind, Option.bind_some] at made
    obtain ⟨ids, read, _⟩ := Option.bind_eq_some_iff.mp made
    exact exists_of_readParent? read
  · rintro ⟨form, admitted, text_eq⟩
    obtain ⟨traceId, spanId, read, _⟩ := admitted.readParent? text_eq
    simp only [Option.bind_eq_bind, Option.bind_some, read, Option.pure_def, Option.isSome_some]

/-- A context of version zero is written as the form from which it was read, rewritten. -/
theorem Admitted.toList_parent (admitted : form.Admitted) {header : String → Option String}
    {value : String} {context : TraceContext}
    (given : header TraceContext.parentHeader = some value)
    (text_eq : form.text = trimList value.toList)
    (extracted : TraceContext.extract? header = some context) :
    context.parent.toList = form.rewritten := by
  obtain ⟨traceId, spanId, read, trace_eq, span_eq⟩ := admitted.readParent? text_eq
  rw [TraceContext.extract?, given] at extracted
  simp only [Option.bind_eq_bind, Option.bind_some, read, Option.pure_def, Option.some.injEq]
    at extracted
  have flags_eq : (UInt8.ofNat form.flags.value).toNat = form.flags.value :=
    UInt8.toNat_ofNat_of_lt form.flags.value_lt
  rw [← extracted, TraceContext.toList_parent, TraceContext.parts]
  simp only [trace_eq, span_eq, flags_eq, Numeral.hexDigits_value]
  simp [rewritten, List.intercalate_cons_cons]

/-! ## Readable headers and the grammar -/

/-- A form of version zero is written again as it was, in lower case, exactly without signs. -/
theorem rewritten_eq_iff (first : form.version = ['0', '0']) (finished : form.rest = none) :
    form.rewritten = form.text.map Char.toLower ↔ form.Unsigned := by
  have text_eq : form.text.map Char.toLower =
      ['0', '0'] ++ '-' :: (form.traceId.text.map Char.toLower ++ '-' ::
        (form.spanId.text.map Char.toLower ++ '-' :: form.flags.text.map Char.toLower)) := by
    simp [text, tail, first, finished]
  rw [text_eq, rewritten]
  constructor
  · intro same
    have numbers := (List.cons.inj (List.append_cancel_left same)).2
    obtain ⟨traceId, numbers⟩ := List.append_inj numbers (by
      rw [Numeral.length_rewritten, List.length_map, Numeral.length_text])
    obtain ⟨spanId, numbers⟩ := List.append_inj (List.cons.inj numbers).2 (by
      rw [Numeral.length_rewritten, List.length_map, Numeral.length_text])
    have flags := (List.cons.inj numbers).2
    rw [Numeral.rewritten_eq_iff] at traceId spanId flags
    exact ⟨traceId, spanId, flags⟩
  · rintro ⟨traceId, spanId, flags⟩
    rw [form.traceId.rewritten_eq_iff.mpr traceId, form.spanId.rewritten_eq_iff.mpr spanId,
      form.flags.rewritten_eq_iff.mpr flags]

/-- An admitted form is one of the grammar but for its version and its signs. -/
theorem Admitted.conforms_iff (admitted : form.Admitted) :
    (∃ other : ParentForm, other.Conforms ∧ other.text = form.text) ↔
      IsVersion form.version ∧ form.Unsigned := by
  constructor
  · rintro ⟨other, conforms, same⟩
    obtain ⟨version, unsigned, _⟩ :=
      eq_of_text_eq conforms.admitted.version_whole admitted.version_whole same
    exact ⟨version ▸ conforms.isVersion, unsigned.mp conforms.unsigned⟩
  · rintro ⟨isVersion, unsigned⟩
    exact ⟨form, ⟨isVersion, unsigned, admitted.traceId_ne_zero, admitted.spanId_ne_zero,
      admitted.final⟩, rfl⟩

end ParentForm

/-- A header of the grammar, apart from blanks around it. -/
def ParentConforms (value : String) : Prop :=
  ∃ form : ParentForm, form.Conforms ∧ form.text = trimList value.toList

/-- A header is read exactly if it is of an admitted form, and every form of the grammar is
admitted.  One that is read is of the grammar exactly if its version is and no number in it has a
sign.  If the version is zero, what is written again is the form with zeros for its signs, so it is
the header in lower case exactly if there is none. -/
theorem parent_read_iff {header : String → Option String} {value : String}
    (given : header TraceContext.parentHeader = some value) :
    ((TraceContext.extract? header).isSome ↔
      ∃ form : ParentForm, form.Admitted ∧ form.text = trimList value.toList) ∧
    (∀ form : ParentForm, form.Conforms → form.Admitted) ∧
    ∀ form : ParentForm, form.Admitted → form.text = trimList value.toList →
      (ParentConforms value ↔ ParentForm.IsVersion form.version ∧ form.Unsigned) ∧
      ∀ context, TraceContext.extract? header = some context → form.version = ['0', '0'] →
        context.parent.toList = form.rewritten ∧
        (context.parent.toList = (trimList value.toList).map Char.toLower ↔ form.Unsigned) := by
  refine ⟨ParentForm.isSome_extract?_iff given, fun form conforms => conforms.admitted, ?_⟩
  intro form admitted text_eq
  refine ⟨?_, fun context extracted first => ?_⟩
  · rw [ParentConforms, ← text_eq]
    exact admitted.conforms_iff
  · have written := admitted.toList_parent given text_eq extracted
    refine ⟨written, ?_⟩
    rw [written, ← text_eq]
    exact ParentForm.rewritten_eq_iff first (admitted.final first)

namespace Sample

def traceDigits : List Char :=
  ['4', 'b', 'f', '9', '2', 'f', '3', '5', '7', '7', 'b', '3', '4', 'd', 'a', '6', 'a', '3',
    'c', 'e', '9', '2', '9', 'd', '0', 'e', '0', 'e', '4', '7', '3', '6']

def spanDigits : List Char :=
  ['0', '0', 'f', '0', '6', '7', 'a', 'a', '0', 'b', 'a', '9', '0', '2', 'b', '7']

def parentForm (version : List Char) : ParentForm where
  version
  traceId := ⟨false, traceDigits, isHexDigit_of_all rfl, rfl⟩
  spanId := ⟨false, spanDigits, isHexDigit_of_all rfl, rfl⟩
  flags := ⟨false, ['0', '1'], isHexDigit_of_all rfl, rfl⟩
  rest := none

/-- The form in which a sign takes the first place of the trace. -/
def signedParent : ParentForm :=
  { parentForm ['0', '0'] with traceId := ⟨true, traceDigits.tail, isHexDigit_of_all rfl, rfl⟩ }

theorem trace_ne_zero : ¬ ∀ c ∈ traceDigits.tail, c = '0' :=
  fun zero => absurd (zero 'b' List.mem_cons_self) (by decide)

theorem span_ne_zero : ¬ ∀ c ∈ spanDigits, c = '0' :=
  fun zero => absurd (zero 'f' (.tail _ (.tail _ (.head _)))) (by decide)

theorem admitted_parentForm {version : List Char} (bytes : byteLength version = 2)
    (whole : '-' ∉ version) (allowed : version ≠ ['f', 'f']) : (parentForm version).Admitted where
  version_bytes := bytes
  version_whole := whole
  allowed := allowed
  traceId_ne_zero zero := trace_ne_zero fun c member => zero c (List.mem_of_mem_tail member)
  spanId_ne_zero := span_ne_zero
  final _ := rfl

theorem admitted_signedParent : signedParent.Admitted where
  version_bytes := rfl
  version_whole := by decide
  allowed := by decide
  traceId_ne_zero := trace_ne_zero
  spanId_ne_zero := span_ne_zero
  final _ := rfl

end Sample

/-- A plus sign that takes the first place of a number is read, and written again as a zero. -/
theorem parent_read_iff_of_sign :
    ∃ context, TraceContext.extract? (headerValue? [(TraceContext.parentHeader,
        " 00-+bf92f3577b34da6a3ce929d0e0e4736-00f067aa0ba902b7-01")]) = some context ∧
      ¬ ParentConforms " 00-+bf92f3577b34da6a3ce929d0e0e4736-00f067aa0ba902b7-01" ∧
      context.parent.toList =
        "00-0bf92f3577b34da6a3ce929d0e0e4736-00f067aa0ba902b7-01".toList := by
  have given : headerValue? [(TraceContext.parentHeader,
      " 00-+bf92f3577b34da6a3ce929d0e0e4736-00f067aa0ba902b7-01")] TraceContext.parentHeader =
    some " 00-+bf92f3577b34da6a3ce929d0e0e4736-00f067aa0ba902b7-01" := rfl
  obtain ⟨read, _, described⟩ := parent_read_iff given
  obtain ⟨context, extracted⟩ := Option.isSome_iff_exists.mp
    (read.mpr ⟨Sample.signedParent, Sample.admitted_signedParent, rfl⟩)
  obtain ⟨conforms, written⟩ := described Sample.signedParent Sample.admitted_signedParent rfl
  refine ⟨context, extracted, fun proper => ?_, ?_⟩
  · cases (conforms.mp proper).2.traceId
  · exact (written context extracted rfl).1

/-- Headers that are not of the grammar are read: for a sign in a number, for the version that is
ruled out, in capitals, and for a version that is no number at all. -/
theorem malformed_parents_read :
    (TraceContext.extract? (headerValue? [(TraceContext.parentHeader,
        "00-+bf92f3577b34da6a3ce929d0e0e4736-00f067aa0ba902b7-01")])).isSome ∧
      ¬ ParentConforms "00-+bf92f3577b34da6a3ce929d0e0e4736-00f067aa0ba902b7-01" ∧
    (TraceContext.extract? (headerValue? [(TraceContext.parentHeader,
        "FF-4bf92f3577b34da6a3ce929d0e0e4736-00f067aa0ba902b7-01")])).isSome ∧
      ¬ ParentConforms "FF-4bf92f3577b34da6a3ce929d0e0e4736-00f067aa0ba902b7-01" ∧
    (TraceContext.extract? (headerValue? [(TraceContext.parentHeader,
        "zz-4bf92f3577b34da6a3ce929d0e0e4736-00f067aa0ba902b7-01")])).isSome ∧
      ¬ ParentConforms "zz-4bf92f3577b34da6a3ce929d0e0e4736-00f067aa0ba902b7-01" := by
  have refuted : ∀ (form : ParentForm) (value : String), form.Admitted →
      form.text = trimList value.toList → ¬ (ParentForm.IsVersion form.version ∧ form.Unsigned) →
      (TraceContext.extract? (headerValue? [(TraceContext.parentHeader, value)])).isSome ∧
        ¬ ParentConforms value := by
    intro form value admitted text_eq improper
    have given : headerValue? [(TraceContext.parentHeader, value)] TraceContext.parentHeader =
      some value := rfl
    refine ⟨(ParentForm.isSome_extract?_iff given).mpr ⟨form, admitted, text_eq⟩, ?_⟩
    rw [ParentConforms, ← text_eq]
    exact fun conforms => improper (admitted.conforms_iff.mp conforms)
  obtain ⟨signed, notSigned⟩ := refuted Sample.signedParent
    "00-+bf92f3577b34da6a3ce929d0e0e4736-00f067aa0ba902b7-01" Sample.admitted_signedParent rfl
    fun proper => by cases proper.2.traceId
  obtain ⟨capital, notCapital⟩ := refuted (Sample.parentForm ['F', 'F'])
    "FF-4bf92f3577b34da6a3ce929d0e0e4736-00f067aa0ba902b7-01"
    (Sample.admitted_parentForm rfl (by decide) (by decide)) rfl
    fun proper => proper.1.allowed rfl
  obtain ⟨letters, notLetters⟩ := refuted (Sample.parentForm ['z', 'z'])
    "zz-4bf92f3577b34da6a3ce929d0e0e4736-00f067aa0ba902b7-01"
    (Sample.admitted_parentForm rfl (by decide) (by decide)) rfl
    fun proper => absurd (proper.1.isHexDigit 'z' List.mem_cons_self) (by decide)
  exact ⟨signed, notSigned, capital, notCapital, letters, notLetters⟩

end Checkout

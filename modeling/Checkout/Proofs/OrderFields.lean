import Checkout.Proofs.UnknownFields
import Checkout.Proofs.WrittenMessages

/-!
# Fields of orders

A published order is a row of fields: its id, its tracking id, the cost of shipping, the address, and
then its items.  Each field puts its value into the message, so the message that a row of such fields
makes up depends on the values of each kind alone, in their order, and not on how the kinds are mixed,
nor on unknown fields among them.
-/

set_option autoImplicit false

namespace Checkout

namespace Wire

/-! ## Fields -/

inductive OrderField where
  | orderId (text : String)
  | trackingId (text : String)
  | shippingCost (cost : MoneyMessage)
  | shippingAddress (address : AddressMessage)
  | line (item : OrderItemMessage)
deriving DecidableEq

namespace OrderField

def tag : OrderField → Nat
  | .orderId _ => 1
  | .trackingId _ => 2
  | .shippingCost _ => 3
  | .shippingAddress _ => 4
  | .line _ => 5

def content : OrderField → List UInt8
  | .orderId text => Text.utf8 text
  | .trackingId text => Text.utf8 text
  | .shippingCost cost => cost.encode
  | .shippingAddress address => address.encode
  | .line item => item.encode

def bytes (field : OrderField) : List UInt8 :=
  delimitedField field.tag field.content

def put (message : OrderMessage) : OrderField → OrderMessage
  | .orderId text => { message with orderId := text }
  | .trackingId text => { message with trackingId := text }
  | .shippingCost cost => { message with shippingCost := some cost }
  | .shippingAddress address => { message with shippingAddress := some address }
  | .line item => { message with items := message.items ++ [item] }

def orderId? : OrderField → Option String
  | .orderId text => some text
  | _ => none

def trackingId? : OrderField → Option String
  | .trackingId text => some text
  | _ => none

def shippingCost? : OrderField → Option MoneyMessage
  | .shippingCost cost => some cost
  | _ => none

def shippingAddress? : OrderField → Option AddressMessage
  | .shippingAddress address => some address
  | _ => none

def item? : OrderField → Option OrderItemMessage
  | .line item => some item
  | _ => none

theorem isTag_tag : (field : OrderField) → IsTag field.tag
  | .orderId _ => (by decide : IsTag 1)
  | .trackingId _ => (by decide : IsTag 2)
  | .shippingCost _ => (by decide : IsTag 3)
  | .shippingAddress _ => (by decide : IsTag 4)
  | .line _ => (by decide : IsTag 5)

end OrderField

/-- The values that a text is written as: none if it is empty. -/
def texts (text : String) : List String :=
  if text = "" then [] else [text]

def OrderMessage.fields (message : OrderMessage) : List OrderField :=
  (texts message.orderId).map .orderId ++ (texts message.trackingId).map .trackingId
    ++ message.shippingCost.toList.map .shippingCost
    ++ message.shippingAddress.toList.map .shippingAddress ++ message.items.map .line

theorem flatMap_texts (tag : Nat) (text : String) :
    (texts text).flatMap (fun text => delimitedField tag (Text.utf8 text)) = textField tag text := by
  by_cases empty : text = ""
  · rw [texts, textField, if_pos empty, if_pos empty]
    rfl
  · rw [texts, textField, if_neg empty, if_neg empty, List.flatMap_singleton]

theorem flatMap_toList {μ : Type} (tag : Nat) (encode : μ → List UInt8) (nested : Option μ) :
    nested.toList.flatMap (fun message => delimitedField tag (encode message)) =
      nestedField tag encode nested := by
  cases nested with
  | none => rfl
  | some message => exact List.flatMap_singleton _ _

theorem OrderMessage.encode_eq_flatMap (message : OrderMessage) :
    message.encode = message.fields.flatMap OrderField.bytes := by
  rw [fields, encode, List.flatMap_append, List.flatMap_append, List.flatMap_append,
    List.flatMap_append, List.flatMap_map, List.flatMap_map, List.flatMap_map, List.flatMap_map,
    List.flatMap_map, ← flatMap_texts, ← flatMap_texts, ← flatMap_toList, ← flatMap_toList]
  rfl

/-! ## What fields make up -/

/-- The message that fields make up, one after the other. -/
def assemble (message : OrderMessage) (fields : List OrderField) : OrderMessage :=
  fields.foldl OrderField.put message

/-- Of the texts and of the nested messages the last counts, and the items are collected. -/
theorem assemble_eq (message : OrderMessage) (fields : List OrderField) :
    assemble message fields =
      { orderId := (fields.filterMap OrderField.orderId?).foldl (fun _ text => text) message.orderId
        trackingId :=
          (fields.filterMap OrderField.trackingId?).foldl (fun _ text => text) message.trackingId
        shippingCost := (fields.filterMap OrderField.shippingCost?).foldl (fun _ cost => some cost)
          message.shippingCost
        shippingAddress := (fields.filterMap OrderField.shippingAddress?).foldl
          (fun _ address => some address) message.shippingAddress
        items := message.items ++ fields.filterMap OrderField.item? } := by
  induction fields generalizing message with
  | nil => simp [assemble]
  | cons field rest ih =>
      rw [assemble, List.foldl_cons, ← assemble, ih]
      cases field <;>
        simp only [List.filterMap_cons, List.foldl_cons, List.append_assoc, List.singleton_append,
          OrderField.put, OrderField.orderId?, OrderField.trackingId?, OrderField.shippingCost?,
          OrderField.shippingAddress?, OrderField.item?]

/-! ## Rows of fields -/

/-- Every number of the value fits the signed numbers of its field, and lengths fit numbers. -/
structure OrderField.Fits (field : OrderField) : Prop where
  length : field.bytes.length < lengthLimit
  cost : ∀ cost ∈ field.shippingCost?, cost.InRange
  address : ∀ address ∈ field.shippingAddress?, address.InRange
  item : ∀ item ∈ field.item?, item.InRange

/-- The nested messages that are read at most once, and of which there are none so far. -/
structure Single (message : OrderMessage) (fields : List OrderField) : Prop where
  cost : message.shippingCost.toList.length
    + (fields.filterMap OrderField.shippingCost?).length ≤ 1
  address : message.shippingAddress.toList.length
    + (fields.filterMap OrderField.shippingAddress?).length ≤ 1

theorem Single.put {message : OrderMessage} {field : OrderField} {rest : List OrderField}
    (single : Single message (field :: rest)) : Single (field.put message) rest := by
  obtain ⟨cost, address⟩ := single
  simp only [List.filterMap_cons] at cost address
  cases field with
  | orderId text => exact ⟨cost, address⟩
  | trackingId text => exact ⟨cost, address⟩
  | shippingCost other =>
      simp only [OrderField.shippingCost?, List.length_cons] at cost
      refine ⟨?_, address⟩
      simp only [OrderField.put, Option.toList_some, List.length_singleton]
      omega
  | shippingAddress other =>
      simp only [OrderField.shippingAddress?, List.length_cons] at address
      refine ⟨cost, ?_⟩
      simp only [OrderField.put, Option.toList_some, List.length_singleton]
      omega
  | line item => exact ⟨cost, address⟩

theorem Single.fresh_cost {message : OrderMessage} {cost : MoneyMessage} {rest : List OrderField}
    (single : Single message (.shippingCost cost :: rest)) : message.shippingCost = none := by
  have count := single.cost
  simp only [List.filterMap_cons, OrderField.shippingCost?, List.length_cons] at count
  exact Option.toList_eq_nil_iff.mp (List.eq_nil_of_length_eq_zero (by omega))

theorem Single.fresh_address {message : OrderMessage} {address : AddressMessage}
    {rest : List OrderField} (single : Single message (.shippingAddress address :: rest)) :
    message.shippingAddress = none := by
  have count := single.address
  simp only [List.filterMap_cons, OrderField.shippingAddress?, List.length_cons] at count
  exact Option.toList_eq_nil_iff.mp (List.eq_nil_of_length_eq_zero (by omega))

theorem isField_bytes {field : OrderField} {message : OrderMessage} {rest : List OrderField}
    (fits : field.Fits) (single : Single message (field :: rest)) :
    IsField OrderMessage.merge depthLimit field.bytes message (field.put message) := by
  have length := fits.length
  have content_fits : field.content.length < lengthLimit := by
    rw [OrderField.bytes, delimitedField, List.length_append] at length
    omega
  cases field with
  | orderId text =>
      have reads : ∀ wireType bytes, OrderMessage.merge depthLimit 1 wireType message bytes =
          store _ _ _ ((readText wireType bytes).mapError .bare) := fun _ _ => rfl
      exact isField_text 1 (fun text => { message with orderId := text }) (by decide) reads length
  | trackingId text =>
      have reads : ∀ wireType bytes, OrderMessage.merge depthLimit 2 wireType message bytes =
          store _ _ _ ((readText wireType bytes).mapError .bare) := fun _ _ => rfl
      exact isField_text 2 (fun text => { message with trackingId := text }) (by decide) reads
        length
  | shippingCost cost =>
      have reads : ∀ wireType bytes, OrderMessage.merge depthLimit 3 wireType message bytes =
          store "OrderResultMessage" "shipping_cost"
            (fun cost => { message with shippingCost := some cost })
            (mergeNested MoneyMessage.merge depthLimit wireType .blank bytes) := by
        intro wireType bytes
        rw [OrderMessage.merge, single.fresh_cost]
        rfl
      exact isField_nested 3 (fun cost => { message with shippingCost := some cost }) (by decide)
        reads (cost.row_encode (fits.cost cost rfl) content_fits) length
  | shippingAddress address =>
      have reads : ∀ wireType bytes, OrderMessage.merge depthLimit 4 wireType message bytes =
          store "OrderResultMessage" "shipping_address"
            (fun address => { message with shippingAddress := some address })
            (mergeNested AddressMessage.merge depthLimit wireType .blank bytes) := by
        intro wireType bytes
        rw [OrderMessage.merge, single.fresh_address]
        rfl
      exact isField_nested 4 (fun address => { message with shippingAddress := some address })
        (by decide) reads (address.row_encode (fits.address address rfl) content_fits) length
  | line item =>
      have reads : ∀ wireType bytes, OrderMessage.merge depthLimit 5 wireType message bytes =
          store _ _ _ (mergeNested OrderItemMessage.merge depthLimit wireType .blank bytes) :=
        fun _ _ => rfl
      exact isField_nested 5 (fun item => { message with items := message.items ++ [item] })
        (by decide) reads (item.row_encode (fits.item item rfl) content_fits) length

/-! ## Rearranged fields -/

/-- A field of an order, or the bytes of a field that orders do not have. -/
inductive Piece where
  | known (field : OrderField)
  | unknown (bytes : List UInt8)

namespace Piece

def bytes : Piece → List UInt8
  | .known field => field.bytes
  | .unknown bytes => bytes

def field? : Piece → Option OrderField
  | .known field => some field
  | .unknown _ => none

end Piece

def IsForeign (tag : Nat) : Prop :=
  5 < tag

/-- Pieces can be read one by one. -/
structure Readable (pieces : List Piece) : Prop where
  known : ∀ field ∈ pieces.filterMap Piece.field?, field.Fits
  unknown : ∀ bytes, .unknown bytes ∈ pieces → IsUnknown IsForeign bytes

theorem merge_of_isForeign (depth tag : Nat) (wireType : WireType) (message : OrderMessage)
    (bytes : List UInt8) (foreign : IsForeign tag) :
    OrderMessage.merge depth tag wireType message bytes =
      pass depth tag wireType message bytes := by
  rw [IsForeign] at foreign
  rw [OrderMessage.merge]
  all_goals omega

theorem row_pieces {pieces : List Piece} {message : OrderMessage} (readable : Readable pieces)
    (single : Single message (pieces.filterMap Piece.field?)) :
    Row OrderMessage.merge depthLimit message (pieces.flatMap Piece.bytes)
      (assemble message (pieces.filterMap Piece.field?)) := by
  induction pieces generalizing message with
  | nil => exact Row.nil message
  | cons piece rest ih =>
      cases piece with
      | known field =>
          have first := isField_bytes (readable.known field List.mem_cons_self) single
          have others : Readable rest :=
            ⟨fun field member => readable.known field (List.mem_cons_of_mem _ member),
              fun bytes member => readable.unknown bytes (List.mem_cons_of_mem _ member)⟩
          exact Row.cons first (ih others single.put)
      | unknown bytes =>
          have first := isField_of_isUnknown merge_of_isForeign
            (readable.unknown bytes List.mem_cons_self) message
          have others : Readable rest :=
            ⟨readable.known, fun bytes member =>
              readable.unknown bytes (List.mem_cons_of_mem _ member)⟩
          exact Row.cons first (ih others single)

theorem row_fields {fields : List OrderField} {message : OrderMessage}
    (fits : ∀ field ∈ fields, field.Fits) (single : Single message fields) :
    Row OrderMessage.merge depthLimit message (fields.flatMap OrderField.bytes)
      (assemble message fields) := by
  have known : (fields.map Piece.known).filterMap Piece.field? = fields := by
    rw [List.filterMap_map]
    exact List.filterMap_some
  have readable : Readable (fields.map Piece.known) := by
    refine ⟨?_, ?_⟩
    · rwa [known]
    · intro bytes member
      obtain ⟨field, _, impossible⟩ := List.mem_map.mp member
      cases impossible
  have row := row_pieces readable (known.symm ▸ single)
  rwa [known, List.flatMap_map] at row

/-- Pieces are the fields of a message in another order, with foreign fields among them, if the items
have kept their order. -/
structure Rearranges (pieces : List Piece) (fields : List OrderField) : Prop where
  perm : (pieces.filterMap Piece.field?).Perm fields
  items : (pieces.filterMap Piece.field?).filterMap OrderField.item? =
    fields.filterMap OrderField.item?
  unknown : ∀ bytes, .unknown bytes ∈ pieces → IsUnknown IsForeign bytes

/-- A list of at most one element has no other order. -/
theorem eq_of_perm_of_length_le_one {α : Type} {list other : List α} (perm : list.Perm other)
    (short : other.length ≤ 1) : list = other := by
  match other with
  | [] => exact perm.eq_nil
  | [a] => exact List.perm_singleton.mp perm
  | _ :: _ :: _ => simp at short

structure Values (fields : List OrderField) (message : OrderMessage) : Prop where
  orderId : fields.filterMap OrderField.orderId? = texts message.orderId
  trackingId : fields.filterMap OrderField.trackingId? = texts message.trackingId
  shippingCost : fields.filterMap OrderField.shippingCost? = message.shippingCost.toList
  shippingAddress : fields.filterMap OrderField.shippingAddress? = message.shippingAddress.toList
  items : fields.filterMap OrderField.item? = message.items

theorem filterMap_fields {β : Type} (read : OrderField → Option β) (message : OrderMessage) :
    message.fields.filterMap read =
      (texts message.orderId).filterMap (fun text => read (.orderId text))
        ++ (texts message.trackingId).filterMap (fun text => read (.trackingId text))
        ++ message.shippingCost.toList.filterMap (fun cost => read (.shippingCost cost))
        ++ message.shippingAddress.toList.filterMap (fun address => read (.shippingAddress address))
        ++ message.items.filterMap fun item => read (.line item) := by
  simp only [OrderMessage.fields, List.filterMap_append, List.filterMap_map, Function.comp_def]

theorem filterMap_nothing {α β : Type} (list : List α) :
    list.filterMap (fun _ => (none : Option β)) = [] :=
  List.filterMap_eq_nil_iff.mpr fun _ _ => rfl

theorem values_fields (message : OrderMessage) : Values message.fields message := by
  constructor <;>
    simp only [filterMap_fields, OrderField.orderId?, OrderField.trackingId?,
      OrderField.shippingCost?, OrderField.shippingAddress?, OrderField.item?, filterMap_nothing,
      List.filterMap_some, List.append_nil, List.nil_append]

theorem foldl_texts (text : String) : (texts text).foldl (fun _ text => text) "" = text := by
  by_cases empty : text = ""
  · rw [texts, if_pos empty, empty]
    rfl
  · rw [texts, if_neg empty]
    rfl

theorem foldl_toList {α : Type} (nested : Option α) :
    nested.toList.foldl (fun _ value => some value) none = nested := by
  cases nested <;> rfl

namespace Values

variable {fields : List OrderField} {message : OrderMessage}

theorem assemble_eq (values : Values fields message) : assemble .blank fields = message := by
  rw [Wire.assemble_eq, values.orderId, values.trackingId, values.shippingCost,
    values.shippingAddress, values.items]
  simp only [OrderMessage.blank, foldl_texts, foldl_toList, List.nil_append]

theorem single (values : Values fields message) : Single .blank fields where
  cost := by
    rw [values.shippingCost]
    cases message.shippingCost with
    | none => exact Nat.zero_le 1
    | some cost => exact Nat.le_refl 1
  address := by
    rw [values.shippingAddress]
    cases message.shippingAddress with
    | none => exact Nat.zero_le 1
    | some address => exact Nat.le_refl 1

end Values

theorem length_texts_le (text : String) : (texts text).length ≤ 1 := by
  by_cases empty : text = ""
  · rw [texts, if_pos empty]
    exact Nat.zero_le 1
  · rw [texts, if_neg empty]
    exact Nat.le_refl 1

/-- The values of a kind that a message has at most once are the same in any order of its fields. -/
theorem Rearranges.filterMap_eq {β : Type} {pieces : List Piece} {fields : List OrderField}
    {read : OrderField → Option β} {values : List β} (rearranges : Rearranges pieces fields)
    (written : fields.filterMap read = values) (short : values.length ≤ 1) :
    (pieces.filterMap Piece.field?).filterMap read = values := by
  have perm := rearranges.perm.filterMap read
  rw [written] at perm
  exact eq_of_perm_of_length_le_one perm short

theorem Rearranges.values {pieces : List Piece} {message : OrderMessage}
    (rearranges : Rearranges pieces message.fields) :
    Values (pieces.filterMap Piece.field?) message := by
  have written := values_fields message
  constructor
  · exact rearranges.filterMap_eq written.orderId (length_texts_le _)
  · exact rearranges.filterMap_eq written.trackingId (length_texts_le _)
  · exact rearranges.filterMap_eq written.shippingCost Option.length_toList_le
  · exact rearranges.filterMap_eq written.shippingAddress Option.length_toList_le
  · exact rearranges.items.trans written.items

section Reading

variable {message : OrderMessage}

theorem OrderMessage.fits_of_mem (inRange : message.InRange)
    (fits : message.encode.length < lengthLimit) {field : OrderField}
    (member : field ∈ message.fields) : field.Fits where
  length := by
    have part : field.bytes.length ≤ (message.fields.flatMap OrderField.bytes).length :=
      (List.sublist_flatten_of_mem (List.mem_map_of_mem member)).length_le
    rw [← encode_eq_flatMap] at part
    omega
  cost := by
    intro cost there
    have listed := List.mem_filterMap.mpr ⟨field, member, there⟩
    rw [(values_fields message).shippingCost, Option.mem_toList] at listed
    exact inRange.shippingCost cost listed
  address := by
    intro address there
    have listed := List.mem_filterMap.mpr ⟨field, member, there⟩
    rw [(values_fields message).shippingAddress, Option.mem_toList] at listed
    exact inRange.shippingAddress address listed
  item := by
    intro item there
    have listed := List.mem_filterMap.mpr ⟨field, member, there⟩
    rw [(values_fields message).items] at listed
    exact inRange.items item listed

theorem OrderMessage.mergeAll_encode (message : OrderMessage) (inRange : message.InRange)
    (fits : message.encode.length < lengthLimit) :
    mergeAll OrderMessage.merge .blank message.encode = .ok message := by
  have values := values_fields message
  have row := row_fields (fun _ => OrderMessage.fits_of_mem inRange fits) values.single
  rw [values.assemble_eq, ← encode_eq_flatMap] at row
  exact mergeAll_row row

/-- The fields of a message are read as that message in any order, with foreign fields among them. -/
theorem OrderMessage.mergeAll_of_rearranges {pieces : List Piece} (inRange : message.InRange)
    (fits : message.encode.length < lengthLimit) (rearranges : Rearranges pieces message.fields) :
    mergeAll OrderMessage.merge .blank (pieces.flatMap Piece.bytes) = .ok message := by
  have readable : Readable pieces := by
    refine ⟨?_, rearranges.unknown⟩
    intro field member
    exact OrderMessage.fits_of_mem inRange fits (rearranges.perm.mem_iff.mp member)
  have row := row_pieces readable rearranges.values.single
  rw [rearranges.values.assemble_eq] at row
  exact mergeAll_row row

end Reading

end Wire

end Checkout

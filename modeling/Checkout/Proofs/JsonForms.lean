import Checkout.Order.Json
import Checkout.Proofs.Amounts
import Checkout.Proofs.ExactMoney
import Checkout.Proofs.Identifiers
import Checkout.Proofs.JsonTexts

/-!
# Values read back from their JSON

Each value of a checkout is read back from the JSON that is written for it.  Integers are within the
bounds of the reader's type because they come from a value of that type.  A record is written with
all its fields, under distinct names and in the reader's order, so each field finds its own value.
-/

set_option autoImplicit false

namespace Checkout

namespace Json

/-! ## Scalars -/

theorem toInt?_ofInt (i : Int) : Numeral.toInt? (.integer (decide (i < 0)) i.natAbs) = some i := by
  by_cases negative : i < 0
  · have nonzero : i.natAbs ≠ 0 := by omega
    simp only [decide_eq_true negative, Numeral.toInt?, if_neg nonzero]
    congr 1
    omega
  · simp only [decide_eq_false negative, Numeral.toInt?]
    congr 1
    omega

theorem decodeInt_ofInt {least greatest i : Int} (fits : least ≤ i ∧ i ≤ greatest) :
    decodeInt least greatest (ofInt i) = .ok i := by
  rw [ofInt, decodeInt, toInt?_ofInt]
  exact if_pos fits

theorem decodeInt64_ofInt {i : Int} (fits : fitsInt64 i = true) :
    decodeInt64 (ofInt i) = .ok i := by
  simp only [fitsInt64, Bool.and_eq_true, decide_eq_true_eq] at fits
  exact decodeInt_ofInt fits

theorem decodeInt32_ofInt (i : Int32) : decodeInt32 (ofInt i.toInt) = .ok i := by
  have fits : -2147483648 ≤ i.toInt ∧ i.toInt ≤ 2147483647 :=
    ⟨i.le_toInt, Int.le_of_lt_add_one i.toInt_lt⟩
  rw [decodeInt32, decodeInt_ofInt fits, Except.map, Int32.ofInt_toInt]

theorem decodeUInt32_ofNat (n : UInt32) : decodeUInt32 (ofNat n.toNat) = .ok n := by
  have below : n.toNat < 4294967296 := n.toNat_lt
  have fits : (0 : Int) ≤ n.toNat ∧ (n.toNat : Int) ≤ 4294967295 := by omega
  have read : decodeInt 0 4294967295 (ofNat n.toNat) = .ok (n.toNat : Int) := if_pos fits
  rw [decodeUInt32, read, Except.map, Int.toNat_natCast, UInt32.ofNat_toNat]

@[simp]
theorem decodeString_ofString (text : String) : decodeString (ofString text) = .ok text :=
  rfl

theorem decodeText_ofList {α : Type} (decoder : Decoder α) (chars : List Char) :
    decodeText decoder (String.ofList chars) =
      (parse? chars).elim (.error .malformed) decoder := by
  rw [decodeText, String.toList_ofList]
  cases parse? chars <;> rfl

/-! ## Records and lists -/

theorem knownMembers_record {names : List String} {members : List (String × Json)}
    (known : ∀ member ∈ members, member.1 ∈ names) (distinct : (members.map Prod.fst).Nodup) :
    knownMembers names (members.map fun (name, value) => (some name, value)) = .ok members := by
  induction members with
  | nil => rfl
  | cons member members ih =>
      obtain ⟨name, value⟩ := member
      rw [List.map_cons, List.nodup_cons] at distinct
      have others := ih (fun other inside => known other (List.mem_cons_of_mem _ inside)) distinct.2
      have fresh : (members.any fun other => other.1 == name) = false := by
        rw [List.any_eq_false]
        intro other inside same
        exact distinct.1 (List.mem_map.mpr ⟨other, inside, by simpa using same⟩)
      have isKnown : name ∈ names := known (name, value) List.mem_cons_self
      simp [knownMembers, others, bind, Except.bind, isKnown, fresh]

theorem find?_eq_of_nodup {members : List (String × Json)}
    (distinct : (members.map Prod.fst).Nodup) {member : String × Json} (inside : member ∈ members) :
    members.find? (fun (other, _) => other == member.1) = some member := by
  induction members with
  | nil => cases inside
  | cons first members ih =>
      rw [List.map_cons, List.nodup_cons] at distinct
      rcases List.mem_cons.mp inside with rfl | later
      · simp
      · have other : first.1 ≠ member.1 := fun same =>
          distinct.1 (same ▸ List.mem_map_of_mem later)
        rw [List.find?_cons_of_neg (by simpa using other), ih distinct.2 later]

/-- A record's values are found under the names of its members. -/
theorem slots_record {names : List String} {members : List (String × Json)}
    (same : members.map Prod.fst = names) (distinct : names.Nodup) :
    slots names (record members) = .ok (members.map fun member => some member.2) := by
  subst same
  have known : knownMembers (members.map Prod.fst)
      (members.map fun (name, value) => (some name, value)) = .ok members :=
    knownMembers_record (fun member inside => List.mem_map_of_mem inside) distinct
  rw [record, slots, known]
  simp only [bind, Except.bind, pure, Except.pure, List.map_map]
  congr 1
  refine List.map_congr_left fun member inside => ?_
  rw [Function.comp_apply, find?_eq_of_nodup distinct inside, Option.map_some]

theorem decodeList_array {α : Type} {write : α → Json} {decoder : Decoder α}
    (back : ∀ value, decoder (write value) = .ok value) (values : List α) :
    decodeList decoder (.array (values.map write)) = .ok values := by
  rw [decodeList]
  induction values with
  | nil => rfl
  | cons value values ih =>
      rw [List.map_cons, List.mapM_cons, back, ih]
      rfl

end Json

/-! ## The values of a checkout -/

theorem Money.ofJson_toJson (money : Money) : Money.ofJson money.toJson = .ok money := by
  have nanos := money.fitsInt32_nanos
  simp only [fitsInt32, Bool.and_eq_true, decide_eq_true_eq] at nanos
  have nanos_eq : (Int32.ofInt money.nanos).toInt = money.nanos :=
    Int32.toInt_ofInt_of_le (by simpa using nanos.1) (by omega)
  have readNanos := Json.decodeInt32_ofInt (Int32.ofInt money.nanos)
  rw [nanos_eq] at readNanos
  rw [ofJson, toJson, Json.slots_record (by rfl) (by decide)]
  simp only [List.map_cons, List.map_nil, bind, Except.bind, Json.required, Json.optional,
    Json.decodeString_ofString, Json.decodeInt64_ofInt money.fitsInt64_units, readNanos, nanos_eq,
    money.make_units_nanos]
  rfl

theorem OrderId.ofJson_toJson (id : OrderId) : OrderId.ofJson id.toJson = .ok id := by
  simp only [ofJson, toJson, bind, Except.bind, Json.decodeString_ofString, ofText_text]
  rfl

theorem ProductId.ofJson_toJson (id : ProductId) : ProductId.ofJson id.toJson = .ok id :=
  rfl

theorem CartItem.ofJson_toJson (item : CartItem) : CartItem.ofJson item.toJson = .ok item := by
  rw [ofJson, toJson, Json.slots_record (by rfl) (by decide)]
  simp only [List.map_cons, List.map_nil, bind, Except.bind, Json.required,
    ProductId.ofJson_toJson, Json.decodeUInt32_ofNat]
  rfl

theorem Product.ofJson_toJson (product : Product) :
    Product.ofJson product.toJson = .ok product := by
  rw [ofJson, toJson, Json.slots_record (by rfl) (by decide)]
  simp only [List.map_cons, List.map_nil, bind, Except.bind, Json.required, Json.optional,
    ProductId.ofJson_toJson, Json.decodeString_ofString, Money.ofJson_toJson]
  rfl

theorem Address.ofJson_toJson (address : Address) :
    Address.ofJson address.toJson = .ok address := by
  rw [ofJson, toJson, Json.slots_record (by rfl) (by decide)]
  simp only [List.map_cons, List.map_nil, bind, Except.bind, Json.required,
    Json.decodeString_ofString, Json.decodeInt32_ofInt]
  rfl

theorem Card.ofJson_toJson (card : Card) : Card.ofJson card.toJson = .ok card := by
  rw [ofJson, toJson, Json.slots_record (by rfl) (by decide)]
  simp only [List.map_cons, List.map_nil, bind, Except.bind, Json.required,
    Json.decodeString_ofString, Json.decodeInt32_ofInt]
  rfl

theorem OrderItem.ofJson_toJson (line : OrderItem) : OrderItem.ofJson line.toJson = .ok line := by
  rw [ofJson, toJson, Json.slots_record (by rfl) (by decide)]
  simp only [List.map_cons, List.map_nil, bind, Except.bind, Json.required,
    CartItem.ofJson_toJson, Money.ofJson_toJson]
  rfl

theorem Order.ofJson_toJson (order : Order) : Order.ofJson order.toJson = .ok order := by
  rw [ofJson, toJson, Json.slots_record (by rfl) (by decide)]
  simp only [List.map_cons, List.map_nil, bind, Except.bind, Json.required,
    OrderId.ofJson_toJson, Json.decodeString_ofString, Money.ofJson_toJson,
    Address.ofJson_toJson, Json.decodeList_array OrderItem.ofJson_toJson]
  rfl

theorem OrderRequest.ofJson_toJson (request : OrderRequest) :
    OrderRequest.ofJson request.toJson = .ok request := by
  rw [ofJson, toJson, Json.slots_record (by rfl) (by decide)]
  simp only [List.map_cons, List.map_nil, bind, Except.bind, Json.required,
    Json.decodeString_ofString, Address.ofJson_toJson, Card.ofJson_toJson]
  rfl

inductive Form where
  | money
  | orderId
  | productId
  | cartItem
  | product
  | address
  | card
  | orderItem
  | order
  | orderRequest

namespace Form

abbrev Value : Form → Type
  | .money => Money
  | .orderId => OrderId
  | .productId => ProductId
  | .cartItem => CartItem
  | .product => Product
  | .address => Address
  | .card => Card
  | .orderItem => OrderItem
  | .order => Order
  | .orderRequest => OrderRequest

def write : (form : Form) → form.Value → Json
  | .money => Money.toJson
  | .orderId => OrderId.toJson
  | .productId => ProductId.toJson
  | .cartItem => CartItem.toJson
  | .product => Product.toJson
  | .address => Address.toJson
  | .card => Card.toJson
  | .orderItem => OrderItem.toJson
  | .order => Order.toJson
  | .orderRequest => OrderRequest.toJson

def read : (form : Form) → Json.Decoder form.Value
  | .money => Money.ofJson
  | .orderId => OrderId.ofJson
  | .productId => ProductId.ofJson
  | .cartItem => CartItem.ofJson
  | .product => Product.ofJson
  | .address => Address.ofJson
  | .card => Card.ofJson
  | .orderItem => OrderItem.ofJson
  | .order => Order.ofJson
  | .orderRequest => OrderRequest.ofJson

/-- The amounts in a value, at every depth. -/
def moneys : (form : Form) → form.Value → List Money
  | .money, value => [value]
  | .product, value => [value.price]
  | .orderItem, value => [value.cost]
  | .order, value => value.shippingCost :: value.items.map OrderItem.cost
  | .orderId, _ | .productId, _ | .cartItem, _ | .address, _ | .card, _ | .orderRequest, _ => []

def orderIds : (form : Form) → form.Value → List OrderId
  | .orderId, value => [value]
  | .order, value => [value.id]
  | .money, _ | .productId, _ | .cartItem, _ | .product, _ | .address, _ | .card, _
  | .orderItem, _ | .orderRequest, _ => []

theorem read_write (form : Form) (value : form.Value) :
    form.read (form.write value) = .ok value := by
  cases form with
  | money => exact Money.ofJson_toJson value
  | orderId => exact OrderId.ofJson_toJson value
  | productId => exact ProductId.ofJson_toJson value
  | cartItem => exact CartItem.ofJson_toJson value
  | product => exact Product.ofJson_toJson value
  | address => exact Address.ofJson_toJson value
  | card => exact Card.ofJson_toJson value
  | orderItem => exact OrderItem.ofJson_toJson value
  | order => exact Order.ofJson_toJson value
  | orderRequest => exact OrderRequest.ofJson_toJson value

theorem decodeText_text (form : Form) (value : form.Value) :
    Json.decodeText form.read (form.write value).text = .ok value := by
  rw [Json.decodeText, Json.parse?_text]
  exact form.read_write value

end Form

/-- Every value is read back from its text.  Every text that is accepted, however it was laid out,
gives a value of which all parts are valid, and that value's own text is accepted and written again
in the same way. -/
theorem json_round_trip (form : Form) :
    (∀ value : form.Value, Json.decodeText form.read (form.write value).text = .ok value) ∧
    ∀ (text : String) (value : form.Value), Json.decodeText form.read text = .ok value →
      (∀ money ∈ form.moneys value, money.WellFormed) ∧
      (∀ id ∈ form.orderIds value, id.WellFormed) ∧
      ∃ again, Json.decodeText form.read (form.write value).text = .ok again ∧
        (form.write again).text = (form.write value).text :=
  ⟨form.decodeText_text, fun _ value _ =>
    ⟨fun money _ => money.wellFormed, fun id _ => id.wellFormed,
      value, form.decodeText_text value, rfl⟩⟩

/-- An order with its fields out of order, blanks, escapes, a member nobody asked for, a field left
to its default, values as arrays, and the digits of its id in upper case. -/
def Sample.roughText : String :=
  "\x7b\"items\":[[[\"\\uD83D\\ude00\",0],[\"usd\",12]]],\n\"gift\": [1e5] ,
    \"shipping_address\":[\"\",\"Z\\u00fcrich\",\"\",\"\\\"\",-2147483648],
    \"order_id\":\"DDDDDDDD-DDDD-DDDD-DDDD-DDDDDDDDDDDD\",
    \"shipping_cost\":\x7b\"nanos\":-5,\"currency_code\":\"CHF\"\x7d,
    \"shipping_tracking_id\":\"\\/\"\x7d"

def Sample.roughOrder : Order where
  id := ⟨List.replicate 32 (Text.lastHexDigit 13), rfl⟩
  trackingId := "/"
  shippingCost := ⟨⟨"CHF", by decide⟩, -5, by decide⟩
  shippingAddress := ⟨"", "Zürich", "", "\"", Int32.minValue⟩
  items := [⟨⟨⟨"😀"⟩, 0⟩, ⟨⟨"usd", by decide⟩, 12000000000, by decide⟩⟩]

set_option maxRecDepth 4000 in
theorem json_round_trip_of_rough_text :
    Json.decodeText Order.ofJson Sample.roughText = .ok Sample.roughOrder ∧
    Sample.roughOrder.id.WellFormed ∧ Sample.roughOrder.shippingCost.WellFormed ∧
    ∃ again, Json.decodeText Order.ofJson Sample.roughOrder.toJson.text = .ok again ∧
      again.toJson.text = Sample.roughOrder.toJson.text := by
  have accepted : Json.decodeText Order.ofJson Sample.roughText = .ok Sample.roughOrder := by
    refine (Json.decodeText_ofList Order.ofJson _).trans ?_
    decide +kernel
  have settled := (json_round_trip .order).2 Sample.roughText Sample.roughOrder accepted
  exact ⟨accepted, settled.2.1 _ List.mem_cons_self, settled.1 _ List.mem_cons_self, settled.2.2⟩

end Checkout

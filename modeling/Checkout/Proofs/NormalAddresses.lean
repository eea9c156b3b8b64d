import Checkout.Proofs.HeaderTexts
import Checkout.Proofs.Settings
import Mathlib.Data.List.Infix

/-!
# Normal addresses

An address is rid of the blanks around it and then of the slashes at its end, and gets a scheme if it
has none.  What comes of that is in normal form, and is left as it is when it is read once more, exactly
if something other than a blank is left before the slashes.  Of an address of nothing but slashes the
bare scheme is made, and a blank before the last slashes comes to stand at the end.
-/

set_option autoImplicit false

namespace Checkout.Config

/-! ## Normal form -/

/-- A scheme and some text after it, no blank at either end, and no slash at the end. -/
structure IsNormal (address : String) : Prop where
  scheme : ∃ scheme rest, address.toList = scheme ++ "://".toList ++ rest ∧ rest ≠ []
  trimmed : Text.Trimmed address.toList
  unslashed : address.toList.getLast? ≠ some '/'

/-- Without the blanks around it, the address ends in a character that is neither a slash nor a blank,
and slashes after that. -/
def IsProper (value : String) : Prop :=
  ∃ kept last slashes, Text.trimList value.toList = kept ++ last :: slashes ∧
    last ≠ '/' ∧ Text.isBlank last = false ∧ ∀ c ∈ slashes, c = '/'

def shortened (value : String) : List Char :=
  Text.dropTrailing (· == '/') (Text.trimList value.toList)

theorem isPrefix_shortened (value : String) : shortened value <+: Text.trimList value.toList :=
  List.rdropWhile_prefix _ _

theorem getLast?_shortened_ne_slash (value : String) : (shortened value).getLast? ≠ some '/' := by
  intro last
  have nonempty : shortened value ≠ [] := fun empty => by
    rw [empty] at last
    cases last
  have noSlash := List.rdropWhile_last_not (· == '/') (Text.trimList value.toList) nonempty
  rw [List.getLast?_eq_some_getLast nonempty] at last
  exact noSlash (beq_iff_eq.mpr (Option.some.inj last))

theorem isProper_iff (value : String) :
    IsProper value ↔ ∃ last, (shortened value).getLast? = some last ∧ Text.isBlank last = false := by
  constructor
  · rintro ⟨kept, last, slashes, trimmed, noSlash, visible, allSlashes⟩
    have dropped : shortened value = kept ++ [last] := by
      rw [shortened, trimmed]
      exact Text.dropTrailing_append (by simpa using noSlash) (by simpa using allSlashes)
    exact ⟨last, by rw [dropped, List.getLast?_concat], visible⟩
  · rintro ⟨last, ends, visible⟩
    obtain ⟨kept, short⟩ := List.getLast?_eq_some_iff.mp ends
    have whole : shortened value ++ (Text.trimList value.toList).rtakeWhile (· == '/') =
        Text.trimList value.toList := List.rdropWhile_append_rtakeWhile
    refine ⟨kept, last, (Text.trimList value.toList).rtakeWhile (· == '/'), ?_, ?_, visible, ?_⟩
    · conv => lhs; rw [← whole, short, List.append_assoc, List.singleton_append]
    · rintro rfl
      exact getLast?_shortened_ne_slash value ends
    · intro c member
      simpa using List.mem_rtakeWhile_imp member

/-! ## Schemes -/

theorem startsWith_iff (start text : List Char) : startsWith start text = true ↔ start <+: text := by
  induction start generalizing text with
  | nil => simp [startsWith]
  | cons c start ih =>
      cases text with
      | nil => simp [startsWith]
      | cons d text => simp [startsWith, ih, List.cons_prefix_cons]

theorem hasScheme_iff (text : List Char) : hasScheme text = true ↔ "://".toList <:+: text := by
  induction text with
  | nil =>
      rw [hasScheme]
      decide
  | cons c rest ih =>
      rw [hasScheme, Bool.or_eq_true, startsWith_iff, ih, List.infix_cons_iff]

theorem toList_withScheme (value : String) : (withScheme value).toList =
    if hasScheme (shortened value) then shortened value
    else "http://".toList ++ shortened value := by
  rw [withScheme]
  change (if hasScheme (shortened value) then _ else _ : String).toList = _
  split
  · rw [String.toList_ofList]
    rfl
  · rw [String.toList_ofList]
    rfl

theorem hasScheme_withScheme (value : String) : hasScheme (withScheme value).toList = true := by
  rw [toList_withScheme]
  split
  next found => exact found
  next => exact (hasScheme_iff _).mpr ⟨"http".toList, shortened value, rfl⟩

theorem getLast?_withScheme {value : String} (nonempty : shortened value ≠ []) :
    (withScheme value).toList.getLast? = (shortened value).getLast? := by
  rw [toList_withScheme]
  split
  · rfl
  · rw [List.getLast?_append, List.getLast?_eq_some_getLast nonempty]
    rfl

/-- An address begins with what is left of the value, and so not with a blank, or with a scheme. -/
theorem head?_withScheme {value : String} {c : Char}
    (first : (withScheme value).toList.head? = some c) : Text.isBlank c = false := by
  rw [toList_withScheme] at first
  split at first
  · obtain ⟨dropped, whole⟩ := isPrefix_shortened value
    apply (Text.trimmed_trimList value.toList).head
    rw [← whole, List.head?_append, first]
    rfl
  · cases first
    rfl

/-! ## Addresses made normal -/

theorem isNormal_withScheme_iff (value : String) : IsNormal (withScheme value) ↔ IsProper value := by
  rw [isProper_iff]
  constructor
  · intro normal
    by_cases empty : shortened value = []
    · have bare : (withScheme value).toList.getLast? = some '/' := by
        rw [toList_withScheme, empty]
        rfl
      exact absurd bare normal.unslashed
    · have ends := List.getLast?_eq_some_getLast empty
      exact ⟨_, ends, normal.trimmed.last _ ((getLast?_withScheme empty).trans ends)⟩
  · rintro ⟨last, ends, visible⟩
    have nonempty : shortened value ≠ [] := fun empty => by
      rw [empty] at ends
      cases ends
    have last_eq := getLast?_withScheme nonempty
    have unslashed : (withScheme value).toList.getLast? ≠ some '/' := by
      rw [last_eq]
      exact getLast?_shortened_ne_slash value
    refine ⟨?_, ⟨fun c first => head?_withScheme first, fun c final => ?_⟩, unslashed⟩
    · obtain ⟨scheme, rest, whole⟩ := (hasScheme_iff _).mp (hasScheme_withScheme value)
      refine ⟨scheme, rest, whole.symm, ?_⟩
      rintro rfl
      rw [← whole, List.append_nil, List.getLast?_append] at unslashed
      exact unslashed rfl
    · rw [last_eq, ends] at final
      rw [← Option.some.inj final]
      exact visible

theorem shortened_of_trimmed {address : String} (trimmed : Text.Trimmed address.toList)
    (unslashed : address.toList.getLast? ≠ some '/') : shortened address = address.toList := by
  rw [shortened, Text.trimList_of_trimmed trimmed, Text.dropTrailing_eq_rdropWhile,
    List.rdropWhile_eq_self_iff]
  intro nonempty slash
  rw [List.getLast?_eq_some_getLast nonempty] at unslashed
  exact unslashed (congrArg some (beq_iff_eq.mp slash))

theorem IsNormal.withScheme_eq {address : String} (normal : IsNormal address) :
    withScheme address = address := by
  have kept := shortened_of_trimmed normal.trimmed normal.unslashed
  have found : hasScheme (shortened address) = true := by
    obtain ⟨scheme, rest, whole, _⟩ := normal.scheme
    rw [kept]
    exact (hasScheme_iff _).mpr ⟨scheme, rest, whole.symm⟩
  rw [← String.toList_inj, toList_withScheme, if_pos found, kept]

/-- A scheme is put in front only if the address has lost its own, and then it is not what it was. -/
theorem hasScheme_of_withScheme_eq {address : String} (same : withScheme address = address) :
    hasScheme (shortened address) = true := by
  by_contra lost
  have whole : address.toList = "http://".toList ++ shortened address := by
    conv => lhs; rw [← same, toList_withScheme, if_neg lost]
  have kept : shortened address <+: address.toList := by
    have front : address.toList.dropWhile Text.isBlank = address.toList := by
      rw [whole]
      rfl
    have trimmed : Text.trimList address.toList <+: address.toList := by
      rw [Text.trimList, front]
      exact List.rdropWhile_prefix _ _
    exact (isPrefix_shortened address).trans trimmed
  have scheme : "http://".toList <+: address.toList := ⟨_, whole.symm⟩
  have short : shortened address <+: "http://".toList := by
    refine List.prefix_of_prefix_length_le kept scheme (Nat.le_of_not_lt fun long => lost ?_)
    have inside := List.prefix_of_prefix_length_le scheme kept (Nat.le_of_lt long)
    exact (hasScheme_iff _).mpr (List.IsInfix.trans ⟨"http".toList, [], rfl⟩ inside.isInfix)
  have none_kept : ∀ begun ∈ "http://".toList.inits,
      Text.dropTrailing (· == '/') (Text.trimList ("http://".toList ++ begun)) ≠ begun := by decide
  apply none_kept (shortened address) ((List.mem_inits _ _).mpr short)
  rw [← whole]
  rfl

/-- An address is left as it is exactly if it is in normal form. -/
theorem withScheme_eq_self_iff (address : String) : withScheme address = address ↔ IsNormal address := by
  refine ⟨fun same => ?_, IsNormal.withScheme_eq⟩
  have found := hasScheme_of_withScheme_eq same
  have kept : shortened address = address.toList := by
    conv => rhs; rw [← same, toList_withScheme, if_pos found]
  have nonempty : shortened address ≠ [] := fun empty => by
    rw [empty] at found
    cases found
  have trimmed : shortened address = Text.trimList address.toList := by
    apply (isPrefix_shortened address).eq_of_length_le
    rw [kept]
    exact Text.length_trimList_le address.toList
  have ends := List.getLast?_eq_some_getLast nonempty
  rw [← same, isNormal_withScheme_iff, isProper_iff]
  refine ⟨_, ends, (Text.trimmed_trimList address.toList).last _ ?_⟩
  rw [← trimmed, ends]

/-! ## The addresses of a configuration -/

def addressVariables : List String :=
  collaborators ++ ["FLAGD_ADDR"]

def address? (config : Config) : String → Option String
  | "CART_SERVICE_ADDR" => some config.cart
  | "PRODUCT_CATALOG_SERVICE_ADDR" => some config.catalog
  | "CURRENCY_SERVICE_ADDR" => some config.currency
  | "SHIPPING_SERVICE_ADDR" => some config.shipping
  | "PAYMENT_SERVICE_ADDR" => some config.payment
  | "EMAIL_SERVICE_ADDR" => some config.email
  | "FLAGD_ADDR" => config.flagBackend
  | _ => none

def settle (config : Config) (lookup : Lookup) : Lookup := fun name =>
  (config.address? name).or (lookup name)

variable {lookup : Lookup} {config : Config} {name : String}

theorem address?_of_not_mem (other : name ∉ addressVariables) : config.address? name = none := by
  unfold address?
  split
  all_goals first | rfl | exact absurd (by decide) other

theorem settle_of_not_mem (other : name ∉ addressVariables) :
    config.settle lookup name = lookup name := by
  rw [settle, address?_of_not_mem other, Option.none_or]

/-- What a configuration has from its variables. -/
structure Holds (lookup : Lookup) (config : Config) : Prop where
  port : readPort lookup = .ok config.port
  requestTimeout : readTimeout lookup = .ok config.requestTimeout
  addresses : ∀ name ∈ addressVariables, config.address? name = (optional lookup name).map withScheme
  host : config.host = (optional lookup "CHECKOUT_SERVICE_HOST").getD "0.0.0.0"
  broker : config.broker = optional lookup "KAFKA_SERVICE_ADDR"
  topic : config.topic = (optional lookup "KAFKA_TOPIC").getD "orders"

theorem address_eq_ok_iff {made : String} :
    address lookup name = .ok made ↔ some made = (optional lookup name).map withScheme := by
  rw [address, required]
  cases optional lookup name with
  | none => simp [Except.map]
  | some value => simp [Except.map, eq_comm]

theorem load_eq_ok_iff : load lookup = .ok config ↔ Holds lookup config := by
  constructor
  · intro loaded
    obtain ⟨port, portRead, loaded⟩ := Except.of_bind loaded
    obtain ⟨timeout, timeoutRead, loaded⟩ := Except.of_bind loaded
    obtain ⟨cart, cartRead, loaded⟩ := Except.of_bind loaded
    obtain ⟨catalog, catalogRead, loaded⟩ := Except.of_bind loaded
    obtain ⟨currency, currencyRead, loaded⟩ := Except.of_bind loaded
    obtain ⟨shipping, shippingRead, loaded⟩ := Except.of_bind loaded
    obtain ⟨payment, paymentRead, loaded⟩ := Except.of_bind loaded
    obtain ⟨email, emailRead, loaded⟩ := Except.of_bind loaded
    cases loaded
    rw [address_eq_ok_iff] at cartRead catalogRead currencyRead shippingRead paymentRead emailRead
    refine ⟨portRead, timeoutRead, ?_, rfl, rfl, rfl⟩
    simp only [addressVariables, collaborators, List.cons_append, List.nil_append,
      List.forall_mem_cons]
    exact ⟨cartRead, catalogRead, currencyRead, shippingRead, paymentRead, emailRead, rfl, nofun⟩
  · intro holds
    have addresses := holds.addresses
    simp only [addressVariables, collaborators, List.cons_append, List.nil_append,
      List.forall_mem_cons] at addresses
    obtain ⟨cart, catalog, currency, shipping, payment, email, flagBackend, _⟩ := addresses
    rw [load, holds.port, holds.requestTimeout, address_eq_ok_iff.mpr cart,
      address_eq_ok_iff.mpr catalog, address_eq_ok_iff.mpr currency, address_eq_ok_iff.mpr shipping,
      address_eq_ok_iff.mpr payment, address_eq_ok_iff.mpr email, ← holds.host, ← holds.broker,
      ← holds.topic, ← flagBackend]
    rfl

/-- An address has a mark after its scheme, so it is not blank. -/
theorem optional_of_hasScheme {address : String} (found : lookup name = some address)
    (marked : hasScheme address.toList = true) : optional lookup name = some address := by
  refine optional_eq_some_iff.mpr ⟨found, ?_⟩
  obtain ⟨scheme, rest, whole⟩ := (hasScheme_iff _).mp marked
  rw [Text.isBlankText, List.all_eq_false]
  refine ⟨':', ?_, by decide⟩
  rw [← whole]
  simp

/-- Settled variables hold the addresses themselves, those that are not set apart. -/
theorem Holds.optional_settle (holds : Holds lookup config) (isAddress : name ∈ addressVariables) :
    optional (config.settle lookup) name = config.address? name := by
  have address_eq := holds.addresses name isAddress
  cases set : config.address? name with
  | none =>
      rw [set, eq_comm, Option.map_eq_none_iff] at address_eq
      rw [← address_eq, optional, optional, settle, set, Option.none_or]
  | some address =>
      rw [set, eq_comm, Option.map_eq_some_iff] at address_eq
      obtain ⟨value, _, rfl⟩ := address_eq
      exact optional_of_hasScheme (by rw [settle, set, Option.some_or]) (hasScheme_withScheme value)

theorem Holds.settle_iff (holds : Holds lookup config) : Holds (config.settle lookup) config ↔
    ∀ name ∈ addressVariables, ∀ address, config.address? name = some address →
      withScheme address = address := by
  have others : ∀ name, name ∉ addressVariables →
      optional (config.settle lookup) name = optional lookup name := by
    intro name other
    rw [optional, optional, settle_of_not_mem other]
  constructor
  · intro again name isAddress address set
    have kept := again.addresses name isAddress
    rw [holds.optional_settle isAddress, set, Option.map_some] at kept
    exact (Option.some.inj kept).symm
  · intro kept
    refine ⟨?_, ?_, ?_, ?_, ?_, ?_⟩
    · rw [← holds.port, readPort, readPort, required, required, others portName (by decide)]
    · rw [← holds.requestTimeout, readTimeout, readTimeout, others timeoutName (by decide)]
    · intro name isAddress
      rw [holds.optional_settle isAddress]
      cases set : config.address? name with
      | none => rfl
      | some address => rw [Option.map_some, kept name isAddress address set]
    · rw [holds.host, others _ (by decide)]
    · rw [holds.broker, others _ (by decide)]
    · rw [holds.topic, others _ (by decide)]

def Proper (lookup : Lookup) : Prop :=
  ∀ name ∈ addressVariables, ∀ value, Sets lookup name value → IsProper value

theorem Holds.proper_iff (holds : Holds lookup config) : Proper lookup ↔
    ∀ name ∈ addressVariables, ∀ address, config.address? name = some address → IsNormal address := by
  refine forall₂_congr fun name isAddress => ?_
  rw [holds.addresses name isAddress]
  constructor
  · intro proper address made
    obtain ⟨value, set, rfl⟩ := Option.map_eq_some_iff.mp made
    exact (isNormal_withScheme_iff value).mpr (proper value (optional_eq_some_iff.mp set))
  · intro normal value set
    rw [← isNormal_withScheme_iff]
    apply normal
    rw [optional_eq_some_iff.mpr set, Option.map_some]

/-- The addresses of a configuration are in normal form, and the configuration is loaded again from
them, exactly if they were given with nothing but slashes after the last character that is no blank. -/
theorem addresses_normal_iff (loaded : load lookup = .ok config) :
    ((∀ name ∈ addressVariables, ∀ address, config.address? name = some address →
      IsNormal address) ↔ Proper lookup) ∧
    (load (config.settle lookup) = .ok config ↔ Proper lookup) := by
  have holds := load_eq_ok_iff.mp loaded
  refine ⟨holds.proper_iff.symm, ?_⟩
  rw [load_eq_ok_iff, holds.settle_iff, holds.proper_iff]
  simp only [withScheme_eq_self_iff]

def Sample.rough : Lookup
  | "CHECKOUT_SERVICE_PORT" => some "5050"
  | "CART_SERVICE_ADDR" => some "\tcart:7070// "
  | "PRODUCT_CATALOG_SERVICE_ADDR" => some "https://catalog/v1/"
  | "CURRENCY_SERVICE_ADDR" => some "tcp://"
  | "SHIPPING_SERVICE_ADDR" => some "shipping:50050"
  | "PAYMENT_SERVICE_ADDR" => some "payment:50051"
  | "EMAIL_SERVICE_ADDR" => some "http://email:6060/"
  | _ => none

def Sample.tidied : Config where
  host := "0.0.0.0"
  port := 5050
  cart := "http://cart:7070"
  catalog := "https://catalog/v1"
  currency := "http://tcp:"
  shipping := "http://shipping:50050"
  payment := "http://payment:50051"
  email := "http://email:6060"
  broker := none
  topic := "orders"
  flagBackend := none
  requestTimeout := 30000

theorem addresses_normal_iff_of_rough :
    load Sample.rough = .ok Sample.tidied ∧
    (∀ name ∈ addressVariables, ∀ address, Sample.tidied.address? name = some address →
      IsNormal address) ∧
    load (Sample.tidied.settle Sample.rough) = .ok Sample.tidied := by
  have loaded : load Sample.rough = .ok Sample.tidied := rfl
  have ends : ∀ name ∈ addressVariables, ∀ value ∈ Sample.rough name,
      (shortened value).getLast?.map Text.isBlank = some false := by decide
  have proper : Proper Sample.rough := by
    intro name isAddress value set
    rw [isProper_iff]
    exact Option.map_eq_some_iff.mp (ends name isAddress value set.1)
  obtain ⟨normal, again⟩ := addresses_normal_iff loaded
  exact ⟨loaded, normal.mpr proper, again.mpr proper⟩

/-- A blank before the last slash ends the address, and nothing but slashes gives a scheme with nothing
after it; read once more, both give another address. -/
theorem slashes_leave_abnormal :
    (let lookup := Function.update Sample.rough "CART_SERVICE_ADDR" (some "cart:7070 /")
     let config := { Sample.tidied with cart := "http://cart:7070 " }
     load lookup = .ok config ∧ ¬ IsNormal config.cart ∧
       load (config.settle lookup) = .ok Sample.tidied ∧ config ≠ Sample.tidied) ∧
    (let lookup := Function.update Sample.rough "CART_SERVICE_ADDR" (some "/")
     let config := { Sample.tidied with cart := "http://" }
     load lookup = .ok config ∧ ¬ IsNormal config.cart ∧
       load (config.settle lookup) = .ok { Sample.tidied with cart := "http://http:" } ∧
       config ≠ { Sample.tidied with cart := "http://http:" }) := by
  refine ⟨⟨rfl, fun normal => ?_, rfl, by decide⟩, ⟨rfl, fun normal => ?_, rfl, by decide⟩⟩
  · have visible := normal.trimmed.last ' ' rfl
    exact absurd visible (by decide)
  · exact normal.unslashed rfl

end Checkout.Config

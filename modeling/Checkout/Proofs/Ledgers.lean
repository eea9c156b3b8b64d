import Checkout.Proofs.Decimals
import Checkout.Proofs.Finishing
import Checkout.Services.World

/-!
# What the services in memory have on record

A payment service enters a charge, and the shipping service a parcel, exactly when it answers that
it did; whatever else happens to the world, the ledgers stay as they are.  So what a run has heard
tells what it has left in the ledgers, and under which names: those of the next values of a counter of
32 bits.  No value comes back in fewer than `2 ^ 32` steps, so until then the names are all different.
-/

set_option autoImplicit false

open scoped List

namespace Checkout

/-! ## Names of entries -/

namespace Ledger

variable {α : Type} {heading : String} {before between after : Ledger α}
  {entered others : List (String × α)}

theorem entryName_inj {first second : UInt32}
    (same : entryName heading first = entryName heading second) : first = second := by
  unfold entryName at same
  apply UInt32.toNat_inj.mp
  apply Text.padded_inj
  apply String.ofList_injective
  exact String.append_right_inj _ |>.mp same

/-- The names of the next `count` entries after the one with the id `last`. -/
def names (heading : String) (last : UInt32) (count : Nat) : List String :=
  (List.range count).map fun index => entryName heading (last + UInt32.ofNat (index + 1))

theorem names_add (heading : String) (last : UInt32) (first second : Nat) :
    names heading last (first + second) =
      names heading last first ++ names heading (last + UInt32.ofNat first) second := by
  simp only [names, List.range_add, List.map_append, List.map_map]
  congr 1
  apply List.map_congr_left
  intro index _
  simp only [Function.comp_apply, UInt32.ofNat_add, UInt32.add_assoc]

/-- The counter does not come back to a value in fewer than `2 ^ 32` steps. -/
theorem nodup_names (heading : String) (last : UInt32) {count : Nat} (bounded : count < 2 ^ 32) :
    (names heading last count).Nodup := by
  rw [names, List.Nodup, List.pairwise_map]
  refine List.Pairwise.imp_of_mem ?_ List.pairwise_lt_range
  intro first second firstBelow secondBelow before same
  have ids := congrArg UInt32.toNat (UInt32.add_right_inj _ |>.mp (entryName_inj same))
  rw [List.mem_range] at firstBelow secondBelow
  rw [UInt32.toNat_ofNat_of_lt' (by simp [UInt32.size]; omega),
    UInt32.toNat_ofNat_of_lt' (by simp [UInt32.size]; omega)] at ids
  omega

/-- A ledger has come to another one by taking these entries under these names. -/
structure Takes (heading : String) (before after : Ledger α) (entered : List (String × α)) :
    Prop where
  entries_eq : after.entries = before.entries ++ entered
  names_eq : entered.map Prod.fst = names heading before.lastId entered.length
  lastId_eq : after.lastId = before.lastId + UInt32.ofNat entered.length
  fails_eq : after.fails = before.fails

namespace Takes

theorem nothing (same : after.entries = before.entries) (lastId : after.lastId = before.lastId)
    (fails : after.fails = before.fails) : Takes heading before after [] where
  entries_eq := by simpa using same
  names_eq := rfl
  lastId_eq := by simpa using lastId
  fails_eq := fails

theorem trans (first : Takes heading before between entered)
    (second : Takes heading between after others) :
    Takes heading before after (entered ++ others) where
  entries_eq := by rw [second.entries_eq, first.entries_eq, List.append_assoc]
  names_eq := by
    rw [List.map_append, first.names_eq, second.names_eq, first.lastId_eq, List.length_append,
      names_add]
  lastId_eq := by
    rw [second.lastId_eq, first.lastId_eq, List.length_append, UInt32.ofNat_add, UInt32.add_assoc]
  fails_eq := second.fails_eq.trans first.fails_eq

theorem values_eq (takes : Takes heading before after entered) :
    after.values = before.values ++ entered.map Prod.snd := by
  rw [values, takes.entries_eq, List.map_append]
  rfl

theorem nodup (takes : Takes heading before after entered) (bounded : entered.length < 2 ^ 32) :
    (entered.map Prod.fst).Nodup := by
  rw [takes.names_eq]
  exact nodup_names heading _ bounded

end Takes

/-! ## Numbered ledgers -/

/-- The entries are named in turn, from the first value of the counter on, and the counter stands where
the last of them has left it. -/
structure Numbered (heading : String) (ledger : Ledger α) : Prop where
  names_eq : ledger.entries.map Prod.fst = names heading 0 ledger.entries.length
  lastId_eq : ledger.lastId = UInt32.ofNat ledger.entries.length

namespace Numbered

variable {ledger : Ledger α}

theorem empty : Numbered heading (Ledger.empty : Ledger α) :=
  ⟨rfl, rfl⟩

theorem takes (numbered : Numbered heading before) (takes : Takes heading before after entered) :
    Numbered heading after where
  names_eq := by
    rw [takes.entries_eq, List.map_append, numbered.names_eq, takes.names_eq, numbered.lastId_eq,
      List.length_append, names_add, UInt32.zero_add]
  lastId_eq := by
    rw [takes.lastId_eq, numbered.lastId_eq, takes.entries_eq, List.length_append, UInt32.ofNat_add]

/-- The name of an entry tells its place. -/
theorem name_eq (numbered : Numbered heading ledger) {earlier later : List (String × α)}
    {name : String} {value : α} (entries_eq : ledger.entries = earlier ++ (name, value) :: later) :
    name = entryName heading (UInt32.ofNat earlier.length + 1) := by
  have here := congrArg (fun names => names[earlier.length]?) numbered.names_eq
  simpa [entries_eq, names, UInt32.ofNat_add] using here

theorem nodup (numbered : Numbered heading ledger) (bounded : ledger.entries.length < 2 ^ 32) :
    (ledger.entries.map Prod.fst).Nodup := by
  rw [numbered.names_eq]
  exact nodup_names heading 0 bounded

/-- As no name is given twice, the first entry under a name is the only one. -/
theorem find?_eq_some_iff (numbered : Numbered heading ledger)
    (bounded : ledger.entries.length < 2 ^ 32) {name : String} {value : α} :
    ledger.find? name = some value ↔ (name, value) ∈ ledger.entries := by
  rw [find?, List.lookup_eq_some_iff]
  constructor
  · rintro ⟨earlier, later, entries_eq, _⟩
    rw [entries_eq]
    exact List.mem_append_right _ List.mem_cons_self
  · intro member
    obtain ⟨earlier, later, entries_eq⟩ := List.append_of_mem member
    refine ⟨earlier, later, entries_eq, fun entry before => ?_⟩
    have distinct := numbered.nodup bounded
    rw [entries_eq, List.map_append, List.map_cons] at distinct
    have other := (List.nodup_append.mp distinct).2.2 entry.1 (List.mem_map_of_mem before) name
      List.mem_cons_self
    simpa using Ne.symm other

end Numbered

end Ledger

/-! ## The ledgers of a world -/

def Answered.charge? (endpoint : Endpoint) : Answered → Option (String × Money)
  | ⟨.charge made amount _, .ok transaction⟩ =>
    if made = endpoint then some (transaction, amount) else none
  | _ => none

def Answered.parcel? : Answered → Option (String × List CartItem)
  | ⟨.shipOrder _ items, .ok tracking⟩ => some (tracking, items)
  | _ => none

def charges (endpoint : Endpoint) (heard : List Answered) : List (String × Money) :=
  heard.filterMap (Answered.charge? endpoint)

def parcels (heard : List Answered) : List (String × List CartItem) :=
  heard.filterMap Answered.parcel?

theorem charges_append (endpoint : Endpoint) (heard rest : List Answered) :
    charges endpoint (heard ++ rest) = charges endpoint heard ++ charges endpoint rest :=
  List.filterMap_append

theorem parcels_append (heard rest : List Answered) :
    parcels (heard ++ rest) = parcels heard ++ parcels rest :=
  List.filterMap_append

theorem charges_failure (endpoint : Endpoint) (call : Call) (source : ServiceError) :
    charges endpoint [⟨call, .error source⟩] = [] := by
  cases call <;> rfl

theorem parcels_failure (call : Call) (source : ServiceError) :
    parcels [⟨call, .error source⟩] = [] := by
  cases call <;> rfl

structure Unentered (heard : List Answered) : Prop where
  charges_eq : ∀ endpoint, charges endpoint heard = []
  parcels_eq : parcels heard = []

namespace Unentered

variable {heard rest : List Answered}

theorem nil : Unentered [] :=
  ⟨fun _ => rfl, rfl⟩

theorem failure (call : Call) (source : ServiceError) : Unentered [⟨call, .error source⟩] :=
  ⟨fun endpoint => charges_failure endpoint call source, parcels_failure call source⟩

theorem of_forall (uncharged : ∀ answered ∈ heard, ∀ endpoint, answered.charge? endpoint = none)
    (unshipped : ∀ answered ∈ heard, answered.parcel? = none) : Unentered heard where
  charges_eq := fun endpoint => List.filterMap_eq_nil_iff.mpr fun answered member =>
    uncharged answered member endpoint
  parcels_eq := List.filterMap_eq_nil_iff.mpr unshipped

theorem charges_append_left (unentered : Unentered heard) (endpoint : Endpoint) :
    charges endpoint (heard ++ rest) = charges endpoint rest := by
  rw [charges_append, unentered.charges_eq, List.nil_append]

theorem charges_append_right (unentered : Unentered rest) (endpoint : Endpoint) :
    charges endpoint (heard ++ rest) = charges endpoint heard := by
  rw [charges_append, unentered.charges_eq, List.append_nil]

theorem parcels_append_left (unentered : Unentered heard) :
    parcels (heard ++ rest) = parcels rest := by
  rw [parcels_append, unentered.parcels_eq, List.nil_append]

theorem parcels_append_right (unentered : Unentered rest) :
    parcels (heard ++ rest) = parcels heard := by
  rw [parcels_append, unentered.parcels_eq, List.append_nil]

theorem append (first : Unentered heard) (second : Unentered rest) : Unentered (heard ++ rest) where
  charges_eq := by
    intro endpoint
    rw [first.charges_append_left, second.charges_eq]
  parcels_eq := by rw [first.parcels_append_left, second.parcels_eq]

end Unentered

namespace World

def paymentsAt (world : World) : Endpoint → Payments
  | .primary => world.payments
  | .unreachable => world.unreachable

/-- Between two states of the world its services have entered what was heard of them. -/
structure Records (before after : World) (heard : List Answered) : Prop where
  payments : ∀ endpoint, Ledger.Takes Payments.heading (before.paymentsAt endpoint)
    (after.paymentsAt endpoint) (charges endpoint heard)
  shipments : Ledger.Takes Shipments.heading before.shipments.ledger after.shipments.ledger
    (parcels heard)

namespace Records

variable {before between after : World} {heard others : List Answered}

/-- The ledgers were left alone, and nothing was heard of them. -/
theorem nothing (payments : after.payments = before.payments)
    (unreachable : after.unreachable = before.unreachable)
    (shipments : after.shipments.ledger = before.shipments.ledger)
    (unentered : Unentered heard) : Records before after heard where
  payments := by
    intro endpoint
    rw [unentered.charges_eq]
    cases endpoint with
    | primary =>
        have same : after.paymentsAt .primary = before.paymentsAt .primary := payments
        rw [same]
        exact .nothing rfl rfl rfl
    | unreachable =>
        have same : after.paymentsAt .unreachable = before.paymentsAt .unreachable := unreachable
        rw [same]
        exact .nothing rfl rfl rfl
  shipments := by
    rw [unentered.parcels_eq]
    rw [shipments]
    exact .nothing rfl rfl rfl

theorem refl (world : World) : Records world world [] :=
  nothing rfl rfl rfl ⟨fun _ => rfl, rfl⟩

theorem trans (first : Records before between heard) (second : Records between after others) :
    Records before after (heard ++ others) where
  payments := by
    intro endpoint
    rw [charges_append]
    exact (first.payments endpoint).trans (second.payments endpoint)
  shipments := by
    rw [parcels_append]
    exact first.shipments.trans second.shipments

end Records

end World

/-! ## Numbered worlds -/

structure World.Numbered (world : World) : Prop where
  payments : ∀ endpoint, Ledger.Numbered Payments.heading (world.paymentsAt endpoint)
  shipments : Ledger.Numbered Shipments.heading world.shipments.ledger

/-- No counter has run over. -/
structure World.Unexhausted (world : World) : Prop where
  payments : ∀ endpoint, (world.paymentsAt endpoint).entries.length < 2 ^ 32
  shipments : world.shipments.ledger.entries.length < 2 ^ 32

theorem World.numbered_start (price : Money) (ids : List (Except IdentityError OrderId)) :
    (World.start price ids).Numbered where
  payments
    | .primary => .empty
    | .unreachable => ⟨rfl, rfl⟩
  shipments := .empty

namespace World.Records

variable {before after : World} {heard : List Answered}

theorem numbered (records : Records before after heard) (numbered : before.Numbered) :
    after.Numbered where
  payments endpoint := (numbered.payments endpoint).takes (records.payments endpoint)
  shipments := numbered.shipments.takes records.shipments

theorem nodup_charges (records : Records before after heard) (unexhausted : after.Unexhausted)
    (endpoint : Endpoint) : ((charges endpoint heard).map Prod.fst).Nodup := by
  refine (records.payments endpoint).nodup ?_
  have bound := unexhausted.payments endpoint
  rw [(records.payments endpoint).entries_eq, List.length_append] at bound
  omega

theorem nodup_parcels (records : Records before after heard) (unexhausted : after.Unexhausted) :
    ((parcels heard).map Prod.fst).Nodup := by
  refine records.shipments.nodup ?_
  have bound := unexhausted.shipments
  rw [records.shipments.entries_eq, List.length_append] at bound
  omega

/-- What was shipped is found under the tracking id that was given for it. -/
theorem shipped?_eq (records : Records before after heard) (numbered : before.Numbered)
    (unexhausted : after.Unexhausted) {tracking : String} {items : List CartItem}
    (parcel : (tracking, items) ∈ parcels heard) :
    after.shipments.shipped? tracking = some items := by
  apply ((records.numbered numbered).shipments.find?_eq_some_iff unexhausted.shipments).mpr
  rw [records.shipments.entries_eq]
  exact List.mem_append_right _ parcel

end World.Records

theorem Ledger.takes_enter {α : Type} (ledger : Ledger α) (heading : String) (value : α) :
    Takes heading ledger (ledger.enter heading value).2
      ((ledger.enter heading value).1.toList.map fun name => (name, value)) := by
  unfold enter
  by_cases fails : ledger.fails
  · simp only [if_pos fails]
    exact .nothing rfl rfl rfl
  · simp only [if_neg fails]
    exact ⟨rfl, rfl, rfl, rfl⟩

theorem Payments.takes_charge (payments : Payments) (amount : Money) :
    Ledger.Takes heading payments (payments.charge amount).2
      ((payments.charge amount).1.toOption.toList.map fun transaction => (transaction, amount)) := by
  have takes := payments.takes_enter heading amount
  unfold charge
  cases entered : payments.enter heading amount with
  | mk name? later =>
      rw [entered] at takes
      cases name? with
      | none => exact takes
      | some transaction => exact takes

theorem Shipments.takes_ship (shipments : Shipments) (items : List CartItem) :
    Ledger.Takes heading shipments.ledger (shipments.ship items).2.ledger
      ((shipments.ship items).1.toOption.toList.map fun tracking => (tracking, items)) := by
  have takes := shipments.ledger.takes_enter heading items
  unfold ship
  cases entered : shipments.ledger.enter heading items with
  | mk name? later =>
      rw [entered] at takes
      cases name? with
      | none => exact takes
      | some tracking => exact takes

theorem charges_charge (endpoint made : Endpoint) (amount : Money) (card : Card)
    (answer : Except ServiceError String) :
    charges endpoint [⟨.charge made amount card, answer⟩] =
      if made = endpoint then
        answer.toOption.toList.map fun transaction => (transaction, amount)
      else [] := by
  by_cases same : made = endpoint
  · subst same
    cases answer with
    | error error => simp [charges, Answered.charge?, Except.toOption]
    | ok transaction => simp [charges, Answered.charge?, Except.toOption]
  · rw [if_neg same]
    cases answer with
    | error error => rfl
    | ok transaction => simp [charges, Answered.charge?, same]

theorem parcels_shipOrder (address : Address) (items : List CartItem)
    (answer : Except ServiceError String) :
    parcels [⟨.shipOrder address items, answer⟩] =
      answer.toOption.toList.map fun tracking => (tracking, items) := by
  cases answer <;> rfl

/-- A service that answers a call enters what it says it did. -/
theorem World.records_answer (world : World) (call : Call) :
    Records world (world.answer call).2 [⟨call, (world.answer call).1⟩] := by
  cases call with
  | charge made amount card =>
      refine ⟨?_, ?_⟩
      · intro endpoint
        rw [charges_charge]
        -- The other of the two services is not asked.
        cases made with
        | primary =>
            cases endpoint with
            | primary => exact world.payments.takes_charge amount
            | unreachable => exact .nothing rfl rfl rfl
        | unreachable =>
            cases endpoint with
            | primary => exact .nothing rfl rfl rfl
            | unreachable => exact world.unreachable.takes_charge amount
      · cases made with
        | primary => exact .nothing rfl rfl rfl
        | unreachable => exact .nothing rfl rfl rfl
  | shipOrder address items =>
      refine ⟨fun endpoint => ?_, ?_⟩
      · cases endpoint with
        | primary => exact .nothing rfl rfl rfl
        | unreachable => exact .nothing rfl rfl rfl
      · rw [parcels_shipOrder]
        exact world.shipments.takes_ship items
  | _ => exact .nothing rfl rfl rfl ⟨fun _ => rfl, rfl⟩

/-! ## Runs against a world -/

section Runs

variable {α : Type} (trace : TraceContext)

theorem World.flagsReturn : World.backend.FlagsReturn :=
  fun _ _ _ _ => Option.some_ne_none _

/-- A run against a world comes to its end. -/
theorem Program.returns_of_world (program : Program α) (machine : Machine World) :
    ∃ value later trail,
      program.progress World.backend trace machine = ⟨trail, some (value, later)⟩ := by
  obtain returned | ⟨stuck, call, trail, _, silent, _⟩ :=
    Program.run_cases World.backend trace program.asks_any World.flagsReturn machine
  · exact returned
  · cases silent.never

/-- The ways in which a question to a world can be answered: what it leaves in the trail, and what the
world is afterwards. -/
inductive World.Answering (world : World) (now : Instant) : Query → List Entry → World → Prop where
  | refused (call : Call) : Answering world now (.call call) [] world
  | answered (call : Call) (answer : Except ServiceError call.Reply) (instant : Instant)
      (after : World) (answer_eq : world.answer call = (answer, after)) :
      Answering world now (.call call)
        [⟨now, .called call⟩, ⟨instant, .answered call answer⟩] after
  | abandoned (call : Call) (instant : Instant) (error : ContextError) :
      Answering world now (.call call)
        [⟨now, .called call⟩, ⟨instant, .abandoned call error⟩] world
  | flag (kind : FlagKind) (flag : String) :
      Answering world now (.flag kind flag) [⟨now, .asked kind flag⟩] (world.evaluate kind flag).2
  | orderId : Answering world now .orderId [] world.nextId.2
  | span : Answering world now .span [] world.nextSpan.2
  | send (envelope : Envelope) :
      Answering world now (.send envelope) [⟨now, .sent envelope (world.send envelope).1⟩]
        (world.send envelope).2
  | settle (delivery : Delivery) (limit : Nat) :
      Answering world now (.settle delivery limit) [] world
  | note (event : Event) : Answering world now (.note event) [⟨now, .noted event⟩] world

theorem Machine.answering {machine later : Machine World} {query : Query} {answer : query.Answer}
    {trail : List Entry}
    (asked : machine.progress World.backend trace query = ⟨trail, some (answer, later)⟩) :
    machine.world.Answering machine.now query trail later.world := by
  cases query with
  | call call =>
      cases machine.callCourse World.backend trace call with
      | refused error ended made =>
          cases made.symm.trans asked
          exact .refused call
      | answered answer length _ took answer_eq now_eq life_eq made =>
          cases made.symm.trans asked
          exact .answered call answer later.now later.world answer_eq
      | abandoned error _ world_eq life_eq made =>
          cases made.symm.trans asked
          -- The service has received the call, but that alone does not change it.
          have same : later.world = machine.world := world_eq
          rw [same]
          exact .abandoned call later.now error
      | endless silent unbounded made => cases made.symm.trans asked
  | flag kind flag =>
      cases machine.flagCourse World.backend trace kind flag with
      | answered answer length _ took answer_eq now_eq life_eq made =>
          cases made.symm.trans asked
          have later_eq : later.world = (machine.world.evaluate kind flag).2 :=
            (congrArg Prod.snd answer_eq).symm
          rw [later_eq]
          exact .flag kind flag
      | endless silent made => cases made.symm.trans asked
  | orderId =>
      cases asked
      exact .orderId
  | span =>
      cases asked
      exact .span
  | send envelope =>
      cases asked
      exact .send envelope
  | settle delivery limit =>
      cases asked
      exact .settle delivery limit
  | note event =>
      cases asked
      exact .note event

theorem World.Answering.records {world later : World} {now : Instant} {query : Query}
    {trail : List Entry} (answering : world.Answering now query trail later) :
    Records world later (answers trail) := by
  cases answering with
  | answered call answer instant after answer_eq =>
      have records := world.records_answer call
      rw [answer_eq] at records
      exact records
  | abandoned call instant error =>
      -- The service has not answered, so it has entered nothing.
      exact .nothing rfl rfl rfl (.failure call _)
  | orderId =>
      unfold nextId
      cases world.ids with
      | nil => exact .refl world
      | cons id rest => exact .nothing rfl rfl rfl ⟨fun _ => rfl, rfl⟩
  | _ => exact .nothing rfl rfl rfl ⟨fun _ => rfl, rfl⟩

theorem Machine.records {machine later : Machine World} {query : Query} {answer : query.Answer}
    {trail : List Entry}
    (asked : machine.progress World.backend trace query = ⟨trail, some (answer, later)⟩) :
    World.Records machine.world later.world (answers trail) :=
  (Machine.answering trace asked).records

/-- What a run has heard tells what it has left in the ledgers. -/
theorem Program.records {program : Program α} {machine later : Machine World} {value : α}
    {trail : List Entry}
    (made : program.progress World.backend trace machine = ⟨trail, some (value, later)⟩) :
    World.Records machine.world later.world (answers trail) := by
  have lasting : Lasting fun (first : Machine World) trail second =>
      World.Records first.world second.world (answers trail) := by
    refine ⟨fun machine => .refl machine.world, ?_⟩
    intro first second third trail rest records recordsRest
    rw [answers_append]
    exact records.trans recordsRest
  exact Program.lasting_of_progress World.backend trace lasting
    (fun asked => Machine.records trace asked) made

end Runs

end Checkout

import Mathlib.Data.Finset.Lattice.Fold
import Checkout.Proofs.Bookkeeping
import Checkout.Proofs.Sharing

/-!
# Placements at the same time

Any number of placements for different users take turns over the same services, one question each.
Every turn keeps each of them to its conduct and keeps account of what was heard, so each returns
what it returns alone, and what was handed out belongs to whom it was handed out to.  Nobody waits
for another one, so all of them return as long as none is left out for ever.
-/

set_option autoImplicit false

namespace Checkout

/-! ## Taking turns -/

structure Errand where
  request : OrderRequest
  trace : TraceContext

def Program.outcome? {α : Type} : Program α → Option α
  | .done value => some value
  | .ask _ _ => none

def Errand.user (errand : Errand) : String := errand.request.userId

structure Slot (ι : Type) where
  task : ι
  now : Instant

/-- The services, what is left of each placement, and what was heard of calls, and by whom. -/
structure Crowd (ι : Type) where
  world : World
  programs : ι → Program (Except CheckoutError Order)
  heard : List (ι × Answered)

def Answered.transaction? : Answered → Option String
  | ⟨.charge _ _ _, .ok transaction⟩ => some transaction
  | _ => none

def Answered.trackingId? (answered : Answered) : Option String :=
  answered.parcel?.map Prod.fst

theorem Answered.transaction?_of_suits {first : World} {endpoint : Endpoint} {user : String}
    {answered : Answered} (suits : answered.call.Suits first endpoint user) :
    answered.transaction? = (answered.charge? endpoint).map Prod.fst := by
  obtain ⟨call, answer⟩ := answered
  cases call with
  | charge made amount card =>
      have made_eq : made = endpoint := suits
      cases answer with
      | ok transaction => simp [transaction?, charge?, made_eq]
      | error error => rfl
  | _ => rfl

theorem Answered.items_of_suits {first : World} {endpoint : Endpoint} {user : String}
    {answered : Answered} (suits : answered.call.Suits first endpoint user) {tracking : String}
    {items : List CartItem} (parcel : answered.parcel? = some (tracking, items)) :
    items = first.carts.cart user := by
  obtain ⟨call, answer⟩ := answered
  cases call with
  | shipOrder address shipped =>
      cases answer with
      | ok given =>
          cases parcel
          exact suits
      | error error => cases parcel
  | _ => cases parcel

namespace Crowd

variable {ι : Type}

def opened (saga : Saga) (errands : ι → Errand) (world : World) : Crowd ι :=
  ⟨world, fun task => saga.place (errands task).trace (errands task).request, []⟩

def transactions (crowd : Crowd ι) : List (ι × String) :=
  crowd.heard.filterMap fun (task, answered) => answered.transaction?.map fun name => (task, name)

def trackingIds (crowd : Crowd ι) : List (ι × String) :=
  crowd.heard.filterMap fun (task, answered) => answered.trackingId?.map fun name => (task, name)

theorem mem_trackingIds {crowd : Crowd ι} {task : ι} {name : String} :
    (task, name) ∈ crowd.trackingIds ↔
      ∃ answered, (task, answered) ∈ crowd.heard ∧ answered.trackingId? = some name := by
  simp [trackingIds]

/-- The placements of a crowd have not got in each other's way. -/
structure Undisturbed (saga : Saga) (errands : ι → Errand) (first : World) (crowd : Crowd ι) :
    Prop where
  as_alone : ∀ task outcome, crowd.programs task = .done outcome → ∀ now,
    ∃ alone later trail,
      (saga.place (errands task).trace (errands task).request).run World.backend
        (errands task).trace ⟨now, .unbounded, first⟩ = some ⟨alone, later, trail⟩ ∧
      outcome.map Order.contents = alone.map Order.contents
  trackingIds_nodup : crowd.world.Unexhausted → (crowd.trackingIds.map Prod.snd).Nodup
  transactions_nodup : crowd.world.Unexhausted → (crowd.transactions.map Prod.snd).Nodup
  tracked : ∀ task order, crowd.programs task = .done (.ok order) →
    (task, order.trackingId) ∈ crowd.trackingIds
  shipped : crowd.world.Unexhausted → ∀ task tracking, (task, tracking) ∈ crowd.trackingIds →
    crowd.world.shipments.shipped? tracking =
      some (first.carts.cart (errands task).user)
  emptied : ∀ task order, crowd.programs task = .done (.ok order) →
    first.carts.failsResets = false →
      crowd.world.carts.cart (errands task).user = []
  unemptied : ∀ task order, crowd.programs task = .done (.ok order) →
    first.carts.failsResets = true →
      crowd.world.carts.cart (errands task).user = first.carts.cart (errands task).user
  kept : ∀ user, (∀ task, (errands task).user = user →
      ∃ error, crowd.programs task = .done (.error error)) →
    crowd.world.carts.cart user = first.carts.cart user

variable [DecidableEq ι]

/-- One placement has its next question answered, if it is not at its end. -/
def take (errands : ι → Errand) (crowd : Crowd ι) (slot : Slot ι) : Crowd ι :=
  match crowd.programs slot.task with
  | .done _ => crowd
  | .ask query next =>
    match (⟨slot.now, .unbounded, crowd.world⟩ : Machine World).step World.backend
        (errands slot.task).trace query with
    | none => crowd
    | some answered =>
      ⟨answered.machine.world, Function.update crowd.programs slot.task (next answered.value),
        crowd.heard ++ (answers answered.trail).map fun answered => (slot.task, answered)⟩

theorem take_of_done (errands : ι → Errand) (crowd : Crowd ι) {slot : Slot ι}
    {outcome : Except CheckoutError Order} (returned : crowd.programs slot.task = .done outcome) :
    crowd.take errands slot = crowd := by
  unfold take
  rw [returned]

theorem take_of_ne (errands : ι → Errand) (crowd : Crowd ι) {slot : Slot ι} {other : ι}
    (different : other ≠ slot.task) :
    (crowd.take errands slot).programs other = crowd.programs other := by
  unfold take
  cases crowd.programs slot.task with
  | done outcome => rfl
  | ask query next =>
      simp only
      cases (⟨slot.now, .unbounded, crowd.world⟩ : Machine World).step World.backend
        (errands slot.task).trace query with
      | none => rfl
      | some answered => exact Function.update_of_ne different _ _

def after (errands : ι → Errand) (crowd : Crowd ι) (slots : List (Slot ι)) : Crowd ι :=
  slots.foldl (take errands) crowd

end Crowd

/-! ## What every turn keeps -/

section Turns

variable {ι : Type} [Fintype ι] {saga : Saga} {errands : ι → Errand}
  {first : World} {contents : ι → Except CheckoutError OrderContents} {stages : ι → Footprint}
  {crowd : Crowd ι}

/-- The placements of a crowd have come to these stages, and what was heard tells what they have
done to the ledgers. -/
structure Coexist (saga : Saga) (errands : ι → Errand) (first : World)
    (contents : ι → Except CheckoutError OrderContents) (stages : ι → Footprint)
    (crowd : Crowd ι) : Prop where
  shared : crowd.world.SharedBy first (fun task => (errands task).user) stages
  meets : ∀ task, (crowd.programs task).Meets
    (conduct first (saga.endpoint first) (errands task).user)
    (Ended (! first.carts.failsResets) (contents task)) (stages task)
  records : World.Records first crowd.world (crowd.heard.map Prod.snd)
  suits : ∀ task answered, (task, answered) ∈ crowd.heard →
    answered.call.Suits first (saga.endpoint first) (errands task).user
  parcel_heard : ∀ task tracking, (stages task).parcel = some tracking →
    ∃ answered, (task, answered) ∈ crowd.heard ∧ answered.trackingId? = some tracking

theorem parcel_of_after {endpoint : Endpoint} {user : String} {stage : Footprint} {query : Query}
    {answer : query.Answer} {tracking : String}
    (shipped : ((conduct first endpoint user).after stage query answer).parcel = some tracking) :
    stage.parcel = some tracking ∨
      ∃ answered ∈ query.heard answer, answered.trackingId? = some tracking := by
  cases query with
  | call call =>
      cases call with
      | shipOrder address items =>
          cases answer with
          | ok given => exact Or.inr ⟨_, List.mem_singleton.mpr rfl, shipped⟩
          | error error => exact Or.inl shipped
      | emptyCart user =>
          cases answer with
          | ok reply => exact Or.inl shipped
          | error error => exact Or.inl shipped
      | _ => exact Or.inl shipped
  | _ => exact Or.inl shipped

theorem suits_of_asks {endpoint : Endpoint} {user : String} {stage : Footprint} {query : Query}
    {answer : query.Answer} {answered : Answered}
    (asks : (conduct first endpoint user).asks stage query)
    (heard : answered ∈ query.heard answer) : answered.call.Suits first endpoint user := by
  cases query with
  | call call =>
      cases List.mem_singleton.mp heard
      exact asks.1
  | _ => cases heard

namespace Coexist

theorem opened (meets : ∀ task, (saga.place (errands task).trace (errands task).request).Meets
      (conduct first (saga.endpoint first) (errands task).user)
      (Ended (! first.carts.failsResets) (contents task)) .initial) :
    Coexist saga errands first contents (fun _ => .initial) (Crowd.opened saga errands first) where
  shared := .start first _
  meets := meets
  records := .refl first
  suits := by
    intro task answered member
    cases member
  parcel_heard := by
    intro task tracking impossible
    cases impossible

variable {task : ι}

theorem ended (coexist : Coexist saga errands first contents stages crowd)
    {outcome : Except CheckoutError Order} (returned : crowd.programs task = .done outcome) :
    Ended (! first.carts.failsResets) (contents task) (stages task) outcome := by
  have meets := coexist.meets task
  rw [returned] at meets
  exact meets

theorem trackingIds_nodup (coexist : Coexist saga errands first contents stages crowd)
    (unexhausted : crowd.world.Unexhausted) : (crowd.trackingIds.map Prod.snd).Nodup := by
  have names : crowd.trackingIds.map Prod.snd =
      (parcels (crowd.heard.map Prod.snd)).map Prod.fst := by
    unfold Crowd.trackingIds parcels
    rw [List.filterMap_map, List.map_filterMap, List.map_filterMap]
    apply List.filterMap_congr
    rintro ⟨task, answered⟩ _
    simp only [Answered.trackingId?, Option.map_map, Function.comp_def]
  rw [names]
  exact coexist.records.nodup_parcels unexhausted

/-- All charges are made at one endpoint, so no other one gives names to transactions. -/
theorem transactions_nodup (coexist : Coexist saga errands first contents stages crowd)
    (unexhausted : crowd.world.Unexhausted) : (crowd.transactions.map Prod.snd).Nodup := by
  have names : crowd.transactions.map Prod.snd =
      (charges (saga.endpoint first) (crowd.heard.map Prod.snd)).map Prod.fst := by
    unfold Crowd.transactions charges
    rw [List.filterMap_map, List.map_filterMap, List.map_filterMap]
    apply List.filterMap_congr
    rintro ⟨task, answered⟩ heard
    have suits := coexist.suits task answered heard
    simp only [Option.map_map, Function.comp_def]
    rw [Answered.transaction?_of_suits suits]
    rw [Option.map_map]
    rfl
  rw [names]
  exact coexist.records.nodup_charges unexhausted (saga.endpoint first)

theorem shipped (coexist : Coexist saga errands first contents stages crowd)
    (numbered : first.Numbered) (unexhausted : crowd.world.Unexhausted) {tracking : String}
    (handed : (task, tracking) ∈ crowd.trackingIds) :
    crowd.world.shipments.shipped? tracking = some (first.carts.cart (errands task).user) := by
  obtain ⟨answered, heard, named⟩ := Crowd.mem_trackingIds.mp handed
  obtain ⟨⟨name, items⟩, parcel, rfl⟩ := Option.map_eq_some_iff.mp named
  have items_eq := Answered.items_of_suits (coexist.suits task answered heard) parcel
  rw [← items_eq]
  apply coexist.records.shipped?_eq numbered unexhausted
  exact List.mem_filterMap.mpr ⟨answered, List.mem_map_of_mem heard, parcel⟩

theorem tracked (coexist : Coexist saga errands first contents stages crowd) {order : Order}
    (returned : crowd.programs task = .done (.ok order)) :
    (task, order.trackingId) ∈ crowd.trackingIds := by
  have ended := coexist.ended returned
  apply Crowd.mem_trackingIds.mpr
  apply coexist.parcel_heard
  generalize stages task = stage at ended
  cases ended with
  | ok order contents_eq => rfl

theorem cart_of_ok (coexist : Coexist saga errands first contents stages crowd) {order : Order}
    (returned : crowd.programs task = .done (.ok order)) :
    crowd.world.carts.cart (errands task).user =
      if ! first.carts.failsResets then [] else first.carts.cart (errands task).user := by
  have ended := coexist.ended returned
  have cart_eq := coexist.shared.cart_eq task
  rw [cart_eq]
  generalize stages task = stage at ended
  cases ended with
  | ok order contents_eq => rfl

theorem kept (coexist : Coexist saga errands first contents stages crowd) (user : String)
    (failed : ∀ task, (errands task).user = user →
      ∃ error, crowd.programs task = .done (.error error)) :
    crowd.world.carts.cart user = first.carts.cart user := by
  by_cases absent : ∀ task, (errands task).user ≠ user
  · exact coexist.shared.other_cart_eq user absent
  · obtain ⟨task, present⟩ := not_forall.mp absent
    have present := not_not.mp present
    subst present
    have cart_eq := coexist.shared.cart_eq task
    obtain ⟨error, returned⟩ := failed task rfl
    have ended := coexist.ended returned
    rw [cart_eq]
    generalize stages task = stage at ended
    cases ended with
    | error error contents_eq => rfl

variable [DecidableEq ι]

/-- Whoever has a turn has its question answered, as its conduct counts on. -/
theorem take (coexist : Coexist saga errands first contents stages crowd)
    (apart : Function.Injective fun task => (errands task).user)
    (supplies : first.Supplies (Fintype.card ι)) (quiet : first.hangsUpOn = none)
    {slot : Slot ι} {query : Query} {next : query.Answer → Program (Except CheckoutError Order)}
    (due : crowd.programs slot.task = .ask query next) :
    ∃ answer stages, (crowd.take errands slot).programs =
        Function.update crowd.programs slot.task (next answer) ∧
      Coexist saga errands first contents stages (crowd.take errands slot) := by
  have meets := coexist.meets slot.task
  rw [due] at meets
  obtain ⟨asks, goesOn⟩ := meets
  have patient : crowd.world.hangsUpOn = none :=
    (congrArg World.hangsUpOn coexist.shared.setup_eq).trans quiet
  obtain ⟨answer, instant, between, trail, step, replies, heard⟩ :=
    crowd.world.step_replies patient (errands slot.task).trace slot.now query
  obtain ⟨permitted, shared⟩ := coexist.shared.replies apart supplies _ asks replies
  have taken : crowd.take errands slot = ⟨between,
      Function.update crowd.programs slot.task (next answer),
      crowd.heard ++ (query.heard answer).map fun answered => (slot.task, answered)⟩ := by
    unfold Crowd.take
    rw [due]
    simp only [step, heard]
  rw [taken]
  refine ⟨answer, _, rfl, shared, ?_, ?_, ?_, ?_⟩
  · -- The task whose turn it is moves on in its conduct; the others stay where they are.
    intro task
    change (Function.update crowd.programs slot.task (next answer) task).Meets _ _
      (Function.update stages slot.task _ task)
    by_cases same : task = slot.task
    · subst same
      rw [Function.update_self, Function.update_self]
      exact goesOn answer permitted
    · rw [Function.update_of_ne same, Function.update_of_ne same]
      exact coexist.meets task
  · simp only [List.map_append, List.map_map, Function.comp_def, List.map_id']
    exact coexist.records.trans replies.records
  · intro task answered member
    rcases List.mem_append.mp member with before | now
    · exact coexist.suits task answered before
    · obtain ⟨_, heard, same⟩ := List.mem_map.mp now
      cases same
      exact suits_of_asks asks heard
  · intro task tracking shipped
    have known : (stages task).parcel = some tracking → _ := coexist.parcel_heard task tracking
    by_cases same : task = slot.task
    · subst same
      rw [Function.update_self] at shipped
      rcases parcel_of_after shipped with before | ⟨answered, heard, named⟩
      · obtain ⟨answered, heard, named⟩ := known before
        exact ⟨answered, List.mem_append_left _ heard, named⟩
      · exact ⟨answered, List.mem_append_right _ (List.mem_map_of_mem heard), named⟩
    · rw [Function.update_of_ne same] at shipped
      obtain ⟨answered, heard, named⟩ := known shipped
      exact ⟨answered, List.mem_append_left _ heard, named⟩

theorem after (coexist : Coexist saga errands first contents stages crowd)
    (apart : Function.Injective fun task => (errands task).user)
    (supplies : first.Supplies (Fintype.card ι)) (quiet : first.hangsUpOn = none)
    (slots : List (Slot ι)) :
    ∃ stages, Coexist saga errands first contents stages (crowd.after errands slots) := by
  induction slots generalizing crowd stages with
  | nil => exact ⟨stages, coexist⟩
  | cons slot rest ih =>
      cases due : crowd.programs slot.task with
      | done outcome =>
          change ∃ stages, Coexist saga errands first contents stages
            ((crowd.take errands slot).after errands rest)
          rw [crowd.take_of_done errands due]
          exact ih coexist
      | ask query next =>
          obtain ⟨answer, stages, _, taken⟩ := coexist.take apart supplies quiet due
          exact ih taken

end Coexist

/-! ## Coming to an end -/

/-- A sequence of programs that asks its next question again and again comes to an end. -/
theorem Program.reaches_done {α : Type} {programs : ℕ → Program α} {turn : ℕ → Prop}
    (waits : ∀ count, ¬ turn count → programs (count + 1) = programs count)
    (asks : ∀ count query next, turn count → programs count = .ask query next →
      ∃ answer, programs (count + 1) = next answer)
    (fair : ∀ count, ∃ later, count ≤ later ∧ turn later) (count : ℕ) :
    ∃ later, ∃ value, count ≤ later ∧ programs later = .done value := by
  -- The program stays what it is until its next turn.
  have next_turn : ∀ count, ∃ later, count ≤ later ∧ turn later ∧
      programs later = programs count := by
    intro count
    obtain ⟨far, after, turned⟩ := fair count
    obtain ⟨length, rfl⟩ := Nat.exists_eq_add_of_le after
    clear after
    induction length generalizing count with
    | zero => exact ⟨count, le_rfl, turned, rfl⟩
    | succ length ih =>
        by_cases now : turn count
        · exact ⟨count, le_rfl, now, rfl⟩
        · rw [show count + (length + 1) = count + 1 + length by omega] at turned
          obtain ⟨later, after, turned, same⟩ := ih (count + 1) turned
          exact ⟨later, by omega, turned, same.trans (waits count now)⟩
  generalize here : programs count = program
  induction program generalizing count with
  | done value => exact ⟨count, value, le_rfl, here⟩
  | ask query next ih =>
      obtain ⟨later, after, turned, same⟩ := next_turn count
      obtain ⟨answer, asked⟩ := asks later query next turned (same.trans here)
      obtain ⟨last, value, afterwards, done⟩ := ih answer (later + 1) asked
      exact ⟨last, value, by omega, done⟩

variable [DecidableEq ι]

/-- If every task has its turn again and again, then every placement comes to its end. -/
theorem Coexist.all_return (apart : Function.Injective fun task => (errands task).user)
    (supplies : first.Supplies (Fintype.card ι)) (quiet : first.hangsUpOn = none)
    (coexist : Coexist saga errands first contents stages crowd) {schedule : ℕ → Slot ι}
    (fair : ∀ task count, ∃ later, count ≤ later ∧ (schedule later).task = task) :
    ∃ count, ∀ task, ∃ outcome,
      (crowd.after errands ((List.range count).map schedule)).programs task = .done outcome := by
  let crowds : ℕ → Crowd ι := fun count =>
    crowd.after errands ((List.range count).map schedule)
  have next_crowd : ∀ count, crowds (count + 1) = (crowds count).take errands (schedule count) := by
    intro count
    simp only [crowds, Crowd.after, List.range_succ, List.map_append, List.foldl_append]
    rfl
  have waits : ∀ task count, ¬ (schedule count).task = task →
      (crowds (count + 1)).programs task = (crowds count).programs task := by
    intro task count other
    rw [next_crowd]
    exact Crowd.take_of_ne errands (crowds count) (Ne.symm other)
  have asks : ∀ task count query next, (schedule count).task = task →
      (crowds count).programs task = .ask query next →
      ∃ answer, (crowds (count + 1)).programs task = next answer := by
    rintro _ count query next rfl due
    obtain ⟨stages, here⟩ := coexist.after apart supplies quiet ((List.range count).map schedule)
    obtain ⟨answer, _, programs_eq, _⟩ := here.take apart supplies quiet due
    refine ⟨answer, ?_⟩
    rw [next_crowd]
    exact (congrFun programs_eq _).trans (Function.update_self _ _ _)
  have stays : ∀ task count outcome, (crowds count).programs task = .done outcome →
      ∀ later, count ≤ later → (crowds later).programs task = .done outcome := by
    intro task count outcome returned later after
    induction later, after using Nat.le_induction with
    | base => exact returned
    | succ later _ ih =>
        by_cases turn : (schedule later).task = task
        · subst turn
          rw [next_crowd, Crowd.take_of_done errands (crowds later) ih]
          exact ih
        · rw [waits task later turn]
          exact ih
  have each : ∀ task, ∃ count outcome, (crowds count).programs task = .done outcome := by
    intro task
    obtain ⟨count, outcome, _, returned⟩ :=
      Program.reaches_done (waits task) (asks task) (fair task) 0
    exact ⟨count, outcome, returned⟩
  -- Whoever has returned stays so: all have by the latest of these counts.
  choose count outcome returned using each
  refine ⟨Finset.univ.sup count, ?_⟩
  intro task
  refine ⟨outcome task, ?_⟩
  exact stays task (count task) (outcome task) (returned task) _
    (Finset.le_sup (Finset.mem_univ task))

/-- However placements for different users take turns, their crowd keeps account of them. -/
theorem Crowd.coexist (saga : Saga) (errands : ι → Errand) (first : World)
    (apart : Function.Injective fun task => (errands task).user)
    (supplies : first.Supplies (Fintype.card ι)) (quiet : first.hangsUpOn = none) :
    ∃ contents, (∀ task, (saga.place (errands task).trace (errands task).request).Meets
        (conduct first (saga.endpoint first) (errands task).user)
        (Ended (! first.carts.failsResets) (contents task)) .initial) ∧
      ∀ slots, ∃ stages, Coexist saga errands first contents stages
        ((Crowd.opened saga errands first).after errands slots) := by
  choose contents meets using fun task =>
    place_meets first saga (errands task).request (errands task).trace
  exact ⟨contents, meets, (Coexist.opened meets).after apart supplies quiet⟩

/-- Placements for different users over the same services do not get in each other's way, however
they take turns, as long as there is an order id for each and no counter of names runs over; and if
each has its turn again and again, then all of them return. -/
theorem placements_apart (saga : Saga) (errands : ι → Errand) (first : World)
    (apart : Function.Injective fun task => (errands task).user)
    (supplies : first.Supplies (Fintype.card ι)) (numbered : first.Numbered)
    (quiet : first.hangsUpOn = none) :
    (∀ slots, Crowd.Undisturbed saga errands first
      ((Crowd.opened saga errands first).after errands slots)) ∧
      ∀ schedule : ℕ → Slot ι,
        (∀ task count, ∃ later, count ≤ later ∧ (schedule later).task = task) →
        ∃ count, ∀ task, ∃ outcome, ((Crowd.opened saga errands first).after errands
          ((List.range count).map schedule)).programs task = .done outcome := by
  obtain ⟨contents, meets, coexists⟩ := Crowd.coexist saga errands first apart supplies quiet
  refine ⟨?_, fun schedule fair => (Coexist.opened meets).all_return apart supplies quiet fair⟩
  intro slots
  obtain ⟨stages, coexist⟩ := coexists slots
  refine ⟨?_, coexist.trackingIds_nodup, coexist.transactions_nodup, ?_, ?_, ?_, ?_, ?_⟩
  · intro task outcome returned now
    have ended := coexist.ended returned
    obtain ⟨alone, later, trail, ran, _, endedAlone⟩ :=
      Program.ends_alone apart supplies quiet (errands task).trace (meets task)
        (.start first _) now
    refine ⟨alone, later, trail, ran, ?_⟩
    rw [ended.contents_eq, endedAlone.contents_eq]
  · intro task order returned
    exact coexist.tracked returned
  · intro unexhausted task tracking handed
    exact coexist.shipped numbered unexhausted handed
  · intro task order returned resets
    rw [coexist.cart_of_ok returned, resets]
    rfl
  · intro task order returned fails
    rw [coexist.cart_of_ok returned, fails]
    rfl
  · exact coexist.kept

end Turns

namespace Sample

def pair (other : Bool) : Errand :=
  ⟨{ request with userId := if other then "other" else "user" }, trace⟩

def orderId (digit : Nat) : OrderId :=
  .ofRandom fun _ => Text.lastHexDigit digit

def shared : World :=
  { World.start price [.ok (orderId 0), .ok (orderId 1)] with
    carts := CartStore.empty.setCart "user" cart
    catalog := Catalog.empty.add ⟨⟨"lamp"⟩, "", price⟩ }

theorem supplies_shared : shared.Supplies (Fintype.card Bool) := by
  intro index bound
  have either : index = 0 ∨ index = 1 := by
    rw [Fintype.card_bool] at bound
    omega
  rcases either with rfl | rfl
  · exact ⟨_, rfl⟩
  · exact ⟨_, rfl⟩

theorem numbered_shared : shared.Numbered where
  payments
    | .primary => .empty
    | .unreachable => ⟨rfl, rfl⟩
  shipments := .empty

def alternately (count : ℕ) : Slot Bool := ⟨count % 2 == 1, count⟩

end Sample

/-- Two users take turns, and the one without anything to buy is served first. -/
theorem placements_apart_of_pair :
    let opened := Crowd.opened Sample.saga Sample.pair Sample.shared
    let crowd := opened.after Sample.pair ((List.range 48).map Sample.alternately)
    crowd.trackingIds = [(true, "TRACK-0001"), (false, "TRACK-0002")] ∧
      crowd.world.shipments.shipped? "TRACK-0001" = some [] ∧
      crowd.world.shipments.shipped? "TRACK-0002" = some Sample.cart ∧
      ∃ count, ∀ other, ∃ outcome, (opened.after Sample.pair
        ((List.range count).map Sample.alternately)).programs other = .done outcome := by
  intro opened crowd
  have apart : Function.Injective fun other => (Sample.pair other).user := by decide
  have fair : ∀ other count, ∃ later, count ≤ later ∧ (Sample.alternately later).task = other := by
    intro other count
    cases other with
    | false => exact ⟨2 * count, by omega, by simp [Sample.alternately]⟩
    | true => exact ⟨2 * count + 1, by omega, by simp [Sample.alternately]⟩
  obtain ⟨undisturbed, returns⟩ :=
    placements_apart Sample.saga Sample.pair Sample.shared apart Sample.supplies_shared
      Sample.numbered_shared rfl
  have here : Crowd.Undisturbed Sample.saga Sample.pair Sample.shared crowd :=
    undisturbed ((List.range 48).map Sample.alternately)
  have handed : crowd.trackingIds = [(true, "TRACK-0001"), (false, "TRACK-0002")] := by
    decide +kernel
  have unexhausted : crowd.world.Unexhausted := by
    refine ⟨fun endpoint => ?_, by decide +kernel⟩
    cases endpoint with
    | primary => decide +kernel
    | unreachable => decide +kernel
  clear_value crowd
  refine ⟨handed, ?_, ?_, returns Sample.alternately fair⟩
  · apply here.shipped unexhausted true
    rw [handed]
    exact List.mem_cons_self
  · apply here.shipped unexhausted false
    rw [handed]
    exact List.mem_cons_of_mem _ List.mem_cons_self

namespace Sample

/-- The same services with an order id for one of the two. -/
def shortOfIds : World :=
  { shared with ids := [.ok (orderId 0)] }

def parcelLedger (count : Nat) : Ledger (List CartItem) :=
  ⟨(Ledger.names Shipments.heading 0 count).map fun name => (name, []), UInt32.ofNat count, count,
    false⟩

theorem numbered_parcelLedger (count : Nat) :
    (parcelLedger count).Numbered Shipments.heading where
  names_eq := by simp [parcelLedger, Ledger.names, Function.comp_def]
  lastId_eq := by simp [parcelLedger, Ledger.names]

theorem lookup_parcelLedger {count : Nat} (several : 2 ≤ count)
    (parcels : List (String × List CartItem)) :
    ((parcelLedger count).entries ++ parcels).lookup "TRACK-0002" = some [] := by
  obtain ⟨others, rfl⟩ := Nat.exists_eq_add_of_le several
  have early : Ledger.names Shipments.heading 0 2 = ["TRACK-0001", "TRACK-0002"] := by
    decide +kernel
  simp only [parcelLedger, Ledger.names_add, early, List.map_append, List.map_cons, List.cons_append,
    List.lookup_cons]
  rfl

def sharedAfter (ledger : Ledger (List CartItem)) : World :=
  { shared with shipments.ledger := ledger }

/-- A parcel is looked for among those that were there before. -/
theorem shipped?_sharedAfter {count : Nat} (several : 2 ≤ count) (slots : List (Slot Bool)) :
    ((Crowd.opened saga pair (sharedAfter (parcelLedger count))).after pair
      slots).world.shipments.shipped? "TRACK-0002" = some [] := by
  have apart : Function.Injective fun other => (pair other).user := by decide
  obtain ⟨contents, _, coexists⟩ :=
    Crowd.coexist saga pair (sharedAfter (parcelLedger count)) apart supplies_shared rfl
  obtain ⟨stages, coexist⟩ := coexists slots
  rw [Shipments.shipped?, Ledger.find?, coexist.records.shipments.entries_eq]
  exact lookup_parcelLedger several _

end Sample

/-- If the order ids run out, then a placement fails that alone returns an order.  If the counter of
tracking ids has run over, then what is found under the id that was given is not what was shipped. -/
theorem placements_in_the_way :
    (let crowd := (Crowd.opened Sample.saga Sample.pair Sample.shortOfIds).after Sample.pair
      ((List.range 48).map Sample.alternately)
    (crowd.programs true).outcome? =
        some (.error (.identityGenerationFailed ⟨"no more ids"⟩)) ∧
      (((Sample.saga.place Sample.trace (Sample.pair true).request).run World.backend Sample.trace
        ⟨0, .unbounded, Sample.shortOfIds⟩).map fun alone => alone.value.toOption.isSome) =
          some true) ∧
    (let worn := Sample.sharedAfter (Sample.parcelLedger (2 ^ 32))
    let crowd := (Crowd.opened Sample.saga Sample.pair worn).after Sample.pair
      ((List.range 48).map Sample.alternately)
    worn.shipments.ledger.Numbered Shipments.heading ∧
      crowd.trackingIds = [(true, "TRACK-0001"), (false, "TRACK-0002")] ∧
      worn.carts.cart (Sample.pair false).user = [⟨⟨"lamp"⟩, 2⟩] ∧
      crowd.world.shipments.shipped? "TRACK-0002" = some []) :=
  ⟨⟨by decide +kernel, by decide +kernel⟩, Sample.numbered_parcelLedger (2 ^ 32),
    by decide +kernel, by decide +kernel, Sample.shipped?_sharedAfter (by decide) _⟩

end Checkout

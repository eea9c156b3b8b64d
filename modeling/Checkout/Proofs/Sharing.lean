import Mathlib.Data.Fintype.Card
import Checkout.Proofs.Conduct

/-!
# What placements leave to one another

What each of several placements has done is all that one of them needs to know about the others: it
tells how the carts and the order ids are, and nothing else that a placement can hear changes.  So a
placement hears what its conduct counts on, and what it does leaves the others what theirs count on.
-/

set_option autoImplicit false

namespace Checkout

/-! ## The world that they share -/

section Sharing

variable {ι : Type} [Fintype ι]

def namedTasks (stages : ι → Footprint) : Finset ι :=
  Finset.univ.filter fun task => (stages task).named = true

/-- The world that placements for these users have made of `first` by what they have done. -/
structure World.SharedBy (world first : World) (users : ι → String) (stages : ι → Footprint) :
    Prop where
  setup_eq : world.setup = first.setup
  ids_eq : world.ids = first.ids.drop (namedTasks stages).card
  cart_eq : ∀ task, world.carts.cart (users task) =
    if (stages task).emptied then [] else first.carts.cart (users task)
  other_cart_eq : ∀ user, (∀ task, users task ≠ user) →
    world.carts.cart user = first.carts.cart user

def World.Supplies (world : World) (count : Nat) : Prop :=
  ∀ index < count, ∃ id, world.ids[index]? = some (.ok id)

theorem World.SharedBy.start (first : World) (users : ι → String) :
    first.SharedBy first users fun _ => .initial where
  setup_eq := rfl
  ids_eq := by
    have none_named : namedTasks (fun _ : ι => Footprint.initial) = ∅ := by
      simp [namedTasks, Footprint.initial]
    rw [none_named, Finset.card_empty, List.drop_zero]
  cart_eq := fun _ => rfl
  other_cart_eq := fun _ _ => rfl

variable {first world later : World} {users : ι → String} {stages : ι → Footprint} {task : ι}
  {stage : Footprint}

theorem card_namedTasks_lt (unnamed : (stages task).named = false) :
    (namedTasks stages).card < Fintype.card ι := by
  have unlisted : task ∉ namedTasks stages := by
    simp [namedTasks, unnamed]
  exact Finset.card_lt_univ_of_notMem unlisted

namespace World.SharedBy

theorem answer_getCart (shared : world.SharedBy first users stages)
    (full : (stages task).emptied = false) :
    (world.answer (.getCart (users task))).1 = (first.answer (.getCart (users task))).1 := by
  have fails_eq : world.carts.failsReads = first.carts.failsReads :=
    congrArg (fun setup => setup.carts.failsReads) shared.setup_eq
  have cart_eq := shared.cart_eq task
  rw [full] at cart_eq
  change (if world.carts.failsReads then _ else Except.ok (world.carts.cart (users task))) = _
  rw [fails_eq, cart_eq]
  rfl

theorem unnamed_answer (shared : world.SharedBy first users stages) (call : Call)
    (other : ∀ user, call ≠ .getCart user) :
    call.unnamed (world.answer call).1 = call.unnamed (first.answer call).1 := by
  rw [world.unnamed_answer call other, first.unnamed_answer call other, shared.setup_eq]

end World.SharedBy

variable [DecidableEq ι]

theorem namedTasks_update (named_eq : stage.named = (stages task).named) :
    namedTasks (Function.update stages task stage) = namedTasks stages := by
  apply Finset.filter_congr
  intro other _
  by_cases same : other = task
  · rw [same, Function.update_self, named_eq]
  · rw [Function.update_of_ne same]

theorem card_namedTasks_update (unnamed : (stages task).named = false)
    (named : stage.named = true) :
    (namedTasks (Function.update stages task stage)).card = (namedTasks stages).card + 1 := by
  have inserted : namedTasks (Function.update stages task stage) =
      insert task (namedTasks stages) := by
    ext other
    by_cases same : other = task
    · simp [namedTasks, same, named]
    · simp [namedTasks, same]
  have unlisted : task ∉ namedTasks stages := by
    simp [namedTasks, unnamed]
  rw [inserted, Finset.card_insert_of_notMem unlisted]

namespace World.SharedBy

variable (apart : Function.Injective users)

include apart

/-- One of the placements has done something; the carts of the others are as they were. -/
theorem update (shared : world.SharedBy first users stages) (setup_eq : later.setup = world.setup)
    (ids_eq : later.ids = first.ids.drop (namedTasks (Function.update stages task stage)).card)
    (own_eq : later.carts.cart (users task) =
      if stage.emptied then [] else first.carts.cart (users task))
    (others_eq : ∀ user, user ≠ users task → later.carts.cart user = world.carts.cart user) :
    later.SharedBy first users (Function.update stages task stage) where
  setup_eq := setup_eq.trans shared.setup_eq
  ids_eq := ids_eq
  cart_eq := by
    intro other
    by_cases same : other = task
    · rw [same, Function.update_self]
      exact own_eq
    · rw [Function.update_of_ne same, others_eq _ (apart.ne same)]
      exact shared.cart_eq other
  other_cart_eq := by
    intro user absent
    rw [others_eq user (absent task).symm]
    exact shared.other_cart_eq user absent

theorem unnoticed (shared : world.SharedBy first users stages)
    (setup_eq : later.setup = world.setup) (ids_eq : later.ids = world.ids)
    (cart_eq : ∀ user, later.carts.cart user = world.carts.cart user)
    (named_eq : stage.named = (stages task).named)
    (emptied_eq : stage.emptied = (stages task).emptied) :
    later.SharedBy first users (Function.update stages task stage) := by
  apply shared.update apart setup_eq
  · rw [ids_eq, shared.ids_eq, namedTasks_update named_eq]
  · rw [cart_eq, shared.cart_eq, emptied_eq]
  · intro user _
    exact cart_eq user

theorem takes_id (shared : world.SharedBy first users stages)
    (supplies : first.Supplies (Fintype.card ι)) (unnamed : (stages task).named = false) :
    (∃ id, world.nextId.1 = .ok id) ∧ world.nextId.2.SharedBy first users
      (Function.update stages task { stages task with named := true }) := by
  -- The next id comes right after those of the tasks that have one, and this task has none.
  obtain ⟨id, found⟩ := supplies _ (card_namedTasks_lt unnamed)
  obtain ⟨bound, here⟩ := List.getElem?_eq_some_iff.mp found
  have ids_eq := shared.ids_eq
  rw [List.drop_eq_getElem_cons bound, here] at ids_eq
  have next : world.nextId =
      (.ok id, { world with ids := first.ids.drop ((namedTasks stages).card + 1) }) := by
    unfold World.nextId
    rw [ids_eq]
  rw [next]
  refine ⟨⟨id, rfl⟩, shared.update apart rfl ?_ (shared.cart_eq task) fun _ _ => rfl⟩
  rw [card_namedTasks_update unnamed rfl]

theorem empties (shared : world.SharedBy first users stages) (endpoint : Endpoint) :
    (world.answer (.emptyCart (users task))).2.SharedBy first users
      (Function.update stages task ((conduct first endpoint (users task)).after (stages task)
        (.call (.emptyCart (users task))) (world.answer (.emptyCart (users task))).1)) := by
  have replies : world.Replies _ _ _ := .call (.emptyCart (users task))
  have answer_eq : (world.answer (.emptyCart (users task))).1 = _ :=
    world.carts.answer_reset (users task)
  have own_eq : (world.answer (.emptyCart (users task))).2.carts.cart (users task) = _ :=
    world.carts.cart_reset_self (users task)
  have ids_eq := (replies.ids_eq nofun).trans shared.ids_eq
  apply shared.update apart replies.setup_eq
  · rw [ids_eq, namedTasks_update]
    rw [answer_eq]
    cases world.carts.failsResets with
    | false => rfl
    | true => rfl
  · rw [own_eq, answer_eq, shared.cart_eq]
    cases world.carts.failsResets with
    | false => rfl
    | true => rfl
  · intro user different
    exact world.carts.cart_reset_of_ne different

/-- A placement that keeps to its conduct hears what it counts on, and the others can count on
theirs. -/
theorem replies (shared : world.SharedBy first users stages)
    (supplies : first.Supplies (Fintype.card ι)) (endpoint : Endpoint) {query : Query}
    {answer : query.Answer}
    (asks : (conduct first endpoint (users task)).asks (stages task) query)
    (replies : world.Replies query answer later) :
    (conduct first endpoint (users task)).permits query answer ∧
      later.SharedBy first users (Function.update stages task
        ((conduct first endpoint (users task)).after (stages task) query answer)) := by
  have setup_eq := replies.setup_eq
  have ids_eq := replies.ids_eq
  have cart_eq : ∀ user, query ≠ .call (.emptyCart user) → _ := fun _ => replies.cart_eq
  cases replies with
  | call call =>
      cases call with
      | getCart user =>
          obtain ⟨rfl, full⟩ := asks
          refine ⟨shared.answer_getCart (full _ rfl), ?_⟩
          exact shared.unnoticed apart setup_eq (ids_eq nofun) (fun user => cart_eq user nofun)
            rfl rfl
      | emptyCart user =>
          obtain ⟨rfl, _⟩ := asks
          exact ⟨shared.unnamed_answer _ nofun, shared.empties apart endpoint⟩
      | shipOrder address items =>
          refine ⟨shared.unnamed_answer _ nofun, ?_⟩
          apply shared.unnoticed apart setup_eq (ids_eq nofun) (fun user => cart_eq user nofun)
          · cases (world.answer (.shipOrder address items)).1 <;> rfl
          · cases (world.answer (.shipOrder address items)).1 <;> rfl
      | _ =>
          refine ⟨shared.unnamed_answer _ nofun, ?_⟩
          exact shared.unnoticed apart setup_eq (ids_eq nofun) (fun user => cart_eq user nofun)
            rfl rfl
  | flag kind flag =>
      refine ⟨?_, shared.unnoticed apart setup_eq (ids_eq nofun) (fun user => cart_eq user nofun)
        rfl rfl⟩
      change (world.setup.evaluate kind flag).1 = (first.setup.evaluate kind flag).1
      rw [shared.setup_eq]
  | orderId => exact shared.takes_id apart supplies asks
  | _ =>
      exact ⟨trivial, shared.unnoticed apart setup_eq (ids_eq nofun)
        (fun user => cart_eq user nofun) rfl rfl⟩

end World.SharedBy

/-! ## Running alone -/

/-- A program that keeps to its conduct comes to its end if nobody else takes a turn. -/
theorem Program.ends_alone {α : Type} {ends : Footprint → α → Prop} {endpoint : Endpoint}
    (apart : Function.Injective users) (supplies : first.Supplies (Fintype.card ι))
    (quiet : first.hangsUpOn = none) (trace : TraceContext) {program : Program α}
    (meets : program.Meets (conduct first endpoint (users task)) ends (stages task))
    (shared : world.SharedBy first users stages) (now : Instant) :
    ∃ value later trail, program.run World.backend trace ⟨now, .unbounded, world⟩ =
      some ⟨value, later, trail⟩ ∧ ∃ stage, ends stage value := by
  induction program generalizing stages world now with
  | done value => exact ⟨value, _, _, rfl, stages task, meets⟩
  | ask query next ih =>
      obtain ⟨asks, goesOn⟩ := meets
      have patient : world.hangsUpOn = none :=
        (congrArg World.hangsUpOn shared.setup_eq).trans quiet
      obtain ⟨answer, instant, between, trail, step, replies, _⟩ :=
        world.step_replies patient trace now query
      obtain ⟨permitted, sharedNext⟩ := shared.replies apart supplies endpoint asks replies
      have meetsNext := goesOn answer permitted
      obtain ⟨value, later, rest, ran, ended⟩ :=
        ih answer (by rwa [Function.update_self]) sharedNext instant
      refine ⟨value, later, trail ++ rest, ?_, ended⟩
      rw [Program.run, step]
      simp only
      rw [ran]

end Sharing

end Checkout

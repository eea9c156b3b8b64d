import Checkout.Proofs.Ledgers

/-!
# Worlds that several programs share

How the services in memory are set up decides how they answer, up to the names that they give and
apart from the carts; and no question changes how they are set up.  A cart is changed by the call
that empties it and by no other.  So what one program asks makes no difference to what another one
hears, as long as the two have carts of their own.
-/

set_option autoImplicit false

namespace Checkout

/-! ## One question -/

/-- The ways in which a world answers a question at once and what it is afterwards. -/
inductive World.Replies (world : World) : (query : Query) → query.Answer → World → Prop where
  | call (call : Call) : Replies world (.call call) (world.answer call).1 (world.answer call).2
  | flag (kind : FlagKind) (flag : String) :
      Replies world (.flag kind flag) (world.evaluate kind flag).1 (world.evaluate kind flag).2
  | orderId : Replies world .orderId world.nextId.1 world.nextId.2
  | span : Replies world .span world.nextSpan.1 world.nextSpan.2
  | send (envelope : Envelope) :
      Replies world (.send envelope) (world.send envelope).1 (world.send envelope).2
  | settle (delivery : Delivery) (limit : Nat) (settled : PublishOutcome × Nat) :
      Replies world (.settle delivery limit) settled world
  | note (event : Event) : Replies world (.note event) () world

theorem Machine.lifeAfter_react {α : Type} (machine : Machine World) {world : World}
    (quiet : world.hangsUpOn = none) (operation : Operation) (answer : World → α × World) :
    machine.lifeAfter (world.react operation answer) = machine.life := by
  have stays : (world.react operation answer).hangsUp = false := by
    unfold World.react
    rw [quiet]
    rfl
  unfold Machine.lifeAfter
  rw [stays]
  rfl

def Query.heard : (query : Query) → query.Answer → List Answered
  | .call made, answer => [⟨made, answer⟩]
  | _, _ => []

/-- A request that nothing ends has each of its questions answered. -/
theorem World.step_replies (world : World) (quiet : world.hangsUpOn = none) (trace : TraceContext)
    (now : Instant) (query : Query) :
    ∃ answer instant later trail,
      (⟨now, .unbounded, world⟩ : Machine World).step World.backend trace query =
        some ⟨answer, ⟨instant, .unbounded, later⟩, trail⟩ ∧
      world.Replies query answer later ∧ answers trail = query.heard answer := by
  cases query with
  | call call =>
      let instant := now + (world.delays.get? call.operation).getD 0
      refine ⟨(world.answer call).1, instant, (world.answer call).2,
        [⟨now, .called call⟩, ⟨instant, .answered call (world.answer call).1⟩], ?_, .call call, rfl⟩
      have patient := Machine.lifeAfter_react ⟨now, .unbounded, world⟩ quiet
        call.operation fun world => world.answer call
      have live : Lifetime.unbounded.error? now = none := rfl
      simp only [Machine.step, Machine.stepCall, live, World.backend, patient]
      rfl
  | flag kind flag =>
      -- A flag is looked up outside the bounds of the request.
      let instant := now + (world.delays.get? .evaluate).getD 0
      refine ⟨(world.evaluate kind flag).1, instant, (world.evaluate kind flag).2,
        [⟨now, .asked kind flag⟩], ?_, .flag kind flag, rfl⟩
      have patient := Machine.lifeAfter_react ⟨now, .unbounded, world⟩ quiet
        .evaluate fun world => world.evaluate kind flag
      simp only [Machine.step, Machine.stepFlag, World.backend, patient]
      rfl
  | orderId => exact ⟨_, _, _, _, rfl, .orderId, rfl⟩
  | span => exact ⟨_, _, _, _, rfl, .span, rfl⟩
  | send envelope => exact ⟨_, _, _, _, rfl, .send envelope, rfl⟩
  | settle delivery limit => exact ⟨_, _, _, _, rfl, .settle delivery limit _, rfl⟩
  | note event => exact ⟨_, _, _, _, rfl, .note event, rfl⟩

theorem World.Replies.records {world later : World} {query : Query} {answer : query.Answer}
    (replies : world.Replies query answer later) :
    World.Records world later (query.heard answer) := by
  cases replies with
  | call call => exact world.records_answer call
  | orderId =>
      unfold World.nextId
      cases world.ids with
      | nil => exact .refl world
      | cons id rest => exact .nothing rfl rfl rfl ⟨fun _ => rfl, rfl⟩
  | _ => exact .nothing rfl rfl rfl ⟨fun _ => rfl, rfl⟩

/-! ## How a world is set up -/

def Ledger.blank {α : Type} (ledger : Ledger α) : Ledger α :=
  { ledger with entries := [], lastId := 0, attempts := 0 }

/-- The world without its carts and without all that its services have counted or kept. -/
def World.setup (world : World) : World where
  carts := { world.carts with carts := .empty, reads := 0, resets := 0 }
  catalog := { world.catalog with lookups := 0 }
  exchange := { world.exchange with conversions := 0 }
  shipments := { world.shipments with quotes := 0, ledger := world.shipments.ledger.blank }
  payments := Ledger.blank world.payments
  unreachable := Ledger.blank world.unreachable
  mailbox := { world.mailbox with sent := [], attempts := 0 }
  flags := { world.flags with evaluations := 0 }
  producer := .empty
  ids := []
  delays := world.delays
  hangsUpOn := world.hangsUpOn
  retag := world.retag
  spans := 0

/-- An answer without the name that it gives to an entry of a ledger. -/
def Call.unnamed : (call : Call) → Except ServiceError call.Reply → Except ServiceError call.Reply
  | .charge _ _ _, answer => answer.map fun _ => ""
  | .shipOrder _ _, answer => answer.map fun _ => ""
  | _, answer => answer

theorem Ledger.Takes.blank_eq {α : Type} {heading : String} {before after : Ledger α}
    {entered : List (String × α)} (takes : Takes heading before after entered) :
    after.blank = before.blank := by
  unfold blank
  rw [takes.fails_eq]

theorem Payments.unnamed_charge (payments : Payments) (amount : Money) :
    ((payments.charge amount).1.map fun _ => "") =
      if payments.fails then .error (.rejected "payment declined") else .ok "" := by
  unfold charge Ledger.enter
  by_cases fails : payments.fails
  · simp only [if_pos fails]
    rfl
  · simp only [if_neg fails]
    rfl

theorem Shipments.unnamed_ship (shipments : Shipments) (items : List CartItem) :
    ((shipments.ship items).1.map fun _ => "") =
      if shipments.ledger.fails then .error (.rejected "shipping unavailable") else .ok "" := by
  unfold ship Ledger.enter
  by_cases fails : shipments.ledger.fails
  · simp only [if_pos fails]
    rfl
  · simp only [if_neg fails]
    rfl

theorem CartStore.answer_reset (store : CartStore) (user : String) :
    (store.reset user).1 = if store.failsResets then .error unreachable else .ok () := by
  unfold reset
  by_cases fails : store.failsResets
  · simp only [if_pos fails]
  · simp only [if_neg fails]

theorem Mailbox.answer_confirm (mailbox : Mailbox) (email : String) (order : OrderId) :
    (mailbox.confirm email order).1 =
      if mailbox.fails then .error (.status 500 "mailer down") else .ok () := by
  unfold confirm
  by_cases fails : mailbox.fails
  · simp only [if_pos fails]
  · simp only [if_neg fails]

theorem World.Replies.setup_eq {world later : World} {query : Query} {answer : query.Answer}
    (replies : world.Replies query answer later) : later.setup = world.setup := by
  cases replies with
  | call call =>
      cases call with
      | charge endpoint amount card =>
          cases endpoint with
          | primary =>
              have blank := (world.payments.takes_charge amount).blank_eq
              simp only [World.answer, World.setup, blank]
          | unreachable =>
              have blank := (world.unreachable.takes_charge amount).blank_eq
              simp only [World.answer, World.setup, blank]
      | shipOrder address items =>
          unfold World.answer World.setup Shipments.ship Ledger.enter
          cases fails : world.shipments.ledger.fails with
          | false => simp [Ledger.blank, fails]
          | true => simp [Ledger.blank, fails]
      | emptyCart user =>
          unfold World.answer World.setup CartStore.reset
          cases fails : world.carts.failsResets with
          | false => simp [fails]
          | true => simp [fails]
      | sendConfirmation email order =>
          unfold World.answer World.setup Mailbox.confirm
          cases fails : world.mailbox.fails with
          | false => simp [fails]
          | true => simp [fails]
      | _ => rfl
  | orderId =>
      unfold World.nextId
      cases ids : world.ids with
      | nil => rfl
      | cons id rest => rfl
  | _ => rfl

/-- How a world is set up decides how it answers, apart from the carts. -/
theorem World.unnamed_answer (world : World) (call : Call) (other : ∀ user, call ≠ .getCart user) :
    call.unnamed (world.answer call).1 = call.unnamed (world.setup.answer call).1 := by
  cases call with
  | getCart user => exact absurd rfl (other user)
  | emptyCart user =>
      exact (world.carts.answer_reset user).trans (world.setup.carts.answer_reset user).symm
  | shipOrder address items =>
      exact (world.shipments.unnamed_ship items).trans (world.setup.shipments.unnamed_ship items).symm
  | charge endpoint amount card =>
      cases endpoint with
      | primary =>
          exact (world.payments.unnamed_charge amount).trans
            (Payments.unnamed_charge world.setup.payments amount).symm
      | unreachable =>
          exact (Payments.unnamed_charge world.unreachable amount).trans
            (Payments.unnamed_charge world.setup.unreachable amount).symm
  | sendConfirmation email order =>
      exact (world.mailbox.answer_confirm email order.id).trans
        (world.setup.mailbox.answer_confirm email order.id).symm
  | _ => rfl

/-! ## Carts -/

namespace CartStore

theorem cart_reset_self (store : CartStore) (user : String) :
    (store.reset user).2.cart user = if store.failsResets then store.cart user else [] := by
  unfold reset
  by_cases fails : store.failsResets
  · simp only [if_pos fails]
    rfl
  · simp only [if_neg fails, cart, Table.get?_erase_self]
    rfl

theorem cart_reset_of_ne (store : CartStore) {user other : String} (different : other ≠ user) :
    (store.reset user).2.cart other = store.cart other := by
  unfold reset
  by_cases fails : store.failsResets
  · simp only [if_pos fails]
    rfl
  · simp only [if_neg fails, cart, Table.get?_erase_of_ne store.carts different]

end CartStore

/-- Only the call that empties a cart changes it. -/
theorem World.Replies.cart_eq {world later : World} {query : Query} {answer : query.Answer}
    (replies : world.Replies query answer later) {user : String}
    (kept : query ≠ .call (.emptyCart user)) : later.carts.cart user = world.carts.cart user := by
  cases replies with
  | call call =>
      cases call with
      | emptyCart emptied =>
          apply world.carts.cart_reset_of_ne
          intro same
          apply kept
          rw [same]
      | charge endpoint amount card => cases endpoint <;> rfl
      | _ => rfl
  | orderId =>
      unfold World.nextId
      cases world.ids <;> rfl
  | _ => rfl

theorem World.Replies.ids_eq {world later : World} {query : Query} {answer : query.Answer}
    (replies : world.Replies query answer later) (other : query ≠ .orderId) :
    later.ids = world.ids := by
  cases replies with
  | call call =>
      cases call with
      | charge endpoint amount card => cases endpoint <;> rfl
      | _ => rfl
  | orderId => exact absurd rfl other
  | _ => rfl

end Checkout

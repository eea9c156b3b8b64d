import Checkout.Proofs.Paying

/-!
# Payment records

What a payment service has on record is a part of the world that nothing but a charge changes.  A
service may enter a charge as soon as it is called, long before it replies; what a run leaves on
record therefore does not depend on whether the reply was heard.
-/

set_option autoImplicit false

namespace Checkout

/-- A reaction leaves as it is what `record` reads from the world. -/
def Reaction.Keeps {σ ρ α : Type} (record : σ → ρ) (world : σ) (reaction : Reaction σ α) : Prop :=
  record reaction.received = record world ∧
    ∀ later, record (reaction.answer later).2 = record later

theorem Reaction.Keeps.answered {σ ρ α : Type} {record : σ → ρ} {world later : σ}
    {reaction : Reaction σ α} {answer : α} (keeps : reaction.Keeps record world)
    (answer_eq : reaction.answer reaction.received = (answer, later)) :
    record later = record world := by
  have later_eq : later = (reaction.answer reaction.received).2 :=
    (congrArg Prod.snd answer_eq).symm
  rw [later_eq]
  exact (keeps.2 _).trans keeps.1

/-- What a payment service has on record: a part of the world that nothing but a charge changes. -/
structure PaymentRecord {σ : Type} (backend : Backend σ) (ρ : Type) where
  record : σ → ρ
  call_kept : ∀ caller (call : Call) world, call.isCharge = false →
    (backend.call caller call world).Keeps record world
  flag_kept : ∀ caller kind flag world, (backend.flag caller kind flag world).Keeps record world
  orderId_kept : ∀ world, record (backend.orderId world).2 = record world
  span_kept : ∀ world, record (backend.span world).2 = record world
  send_kept : ∀ envelope world, record (backend.send envelope world).2 = record world

section Records

variable {σ ρ α : Type} {backend : Backend σ} (trace : TraceContext)
  (payments : PaymentRecord backend ρ)

theorem PaymentRecord.kept_by_question {machine later : Machine σ} {query : Query}
    {answer : query.Answer} {trail : List Entry}
    (asked : machine.progress backend trace query = ⟨trail, some (answer, later)⟩)
    (free : ∀ call ∈ calls trail, call.isCharge = false) :
    payments.record later.world = payments.record machine.world := by
  cases query with
  | call call =>
      cases machine.callCourse backend trace call with
      | refused error ended made =>
          cases made.symm.trans asked
          rfl
      | answered answer length later took answer_eq now_eq life_eq made =>
          cases made.symm.trans asked
          have kept := payments.call_kept (machine.caller trace) call machine.world
            (free call (List.mem_singleton.mpr rfl))
          exact kept.answered answer_eq
      | abandoned error later world_eq life_eq made =>
          cases made.symm.trans asked
          have kept := payments.call_kept (machine.caller trace) call machine.world
            (free call (List.mem_singleton.mpr rfl))
          -- The service has received the call, and its answer is dropped.
          rw [world_eq]
          exact kept.1
      | endless silent unbounded made => cases made.symm.trans asked
  | flag kind flag =>
      cases machine.flagCourse backend trace kind flag with
      | answered answer length later took answer_eq now_eq life_eq made =>
          cases made.symm.trans asked
          have kept := payments.flag_kept (machine.caller trace) kind flag machine.world
          exact kept.answered answer_eq
      | endless silent made => cases made.symm.trans asked
  | orderId =>
      cases asked
      exact payments.orderId_kept machine.world
  | span =>
      cases asked
      exact payments.span_kept machine.world
  | send envelope =>
      cases asked
      exact payments.send_kept envelope machine.world
  | settle delivery limit =>
      cases asked
      rfl
  | note event =>
      cases asked
      rfl

theorem PaymentRecord.kept_by_run {program : Program α} {machine later : Machine σ} {value : α}
    {trail : List Entry}
    (ran : program.progress backend trace machine = ⟨trail, some (value, later)⟩)
    (free : ∀ call ∈ calls trail, call.isCharge = false) :
    payments.record later.world = payments.record machine.world := by
  have lasting : Lasting fun (first : Machine σ) trail second =>
      (∀ call ∈ calls trail, call.isCharge = false) →
        payments.record second.world = payments.record first.world := by
    refine ⟨fun _ _ => rfl, ?_⟩
    intro first second third trail rest kept keptRest free
    rw [calls_append] at free
    have free_first := fun call member => free call (List.mem_append_left _ member)
    have free_rest := fun call member => free call (List.mem_append_right _ member)
    exact (keptRest free_rest).trans (kept free_first)
  exact Program.lasting_of_progress backend trace lasting (payments.kept_by_question trace) ran free

end Records

/-- A payment service that enters a charge as soon as it is called and replies `delay` later.  The
other collaborators answer at once; the cart is shipped if `ships` says so. -/
def bookkeeping (price : Money) (items : List CartItem) (delay : Nat) (ships : Bool) :
    Backend (List Money) where
  call _ call book :=
    match call with
    | .getCart _ => .immediate book fun book => (.ok items, book)
    | .emptyCart _ => .immediate book fun book => (.ok (), book)
    | .getProduct product => .immediate book fun book => (.ok ⟨product, "", price⟩, book)
    | .convert amount _ => .immediate book fun book => (.ok amount, book)
    | .getQuote _ _ => .immediate book fun book => (.ok price, book)
    | .shipOrder _ _ => .immediate book fun book =>
      (if ships then .ok "parcel" else .error (.rejected "no parcel"), book)
    | .charge _ amount _ => ⟨book ++ [amount], false, some delay, fun book => (.ok "receipt", book)⟩
    | .sendConfirmation _ _ => .immediate book fun book => (.ok (), book)
  flag _ kind _ book := .immediate book fun book => (.ok kind.default, book)
  orderId book := (.ok ⟨List.replicate 32 (Text.lastHexDigit 0), rfl⟩, book)
  span book := (.nth 0, book)
  send _ book := (.withheld, book)

def bookkeeping.book (price : Money) (items : List CartItem) (delay : Nat) (ships : Bool) :
    PaymentRecord (bookkeeping price items delay ships) (List Money) where
  record book := book
  call_kept := by
    intro caller call book free
    cases call with
    | charge endpoint amount card => cases free
    | _ => exact ⟨rfl, fun _ => rfl⟩
  flag_kept _ _ _ _ := ⟨rfl, fun _ => rfl⟩
  orderId_kept _ := rfl
  span_kept _ := rfl
  send_kept _ _ := rfl

namespace Sample

def price : Money := ⟨⟨"USD", rfl⟩, 1000000000, by decide⟩

def cart : List CartItem := [⟨⟨"lamp"⟩, 2⟩]

def request : OrderRequest := ⟨"user", "USD", .blank, "mail", ⟨"4000", 1, 2030, 1⟩⟩

def trace : TraceContext := ⟨⟨1, by decide, by decide⟩, ⟨1, by decide, by decide⟩, 1, .empty⟩

def gathering : Gathering where
  lines := cart.map fun item => ⟨item, ⟨item.productId, "", price⟩, price⟩
  quote := price
  shippingCost := price
  valid := by decide

def saga : Saga := ⟨none, true⟩

def start : Machine (List Money) := ⟨0, ⟨none, some 31⟩, []⟩

def placing (delay : Nat) (ships : Bool) :
    Progress (List Money) (Except CheckoutError Order) :=
  (saga.place trace request).progress (bookkeeping price cart delay ships) trace start

end Sample

end Checkout

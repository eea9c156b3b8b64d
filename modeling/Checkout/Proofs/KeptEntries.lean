import Checkout.Proofs.Ledgers
import Mathlib.Data.List.Induction

/-!
# Entries that stay

The payment service and the shipping service keep a ledger each, and are told now and then to fail or
to stop failing.  A history is a list of deeds; its calls and their answers tell what must be on record
at its end: under every name that was returned the value of that call, and nothing under any other
name.  One deed adds to a ledger what its answer says, and a history adds what all of its answers say,
so what a ledger has taken since it was opened is an invariant of histories.

The names come from a counter of 32 bits, which runs over in the end, and the first entry under a name
is the one that is found.  As long as fewer than `2 ^ 32` calls have succeeded, no name is given twice.
-/

set_option autoImplicit false

namespace Checkout

/-! ## What a ledger has on record -/

namespace Ledger

variable {α : Type} {heading : String} {before after : Ledger α} {entered : List (String × α)}

/-- A ledger apart from whether it is told to fail. -/
def working (ledger : Ledger α) : Ledger α :=
  { ledger with fails := false }

theorem Takes.working (takes : Takes heading before after entered) :
    Takes heading before.working after.working entered :=
  ⟨takes.entries_eq, takes.names_eq, takes.lastId_eq, rfl⟩

theorem attempts_enter (ledger : Ledger α) (heading : String) (value : α) :
    (ledger.enter heading value).2.attempts = ledger.attempts + 1 := by
  unfold enter
  split
  · rfl
  · rfl

/-- A value that is not entered leaves nothing but an attempt. -/
theorem enter_of_refused {ledger : Ledger α} {value : α}
    (refused : (ledger.enter heading value).1 = none) :
    (ledger.enter heading value).2 = { ledger with attempts := ledger.attempts + 1 } := by
  unfold enter at refused ⊢
  split
  · rfl
  next works => simp [works] at refused

end Ledger

/-! ## Histories -/

/-- A call to a service that keeps a ledger: the value that it was to enter, and the answer. -/
structure Booking (α : Type) where
  value : α
  answer : Except ServiceError String

def Booking.entry? {α : Type} (booking : Booking α) : Option (String × α) :=
  booking.answer.toOption.map fun name => (name, booking.value)

/-- A service that keeps a ledger, as those see it who use it: how it is opened, what comes of a deed,
which may be a call or anything else, what it tells of its ledger, and what it is after one more
attempt of which nothing has come. -/
structure Clerk (σ δ α : Type) where
  heading : String
  opened : σ
  perform : σ → δ → Option (Booking α) × σ
  find? : σ → String → Option α
  entered : σ → Nat
  attempts : σ → Nat
  attempted : σ → σ

namespace Clerk

variable {σ δ α : Type} (clerk : Clerk σ δ α)

def act (service : σ) (deed : δ) : σ :=
  (clerk.perform service deed).2

def after (deeds : List δ) : σ :=
  deeds.foldl clerk.act clerk.opened

def bookingsFrom (service : σ) : List δ → List (Booking α)
  | [] => []
  | deed :: rest =>
    (clerk.perform service deed).1.toList ++ bookingsFrom (clerk.act service deed) rest

def bookings (deeds : List δ) : List (Booking α) :=
  clerk.bookingsFrom clerk.opened deeds

def entries (deeds : List δ) : List (String × α) :=
  (clerk.bookings deeds).filterMap Booking.entry?

theorem after_concat (deeds : List δ) (deed : δ) :
    clerk.after (deeds ++ [deed]) = clerk.act (clerk.after deeds) deed := by
  simp [after]

theorem bookingsFrom_append (service : σ) (deeds rest : List δ) :
    clerk.bookingsFrom service (deeds ++ rest) =
      clerk.bookingsFrom service deeds ++
        clerk.bookingsFrom (deeds.foldl clerk.act service) rest := by
  induction deeds generalizing service with
  | nil => rfl
  | cons deed others ih => simp [bookingsFrom, ih]

theorem bookings_append (deeds rest : List δ) :
    clerk.bookings (deeds ++ rest) =
      clerk.bookings deeds ++ clerk.bookingsFrom (clerk.after deeds) rest :=
  clerk.bookingsFrom_append clerk.opened deeds rest

theorem bookings_concat (deeds : List δ) (deed : δ) :
    clerk.bookings (deeds ++ [deed]) =
      clerk.bookings deeds ++ (clerk.perform (clerk.after deeds) deed).1.toList := by
  simp [bookings_append, bookingsFrom]

/-- What a deed can do to the ledger that a service works on: it is a call that tries to enter its
value and answers what has come of that, or it leaves the entries alone. -/
inductive Step (ledger : σ → Ledger α) (service : σ) (deed : δ) : Prop where
  | enters (value : α) (refusal : ServiceError)
      (answer_eq : (clerk.perform service deed).1 =
        some ⟨value, ((ledger service).enter clerk.heading value).1.elim (.error refusal) .ok⟩)
      (ledger_eq : ledger (clerk.act service deed) =
        ((ledger service).enter clerk.heading value).2)
      (refused : ((ledger service).enter clerk.heading value).1 = none →
        clerk.act service deed = clerk.attempted service)
  | aside (silent : (clerk.perform service deed).1 = none)
      (entries_eq : (ledger (clerk.act service deed)).entries = (ledger service).entries)
      (lastId_eq : (ledger (clerk.act service deed)).lastId = (ledger service).lastId)
      (attempts_eq : (ledger (clerk.act service deed)).attempts = (ledger service).attempts)

namespace Step

variable {clerk} {ledger : σ → Ledger α} {service : σ} {deed : δ}

theorem takes (step : clerk.Step ledger service deed) :
    Ledger.Takes clerk.heading (ledger service).working (ledger (clerk.act service deed)).working
      ((clerk.perform service deed).1.toList.filterMap Booking.entry?) := by
  cases step with
  | enters value refusal answer_eq ledger_eq refused =>
      have takes := ((ledger service).takes_enter clerk.heading value).working
      rw [answer_eq, ledger_eq]
      cases entered : ((ledger service).enter clerk.heading value).1 with
      | none =>
          rw [entered] at takes
          exact takes
      | some name =>
          rw [entered] at takes
          exact takes
  | aside silent entries_eq lastId_eq attempts_eq =>
      rw [silent]
      exact .nothing entries_eq lastId_eq rfl

theorem counts (step : clerk.Step ledger service deed) :
    (ledger (clerk.act service deed)).attempts =
      (ledger service).attempts + (clerk.perform service deed).1.toList.length := by
  cases step with
  | enters value refusal answer_eq ledger_eq refused =>
      rw [answer_eq, ledger_eq, Ledger.attempts_enter]
      rfl
  | aside silent entries_eq lastId_eq attempts_eq =>
      rw [silent, attempts_eq]
      rfl

theorem refuses (step : clerk.Step ledger service deed) {value : α} {error : ServiceError}
    (failed : (clerk.perform service deed).1 = some ⟨value, .error error⟩) :
    clerk.act service deed = clerk.attempted service := by
  cases step with
  | enters other refusal answer_eq ledger_eq refused =>
      apply refused
      cases entered : ((ledger service).enter clerk.heading other).1 with
      | none => rfl
      | some name =>
          rw [entered, failed] at answer_eq
          cases answer_eq
  | aside silent entries_eq lastId_eq attempts_eq => cases silent.symm.trans failed

end Step

/-- The service works on a ledger, and tells what is in it. -/
structure WorksOn (ledger : σ → Ledger α) : Prop where
  opened : (ledger clerk.opened).working = .empty
  step : ∀ service deed, clerk.Step ledger service deed
  find?_eq : ∀ service name, clerk.find? service name = (ledger service).find? name
  entered_eq : ∀ service, clerk.entered service = (ledger service).entries.length
  attempts_eq : ∀ service, clerk.attempts service = (ledger service).attempts

/-- What is on record at the end of a history is what its calls were told. -/
structure Keeps (deeds : List δ) : Prop where
  named : ∀ before deed later value name, deeds = before ++ deed :: later →
    (clerk.perform (clerk.after before) deed).1 = some ⟨value, .ok name⟩ →
    name = Ledger.entryName clerk.heading (UInt32.ofNat (clerk.entries before).length + 1) ∧
    name ∉ (clerk.entries before).map Prod.fst
  found : ∀ before deed later value name, deeds = before ++ deed :: later →
    (clerk.perform (clerk.after before) deed).1 = some ⟨value, .ok name⟩ →
    clerk.find? (clerk.after deeds) name = some value
  refused : ∀ before deed later value error, deeds = before ++ deed :: later →
    (clerk.perform (clerk.after before) deed).1 = some ⟨value, .error error⟩ →
    clerk.after (before ++ [deed]) = clerk.attempted (clerk.after before)
  found_iff : ∀ name value,
    clerk.find? (clerk.after deeds) name = some value ↔ (name, value) ∈ clerk.entries deeds
  entered_eq : clerk.entered (clerk.after deeds) = (clerk.entries deeds).length
  attempts_eq : clerk.attempts (clerk.after deeds) = (clerk.bookings deeds).length

namespace WorksOn

variable {clerk} {ledger : σ → Ledger α}

/-- A history adds to the ledger what all of its answers say. -/
theorem takes_all (works : clerk.WorksOn ledger) (deeds : List δ) :
    Ledger.Takes clerk.heading .empty (ledger (clerk.after deeds)).working
      (clerk.entries deeds) := by
  induction deeds using List.reverseRecOn with
  | nil =>
      rw [show clerk.after [] = clerk.opened from rfl, works.opened]
      exact .nothing rfl rfl rfl
  | append_singleton deeds deed ih =>
      rw [entries, bookings_concat, List.filterMap_append, after_concat]
      exact ih.trans (works.step (clerk.after deeds) deed).takes

theorem attempts_after (works : clerk.WorksOn ledger) (deeds : List δ) :
    (ledger (clerk.after deeds)).attempts = (clerk.bookings deeds).length := by
  induction deeds using List.reverseRecOn with
  | nil => exact congrArg Ledger.attempts works.opened
  | append_singleton deeds deed ih =>
      rw [bookings_concat, List.length_append, after_concat, (works.step _ deed).counts, ih]

theorem entries_after (works : clerk.WorksOn ledger) (deeds : List δ) :
    (ledger (clerk.after deeds)).entries = clerk.entries deeds :=
  (works.takes_all deeds).entries_eq

/-- However often the service is told to fail meanwhile, its ledger stays numbered. -/
theorem numbered (works : clerk.WorksOn ledger) (deeds : List δ) :
    Ledger.Numbered clerk.heading (ledger (clerk.after deeds)).working :=
  Ledger.Numbered.empty.takes (works.takes_all deeds)

end WorksOn

/-- A call that succeeds comes after the entries of its past, and before those of its future. -/
theorem entries_split {before : List δ} {deed : δ} (later : List δ) {value : α} {name : String}
    (made : (clerk.perform (clerk.after before) deed).1 = some ⟨value, .ok name⟩) :
    ∃ rest, clerk.entries (before ++ deed :: later) =
      clerk.entries before ++ (name, value) :: rest := by
  refine ⟨(clerk.bookingsFrom (clerk.act (clerk.after before) deed) later).filterMap
    Booking.entry?, ?_⟩
  rw [entries, bookings_append, List.filterMap_append, bookingsFrom, made]
  rfl

theorem WorksOn.keeps {clerk : Clerk σ δ α} {ledger : σ → Ledger α} (works : clerk.WorksOn ledger)
    {deeds : List δ} (bounded : (clerk.entries deeds).length < 2 ^ 32) : clerk.Keeps deeds := by
  have numbered := works.numbered deeds
  have entries_eq : (ledger (clerk.after deeds)).working.entries = clerk.entries deeds :=
    works.entries_after deeds
  rw [← entries_eq] at bounded
  have found_iff : ∀ name value,
      clerk.find? (clerk.after deeds) name = some value ↔ (name, value) ∈ clerk.entries deeds := by
    intro name value
    rw [works.find?_eq, ← entries_eq, ← numbered.find?_eq_some_iff bounded]
    rfl
  refine ⟨?_, ?_, ?_, found_iff, ?_, ?_⟩
  · rintro before deed later value name rfl made
    obtain ⟨rest, split⟩ := clerk.entries_split later made
    rw [split] at entries_eq
    refine ⟨numbered.name_eq entries_eq, fun member => ?_⟩
    have distinct := numbered.nodup bounded
    rw [entries_eq, List.map_append, List.map_cons] at distinct
    exact (List.nodup_append.mp distinct).2.2 name member name List.mem_cons_self rfl
  · rintro before deed later value name rfl made
    obtain ⟨rest, split⟩ := clerk.entries_split later made
    rw [found_iff, split]
    exact List.mem_append_right _ List.mem_cons_self
  · rintro before deed later value error rfl made
    rw [after_concat]
    exact (works.step _ deed).refuses made
  · rw [works.entered_eq, works.entries_after]
  · rw [works.attempts_eq, works.attempts_after]

end Clerk

/-! ## The two services -/

namespace Payments

inductive Deed where
  | charge (amount : Money)
  | setFailing (fails : Bool)

def perform (payments : Payments) : Deed → Option (Booking Money) × Payments
  | .charge amount => (some ⟨amount, (payments.charge amount).1⟩, (payments.charge amount).2)
  | .setFailing fails => (none, { payments with fails })

def clerk : Clerk Payments Deed Money where
  heading := heading
  opened := Ledger.empty
  perform := perform
  find? := charged?
  entered := fun payments => payments.entries.length
  attempts := fun payments => payments.attempts
  attempted := fun payments => { payments with attempts := payments.attempts + 1 }

end Payments

namespace Shipments

inductive Deed where
  | ship (items : List CartItem)
  | quote
  | setFailing (fails : Bool)
  | setFailingQuotes (fails : Bool)

def perform (shipments : Shipments) : Deed → Option (Booking (List CartItem)) × Shipments
  | .ship items => (some ⟨items, (shipments.ship items).1⟩, (shipments.ship items).2)
  | .quote => (none, shipments.quote.2)
  | .setFailing fails => (none, { shipments with ledger.fails := fails })
  | .setFailingQuotes fails => (none, { shipments with failsQuotes := fails })

def clerk (price : Money) : Clerk Shipments Deed (List CartItem) where
  heading := heading
  opened := .atPrice price
  perform := perform
  find? := shipped?
  entered := fun shipments => shipments.ledger.entries.length
  attempts := fun shipments => shipments.ledger.attempts
  attempted := fun shipments =>
    { shipments with ledger.attempts := shipments.ledger.attempts + 1 }

end Shipments

theorem Payments.charge_eq (payments : Payments) (amount : Money) :
    payments.charge amount =
      ((payments.enter heading amount).1.elim (.error (.rejected "payment declined")) .ok,
        (payments.enter heading amount).2) := by
  unfold charge
  cases payments.enter heading amount with
  | mk name? later => cases name? <;> rfl

theorem Shipments.ship_eq (shipments : Shipments) (items : List CartItem) :
    shipments.ship items =
      ((shipments.ledger.enter heading items).1.elim
          (.error (.rejected "shipping unavailable")) .ok,
        { shipments with ledger := (shipments.ledger.enter heading items).2 }) := by
  unfold ship
  cases shipments.ledger.enter heading items with
  | mk name? later => cases name? <;> rfl

theorem Payments.worksOn : Payments.clerk.WorksOn id where
  opened := rfl
  step := by
    intro payments deed
    cases deed with
    | charge amount =>
        refine .enters amount (.rejected "payment declined") ?_ ?_ ?_
        · change some (Booking.mk amount (payments.charge amount).1) = _
          rw [payments.charge_eq]
          rfl
        · change (payments.charge amount).2 = _
          rw [payments.charge_eq]
          rfl
        · intro refused
          change (payments.charge amount).2 = _
          rw [payments.charge_eq]
          exact Ledger.enter_of_refused refused
    | setFailing fails => exact .aside rfl rfl rfl rfl
  find?_eq := fun _ _ => rfl
  entered_eq := fun _ => rfl
  attempts_eq := fun _ => rfl

theorem Shipments.worksOn (price : Money) : (Shipments.clerk price).WorksOn Shipments.ledger where
  opened := rfl
  step := by
    intro shipments deed
    cases deed with
    | ship items =>
        refine .enters items (.rejected "shipping unavailable") ?_ ?_ ?_
        · change some (Booking.mk items (shipments.ship items).1) = _
          rw [shipments.ship_eq]
          rfl
        · change (shipments.ship items).2.ledger = _
          rw [shipments.ship_eq]
          rfl
        · intro refused
          change (shipments.ship items).2 = _
          rw [shipments.ship_eq]
          exact congrArg (fun ledger => { shipments with ledger })
            (Ledger.enter_of_refused refused)
    | quote => exact .aside rfl rfl rfl rfl
    | setFailing fails => exact .aside rfl rfl rfl rfl
    | setFailingQuotes fails => exact .aside rfl rfl rfl rfl
  find?_eq := fun _ _ => rfl
  entered_eq := fun _ => rfl
  attempts_eq := fun _ => rfl

/-- The payment service and the shipping service keep what they were told, whatever else is done to
them, in every history in which their counters do not run over. -/
theorem entries_stay :
    (∀ deeds : List Payments.Deed, (Payments.clerk.entries deeds).length < 2 ^ 32 →
      Payments.clerk.Keeps deeds) ∧
    ∀ (price : Money) (deeds : List Shipments.Deed),
      ((Shipments.clerk price).entries deeds).length < 2 ^ 32 →
        (Shipments.clerk price).Keeps deeds :=
  ⟨fun _ bounded => Payments.worksOn.keeps bounded,
    fun price _ bounded => (Shipments.worksOn price).keeps bounded⟩

namespace Sample

def coin : Money := ⟨⟨"EUR", rfl⟩, 5000000, by decide⟩

def chargedTwice : List Payments.Deed :=
  [.charge coin, .setFailing true, .charge coin, .setFailing false,
    .charge ⟨⟨"NOK", rfl⟩, -1, by decide⟩]

def shippedOnce : List Shipments.Deed :=
  [.setFailing true, .ship [], .quote, .setFailing false, .ship [⟨⟨"lamp"⟩, 2⟩]]

end Sample

theorem entries_stay_of_declined :
    (Payments.clerk.after Sample.chargedTwice).charged? "PAY-0001" = some Sample.coin ∧
      (Payments.clerk.after Sample.chargedTwice).charged? "PAY-0003" = none ∧
      (Payments.clerk.after Sample.chargedTwice).attempts = 3 ∧
      ((Shipments.clerk Sample.coin).after Sample.shippedOnce).shipped? "TRACK-0001" =
        some [⟨⟨"lamp"⟩, 2⟩] := by
  have charged : Payments.clerk.entries Sample.chargedTwice =
      [("PAY-0001", Sample.coin), ("PAY-0002", ⟨⟨"NOK", rfl⟩, -1, by decide⟩)] := by
    decide +kernel
  have shipped : (Shipments.clerk Sample.coin).entries Sample.shippedOnce =
      [("TRACK-0001", [⟨⟨"lamp"⟩, 2⟩])] := by
    decide +kernel
  have payments := entries_stay.1 Sample.chargedTwice (by simp [charged])
  have shipments := entries_stay.2 Sample.coin Sample.shippedOnce (by simp [shipped])
  refine ⟨(payments.found_iff "PAY-0001" Sample.coin).mpr (by simp [charged]), ?_,
    payments.attempts_eq, (shipments.found_iff "TRACK-0001" _).mpr (by simp [shipped])⟩
  apply Option.eq_none_iff_forall_ne_some.mpr
  intro value found
  have member := (payments.found_iff "PAY-0003" value).mp found
  simp [charged] at member

end Checkout

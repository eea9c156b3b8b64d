import Checkout.Proofs.CallOrder
import Checkout.Proofs.EndedContexts

/-!
# First failures of preparations

While its context is live, preparing a placement fails for one reason only: the first answer that is
a failure, or a quantity in the cart that no order can carry.  It reports that, and after it calls
nobody.  What was heard tells how far it came, and so how often each collaborator was called.

The context is live throughout a run if it is live at the end: a context that is over stays over.
-/

set_option autoImplicit false

namespace Checkout

/-! ## Runs under a live context -/

def Backend.CallsReturn {σ : Type} (backend : Backend σ) : Prop :=
  ∀ caller call world, (backend.call caller call world).delay ≠ none

def Backend.KeepsCallers {σ : Type} (backend : Backend σ) : Prop :=
  ∀ caller call world, (backend.call caller call world).hangsUp = false

def Machine.IsLive {σ : Type} (machine : Machine σ) : Prop :=
  machine.life.error? machine.now = none

def Happening.isAbandonment : Happening → Bool
  | .abandoned _ _ => true
  | _ => false

def Uncut (trail : List Entry) : Prop :=
  ∀ entry ∈ trail, entry.happening.isAbandonment = false

def Query.IsCallOrNote : Query → Prop
  | .call _ => True
  | .note _ => True
  | _ => False

section Runs

variable {σ α : Type} (backend : Backend σ) (trace : TraceContext)

/-- What a stretch of a run says about the context. -/
structure Bounded (machine : Machine σ) (trail : List Entry) (later : Machine σ) : Prop where
  live : later.IsLive → machine.IsLive ∧ Uncut trail
  life_eq : backend.KeepsCallers → later.life = machine.life

theorem lasting_bounded : Lasting (Bounded backend) where
  refl machine := ⟨fun live => ⟨live, by simp [Uncut]⟩, fun _ => rfl⟩
  trans first second := by
    refine ⟨fun live => ?_, fun keeps => (second.life_eq keeps).trans (first.life_eq keeps)⟩
    obtain ⟨between, uncutRest⟩ := second.live live
    obtain ⟨before, uncut⟩ := first.live between
    refine ⟨before, fun entry member => ?_⟩
    rcases List.mem_append.mp member with early | late
    · exact uncut entry early
    · exact uncutRest entry late

variable {backend trace}

theorem Machine.bounded_of_call {machine later : Machine σ} {call : Call}
    {answer : Except ServiceError call.Reply} {trail : List Entry}
    (asked : machine.progress backend trace (.call call) = ⟨trail, some (answer, later)⟩) :
    Bounded backend machine trail later := by
  have unchanged : ∀ life, life = machine.lifeAfter (machine.reaction backend trace call) →
      backend.KeepsCallers → life = machine.life := by
    intro life life_eq keeps
    rw [life_eq, lifeAfter, reaction, keeps]
    rfl
  have timely := machine.timely backend trace call
  rw [asked] at timely
  cases timely with
  | refused error ceased => exact ⟨fun live => ⟨live, by simp [Uncut]⟩, fun _ => rfl⟩
  | answered answer later live since life_eq intime before =>
      exact ⟨fun _ => ⟨live, by simp [Uncut, Happening.isAbandonment]⟩, unchanged _ life_eq⟩
  | abandoned error later live since life_eq ceased before =>
      refine ⟨fun alive => ?_, unchanged _ life_eq⟩
      cases alive.symm.trans ceased

theorem Machine.bounded_of_question {machine later : Machine σ} {query : Query}
    {answer : query.Answer} {trail : List Entry} (permitted : query.IsCallOrNote)
    (asked : machine.progress backend trace query = ⟨trail, some (answer, later)⟩) :
    Bounded backend machine trail later := by
  cases query with
  | call call => exact Machine.bounded_of_call asked
  | note event =>
      cases asked
      exact ⟨fun live => ⟨live, by simp [Uncut, Happening.isAbandonment]⟩, fun _ => rfl⟩
  | _ => exact False.elim permitted

theorem Program.bounded_of_progress {program : Program α} (asks : program.Asks Query.IsCallOrNote)
    {machine later : Machine σ} {value : α} {trail : List Entry}
    (progress : program.progress backend trace machine = ⟨trail, some (value, later)⟩) :
    Bounded backend machine trail later := by
  obtain ⟨_, _, _, ended, bounded⟩ | ⟨_, _, _, _, _, _, waits, _⟩ :=
    Program.asks_run backend trace (lasting_bounded backend)
      (fun _ _ _ _ _ => Machine.bounded_of_question) asks machine
  · cases ended.symm.trans progress
    exact bounded
  · cases waits.symm.trans progress

/-- A program of calls and reports comes to an end if the calls are answered. -/
theorem Program.ends_of_callsReturn {program : Program α} (asks : program.Asks Query.IsCallOrNote)
    (returns : backend.CallsReturn) (machine : Machine σ) :
    ∃ value later trail, program.progress backend trace machine = ⟨trail, some (value, later)⟩ := by
  obtain ⟨value, later, trail, ended, _⟩ | ⟨stuck, query, trail, rest, permitted, waits, _⟩ :=
    Program.asks_run backend trace (lasting_bounded backend)
      (fun _ _ _ _ _ => Machine.bounded_of_question) asks machine
  · exact ⟨value, later, trail, ended⟩
  · cases query with
    | call call =>
        cases stuck.callCourse backend trace call with
        | endless silent unbounded made => exact absurd silent.never (returns _ call _)
        | refused error ended made => cases made.symm.trans waits
        | answered answer length later took answer_eq now_eq life_eq made =>
            cases made.symm.trans waits
        | abandoned error later world_eq life_eq made => cases made.symm.trans waits
    | note event => cases waits
    | _ => exact False.elim permitted

end Runs

/-! ## What is reported -/

/-- How often a product was looked up, an amount converted, and a quote asked for. -/
structure Inquiries where
  lookups : Nat
  conversions : Nat
  quotes : Nat
deriving DecidableEq

namespace Call

def isLookup : Call → Bool
  | .getProduct _ => true
  | _ => false

def isConversion : Call → Bool
  | .convert _ _ => true
  | _ => false

def isQuote : Call → Bool
  | .getQuote _ _ => true
  | _ => false

end Call

def inquiries (made : List Call) : Inquiries :=
  ⟨made.countP Call.isLookup, made.countP Call.isConversion, made.countP Call.isQuote⟩

/-- What preparing a placement reports, given all the answers to its calls, and how many inquiries
these were.  In a cart whose quantities are valid the lines `lines` were priced before the one that
failed, so the number of these lines is the index of that one. -/
inductive Reports (user code : String) (address : Address) :
    List Answered → Inquiries → Except CheckoutError Preparation → Prop where
  | noCart (error : ServiceError) :
      Reports user code address [⟨.getCart user, .error error⟩] ⟨0, 0, 0⟩
        (.error (.cartUnavailable error))
  | badQuantity (before : List CartItem) (item : CartItem) (after : List CartItem)
      (valid : ∀ other ∈ before, other.HasValidQuantity) (invalid : ¬ item.HasValidQuantity) :
      Reports user code address [⟨.getCart user, .ok (before ++ item :: after)⟩] ⟨0, 0, 0⟩
        (.error (.cartUnavailable (Saga.badQuantity item)))
  | noProduct (lines : List PricedLine) (item : CartItem) (after : List CartItem)
      (error : ServiceError)
      (valid : ∀ other ∈ lines.map PricedLine.item ++ item :: after, other.HasValidQuantity) :
      Reports user code address
        (⟨.getCart user, .ok (lines.map PricedLine.item ++ item :: after)⟩ ::
          lines.flatMap (PricedLine.heard code) ++ [⟨.getProduct item.productId, .error error⟩])
        ⟨lines.length + 1, lines.length, 0⟩
        (.error (.pricingUnavailable item.productId error))
  | noCost (lines : List PricedLine) (item : CartItem) (after : List CartItem) (product : Product)
      (error : ServiceError)
      (valid : ∀ other ∈ lines.map PricedLine.item ++ item :: after, other.HasValidQuantity) :
      Reports user code address
        (⟨.getCart user, .ok (lines.map PricedLine.item ++ item :: after)⟩ ::
          lines.flatMap (PricedLine.heard code) ++ [⟨.getProduct item.productId, .ok product⟩,
            ⟨.convert product.price code, .error error⟩])
        ⟨lines.length + 1, lines.length + 1, 0⟩
        (.error (.pricingUnavailable item.productId error))
  | noQuote (lines : List PricedLine) (error : ServiceError)
      (valid : ∀ line ∈ lines, line.item.HasValidQuantity) :
      Reports user code address
        (⟨.getCart user, .ok (lines.map PricedLine.item)⟩ ::
          lines.flatMap (PricedLine.heard code) ++
            [⟨.getQuote address (lines.map PricedLine.item), .error error⟩])
        ⟨lines.length, lines.length, 1⟩ (.error (.shippingUnavailable error))
  | noShippingCost (lines : List PricedLine) (quote : Money) (error : ServiceError)
      (valid : ∀ line ∈ lines, line.item.HasValidQuantity) :
      Reports user code address
        (⟨.getCart user, .ok (lines.map PricedLine.item)⟩ ::
          lines.flatMap (PricedLine.heard code) ++
            [⟨.getQuote address (lines.map PricedLine.item), .ok quote⟩,
              ⟨.convert quote code, .error error⟩])
        ⟨lines.length, lines.length + 1, 1⟩ (.error (.shippingUnavailable error))
  | prepared (gathering : Gathering) :
      Reports user code address (gathering.heard user code address)
        ⟨gathering.lines.length, gathering.lines.length + 1, 1⟩ (.ok gathering.preparation)

theorem inquiries_append (made rest : List Call) :
    inquiries (made ++ rest) =
      ⟨(inquiries made).lookups + (inquiries rest).lookups,
        (inquiries made).conversions + (inquiries rest).conversions,
        (inquiries made).quotes + (inquiries rest).quotes⟩ := by
  simp [inquiries]

/-- Pricing a line takes one lookup and one conversion. -/
theorem inquiries_priced (code : String) (lines : List PricedLine) :
    inquiries ((lines.flatMap (PricedLine.heard code)).map Answered.call) =
      ⟨lines.length, lines.length, 0⟩ := by
  induction lines with
  | nil => rfl
  | cons line rest ih =>
      have priced : inquiries ((line.heard code).map Answered.call) = ⟨1, 1, 0⟩ := rfl
      have one_more : (line :: rest).length = 1 + rest.length := Nat.add_comm rest.length 1
      rw [List.flatMap_cons, List.map_append, inquiries_append, priced, ih, one_more]
      rfl

theorem inquiries_lines (user code : String) (items : List CartItem) (lines : List PricedLine)
    (rest : List Call) :
    inquiries ((⟨.getCart user, .ok items⟩ :: lines.flatMap (PricedLine.heard code)).map
        Answered.call ++ rest) =
      ⟨lines.length + (inquiries rest).lookups, lines.length + (inquiries rest).conversions,
        (inquiries rest).quotes⟩ := by
  have cart : inquiries [.getCart user] = ⟨0, 0, 0⟩ := rfl
  rw [List.map_cons, ← List.singleton_append, List.append_assoc, inquiries_append, cart,
    inquiries_append, inquiries_priced]
  simp only [Nat.zero_add]

section Preparing

variable {σ : Type} {backend : Backend σ} {trace : TraceContext} {user code : String}
  {address : Address}

theorem PreparingDue.heard_ok {heard : List Answered} {call : Call}
    {abort : ServiceError → CheckoutError}
    (due : PreparingDue user code address heard call abort) :
    ∀ answered ∈ heard, answered.isFailure = false := by
  have priced : ∀ lines : List PricedLine, ∀ answered ∈ lines.flatMap (PricedLine.heard code),
      answered.isFailure = false := by
    intro lines answered member
    obtain ⟨line, _, inLine⟩ := List.mem_flatMap.mp member
    simp only [PricedLine.heard, List.mem_cons, List.not_mem_nil, or_false] at inLine
    rcases inLine with rfl | rfl <;> rfl
  cases due with
  | cart => simp
  | line lines item rest valid due =>
      cases due with
      | product => simpa [Answered.isFailure] using priced lines
      | cost product => simpa [Answered.isFailure, or_imp, forall_and] using priced lines
  | quote lines valid => simpa [Answered.isFailure] using priced lines
  | shippingCost lines quote valid =>
      simpa [Answered.isFailure, or_imp, forall_and] using priced lines

/-- The failure of the call that is due is what is reported. -/
theorem PreparingDue.reports {heard : List Answered} {call : Call}
    {abort : ServiceError → CheckoutError}
    (due : PreparingDue user code address heard call abort) (error : ServiceError) :
    Reports user code address (heard ++ [⟨call, .error error⟩])
      (inquiries (heard.map Answered.call ++ [call])) (.error (abort error)) := by
  cases due with
  | cart => exact .noCart error
  | line lines item rest valid due =>
      cases due with
      | product =>
          rw [List.append_nil, inquiries_lines]
          exact .noProduct lines item rest error valid
      | cost product =>
          rw [List.append_assoc, List.map_append, List.append_assoc, inquiries_lines]
          exact .noCost lines item rest product error valid
  | quote lines valid =>
      rw [inquiries_lines]
      exact .noQuote lines error valid
  | shippingCost lines quote valid =>
      rw [List.append_assoc, List.map_append, List.append_assoc, inquiries_lines]
      exact .noShippingCost lines quote error valid

/-- Under a live context a setback is an answer of a collaborator. -/
theorem Setback.failed_of_live {heard answered : List Answered} {call : Call}
    {abort : ServiceError → CheckoutError} {source : ServiceError} {made : List Call}
    {machine later : Machine σ} {trail : List Entry}
    (due : PreparingDue user code address heard call abort)
    (setback : Setback call (some source) made answered)
    (progress : Program.progress backend trace (Saga.prepare user code address).run machine =
      ⟨trail, some (.error (abort source), later)⟩)
    (answers_eq : answers trail = heard ++ answered) (live : later.IsLive) :
    made = [call] ∧ answered = [⟨call, .error source⟩] := by
  cases setback with
  | failed source => exact ⟨rfl, rfl⟩
  | refused reason =>
      have wraps := due.wraps (.context reason)
      rcases truthful_prepare user code address machine _ later trail reason progress wraps with
        refused | ceased
      · obtain ⟨other, error, member⟩ := refused.heard
        rw [answers_eq, List.append_nil] at member
        cases due.heard_ok _ member
      · cases live.symm.trans ceased

theorem reports_of_live {machine later : Machine σ} {trail : List Entry}
    {result : Except CheckoutError Preparation}
    (progress : Program.progress backend trace (Saga.prepare user code address).run machine =
      ⟨trail, some (result, later)⟩)
    (live : later.IsLive) :
    Reports user code address (answers trail) (inquiries (calls trail)) result ∧
      calls trail = (answers trail).map Answered.call := by
  cases preparingCourse backend trace user code address machine with
  | gathered gathering last hears =>
      obtain ⟨part, succeeds, shows⟩ := hears
      cases succeeds.symm.trans progress
      rw [shows.answers_eq, shows.calls_eq]
      refine ⟨?_, rfl⟩
      have counted : inquiries ((gathering.heard user code address).map Answered.call) =
          ⟨gathering.lines.length, gathering.lines.length + 1, 1⟩ := by
        rw [Gathering.heard, List.map_append]
        exact inquiries_lines user code gathering.items gathering.lines _
      rw [counted]
      exact .prepared gathering
  | stopped due stops =>
      obtain ⟨error?, made, answered, part, setback, ⟨last, halts⟩, shows⟩ := stops
      cases error? with
      | none => cases halts.symm.trans progress
      | some source =>
          cases halts.symm.trans progress
          obtain ⟨rfl, rfl⟩ := setback.failed_of_live due halts shows.answers_eq live
          rw [shows.answers_eq, shows.calls_eq]
          refine ⟨due.reports source, ?_⟩
          rw [List.map_append]
          rfl
  | badQuantity items item found quits =>
      obtain ⟨part, ⟨last, halts⟩, shows⟩ := quits
      cases halts.symm.trans progress
      obtain ⟨invalid, before, after, rfl, valid⟩ := List.find?_eq_some_iff_append.mp found
      rw [shows.answers_eq, shows.calls_eq]
      refine ⟨.badQuantity before item after (fun other member => ?_) ?_, rfl⟩
      · simpa using valid other member
      · simpa using invalid

end Preparing

section Main

variable {σ : Type} (backend : Backend σ) (trace : TraceContext) (user code : String)
  (address : Address) (machine : Machine σ)

/-- Preparing a placement comes to an end if the collaborators answer, and a context that nothing
ends is live then.  Under a context that is live at the end no call was cut off, all calls were
answered one after the other, and the answers determine what is reported. -/
theorem preparation_reports_first_failure :
    (backend.CallsReturn → ∃ result later trail,
      Program.run backend trace (Saga.prepare user code address).run machine =
          some ⟨result, later, trail⟩ ∧
        (machine.life = .unbounded → backend.KeepsCallers → later.IsLive)) ∧
      ∀ result later trail,
        Program.run backend trace (Saga.prepare user code address).run machine =
          some ⟨result, later, trail⟩ → later.IsLive →
        Uncut trail ∧ calls trail = (answers trail).map Answered.call ∧
          Reports user code address (answers trail) (inquiries (calls trail)) result := by
  have asks : Program.Asks Query.IsCallOrNote (Saga.prepare user code address).run :=
    prepare_asks (fun _ => trivial) (fun _ => trivial) user code address
  refine ⟨fun returns => ?_, fun result later trail ran live => ?_⟩
  · obtain ⟨result, later, trail, progress⟩ := Program.ends_of_callsReturn asks returns machine
    refine ⟨result, later, trail, (Program.run_eq_some_iff backend trace).mpr progress, ?_⟩
    intro unbounded keeps
    have kept := (Program.bounded_of_progress asks progress).life_eq keeps
    rw [Machine.IsLive, kept, unbounded]
    rfl
  · have progress := (Program.run_eq_some_iff backend trace).mp ran
    obtain ⟨_, uncut⟩ := (Program.bounded_of_progress asks progress).live live
    obtain ⟨reports, calls_eq⟩ := reports_of_live progress live
    exact ⟨uncut, calls_eq, reports⟩

end Main

namespace Sample

def furniture : List CartItem := [⟨⟨"lamp"⟩, 2⟩, ⟨⟨"lamp"⟩, 1⟩, ⟨⟨"rug"⟩, 1⟩, ⟨⟨"lamp"⟩, 1⟩]

def lampShop : Backend (List Money) :=
  { bookkeeping price furniture 0 true with
    call := fun caller call book =>
      match call with
      | .getProduct ⟨"rug"⟩ => .immediate book fun book => (.error (.rejected "no rugs"), book)
      | call => (bookkeeping price furniture 0 true).call caller call book }

theorem lampShop_obliges (caller : Caller) (call : Call) (book : List Money) :
    (lampShop.call caller call book).delay = some 0 ∧
      (lampShop.call caller call book).hangsUp = false := by
  simp only [lampShop]
  split
  · exact ⟨rfl, rfl⟩
  · cases call <;> exact ⟨rfl, rfl⟩

end Sample

/-- The rug on the third line is reported after three lookups and two conversions. -/
theorem preparation_reports_first_failure_of_missing_rug :
    Sample.lampShop.CallsReturn ∧ Sample.lampShop.KeepsCallers ∧
      ∃ result later trail,
        Program.run Sample.lampShop Sample.trace (Saga.prepare "user" "USD" .blank).run
            ⟨0, .unbounded, []⟩ = some ⟨result, later, trail⟩ ∧
          later.IsLive ∧
          Reports "user" "USD" .blank (answers trail) (inquiries (calls trail)) result ∧
          inquiries (calls trail) = ⟨3, 2, 0⟩ ∧
          result = .error (.pricingUnavailable ⟨"rug"⟩ (.rejected "no rugs")) := by
  have returns : Sample.lampShop.CallsReturn := fun caller call book silent =>
    Option.some_ne_none 0 ((Sample.lampShop_obliges caller call book).1.symm.trans silent)
  have keeps : Sample.lampShop.KeepsCallers := fun caller call book =>
    (Sample.lampShop_obliges caller call book).2
  obtain ⟨exists_run, reports⟩ := preparation_reports_first_failure Sample.lampShop Sample.trace
    "user" "USD" .blank ⟨0, .unbounded, []⟩
  obtain ⟨result, later, trail, ran, live⟩ := exists_run returns
  obtain ⟨_, _, reported⟩ := reports result later trail ran (live rfl keeps)
  refine ⟨returns, keeps, result, later, trail, ran, live rfl keeps, reported, ?_⟩
  have known : (Program.run Sample.lampShop Sample.trace (Saga.prepare "user" "USD" .blank).run
      ⟨0, .unbounded, []⟩).map (fun result => (inquiries (calls result.trail), result.value)) =
      some (⟨3, 2, 0⟩, .error (.pricingUnavailable ⟨"rug"⟩ (.rejected "no rugs"))) := rfl
  rw [ran] at known
  exact Prod.mk.inj (Option.some.inj known)

end Checkout

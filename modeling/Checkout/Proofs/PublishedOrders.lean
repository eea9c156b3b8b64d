import Checkout.Proofs.ChargedAmount
import Checkout.Proofs.Turns
import Checkout.Proofs.WrittenOrders

/-!
# Published orders

A placement that returns an order has handed the producer one message for it, and as many copies as
the flag for queue problems asks for.  The message goes to the topic of the service, under the id of
the order, and the order can be read back from it: what a placement lets through can always be
written.  A placement that fails has handed the producer nothing.
-/

set_option autoImplicit false

namespace Checkout

/-- What the flag for queue problems stands for in a run with these turns: the value that it was
answered with, or the default if the answer was an error or nobody was asked. -/
def queueProblems : List Turn → Int
  | [] => FlagKind.integer.default
  | ⟨.flag .integer name, answer⟩ :: rest =>
    if name = Flags.queueProblems then Flags.valueOr .integer answer else queueProblems rest
  | _ :: rest => queueProblems rest

def Asked (turns : List Turn) : Prop :=
  ∃ answer, ⟨.flag .integer Flags.queueProblems, answer⟩ ∈ turns

theorem Asked.mono {turns others : List Turn} (asked : Asked turns)
    (included : turns ⊆ others) : Asked others := by
  obtain ⟨answer, member⟩ := asked
  exact ⟨answer, included member⟩

/-- Whether a question neither hands a message to the producer nor is for that flag. -/
def Query.IsApart : Query → Prop
  | .send _ => False
  | .flag _ name => name ≠ Flags.queueProblems
  | _ => True

def Apart (turns : List Turn) : Prop :=
  ∀ turn ∈ turns, turn.query.IsApart

namespace Apart

variable {turns : List Turn}

theorem sent_eq (apart : Apart turns) : sent turns = [] := by
  refine List.filterMap_eq_nil_iff.mpr ?_
  intro turn member
  have here := apart turn member
  obtain ⟨query, answer⟩ := turn
  cases query with
  | send envelope => exact False.elim here
  | _ => rfl

theorem queueProblems_cons {turn : Turn} (apart : turn.query.IsApart)
    (rest : List Turn) : queueProblems (turn :: rest) = queueProblems rest := by
  obtain ⟨query, answer⟩ := turn
  cases query with
  | flag kind flag =>
      cases kind with
      | boolean => rfl
      | integer => exact if_neg apart
  | _ => rfl

theorem queueProblems_append (apart : Apart turns) (rest : List Turn) :
    queueProblems (turns ++ rest) = queueProblems rest := by
  induction turns with
  | nil => rfl
  | cons turn others ih =>
      obtain ⟨here, there⟩ := List.forall_mem_cons.mp apart
      rw [List.cons_append, queueProblems_cons here, ih there]

theorem queueProblems_eq (apart : Apart turns) :
    queueProblems turns = FlagKind.integer.default := by
  have all := apart.queueProblems_append []
  rwa [List.append_nil] at all

theorem append {others : List Turn} (first : Apart turns) (second : Apart others) :
    Apart (turns ++ others) :=
  fun turn member => (List.mem_append.mp member).elim (first turn) (second turn)

theorem note (event : Event) : Apart [⟨.note event, ()⟩] := by
  intro turn member
  rw [List.mem_singleton.mp member]
  trivial

theorem append_queueProblems (apart : Apart turns) (before : List Turn) :
    queueProblems (before ++ turns) = queueProblems before := by
  induction before with
  | nil => exact apart.queueProblems_eq
  | cons turn others ih =>
      obtain ⟨query, answer⟩ := turn
      cases query with
      | flag kind flag =>
          cases kind with
          | boolean => exact ih
          | integer =>
              by_cases named : flag = Flags.queueProblems
              · exact (if_pos named).trans (if_pos named).symm
              · exact (if_neg named).trans (ih.trans (if_neg named).symm)
      | _ => exact ih

/-- What stands around other turns does not matter to publishing. -/
theorem around {before middle after : List Turn} (first : Apart before) (last : Apart after) :
    sent (before ++ (middle ++ after)) = sent middle ∧
      queueProblems (before ++ (middle ++ after)) = queueProblems middle := by
  constructor
  · rw [sent_append, sent_append, first.sent_eq, last.sent_eq, List.append_nil, List.nil_append]
  · rw [first.queueProblems_append, last.append_queueProblems]

end Apart

/-! ## Publishing -/

section Publishing

variable {turns : List Turn} {envelope : Envelope}

theorem sent_of_repeatSend {count : Nat}
    (follows : (Publisher.repeatSend envelope count).Follows turns ()) :
    sent turns = List.replicate count envelope := by
  induction count generalizing turns with
  | zero =>
      rw [follows.of_pure.1]
      rfl
  | succ count ih =>
      obtain ⟨delivery, rest, split, sending⟩ := follows.of_query_bind
      obtain ⟨others, splitRest, repeated⟩ := sending.of_note_bind
      have copies : sent others = List.replicate count envelope := ih repeated
      rw [split, splitRest, List.replicate_succ, ← copies]
      rfl

theorem queueProblems_of_flag {enabled : Bool} {value : Int}
    (follows : (Program.flag enabled .integer Flags.queueProblems).Follows turns value) :
    sent turns = [] ∧ (enabled = true → Asked turns) ∧
      ((turns = [] ∧ value = FlagKind.integer.default) ∨
        ∀ rest, queueProblems (turns ++ rest) = value) := by
  cases enabled with
  | false =>
      obtain ⟨none_made, value_eq⟩ := Program.Follows.of_pure follows
      rw [none_made]
      exact ⟨rfl, nofun, Or.inl ⟨rfl, value_eq⟩⟩
  | true =>
      obtain ⟨answer, rest, split, answered⟩ := Program.Follows.of_query_bind follows
      cases answer with
      | ok read =>
          obtain ⟨none_left, value_eq⟩ := answered.of_pure
          rw [split, none_left, value_eq]
          exact ⟨rfl, fun _ => ⟨_, List.mem_cons_self⟩, Or.inr fun _ => if_pos rfl⟩
      | error error =>
          obtain ⟨others, splitRest, defaulted⟩ := answered.of_note_bind
          obtain ⟨none_left, value_eq⟩ := defaulted.of_pure
          rw [split, splitRest, none_left, value_eq]
          exact ⟨rfl, fun _ => ⟨_, List.mem_cons_self⟩, Or.inr fun _ => if_pos rfl⟩

theorem overload_follows {enabled : Bool}
    (follows : (Publisher.overload enabled envelope).Follows turns ()) :
    sent turns = List.replicate (queueProblems turns).toNat envelope ∧
      (enabled = true → Asked turns) := by
  obtain ⟨count, asked, rest, split, flagged, sending⟩ := follows.of_bind
  obtain ⟨silent, answered, value⟩ := queueProblems_of_flag flagged
  refine ⟨?_, fun on => (answered on).mono (split ▸ List.subset_append_left asked rest)⟩
  rw [split, sent_append, silent, List.nil_append]
  -- A count that is not positive stands for no copies, whether it was told or is the default; a
  -- positive one is not the default, so it was told.
  by_cases none : count ≤ 0
  · rw [if_pos none] at sending
    have none_left := sending.of_pure.1
    have count_eq : queueProblems (asked ++ []) = count := by
      rcases value with ⟨unasked, count_eq⟩ | told
      · rw [unasked, count_eq]
        rfl
      · exact told []
    rw [none_left, count_eq, Int.toNat_of_nonpos none]
    rfl
  · rw [if_neg none] at sending
    obtain ⟨others, splitRest, sending⟩ := sending.of_note_bind
    obtain ⟨_, copies, last, splitOthers, repeated, noted⟩ := sending.of_bind
    have count_eq : queueProblems (asked ++ rest) = count := by
      rcases value with ⟨unasked, count_eq⟩ | told
      · exact absurd (Int.le_of_eq count_eq) none
      · exact told rest
    rw [count_eq, splitRest, splitOthers, noted.of_query]
    change sent (copies ++ [_]) = _
    rw [sent_append, sent_of_repeatSend repeated]
    exact List.append_nil _

theorem publish_follows {publisher : Publisher} {enabled : Bool} {trace : TraceContext}
    {order : Order} {payload : List UInt8} {outcome : PublishOutcome}
    (encoded : order.encode = .ok payload)
    (follows : (publisher.publish enabled trace order).Follows turns outcome) :
    (∃ span, sent turns = List.replicate (1 + (queueProblems turns).toNat)
      (publisher.envelope (trace.child span) order payload)) ∧
      (enabled = true → Asked turns) := by
  rw [Publisher.publish, encoded] at follows
  obtain ⟨span, rest, split, publishing⟩ := follows.of_query_bind
  obtain ⟨⟨settled, duration⟩, first, second, splitRest, settling, noting⟩ :=
    publishing.of_bind
  obtain ⟨delivery, waiting, splitFirst, awaiting⟩ := settling.of_query_bind
  obtain ⟨others, splitSecond, overloading⟩ := noting.of_note_bind
  obtain ⟨_, extra, last, splitOthers, overloaded, closing⟩ := overloading.of_bind
  obtain ⟨none_left, splitLast, closed⟩ := closing.of_note_bind
  rw [closed.of_pure.1] at splitLast
  obtain ⟨extra_eq, answered⟩ := overload_follows overloaded
  have apart : Apart last := splitLast ▸ Apart.note _
  have copies : sent (extra ++ last) = List.replicate (queueProblems (extra ++ last)).toNat
      (publisher.envelope (trace.child span) order payload) := by
    rw [sent_append, apart.sent_eq, List.append_nil, apart.append_queueProblems, extra_eq]
  rw [split, splitRest, splitFirst, awaiting.of_query, splitSecond, splitOthers]
  refine ⟨⟨span, ?_⟩, fun on => (answered on).mono ?_⟩
  -- The message is sent before its outcome is known, and the copies after it.
  · rw [Nat.add_comm, List.replicate_succ]
    exact congrArg (_ :: ·) copies
  · intro turn member
    simp only [List.cons_append, List.nil_append, List.mem_cons, List.mem_append, member, true_or,
      or_true]

end Publishing

/-! ## What a placement does beside publishing -/

/-- Until the cart is shipped, a placement has nothing to do with publishing: the one flag that it
may ask for is another one. -/
theorem apart_untilShipment (saga : Saga) (request : OrderRequest) :
    Program.Asks Query.IsApart (saga.untilShipment request).run := by
  have other : Flags.paymentUnreachable ≠ Flags.queueProblems := by decide
  exact untilShipment_asks (fun _ => trivial) (fun _ => trivial) other trivial saga request

section Placing

variable {turns : List Turn} {trace : TraceContext} {saga : Saga} {request : OrderRequest}
  {publisher : Publisher} {order : Order} {payload : List UInt8}

/-- What finishes a placement hands the producer what publishing the order does. -/
theorem finish_follows (publishes : saga.publisher = some publisher)
    (encoded : order.encode = .ok payload)
    (follows : (saga.finish trace request order).Follows turns ()) :
    (∃ span, sent turns = List.replicate (1 + (queueProblems turns).toNat)
      (publisher.envelope (trace.child span) order payload)) ∧
      (saga.flagsEnabled = true → Asked turns) := by
  obtain ⟨afterMove, split, resetting⟩ := follows.of_note_bind
  obtain ⟨_, resets, afterReset, splitMove, reset, notifying⟩ := resetting.of_bind
  obtain ⟨_, mails, afterMail, splitReset, notified, publishing⟩ := notifying.of_bind
  obtain ⟨_, copies, last, splitMail, published, moved⟩ := publishing.of_bind
  rw [Saga.publish, publishes] at published
  obtain ⟨outcome, made, none_left, splitCopies, sending, closed⟩ := published.of_bind
  rw [closed.of_pure.1, List.append_nil] at splitCopies
  have resetApart : Apart resets :=
    reset.all_of_asks (resetCart_asks (fun _ _ => trivial) request.userId trivial)
  have mailApart : Apart mails :=
    notified.all_of_asks (notify_asks (fun _ _ => trivial) request.email order trivial)
  have before := (Apart.note (.moved .shipping .finalizing)).append (resetApart.append mailApart)
  have turns_eq : turns =
      [⟨.note (.moved .shipping .finalizing), ()⟩] ++ (resets ++ mails) ++ (made ++ last) := by
    rw [split, splitMove, splitReset, splitMail, splitCopies]
    simp only [List.append_assoc, List.cons_append, List.nil_append]
  have after : Apart last := moved.of_query ▸ Apart.note _
  obtain ⟨sent_eq, problems_eq⟩ := before.around after
  obtain ⟨copies_eq, answered⟩ := publish_follows encoded sending
  rw [turns_eq, sent_eq, problems_eq]
  refine ⟨copies_eq, fun on => (answered on).mono ?_⟩
  exact fun turn member => List.mem_append_right _ (List.mem_append_left _ member)

/-- A placement that fails has handed the producer nothing; one that returns an order has finished
with it, and has had nothing to do with publishing before and after. -/
theorem place_follows {result : Except CheckoutError Order}
    (follows : (saga.place trace request).Follows turns result) :
    (∃ error, result = .error error ∧ sent turns = []) ∨
      ∃ order before finishing after, result = .ok order ∧
        turns = before ++ (finishing ++ after) ∧ Apart before ∧ Apart after ∧
        (saga.finish trace request order).Follows finishing () := by
  obtain ⟨afterPlacing, split, executing⟩ := follows.of_note_bind
  obtain ⟨outcome, executed, last, splitPlacing, execution, closing⟩ := executing.of_bind
  have execution_eq : Program.Follows (saga.untilShipment request >>= fun order =>
      Attempt.perform (saga.finish trace request order) >>= fun _ => pure order).run executed
      outcome := by
    rw [← execute_eq]
    exact execution
  rcases Attempt.follows_bind execution_eq with
    ⟨error, rfl, aborted⟩ | ⟨order, first, second, splitExecuted, reached, finishing⟩
  -- The placement was aborted before the shipment succeeded, and has only reported that.
  · have apart : Apart executed := aborted.all_of_asks (apart_untilShipment saga request)
    obtain ⟨afterAbort, splitLast, closing⟩ := Program.Follows.of_note_bind closing
    obtain ⟨afterMove, splitAbort, closing⟩ := Program.Follows.of_note_bind closing
    obtain ⟨none_left, result_eq⟩ := Program.Follows.of_pure closing
    refine Or.inl ⟨error, result_eq, ?_⟩
    have closed : Apart last := by
      rw [splitLast, splitAbort, none_left]
      exact (Apart.note _).append (Apart.note _)
    rw [split, splitPlacing]
    exact ((Apart.note .placing).append (apart.append closed)).sent_eq
  -- The cart was shipped, and from there on nothing can abort the placement.
  · have apart : Apart first := reached.all_of_asks (apart_untilShipment saga request)
    obtain ⟨value, finished, rest, splitSecond, performed, returned⟩ :=
      Program.Follows.of_bind finishing
    obtain ⟨_, made, none_left, splitFinished, finish, lifted⟩ := Program.Follows.of_bind performed
    obtain ⟨none_lifted, value_eq⟩ := Program.Follows.of_pure lifted
    rw [value_eq] at returned
    obtain ⟨none_returned, outcome_eq⟩ := Program.Follows.of_pure returned
    rw [outcome_eq] at closing
    obtain ⟨afterPlaced, splitLast, closing⟩ := Program.Follows.of_note_bind closing
    obtain ⟨none_closed, result_eq⟩ := Program.Follows.of_pure closing
    refine Or.inr ⟨order, [⟨.note .placing, ()⟩] ++ first, made, [⟨.note (.placed order), ()⟩],
      result_eq, ?_, (Apart.note _).append apart, Apart.note _, finish⟩
    rw [split, splitPlacing, splitExecuted, splitSecond, splitFinished, none_lifted, none_returned,
      splitLast, none_closed]
    simp only [List.append_assoc, List.append_nil, List.cons_append, List.nil_append]

end Placing

/-! ## Runs -/

section Runs

variable {σ : Type} {backend : Backend σ} {trace : TraceContext}

/-- An order that is returned has valid quantities only. -/
theorem validQuantity_of_run {saga : Saga} {request : OrderRequest} {start later : Machine σ}
    {order : Order} {trail : List Entry}
    (ran : (saga.place trace request).run backend trace start = some ⟨.ok order, later, trail⟩) :
    ∀ line ∈ order.items, line.item.HasValidQuantity := by
  obtain ⟨id, bill, transaction, tracking, shipped, reported, last, order_eq, account⟩ :=
    shipped_of_run backend trace ran
  intro line member
  rw [order_eq] at member
  obtain ⟨priced, there, rfl⟩ := List.mem_map.mp member
  exact bill.gathering.valid priced there

/-- A run that returns an order has handed the producer one message for it and as many copies as
the flag asks for, and the order can be read back from each; a run that fails has handed it none.
A length on the wire is a 64-bit number, and no message is as long as that number can tell. -/
theorem published_as_returned (saga : Saga) (publisher : Publisher) (request : OrderRequest)
    (start later : Machine σ) (result : Except CheckoutError Order) (trail : List Entry)
    (publishes : saga.publisher = some publisher)
    (ran : (saga.place trace request).run backend trace start = some ⟨result, later, trail⟩) :
    let turns := (saga.place trace request).turns backend trace start
    match result with
    | .error _ => sends trail = []
    | .ok order =>
      (saga.flagsEnabled = true → Asked turns) ∧
      ∃ envelope, sends trail = List.replicate (1 + (queueProblems turns).toNat) envelope ∧
        envelope.topic = publisher.topic ∧ envelope.key = some order.id.text ∧
        order.encode = .ok envelope.payload ∧
        (envelope.payload.length < Wire.lengthLimit →
          Order.decode envelope.payload = .ok order) := by
  have progress := (Program.run_eq_some_iff backend trace).mp ran
  obtain ⟨follows, sends_eq⟩ := Program.follows_turns backend trace progress
  rw [sends_eq]
  rcases place_follows follows with
    ⟨error, rfl, none_sent⟩ |
      ⟨order, before, finishing, after, rfl, turns_eq, first, last, finish⟩
  · exact none_sent
  · have valid := validQuantity_of_run ran
    obtain ⟨payload, encoded⟩ : ∃ payload, order.encode = .ok payload :=
      ⟨_, order.encode_of_le fun line member => (valid line member).2⟩
    obtain ⟨⟨span, sent_finishing⟩, answered⟩ := finish_follows publishes encoded finish
    obtain ⟨sent_eq, problems_eq⟩ := first.around last
    refine ⟨fun on => (answered on).mono ?_, publisher.envelope (trace.child span) order payload,
      ?_, rfl, rfl, encoded, ?_⟩
    · rw [turns_eq]
      exact fun turn member => List.mem_append_right _ (List.mem_append_left _ member)
    · rw [turns_eq, sent_eq, problems_eq]
      exact sent_finishing
    · intro fits
      have decoded : Order.decode payload = _ := Order.decode_of_encode encoded fits
      rw [← Wire.OrderMessage.toOrder_form_of_pos fun line member => (valid line member).1]
      exact decoded

end Runs

namespace Sample

def crowded : Backend (List Money) :=
  { bookkeeping price cart 0 true with
    flag := fun _ kind _ book => .immediate book fun book =>
      (.ok (match kind with | .boolean => false | .integer => (2 : Int)), book) }

def publishing : Saga := ⟨some ⟨"orders", 5000⟩, true⟩

def order : Order :=
  ⟨⟨List.replicate 32 (Text.lastHexDigit 0), by decide⟩, "parcel", price, .blank,
    cart.map fun item => ⟨item, price⟩⟩

end Sample

theorem published_as_returned_of_crowd :
    ∃ later trail envelope,
      (Sample.publishing.place Sample.trace Sample.request).run Sample.crowded Sample.trace
        Sample.start = some ⟨.ok Sample.order, later, trail⟩ ∧
      sends trail = List.replicate 3 envelope ∧
      Order.decode envelope.payload = .ok Sample.order := by
  have returned :
      ((Sample.publishing.place Sample.trace Sample.request).run Sample.crowded Sample.trace
        Sample.start).bind (fun result => result.value.toOption) = some Sample.order := by
    decide +kernel
  obtain ⟨⟨result, later, trail⟩, ran, value⟩ := Option.bind_eq_some_iff.mp returned
  cases result with
  | error error => cases value
  | ok order =>
      cases value
      obtain ⟨asked, envelope, sends_eq, topic, key, encoded, decoded⟩ :=
        published_as_returned Sample.publishing ⟨"orders", 5000⟩ Sample.request Sample.start later _
          trail rfl ran
      have copies : queueProblems ((Sample.publishing.place Sample.trace Sample.request).turns
          Sample.crowded Sample.trace Sample.start) = 2 := by
        decide +kernel
      have short : (Sample.order.encode.toOption.any fun payload =>
          decide (payload.length < Wire.lengthLimit)) = true := by
        decide +kernel
      rw [encoded] at short
      rw [copies] at sends_eq
      exact ⟨later, trail, envelope, ran, sends_eq, decoded (of_decide_eq_true short)⟩

end Checkout

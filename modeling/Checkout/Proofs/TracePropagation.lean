import Checkout.Http.Collaborators
import Checkout.Proofs.PublishedOrders
import Checkout.Proofs.Requests
import Checkout.Proofs.Statuses
import Checkout.Proofs.TraceHeaders

/-!
# Propagation of traces

A trace that came with a request goes on with everything that leaves the service for it: the requests
to collaborators, whatever they ask for, and the messages for the broker, each extra copy included.
What was read from headers is clean and readable, which is all that is needed for the headers that are
written from it to be accepted by the client and read back by the other side.
-/

set_option autoImplicit false

namespace Checkout

open TraceContext (extract? parentHeader baggageHeader)

/-! ## Readable headers -/

namespace Http

def Readable (text : List Char) : Prop :=
  ∀ c ∈ text, (c == '\t' || (32 ≤ c.toNat && c.toNat < 127)) = true

instance (text : List Char) : Decidable (Readable text) :=
  List.decidableBAll _ text

theorem isReadable_iff (value : String) : isReadable value = true ↔ Readable value.toList :=
  List.all_eq_true

theorem isReadable_of_header? {request : Request} {name value : String}
    (found : request.header? name = some value) : isReadable value = true := by
  rw [Request.header?] at found
  split at found
  · split at found
    next readable =>
      cases found
      exact readable
    next => cases found
  · cases found

theorem isHeaderValue_of_isReadable {value : String} (readable : isReadable value = true) :
    isHeaderValue value = true := by
  refine List.all_eq_true.mpr fun c inside => ?_
  have visible := (isReadable_iff value).mp readable c inside
  simp only [Bool.or_eq_true, Bool.and_eq_true, beq_iff_eq, decide_eq_true_eq,
    bne_iff_ne] at visible ⊢
  exact visible.imp_right fun ⟨low, high⟩ => ⟨low, by omega⟩

theorem readable_append {first second : List Char} (before : Readable first)
    (after : Readable second) : Readable (first ++ second) :=
  List.forall_mem_append.mpr ⟨before, after⟩

theorem readable_intercalate {separator : Char} {pieces : List (List Char)}
    (separates : Readable [separator]) (each : ∀ piece ∈ pieces, Readable piece) :
    Readable ([separator].intercalate pieces) := by
  induction pieces with
  | nil => exact List.forall_mem_nil _
  | cons first rest ih =>
      have readableRest := ih fun piece member => each piece (List.mem_cons_of_mem first member)
      cases rest with
      | nil => simpa using each first List.mem_cons_self
      | cons second others =>
          rw [List.intercalate_cons_cons]
          exact readable_append (readable_append (each first List.mem_cons_self) separates)
            readableRest

end Http

/-- A trace whose headers can be sent and read back. -/
structure TraceContext.Portable (context : TraceContext) : Prop where
  clean : context.baggage.Clean
  readable : ∀ entry ∈ context.baggage.entries,
    Http.Readable entry.1.toList ∧ Http.Readable entry.2.toList

namespace TraceContext

open Http

theorem portable_of_extract? {request : Request} {context : TraceContext}
    (extracted : extract? request.header? = some context) : context.Portable where
  clean := clean_of_extract? extracted
  readable := by
    obtain ⟨value, _, extracted⟩ := Option.bind_eq_some_iff.mp extracted
    obtain ⟨⟨traceId, spanId, flags⟩, _, same⟩ := Option.bind_eq_some_iff.mp extracted
    cases same
    cases found : request.header? baggageHeader with
    | none => exact List.forall_mem_nil _
    | some value =>
        intro entry member
        have readable := (isReadable_iff value).mp (isReadable_of_header? found)
        obtain ⟨_, _, characters⟩ :=
          Baggage.of_mem_listed (Baggage.mem_listed_of_mem_ofHeader member)
        exact ⟨fun c inside => readable c (characters c (.inl inside)),
          fun c inside => readable c (characters c (.inr inside))⟩

theorem readable_parent (context : TraceContext) : Readable context.parent.toList := by
  have digits : ∀ width number, Readable (Text.hexDigits width number) := by
    have visible : ∀ value : Fin 16, Readable [Text.hexDigit value] := by decide
    intro width number c inside
    obtain ⟨value, rfl⟩ := Text.exists_of_mem_hexDigits inside
    exact visible value _ List.mem_cons_self
  rw [toList_parent]
  refine readable_intercalate (by decide) ?_
  rw [parts, List.forall_mem_cons, List.forall_mem_cons, List.forall_mem_cons,
    List.forall_mem_singleton]
  exact ⟨by decide, digits 32 _, digits 16 _, digits 2 _⟩

namespace Portable

variable {context : TraceContext}

theorem child (portable : context.Portable) (span : SpanId) : (context.child span).Portable :=
  ⟨portable.clean, portable.readable⟩

theorem readable_baggage (portable : context.Portable) :
    Readable context.baggage.header.toList := by
  rw [Baggage.toList_header]
  refine readable_intercalate (by decide) fun piece inside => ?_
  obtain ⟨entry, member, rfl⟩ := List.mem_map.mp inside
  obtain ⟨key, value⟩ := portable.readable entry member
  exact readable_append key (List.forall_mem_cons.mpr ⟨by decide, value⟩)

theorem isReadable_headers (portable : context.Portable) :
    ∀ header ∈ context.headers, isReadable header.2 = true := by
  have parent := (isReadable_iff _).mpr context.readable_parent
  have baggage := (isReadable_iff _).mpr portable.readable_baggage
  rw [headers]
  split
  · exact List.forall_mem_singleton.mpr parent
  · exact List.forall_mem_cons.mpr ⟨parent, List.forall_mem_singleton.mpr baggage⟩

end Portable

end TraceContext

/-! ## Headers that carry a trace -/

/-- Headers carry a trace if they have what it writes, baggage only if there is some, and are read
back as it. -/
structure Carries (header? : String → Option String) (trace : TraceContext) : Prop where
  parent : header? parentHeader = some trace.parent
  baggage : header? baggageHeader =
    if trace.baggage.entries = [] then none else some trace.baggage.header
  extracted : extract? header? = some trace

theorem carries_of_clean {header? : String → Option String} {trace : TraceContext}
    (clean : trace.baggage.Clean) (parent : header? parentHeader = some trace.parent)
    (baggage : header? baggageHeader =
      if trace.baggage.entries = [] then none else some trace.baggage.header) :
    Carries header? trace where
  parent := parent
  baggage := baggage
  extracted := by
    -- Only these two headers are read.
    rw [← TraceContext.extract?_headers_of_clean clean, extract?, extract?, parent, baggage,
      trace.header?_parentHeader, trace.header?_baggageHeader]

theorem carries_envelope {trace : TraceContext} (clean : trace.baggage.Clean)
    (publisher : Publisher) (order : Order) (payload : List UInt8) :
    Carries (publisher.envelope trace order payload).header? trace :=
  carries_of_clean clean trace.header?_parentHeader trace.header?_baggageHeader

namespace Http

def Sent.received (sent : Sent) : Request :=
  ⟨sent.method, sent.target, sent.headers, Text.utf8 (sent.content.getD "")⟩

theorem carries_received {trace : TraceContext} {sent : Sent} {content : Option Json}
    (portable : trace.Portable) (headers_eq : sent.headers = requestHeaders content trace) :
    Carries sent.received.header? trace := by
  have plain : lowercase parentHeader = parentHeader ∧ lowercase baggageHeader = baggageHeader := by
    decide +kernel
  have found : ∀ name, name = parentHeader ∨ name = baggageHeader →
      sent.headers.find? (fun header => lowercase header.1 == name) =
        trace.headers.find? fun header => header.1 == name := by
    intro name known
    have other : (lowercase "content-type" == name) = false := by
      rcases known with rfl | rfl
      · decide +kernel
      · decide +kernel
    have own : trace.headers.find? (fun header => lowercase header.1 == name) =
        trace.headers.find? fun header => header.1 == name := by
      rw [TraceContext.headers]
      split <;> simp only [List.find?_cons, List.find?_nil, plain]
    rw [headers_eq, requestHeaders]
    cases content with
    | none => exact own
    | some json => simpa [other] using own
  have same : ∀ name, name = parentHeader ∨ name = baggageHeader →
      sent.received.header? name = headerValue? trace.headers name := by
    intro name known
    rw [Request.header?, Sent.received, found name known, headerValue?]
    cases header : trace.headers.find? fun header => header.1 == name with
    | none => rfl
    | some pair =>
        have readable := portable.isReadable_headers pair (List.mem_of_find?_eq_some header)
        simp [readable]
  refine carries_of_clean portable.clean ?_ ?_
  · rw [same _ (.inl rfl), trace.header?_parentHeader]
  · rw [same _ (.inr rfl), trace.header?_baggageHeader]

/-! ## Requests to collaborators -/

theorem headers_of_build {α : Type} {base : String} {exchange : Exchange α} {caller : Caller}
    {span : SpanId} {sent : Sent} (built : build base exchange caller span = .ok sent) :
    sent.headers = requestHeaders exchange.content (caller.trace.child span) := by
  obtain ⟨_, _, _, rfl⟩ := of_build built
  rfl

end Http

/-! ## Messages -/

/-- Whether a message that a question hands to the producer carries a span of a trace. -/
def Query.Propagates (context : TraceContext) : Query → Prop
  | .send envelope => ∃ span : SpanId, Carries envelope.header? (context.child span)
  | _ => True

section Asks

variable {context : TraceContext}

theorem overload_propagates (enabled : Bool) {envelope : Envelope}
    (carries : Query.Propagates context (.send envelope)) :
    (Publisher.overload enabled envelope).Asks (Query.Propagates context) := by
  have repeated : ∀ count,
      (Publisher.repeatSend envelope count).Asks (Query.Propagates context) := by
    intro count
    induction count with
    | zero => exact Program.asks_pure ()
    | succ count ih =>
        refine Program.asks_bind (Program.asks_query carries) fun _ => ?_
        exact Program.asks_bind (asks_note trivial) fun _ => ih
  refine Program.asks_bind (Program.asks_flag _ _ _ trivial fun _ => trivial) fun count => ?_
  split
  · exact Program.asks_pure ()
  · exact Program.asks_bind (asks_note trivial) fun _ =>
      Program.asks_bind (repeated _) fun _ => asks_note trivial

theorem publish_propagates (clean : context.baggage.Clean) (saga : Saga) (order : Order) :
    (saga.publish context order).Asks (Query.Propagates context) := by
  unfold Saga.publish
  cases saga.publisher with
  | none => exact Program.asks_pure ()
  | some publisher =>
      refine Program.asks_bind ?_ fun _ => Program.asks_pure ()
      have close_asks : ∀ publication,
          (Publisher.close publication).Asks (Query.Propagates context) :=
        fun publication => Program.asks_bind (asks_note trivial) fun _ => Program.asks_pure _
      unfold Publisher.publish
      cases order.encode with
      | error error => exact Program.asks_bind (asks_note trivial) fun _ => close_asks _
      | ok payload =>
          refine Program.asks_bind (Program.asks_query trivial) fun span => ?_
          have cleanChild : (context.child span).baggage.Clean := clean
          have carries : Query.Propagates context
              (.send (publisher.envelope (context.child span) order payload)) :=
            ⟨span, carries_envelope cleanChild publisher order payload⟩
          refine Program.asks_bind ?_ fun settled => ?_
          · exact Program.asks_bind (Program.asks_query carries) fun _ =>
              Program.asks_query trivial
          · refine Program.asks_bind (asks_note trivial) fun _ => ?_
            exact Program.asks_bind (overload_propagates _ carries) fun _ => close_asks _

theorem place_propagates (clean : context.baggage.Clean) (saga : Saga) (request : OrderRequest) :
    (saga.place context request).Asks (Query.Propagates context) := by
  have finish : ∀ order, (saga.finish context request order).Asks (Query.Propagates context) := by
    intro order
    refine Program.asks_bind (asks_note trivial) fun _ => ?_
    refine Program.asks_bind (resetCart_asks (fun _ _ => trivial) _ trivial) fun _ => ?_
    refine Program.asks_bind (notify_asks (fun _ _ => trivial) _ order trivial) fun _ => ?_
    refine Program.asks_bind (publish_propagates clean saga order) fun _ => ?_
    exact asks_note trivial
  refine Program.asks_bind (asks_note trivial) fun _ => ?_
  have execution : Program.Asks (Query.Propagates context) (saga.execute context request).run := by
    rw [execute_eq]
    refine Attempt.asks_bind ?_ fun order => ?_
    · exact untilShipment_asks (fun _ => trivial) (fun _ => trivial) trivial trivial saga request
    · exact Attempt.asks_bind (Attempt.asks_perform (finish order)) fun _ => Attempt.asks_pure _
  refine Program.asks_bind execution fun result => ?_
  cases result with
  | ok order =>
      exact Program.asks_bind (asks_note trivial) fun _ => Program.asks_pure _
  | error error =>
      exact Program.asks_bind (asks_note trivial) fun _ =>
        Program.asks_bind (asks_note trivial) fun _ => Program.asks_pure _

end Asks

def Forwards (context : TraceContext) (trail : List Entry) : Prop :=
  ∀ envelope ∈ sends trail, ∃ span : SpanId, Carries envelope.header? (context.child span)

theorem Forwards.nil (context : TraceContext) : Forwards context [] :=
  List.forall_mem_nil _

theorem Forwards.append {context : TraceContext} {trail rest : List Entry}
    (first : Forwards context trail) (second : Forwards context rest) :
    Forwards context (trail ++ rest) := by
  rw [Forwards, sends_append]
  exact List.forall_mem_append.mpr ⟨first, second⟩

theorem forwards_of_propagates {σ : Type} {context : TraceContext} (backend : Backend σ)
    (machine : Machine σ) {query : Query} (propagates : query.Propagates context) :
    Forwards context (machine.progress backend context query).trail := by
  cases query with
  | send envelope => exact List.forall_mem_singleton.mpr propagates
  | call call =>
      cases machine.callCourse backend context call with
      | refused error ended made =>
          rw [made]
          exact List.forall_mem_nil _
      | answered answer length later took answer_eq now_eq life_eq made =>
          rw [made]
          exact List.forall_mem_nil _
      | abandoned error later world_eq life_eq made =>
          rw [made]
          exact List.forall_mem_nil _
      | endless silent unbounded made =>
          rw [made]
          exact List.forall_mem_nil _
  | flag kind flag =>
      cases machine.flagCourse backend context kind flag with
      | answered answer length later took answer_eq now_eq life_eq made =>
          rw [made]
          exact List.forall_mem_nil _
      | endless silent made =>
          rw [made]
          exact List.forall_mem_nil _
  | orderId => exact List.forall_mem_nil _
  | span => exact List.forall_mem_nil _
  | settle delivery limit => exact List.forall_mem_nil _
  | note event => exact List.forall_mem_nil _

theorem place_forwards {σ : Type} {context : TraceContext} (clean : context.baggage.Clean)
    (backend : Backend σ) (saga : Saga) (request : OrderRequest) (machine : Machine σ) :
    Forwards context ((saga.place context request).progress backend context machine).trail :=
  Program.trail_of_asks backend context (Forwards.nil context) Forwards.append
    (fun machine _ propagates => forwards_of_propagates backend machine propagates)
    (place_propagates clean saga request) machine

/-! ## All that leaves the service -/

namespace Http

inductive Outbound where
  | request (sent : Sent)
  | message (envelope : Envelope)

def Outbound.header? : Outbound → String → Option String
  | .request sent => sent.received.header?
  | .message envelope => envelope.header?

def Surroundings.recorded {σ : Type} (around : Surroundings σ) :
    Surroundings (σ × List Outbound) where
  exchange sent := fun (world, left) =>
    let (reply, world) := around.exchange sent world
    (reply, world, left ++ [.request sent])
  digits := fun (world, left) =>
    let (digits, world) := around.digits world
    (digits, world, left)
  span := fun (world, left) =>
    let (span, world) := around.span world
    (span, world, left)
  send envelope := fun (world, left) =>
    let (delivery, world) := around.send envelope world
    (delivery, world, left ++ [.message envelope])

def Propagated (context : TraceContext) (left : List Outbound) : Prop :=
  ∀ outbound ∈ left, ∃ span : SpanId, Carries outbound.header? (context.child span)

/-- How a service that is called over HTTP reacts: it never hangs up, it answers callers with a
deadline, and nothing leaves for it without the trace. -/
structure Keeps {σ α : Type} (caller : Caller) (before : List Outbound)
    (reaction : Reaction (σ × List Outbound) α) : Prop where
  stays : reaction.hangsUp = false
  returns : caller.life.deadline ≠ none → reaction.delay ≠ none
  received : Propagated caller.trace before → Propagated caller.trace reaction.received.2
  answered : ∀ world, (reaction.answer world).2 = world

theorem Coming.within_ne_none {α : Type} {left : Option Nat} (bounded : left ≠ none)
    (coming : Coming α) : (coming.within left).1 ≠ none := by
  rcases coming.within_cases left with ⟨time, value, -, -, within⟩ | ⟨-, within⟩
  · rw [within]
    exact Option.some_ne_none time
  · rwa [within]

theorem understand_delay {α : Type} (reading : Reading α) {left : Option Nat}
    (bounded : left ≠ none) (incoming : Incoming) :
    (understand reading left incoming).1 ≠ none := by
  have comes := incoming.content.within_ne_none bounded
  rw [understand]
  cases isSuccess incoming.status with
  | false => exact comes
  | true =>
      cases reading with
      | ignored answer => exact Option.some_ne_none 0
      | json decoder => exact comes

theorem conclude_delay {α : Type} {exchange : Exchange α} {caller : Caller} {sent : Sent}
    (bounded : caller.life.deadline ≠ none) (reply : Reply) :
    (conclude exchange caller sent reply).1 ≠ none := by
  have left : timeLeft caller ≠ none := by
    simpa only [timeLeft, ne_eq, Option.map_eq_none_iff] using bounded
  have comes := Coming.within_ne_none left reply
  rw [conclude]
  split
  next time within => rwa [within] at comes
  next time within => rwa [within] at comes
  next time incoming within =>
    have more : (timeLeft caller).map (· - time.getD 0) ≠ none := by
      simpa only [ne_eq, Option.map_eq_none_iff] using left
    simpa only [ne_eq, Option.map_eq_none_iff] using
      understand_delay exchange.reading more incoming

/-- What a run does not change, and what it keeps. -/
def Lasts {σ : Type} (context : TraceContext) (before after : Machine (σ × List Outbound)) :
    Prop :=
  after.life = before.life ∧ (Propagated context before.world.2 → Propagated context after.world.2)

theorem Keeps.lasts {σ α : Type} {context : TraceContext}
    {machine later : Machine (σ × List Outbound)} {reaction : Reaction (σ × List Outbound) α}
    (keeps : Keeps (machine.caller context) machine.world.2 reaction)
    (life_eq : later.life = machine.lifeAfter reaction)
    (world_eq : later.world = reaction.received) : Lasts context machine later := by
  refine ⟨?_, ?_⟩
  · rw [life_eq, Machine.lifeAfter, keeps.stays]
    rfl
  · rw [world_eq]
    exact keeps.received

section Runs

variable {σ : Type} (around : Surroundings σ) (config : Config) {caller : Caller}

theorem perform_keeps {α : Type} (portable : caller.trace.Portable) (base : String)
    (exchange : Exchange α) (world : σ × List Outbound) :
    Keeps caller world.2 (perform around.recorded base exchange caller world) := by
  rw [perform]
  simp only [Surroundings.recorded]
  cases built : build base exchange caller (around.span world.1).1 with
  | error error => exact ⟨rfl, fun _ => Option.some_ne_none _, fun kept => kept, fun _ => rfl⟩
  | ok sent =>
      have carries := carries_received (portable.child _) (headers_of_build built)
      refine ⟨rfl, fun bounded => conclude_delay bounded _, fun kept => ?_, fun _ => rfl⟩
      exact List.forall_mem_append.mpr ⟨kept, List.forall_mem_singleton.mpr ⟨_, carries⟩⟩

theorem call_keeps (portable : caller.trace.Portable) (call : Call) (world : σ × List Outbound) :
    Keeps caller world.2 ((backend around.recorded config).call caller call world) :=
  perform_keeps around portable _ _ world

theorem flag_keeps (portable : caller.trace.Portable) (kind : FlagKind) (flag : String)
    (world : σ × List Outbound) :
    Keeps caller world.2 ((backend around.recorded config).flag caller kind flag world) := by
  cases base : config.flagBackend with
  | none =>
      simp only [backend, base]
      exact ⟨rfl, fun _ => Option.some_ne_none _, fun kept => kept, fun _ => rfl⟩
  | some base' =>
      simp only [backend, base, askFlag]
      have keeps := perform_keeps around portable base' (flagExchange flag) world
      exact ⟨keeps.stays, keeps.returns, keeps.received, fun world => keeps.answered world⟩

theorem progress_lasts {context : TraceContext} (portable : context.Portable)
    {machine later : Machine (σ × List Outbound)} {query : Query} {answer : query.Answer}
    {trail : List Entry} (propagates : query.Propagates context)
    (asked : machine.progress (backend around.recorded config) context query =
      ⟨trail, some (answer, later)⟩) :
    Lasts context machine later := by
  cases query with
  | call call =>
      have keeps : Keeps (machine.caller context) machine.world.2
          (machine.reaction (backend around.recorded config) context call) :=
        call_keeps around config portable call machine.world
      cases machine.callCourse (backend around.recorded config) context call with
      | refused error ended made =>
          cases made.symm.trans asked
          exact ⟨rfl, fun kept => kept⟩
      | answered answer length later took answer_eq now_eq life_eq made =>
          cases made.symm.trans asked
          refine keeps.lasts life_eq ?_
          exact (congrArg Prod.snd answer_eq).symm.trans (keeps.answered _)
      | abandoned error later world_eq life_eq made =>
          cases made.symm.trans asked
          exact keeps.lasts life_eq world_eq
      | endless silent unbounded made => cases made.symm.trans asked
  | flag kind flag =>
      have keeps : Keeps (machine.caller context) machine.world.2
          (machine.flagReaction (backend around.recorded config) context kind flag) :=
        flag_keeps around config portable kind flag machine.world
      cases machine.flagCourse (backend around.recorded config) context kind flag with
      | answered answer length later took answer_eq now_eq life_eq made =>
          cases made.symm.trans asked
          refine keeps.lasts life_eq ?_
          exact (congrArg Prod.snd answer_eq).symm.trans (keeps.answered _)
      | endless silent made => cases made.symm.trans asked
  | orderId => cases asked; exact ⟨rfl, fun kept => kept⟩
  | span => cases asked; exact ⟨rfl, fun kept => kept⟩
  | send envelope =>
      cases asked
      exact ⟨rfl, fun kept => List.forall_mem_append.mpr
        ⟨kept, List.forall_mem_singleton.mpr propagates⟩⟩
  | settle delivery limit => cases asked; exact ⟨rfl, fun kept => kept⟩
  | note event => cases asked; exact ⟨rfl, fun kept => kept⟩

/-- With a deadline, every question is answered. -/
theorem progress_reached {context : TraceContext} (portable : context.Portable)
    {machine : Machine (σ × List Outbound)} (bounded : machine.life.deadline ≠ none)
    (query : Query) :
    (machine.progress (backend around.recorded config) context query).reached ≠ none := by
  cases query with
  | call call =>
      cases machine.callCourse (backend around.recorded config) context call with
      | refused error ended made =>
          rw [made]
          exact Option.some_ne_none _
      | answered answer length later took answer_eq now_eq life_eq made =>
          rw [made]
          exact Option.some_ne_none _
      | abandoned error later world_eq life_eq made =>
          rw [made]
          exact Option.some_ne_none _
      | endless silent unbounded made =>
          rw [unbounded] at bounded
          exact absurd rfl bounded
  | flag kind flag =>
      cases machine.flagCourse (backend around.recorded config) context kind flag with
      | answered answer length later took answer_eq now_eq life_eq made =>
          rw [made]
          exact Option.some_ne_none _
      | endless silent made =>
          have keeps : Keeps (machine.caller context) machine.world.2
              (machine.flagReaction (backend around.recorded config) context kind flag) :=
            flag_keeps around config portable kind flag machine.world
          exact absurd silent (keeps.returns bounded)
  | orderId => exact Option.some_ne_none _
  | span => exact Option.some_ne_none _
  | send envelope => exact Option.some_ne_none _
  | settle delivery limit => exact Option.some_ne_none _
  | note event => exact Option.some_ne_none _

theorem lasting_lasts (context : TraceContext) :
    Lasting fun (before : Machine (σ × List Outbound)) _ after => Lasts context before after where
  refl _ := ⟨rfl, fun kept => kept⟩
  trans first second := ⟨second.1.trans first.1, fun kept => second.2 (first.2 kept)⟩

/-- A placement with a deadline comes to its end, and all that has left the service until then
carries its trace. -/
theorem run_propagates {context : TraceContext} (portable : context.Portable) (saga : Saga)
    (request : OrderRequest) {machine : Machine (σ × List Outbound)}
    (bounded : machine.life.deadline ≠ none) (kept : Propagated context machine.world.2) :
    ∃ result, (saga.place context request).run (backend around.recorded config) context machine =
      some result ∧ Propagated context result.machine.world.2 := by
  obtain ⟨value, later, trail, made, lasts⟩ | ⟨stuck, query, trail, rest, _, waits, _, lasts⟩ :=
    Program.asks_run (backend around.recorded config) context (lasting_lasts context)
      (fun _ _ _ _ _ propagates asked => progress_lasts around config portable propagates asked)
      (place_propagates portable.clean saga request) machine
  · exact ⟨_, (Program.run_eq_some_iff _ _).mpr made, lasts.2 kept⟩
  · rw [← lasts.1] at bounded
    exact absurd (by rw [waits]) (progress_reached around config portable bounded query)

end Runs

/-- The trace of a placement is the one that its request carries. -/
theorem trace_of_route {counters : Option Metrics} {configured : Nat} {request : Request}
    {order : OrderRequest} {trace : Option TraceContext} {timeout : Nat}
    (routed : Service.route counters configured request = .place order trace timeout) :
    trace = extract? request.header? := by
  rw [Service.route] at routed
  split at routed
  · cases routed
  · cases resource : Resource.ofPath? request.path with
    | none =>
        rw [resource] at routed
        cases routed
    | some resource' =>
        rw [resource] at routed
        simp only at routed
        split at routed
        · cases resource' with
          | health => cases routed
          | metrics => cases routed
          | placeOrder =>
              obtain ⟨other, _, placing⟩ | ⟨_, reason, placing⟩ :=
                Service.placeOrder_cases configured request
              · rw [Service.serve, placing] at routed
                cases routed
                rfl
              · rw [Service.serve, placing] at routed
                cases routed
        · cases routed

end Http

/-- A trace that came with a request goes on with all that leaves the service for it. -/
theorem traces_propagate {request : Http.Request} {context : TraceContext}
    (extracted : extract? request.header? = some context) :
    (∀ span : SpanId, ∀ header ∈ (context.child span).headers,
      Http.isHeaderValue header.2 = true) ∧
    (∀ {α : Type} (base : String) (exchange : Http.Exchange α) (life : Lifetime) (now : Instant)
        (span : SpanId) (sent : Http.Sent),
      Http.build base exchange ⟨context, life, now⟩ span = .ok sent →
        Carries sent.received.header? (context.child span)) ∧
    (∀ {σ : Type} (backend : Backend σ) (saga : Saga) (order : OrderRequest) (start : Machine σ),
      ∀ envelope ∈ sends ((saga.place context order).progress backend context start).trail,
        ∃ span : SpanId, Carries envelope.header? (context.child span)) ∧
    ∀ {σ : Type} (around : Http.Surroundings σ) (config : Config) (saga : Saga)
        (counters : Option Metrics) (configured : Nat) (fresh : TraceContext) (now : Instant)
        (world : σ),
      ∃ result, Http.serve (Http.backend around.recorded config) saga counters configured fresh
          request now (world, []) = some result ∧
        ∀ outbound ∈ result.machine.world.2,
          ∃ span : SpanId, Carries outbound.header? (context.child span) := by
  have portable := TraceContext.portable_of_extract? extracted
  refine ⟨?_, ?_, ?_, ?_⟩
  · intro span header member
    exact Http.isHeaderValue_of_isReadable ((portable.child span).isReadable_headers header member)
  · intro α base exchange life now span sent built
    have headers_eq := Http.headers_of_build built
    exact Http.carries_received (portable.child span) headers_eq
  · exact fun backend saga order start => place_forwards portable.clean backend saga order start
  · intro σ around config saga counters configured fresh now world
    rw [Http.serve]
    cases routed : Http.Service.route counters configured request with
    | respond response => exact ⟨_, rfl, List.forall_mem_nil _⟩
    | place order trace timeout =>
        rw [Http.trace_of_route routed, extracted]
        let start : Machine (σ × List Http.Outbound) :=
          ⟨now, ⟨none, some (now + timeout)⟩, (world, [])⟩
        have bounded : start.life.deadline ≠ none := Option.some_ne_none _
        obtain ⟨result, ran, propagated⟩ :=
          Http.run_propagates around config portable saga order bounded (List.forall_mem_nil _)
        simp only [start] at ran
        simp only [Option.getD_some, ran]
        exact ⟨_, rfl, propagated⟩

namespace Http.Sample

open Checkout.Sample

/-- A request whose baggage is written with a property, a doubled key and a blank. -/
def traced : Request :=
  { posted with
    headers := posted.headers ++
      [("TraceParent", "01-0000000000000000000000000000000a-000000000000000b-03-more"),
        ("Baggage", "user=alice;ttl=1,\tpath = a=b ,user=bob")] }

def onward : TraceContext where
  traceId := ⟨10, by decide, by decide⟩
  spanId := ⟨11, by decide, by decide⟩
  flags := 3
  baggage := ((Baggage.empty).insert "user" "bob").insert "path" "a=b"

def config : Config where
  host := "0.0.0.0"
  port := 8080
  cart := "http://shop"
  catalog := "http://shop"
  currency := "http://shop"
  shipping := "http://shop"
  payment := "http://shop"
  email := "http://shop"
  broker := some "broker"
  topic := "orders"
  flagBackend := some "http://shop"
  requestTimeout := 5000

/-- Nobody takes a connection; the spans are counted. -/
def deserted : Surroundings Nat where
  exchange _ spans := (.after 0 none, spans)
  digits spans := (fun _ => Text.lastHexDigit 0, spans)
  span spans := (.nth spans, spans + 1)
  send _ spans := (.reported 0 true (.acknowledged ⟨0, 0⟩), spans)

def published : List Envelope :=
  sends ((publishing.place onward request).progress crowded onward start).trail

theorem body_traced : traced.body = posted.body := by
  rw [traced]

theorem accepts_traced : Accepts traced request where
  declared := by decide +kernel
  fits := by
    rw [body_traced]
    exact accepts_posted.fits
  read := by
    rw [body_traced]
    exact accepts_posted.read
  named := accepts_posted.named
  priced := accepts_posted.priced

end Http.Sample

/-- The request for the cart leaves with the trace that came in, and so do an order and its two
copies. -/
theorem traces_propagate_of_traced :
    extract? Http.Sample.traced.header? = some Http.Sample.onward ∧
    (Http.Sample.published.length = 3 ∧
      ∀ envelope ∈ Http.Sample.published,
        ∃ span : SpanId, Carries envelope.header? (Http.Sample.onward.child span)) ∧
    ∃ result, Http.serve (Http.backend Http.Sample.deserted.recorded Http.Sample.config)
        Sample.publishing none 5000 Sample.trace Http.Sample.traced 0 (0, []) = some result ∧
      result.machine.world.2.length = 1 ∧
      ∀ outbound ∈ result.machine.world.2,
        ∃ span : SpanId, Carries outbound.header? (Http.Sample.onward.child span) := by
  have extracted : extract? Http.Sample.traced.header? = some Http.Sample.onward := by
    decide +kernel
  obtain ⟨_, _, published, served⟩ := traces_propagate extracted
  obtain ⟨result, ran, propagated⟩ := served Http.Sample.deserted Http.Sample.config
    Sample.publishing none 5000 Sample.trace 0 0
  have count : (Http.serve (Http.backend Http.Sample.deserted.recorded Http.Sample.config)
      Sample.publishing none 5000 Sample.trace Http.Sample.traced 0 (0, [])).map
        (fun result => result.machine.world.2.length) = some 1 := by
    rw [Http.serve_of_accepts _ _ _ _ _ _ _ rfl (by decide) Http.Sample.accepts_traced]
    decide +kernel
  rw [ran] at count
  exact ⟨extracted, ⟨by decide +kernel, published Sample.crowded Sample.publishing _ _⟩, result,
    ran, Option.some.inj count, propagated⟩

end Checkout

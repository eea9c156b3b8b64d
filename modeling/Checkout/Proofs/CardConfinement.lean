import Checkout.Order.Describe
import Checkout.Proofs.PublishedOrders
import Checkout.Proofs.Statuses

/-!
# Cards are confined to their charge

A card goes to the payment service and nowhere else.  Two requests that differ in nothing but the card
are told apart by nobody who does not look at the card of a charge: the calls, the messages, the
events, the answers and the instants are the same, and so is the response over HTTP.  A description of
a request does not even depend on the number and the verification value of its card.
-/

set_option autoImplicit false

namespace Checkout

/-! ## Trails without their cards -/

def Call.withCard (card : Card) : Call → Call
  | .charge endpoint amount _ => .charge endpoint amount card
  | call => call

def Happening.withCard (card : Card) : Happening → Happening
  | .called call => .called (call.withCard card)
  | .answered (.charge endpoint amount _) answer => .answered (.charge endpoint amount card) answer
  | .answered call answer => .answered call answer
  | .abandoned call error => .abandoned (call.withCard card) error
  | happening => happening

def Entry.withCard (card : Card) (entry : Entry) : Entry :=
  { entry with happening := entry.happening.withCard card }

/-- A reading of entries that changes with their cards, or not at all, changes so on a trail. -/
theorem filterMap_withCard {β : Type} {card : Card} {read : Entry → Option β} (change : β → β)
    (commutes : ∀ instant happening, read (Entry.withCard card ⟨instant, happening⟩) =
      (read ⟨instant, happening⟩).map change) (trail : List Entry) :
    (trail.map (Entry.withCard card)).filterMap read = (trail.filterMap read).map change := by
  rw [List.filterMap_map, List.map_filterMap]
  exact congrArg (List.filterMap · trail) (funext fun entry => commutes entry.1 entry.2)

theorem calls_withCard (card : Card) (trail : List Entry) :
    calls (trail.map (Entry.withCard card)) = (calls trail).map (Call.withCard card) := by
  refine filterMap_withCard _ (fun instant happening => ?_) trail
  cases happening with
  | answered call answer => cases call <;> rfl
  | _ => rfl

theorem sends_withCard (card : Card) (trail : List Entry) :
    sends (trail.map (Entry.withCard card)) = sends trail := by
  refine (filterMap_withCard id (fun instant happening => ?_) trail).trans (List.map_id _)
  cases happening with
  | answered call answer => cases call <;> rfl
  | _ => rfl

theorem events_withCard (card : Card) (trail : List Entry) :
    events (trail.map (Entry.withCard card)) = events trail := by
  refine (filterMap_withCard id (fun instant happening => ?_) trail).trans (List.map_id _)
  cases happening with
  | answered call answer => cases call <;> rfl
  | _ => rfl

/-- Two trails that are the same once every charge is given one card. -/
def SameButCards (first second : List Entry) : Prop :=
  ∀ card, first.map (Entry.withCard card) = second.map (Entry.withCard card)

namespace SameButCards

variable {first second firstRest secondRest : List Entry}

theorem refl (trail : List Entry) : SameButCards trail trail :=
  fun _ => rfl

theorem append (same : SameButCards first second) (sameRest : SameButCards firstRest secondRest) :
    SameButCards (first ++ firstRest) (second ++ secondRest) := by
  intro card
  rw [List.map_append, List.map_append, same card, sameRest card]

theorem calls_eq (same : SameButCards first second) (card : Card) :
    (calls first).map (Call.withCard card) = (calls second).map (Call.withCard card) := by
  rw [← calls_withCard, ← calls_withCard, same card]

theorem sends_eq (same : SameButCards first second) : sends first = sends second := by
  let card : Card := ⟨"", 0, 0, 0⟩
  rw [← sends_withCard card, ← sends_withCard card second, same card]

theorem events_eq (same : SameButCards first second) : events first = events second := by
  let card : Card := ⟨"", 0, 0, 0⟩
  rw [← events_withCard card, ← events_withCard card second, same card]

end SameButCards

/-! ## Programs that differ in their cards -/

/-- Two programs that are the same but for the cards they charge. -/
inductive Program.Alike {α : Type} : Program α → Program α → Prop where
  | done (value : α) : Alike (.done value) (.done value)
  | ask (query : Query) {next other : query.Answer → Program α}
      (rest : ∀ answer, Alike (next answer) (other answer)) :
      Alike (.ask query next) (.ask query other)
  | charge (endpoint : Endpoint) (amount : Money) (card otherCard : Card)
      {next other : Except ServiceError String → Program α}
      (rest : ∀ answer, Alike (next answer) (other answer)) :
      Alike (.ask (.call (.charge endpoint amount card)) next)
        (.ask (.call (.charge endpoint amount otherCard)) other)

namespace Program

variable {α β : Type}

theorem alike_refl (program : Program α) : Alike program program := by
  induction program with
  | done value => exact .done value
  | ask query next ih => exact .ask query ih

theorem alike_bind {program other : Program α} {next otherNext : α → Program β}
    (first : Alike program other) (rest : ∀ value, Alike (next value) (otherNext value)) :
    Alike (program >>= next) (other >>= otherNext) := by
  change Alike (program.bind next) (other.bind otherNext)
  induction first with
  | done value => exact rest value
  | ask query _ ih => exact .ask query ih
  | charge endpoint amount card otherCard _ ih => exact .charge endpoint amount card otherCard ih

end Program

def Attempt.Alike {α : Type} (attempt other : Attempt α) : Prop :=
  Program.Alike attempt.run other.run

namespace Attempt

variable {α β : Type}

theorem alike_refl (attempt : Attempt α) : Alike attempt attempt :=
  Program.alike_refl attempt.run

theorem alike_bind {attempt other : Attempt α} {next otherNext : α → Attempt β}
    (first : Alike attempt other) (rest : ∀ value, Alike (next value) (otherNext value)) :
    Alike (attempt >>= next) (other >>= otherNext) := by
  refine Program.alike_bind first fun outcome => ?_
  cases outcome with
  | ok value => exact rest value
  | error error => exact Program.alike_refl _

end Attempt

theorem charge_alike (saga : Saga) (total : Money) (card other : Card) :
    Attempt.Alike (saga.charge total card) (saga.charge total other) := by
  refine Attempt.alike_bind (Attempt.alike_refl _) fun endpoint => ?_
  refine Attempt.alike_bind ?_ fun transaction => Attempt.alike_refl _
  exact .charge endpoint total card other fun answer => Program.alike_refl _

theorem execute_alike (saga : Saga) (trace : TraceContext) (request : OrderRequest) (card : Card) :
    Attempt.Alike (saga.execute trace request) (saga.execute trace { request with card }) := by
  refine Attempt.alike_bind (Attempt.alike_refl _) fun id => ?_
  refine Attempt.alike_bind (Attempt.alike_refl _) fun preparation => ?_
  refine Attempt.alike_bind (Attempt.alike_refl _) fun total => ?_
  refine Attempt.alike_bind (Attempt.alike_refl _) fun _ => ?_
  refine Attempt.alike_bind (Attempt.alike_refl _) fun _ => ?_
  refine Attempt.alike_bind (charge_alike saga total request.card card) fun transaction => ?_
  -- What follows the charge does not mention the card.
  exact Attempt.alike_refl _

theorem place_alike (saga : Saga) (trace : TraceContext) (request : OrderRequest) (card : Card) :
    Program.Alike (saga.place trace request) (saga.place trace { request with card }) := by
  refine Program.alike_bind (Program.alike_refl _) fun _ => ?_
  exact Program.alike_bind (execute_alike saga trace request card) fun _ => Program.alike_refl _

/-! ## Backends that do not look at cards -/

section Backends

variable {σ α β : Type} (alike : σ → σ → Prop)

/-- Two reactions that are the same as far as the caller can tell, now and later. -/
structure Reaction.Alike (first second : Reaction σ α) : Prop where
  received : alike first.received second.received
  hangsUp : first.hangsUp = second.hangsUp
  delay : first.delay = second.delay
  value : ∀ {world other : σ}, alike world other →
    (first.answer world).1 = (second.answer other).1
  world : ∀ {world other : σ}, alike world other →
    alike (first.answer world).2 (second.answer other).2

/-- Worlds that are alike differ at most in cards, and stay alike whatever is asked of them; the
answers are the same, and those to a charge do not depend on the card. -/
structure Backend.IgnoresCards (backend : Backend σ) : Prop where
  call : ∀ {world other : σ} (caller : Caller) (call : Call), alike world other →
    (backend.call caller call world).Alike alike (backend.call caller call other)
  charge : ∀ {world other : σ} (caller : Caller) (endpoint : Endpoint) (amount : Money)
    (card otherCard : Card), alike world other →
    (backend.call caller (.charge endpoint amount card) world).Alike alike
      (backend.call caller (.charge endpoint amount otherCard) other)
  flag : ∀ {world other : σ} (caller : Caller) (kind : FlagKind) (flag : String),
    alike world other →
    (backend.flag caller kind flag world).Alike alike (backend.flag caller kind flag other)
  orderId : ∀ {world other : σ}, alike world other →
    (backend.orderId world).1 = (backend.orderId other).1 ∧
      alike (backend.orderId world).2 (backend.orderId other).2
  span : ∀ {world other : σ}, alike world other →
    (backend.span world).1 = (backend.span other).1 ∧
      alike (backend.span world).2 (backend.span other).2
  send : ∀ {world other : σ} (envelope : Envelope), alike world other →
    (backend.send envelope world).1 = (backend.send envelope other).1 ∧
      alike (backend.send envelope world).2 (backend.send envelope other).2

inductive Machine.Alike : Machine σ → Machine σ → Prop where
  | intro (now : Instant) (life : Lifetime) {world other : σ} (worlds : alike world other) :
    Alike ⟨now, life, world⟩ ⟨now, life, other⟩

structure Progress.Alike (first second : Progress σ α) : Prop where
  trail : SameButCards first.trail second.trail
  reached : Option.Rel (fun ended other => ended.1 = other.1 ∧ ended.2.Alike alike other.2)
    first.reached second.reached

/-- Two stretches of runs that look the same to everybody who does not look at the cards of charges:
the calls with their arguments, the messages, the events, and what is reached are the same. -/
structure Progress.LooksSame (first second : Progress σ α) : Prop where
  calls_eq : ∀ card,
    (calls first.trail).map (Call.withCard card) = (calls second.trail).map (Call.withCard card)
  sends_eq : sends first.trail = sends second.trail
  events_eq : events first.trail = events second.trail
  alike : first.Alike alike second

structure Result.Alike (first second : Result σ α) : Prop where
  value : first.value = second.value
  machine : first.machine.Alike alike second.machine
  trail : SameButCards first.trail second.trail

variable {alike}

theorem Progress.Alike.looksSame {first second : Progress σ α} (same : first.Alike alike second) :
    first.LooksSame alike second :=
  ⟨same.trail.calls_eq, same.trail.sends_eq, same.trail.events_eq, same⟩

theorem Progress.Alike.result? {first second : Progress σ α} (same : first.Alike alike second) :
    Option.Rel (Result.Alike alike) first.result? second.result? := by
  obtain ⟨trail, reached⟩ := first
  obtain ⟨otherTrail, otherReached⟩ := second
  obtain ⟨sameTrail, sameReached⟩ := same
  simp only at sameReached
  cases sameReached with
  | none => exact .none
  | some ends => exact .some ⟨ends.1, ends.2, sameTrail⟩

theorem Progress.Alike.andThen {first second : Progress σ α}
    {next other : α → Machine σ → Progress σ β} (same : first.Alike alike second)
    (rest : ∀ value {machine later : Machine σ}, machine.Alike alike later →
      (next value machine).Alike alike (other value later)) :
    (first.andThen next).Alike alike (second.andThen other) := by
  obtain ⟨trail, reached⟩ := first
  obtain ⟨otherTrail, otherReached⟩ := second
  obtain ⟨sameTrail, sameReached⟩ := same
  simp only at sameTrail sameReached
  cases sameReached with
  | none => exact ⟨sameTrail, .none⟩
  | @some ended otherEnded sameEnd =>
      obtain ⟨value, machine⟩ := ended
      obtain ⟨otherValue, later⟩ := otherEnded
      obtain ⟨rfl, alikeMachines⟩ := sameEnd
      have following := rest value alikeMachines
      exact ⟨sameTrail.append following.trail, following.reached⟩

theorem Machine.Alike.worlds {machine later : Machine σ} (same : machine.Alike alike later) :
    alike machine.world later.world := by
  obtain ⟨_, _, worlds⟩ := same
  exact worlds

/-- The progress of a call that is taken with a given reaction and leaves given entries. -/
def Machine.taken (machine : Machine σ) (reaction : Reaction σ (Except ServiceError α))
    (called : Happening) (answered : Except ServiceError α → Happening)
    (abandoned : ContextError → Happening) : Progress σ (Except ServiceError α) :=
  match machine.life.error? machine.now with
  | some error => ⟨[], some (.error (.context error), machine)⟩
  | none =>
    let life := machine.lifeAfter reaction
    match life.race machine.now reaction.delay with
    | .finished instant =>
      let (answer, world) := reaction.answer reaction.received
      ⟨[⟨machine.now, called⟩, ⟨instant, answered answer⟩], some (answer, ⟨instant, life, world⟩)⟩
    | .abandoned instant error =>
      ⟨[⟨machine.now, called⟩, ⟨instant, abandoned error⟩],
        some (.error (.context error), ⟨instant, life, reaction.received⟩)⟩
    | .refused error => ⟨[], some (.error (.context error), machine)⟩
    | .endless => ⟨[⟨machine.now, called⟩], none⟩

theorem Machine.progress_call (backend : Backend σ) (trace : TraceContext) (machine : Machine σ)
    (call : Call) :
    machine.progress backend trace (.call call) =
      machine.taken (machine.reaction backend trace call) (.called call) (.answered call)
        (.abandoned call) := by
  cases ended : machine.life.error? machine.now with
  | some error => simp [Machine.progress, Machine.step, Machine.stepCall, Machine.taken, ended]
  | none =>
      cases raced : (machine.lifeAfter (machine.reaction backend trace call)).race machine.now
        (machine.reaction backend trace call).delay with
      | _ =>
          simp only [Machine.reaction] at raced
          simp [Machine.progress, Machine.step, Machine.stepCall, Machine.taken, Machine.reaction,
            Machine.unanswered, ended, raced]

theorem Machine.Alike.taken {machine later : Machine σ}
    {first second : Reaction σ (Except ServiceError α)} {called otherCalled : Happening}
    {answered otherAnswered : Except ServiceError α → Happening}
    {abandoned otherAbandoned : ContextError → Happening} (same : machine.Alike alike later)
    (reactions : first.Alike alike second)
    (sameCalled : ∀ card, called.withCard card = otherCalled.withCard card)
    (sameAnswered : ∀ answer card,
      (answered answer).withCard card = (otherAnswered answer).withCard card)
    (sameAbandoned : ∀ error card,
      (abandoned error).withCard card = (otherAbandoned error).withCard card) :
    (machine.taken first called answered abandoned).Alike alike
      (later.taken second otherCalled otherAnswered otherAbandoned) := by
  obtain @⟨now, life, world, other, worlds⟩ := same
  have sameLifeAfter : Machine.lifeAfter ⟨now, life, other⟩ second =
      Machine.lifeAfter ⟨now, life, world⟩ first := by
    rw [Machine.lifeAfter, Machine.lifeAfter, reactions.hangsUp]
  have sameTrail : ∀ instant (happening other : Happening),
      (∀ card, happening.withCard card = other.withCard card) →
      SameButCards [⟨now, called⟩, ⟨instant, happening⟩] [⟨now, otherCalled⟩, ⟨instant, other⟩] := by
    intro instant happening other same card
    simp only [List.map_cons, List.map_nil, Entry.withCard, sameCalled card, same card]
  unfold Machine.taken
  simp only [sameLifeAfter, ← reactions.delay]
  cases life.error? now with
  | some error => exact ⟨.refl [], .some ⟨rfl, .intro now life worlds⟩⟩
  | none =>
      cases (Machine.lifeAfter ⟨now, life, world⟩ first).race now first.delay with
      | finished instant =>
          refine ⟨?_, .some ⟨reactions.value reactions.received,
            .intro instant _ (reactions.world reactions.received)⟩⟩
          rw [reactions.value reactions.received]
          exact sameTrail instant _ _ (sameAnswered _)
      | abandoned instant error =>
          exact ⟨sameTrail instant _ _ (sameAbandoned error),
            .some ⟨rfl, .intro instant _ reactions.received⟩⟩
      | refused error => exact ⟨.refl [], .some ⟨rfl, .intro now life worlds⟩⟩
      | endless =>
          refine ⟨fun card => ?_, .none⟩
          simp only [List.map_cons, List.map_nil, Entry.withCard, sameCalled card]

variable {backend : Backend σ} (ignores : backend.IgnoresCards alike) (trace : TraceContext)
  {machine later : Machine σ}

include ignores

/-- Questions that are the same are answered alike. -/
theorem Backend.IgnoresCards.progress (same : machine.Alike alike later) (query : Query) :
    (machine.progress backend trace query).Alike alike (later.progress backend trace query) := by
  cases query with
  | call call =>
      rw [Machine.progress_call, Machine.progress_call]
      refine same.taken ?_ (fun _ => rfl) (fun _ _ => rfl) fun _ _ => rfl
      obtain ⟨now, life, worlds⟩ := same
      exact ignores.call ⟨trace, life, now⟩ call worlds
  | flag kind flag =>
      obtain @⟨now, life, world, other, worlds⟩ := same
      have reactions := ignores.flag ⟨trace, life, now⟩ kind flag worlds
      simp only [Machine.progress, Machine.step, Machine.stepFlag, Machine.caller,
        Machine.lifeAfter, reactions.delay, reactions.hangsUp]
      cases (backend.flag ⟨trace, life, now⟩ kind flag other).delay with
      | none => exact ⟨.refl _, .none⟩
      | some delay =>
          exact ⟨.refl _, .some ⟨reactions.value reactions.received,
            .intro _ _ (reactions.world reactions.received)⟩⟩
  | orderId =>
      obtain ⟨now, life, worlds⟩ := same
      obtain ⟨value, world⟩ := ignores.orderId worlds
      exact ⟨.refl [], .some ⟨value, .intro now life world⟩⟩
  | span =>
      obtain ⟨now, life, worlds⟩ := same
      obtain ⟨value, world⟩ := ignores.span worlds
      exact ⟨.refl [], .some ⟨value, .intro now life world⟩⟩
  | send envelope =>
      obtain ⟨now, life, worlds⟩ := same
      obtain ⟨value, world⟩ := ignores.send envelope worlds
      refine ⟨fun card => ?_, .some ⟨value, .intro now life world⟩⟩
      simp only [Machine.progress, Machine.step, value]
  | settle delivery limit =>
      obtain ⟨now, life, worlds⟩ := same
      exact ⟨.refl [], .some ⟨rfl, .intro _ life worlds⟩⟩
  | note event =>
      obtain ⟨now, life, worlds⟩ := same
      exact ⟨.refl _, .some ⟨rfl, .intro now life worlds⟩⟩

theorem Backend.IgnoresCards.charge_progress (same : machine.Alike alike later)
    (endpoint : Endpoint) (amount : Money) (card otherCard : Card) :
    Progress.Alike alike
      (machine.progress backend trace (.call (.charge endpoint amount card)) :
        Progress σ (Except ServiceError String))
      (later.progress backend trace (.call (.charge endpoint amount otherCard))) := by
  rw [Machine.progress_call, Machine.progress_call]
  refine same.taken ?_ (fun _ => rfl) (fun _ _ => rfl) fun _ _ => rfl
  obtain ⟨now, life, worlds⟩ := same
  exact ignores.charge ⟨trace, life, now⟩ endpoint amount card otherCard worlds

/-- Programs that differ in their cards make the same progress but for the cards. -/
theorem Program.Alike.progress {program other : Program α} (programs : program.Alike other)
    (same : machine.Alike alike later) :
    (program.progress backend trace machine).Alike alike (other.progress backend trace later) := by
  induction programs generalizing machine later with
  | done value => exact ⟨.refl [], .some ⟨rfl, same⟩⟩
  | ask query _ ih =>
      exact (ignores.progress trace same query).andThen fun answer _ _ same => ih answer same
  | charge endpoint amount card otherCard _ ih =>
      exact (ignores.charge_progress trace same endpoint amount card otherCard).andThen
        fun answer _ _ same => ih answer same

end Backends

/-! ## Requests over HTTP -/

namespace Http

/-- What a placement over HTTP depends on, apart from the order request in the body. -/
structure SameSetting (request other : Request) : Prop where
  method : request.method = "POST" ∧ other.method = "POST"
  path : request.path = "/place_order" ∧ other.path = "/place_order"
  headers : ∀ name ∈ [timeoutHeader, TraceContext.parentHeader, TraceContext.baggageHeader],
    request.header? name = other.header? name

theorem SameSetting.traceOf_eq {request other : Request} (same : SameSetting request other)
    (fresh : TraceContext) : traceOf fresh request = traceOf fresh other := by
  have parent := same.headers TraceContext.parentHeader (by simp)
  have baggage := same.headers TraceContext.baggageHeader (by simp)
  rw [traceOf, traceOf, TraceContext.extract?, TraceContext.extract?, parent, baggage]

theorem SameSetting.arrival {σ : Type} {alike : σ → σ → Prop} {world otherWorld : σ}
    {request other : Request} (same : SameSetting request other) (configured : Nat) (now : Instant)
    (worlds : alike world otherWorld) :
    (arrival configured request now world).Alike alike
      (arrival configured other now otherWorld) := by
  have timeout := same.headers timeoutHeader (by simp)
  rw [Http.arrival, Http.arrival, Service.timeout, Service.timeout, timeout]
  exact .intro now _ worlds

theorem SameSetting.complete_eq {request other : Request} (same : SameSetting request other)
    (response : Response) :
    Service.complete request response = Service.complete other response := by
  rw [Service.complete, Service.complete, same.method.1, same.method.2]

/-- Whether an order request is valid does not depend on the card. -/
theorem validate_withCard (request : OrderRequest) (card : Card) :
    Service.validate { request with card } =
      (Service.validate request).map fun valid => { valid with card } := by
  rw [Service.validate, Service.validate]
  cases Text.isBlankText request.userId with
  | true => rfl
  | false =>
      cases isCurrencyCode request.currency with
      | true => simp [Except.map]
      | false => simp [Except.map]

section Serving

variable {σ : Type} (backend : Backend σ) (saga : Saga) (counters : Option Metrics)
  (configured : Nat) (fresh : TraceContext) {request : Request} (now : Instant) (world : σ)

theorem serve_of_invalid (method : request.method = "POST") (path : request.path = "/place_order")
    {order : OrderRequest} {error : ApiError}
    (read : Service.readOrderRequest request = .ok order)
    (invalid : Service.validate order = .error error) :
    serve backend saga counters configured fresh request now world =
      some ⟨Service.complete request error.response, ⟨now, .unbounded, world⟩, []⟩ := by
  have refused : Service.placeOrder configured request = .error error := by
    simp only [Service.placeOrder, read, Except.mapError, bind, Except.bind, invalid]
  rw [serve, Service.route_placeOrder counters configured method path, Service.serve, refused]

theorem serve_of_valid (method : request.method = "POST") (path : request.path = "/place_order")
    {order valid : OrderRequest} (read : Service.readOrderRequest request = .ok order)
    (validated : Service.validate order = .ok valid) :
    serve backend saga counters configured fresh request now world =
      ((saga.place (traceOf fresh request) order).run backend (traceOf fresh request)
        (arrival configured request now world)).map fun result =>
          ⟨Service.complete request (Service.placed result.value), result.machine,
            result.trail⟩ := by
  obtain ⟨declared, fits, decoded⟩ := (Service.readOrderRequest_eq_ok_iff request order).mp read
  obtain ⟨named, priced, same⟩ | ⟨_, reason, refused⟩ := Service.validate_cases order
  · cases same.symm.trans validated
    exact serve_of_accepts backend saga counters configured fresh now world method path
      ⟨declared, fits, decoded, (isBlankText_eq_false_iff _).mp named,
        (isCurrencyCode_iff _).mp priced⟩
  · cases refused.symm.trans validated

end Serving

theorem serve_alike {σ : Type} {backend : Backend σ} {alike : σ → σ → Prop}
    (ignores : backend.IgnoresCards alike) (saga : Saga) (counters : Option Metrics)
    (configured : Nat) (fresh : TraceContext) {request other : Request}
    (same : SameSetting request other) {order : OrderRequest} {card : Card}
    (read : Service.readOrderRequest request = .ok order)
    (readOther : Service.readOrderRequest other = .ok { order with card }) (now : Instant)
    {world otherWorld : σ} (worlds : alike world otherWorld) :
    Option.Rel (Result.Alike alike)
      (serve backend saga counters configured fresh request now world)
      (serve backend saga counters configured fresh other now otherWorld) := by
  have validated := validate_withCard order card
  cases valid : Service.validate order with
  | error error =>
      rw [valid] at validated
      rw [serve_of_invalid backend saga counters configured fresh now world same.method.1
          same.path.1 read valid,
        serve_of_invalid backend saga counters configured fresh now otherWorld same.method.2
          same.path.2 readOther validated]
      exact .some ⟨same.complete_eq _, .intro now _ worlds, .refl []⟩
  | ok checked =>
      rw [valid] at validated
      have served := serve_of_valid backend saga counters configured fresh now world
        same.method.1 same.path.1 read valid
      have servedOther := serve_of_valid backend saga counters configured fresh now otherWorld
        same.method.2 same.path.2 readOther validated
      have ran : Option.Rel (Result.Alike alike)
          ((saga.place (traceOf fresh request) order).run backend (traceOf fresh request)
            (arrival configured request now world))
          ((saga.place (traceOf fresh request) { order with card }).run backend
            (traceOf fresh request) (arrival configured other now otherWorld)) := by
        rw [Program.run_eq_result?, Program.run_eq_result?]
        exact ((place_alike saga _ order card).progress ignores _
          (same.arrival configured now worlds)).result?
      rw [served, servedOther, ← same.traceOf_eq fresh]
      generalize (saga.place (traceOf fresh request) order).run backend (traceOf fresh request)
        (arrival configured request now world) = first at ran ⊢
      generalize (saga.place (traceOf fresh request) { order with card }).run backend
        (traceOf fresh request) (arrival configured other now otherWorld) = second at ran ⊢
      cases ran with
      | none => exact .none
      | some results =>
          have value := congrArg (Service.complete request ∘ Service.placed) results.value
          exact .some ⟨value.trans (same.complete_eq _), results.machine, results.trail⟩

end Http

/-- The description of a request shows neither the number nor the verification value of its card. -/
theorem OrderRequest.describe_withCard (request : OrderRequest) (card : Card)
    (year : card.expirationYear = request.card.expirationYear)
    (month : card.expirationMonth = request.card.expirationMonth) :
    OrderRequest.describe { request with card } = request.describe := by
  rw [OrderRequest.describe, OrderRequest.describe, Card.describe, Card.describe, year, month]

/-- A card is confined to its charge: whatever the request and the two cards are, the two placements
look the same, and so do the responses over HTTP. -/
theorem card_confined {σ : Type} {backend : Backend σ} {alike : σ → σ → Prop}
    (ignores : backend.IgnoresCards alike) (saga : Saga) (request : OrderRequest) (card : Card) :
    (∀ (trace : TraceContext) {start other : Machine σ}, start.Alike alike other →
      ((saga.place trace request).progress backend trace start).LooksSame alike
        ((saga.place trace { request with card }).progress backend trace other)) ∧
    (∀ (counters : Option Metrics) (configured : Nat) (fresh : TraceContext)
        {posted otherPosted : Http.Request} (now : Instant) {world other : σ},
      Http.SameSetting posted otherPosted →
      Http.Service.readOrderRequest posted = .ok request →
      Http.Service.readOrderRequest otherPosted = .ok { request with card } →
      alike world other →
      Option.Rel (Result.Alike alike)
        (Http.serve backend saga counters configured fresh posted now world)
        (Http.serve backend saga counters configured fresh otherPosted now other)) ∧
    (card.expirationYear = request.card.expirationYear →
      card.expirationMonth = request.card.expirationMonth →
      OrderRequest.describe { request with card } = request.describe) := by
  refine ⟨?_, ?_, request.describe_withCard card⟩
  · intro trace start other starts
    exact ((place_alike saga trace request card).progress ignores trace starts).looksSame
  · intro counters configured fresh posted otherPosted now world other same read readOther worlds
    exact Http.serve_alike ignores saga counters configured fresh same read readOther now worlds

namespace Sample

/-- A payment service that keeps the cards.  The other collaborators answer at once. -/
def cardKeeping : Backend (List Card) where
  call _ call cards :=
    match call with
    | .getCart _ => .immediate cards fun cards => (.ok cart, cards)
    | .emptyCart _ => .immediate cards fun cards => (.ok (), cards)
    | .getProduct product => .immediate cards fun cards => (.ok ⟨product, "", price⟩, cards)
    | .convert amount _ => .immediate cards fun cards => (.ok amount, cards)
    | .getQuote _ _ => .immediate cards fun cards => (.ok price, cards)
    | .shipOrder _ _ => .immediate cards fun cards => (.ok "parcel", cards)
    | .charge _ _ card => .immediate (cards ++ [card]) fun cards => (.ok "receipt", cards)
    | .sendConfirmation _ _ => .immediate cards fun cards => (.ok (), cards)
  flag _ kind _ cards := .immediate cards fun cards => (.ok kind.default, cards)
  orderId cards := (.ok ⟨List.replicate 32 (Text.lastHexDigit 7), rfl⟩, cards)
  span cards := (.nth 0, cards)
  send _ cards := (.withheld, cards)

def asMany (cards others : List Card) : Prop :=
  cards.length = others.length

theorem alike_immediate {α : Type} (value : α) {cards others : List Card}
    (many : asMany cards others) :
    Reaction.Alike asMany (.immediate cards fun cards => (value, cards))
      (.immediate others fun cards => (value, cards)) :=
  ⟨many, rfl, rfl, fun _ => rfl, fun many => many⟩

theorem ignoresCards_cardKeeping : cardKeeping.IgnoresCards asMany where
  call := by
    intro cards others caller call many
    cases call with
    | charge endpoint amount card => exact alike_immediate _ (by simpa [asMany] using many)
    | _ => exact alike_immediate _ many
  charge _ _ _ _ _ many := alike_immediate _ (by simpa [asMany] using many)
  flag _ _ _ many := alike_immediate _ many
  orderId many := ⟨rfl, many⟩
  span many := ⟨rfl, many⟩
  send _ many := ⟨rfl, many⟩

def otherCard : Card := ⟨"5000", 2, 2030, 1⟩

def otherPosted : Http.Request :=
  { Http.Sample.posted with
    body := Text.utf8 (OrderRequest.toJson { request with card := otherCard }).text }

theorem sameSetting_otherPosted : Http.SameSetting Http.Sample.posted otherPosted where
  method := ⟨rfl, rfl⟩
  path := ⟨by decide, by decide⟩
  headers name _ := by rw [Http.Request.header?, Http.Request.header?, otherPosted]

theorem read_posted : Http.Service.readOrderRequest Http.Sample.posted = .ok request :=
  (Http.Service.readOrderRequest_eq_ok_iff _ _).mpr ⟨Http.Sample.accepts_posted.declared,
    Http.Sample.accepts_posted.fits, Http.Sample.accepts_posted.read⟩

theorem read_otherPosted :
    Http.Service.readOrderRequest otherPosted = .ok { request with card := otherCard } :=
  (Http.Service.readOrderRequest_eq_ok_iff _ _).mpr ⟨by decide, by decide +kernel, by
    rw [otherPosted, Json.decodeBytes_utf8]
    exact Form.decodeText_text .orderRequest _⟩

end Sample

theorem card_confined_of_kept_cards :
    Sample.request.describe =
      OrderRequest.describe { Sample.request with card := Sample.otherCard } ∧
    ∃ first second,
      Http.serve Sample.cardKeeping Sample.publishing none 5000 Sample.trace Http.Sample.posted 0
        [] = some first ∧
      Http.serve Sample.cardKeeping Sample.publishing none 5000 Sample.trace Sample.otherPosted 0
        [] = some second ∧
      first.value = second.value ∧ sends first.trail = sends second.trail ∧
      first.machine.world = [Sample.request.card] ∧ second.machine.world.length = 1 := by
  obtain ⟨_, served, described⟩ := card_confined Sample.ignoresCards_cardKeeping Sample.publishing
    Sample.request Sample.otherCard
  have results := served none 5000 Sample.trace 0 Sample.sameSetting_otherPosted
    Sample.read_posted Sample.read_otherPosted (rfl : Sample.asMany [] [])
  have kept : (Http.serve Sample.cardKeeping Sample.publishing none 5000 Sample.trace
      Http.Sample.posted 0 []).map (fun result => result.machine.world) =
        some [Sample.request.card] := by
    rw [Http.serve_of_accepts _ _ _ _ _ _ _ rfl (by decide) Http.Sample.accepts_posted]
    decide +kernel
  generalize Http.serve Sample.cardKeeping Sample.publishing none 5000 Sample.trace
    Http.Sample.posted 0 [] = first? at results kept ⊢
  generalize Http.serve Sample.cardKeeping Sample.publishing none 5000 Sample.trace
    Sample.otherPosted 0 [] = second? at results ⊢
  cases results with
  | none => cases kept
  | @some first second same =>
      have cards : first.machine.world = [Sample.request.card] := Option.some.inj kept
      have many := same.machine.worlds
      rw [cards] at many
      exact ⟨(described rfl rfl).symm, first, second, rfl, rfl, same.value, same.trail.sends_eq,
        cards, many.symm⟩

end Checkout

import Checkout.Proofs.Histories

/-!
# Sends and their reports

A producer in memory is told now and then how to answer.  In between it is sent envelopes: one by one,
or by publications and placements, which may send the same envelope many times over.  Each send opens
two one-shot channels.  The handle that reports on them is used up by its report, which puts a value on
one channel and closes the other; while the producer holds the handle back, both stay open.

What the channels of a send show is settled by the behaviour at the time of the send and by the
acknowledgements before it.  This is an invariant of the producer and its channels: one send adds a
line of its own and leaves the lines of the others alone.  A run against a world moves the producer
once for each message in its trail, so the invariant holds after every history of a world, too.
Offsets are counted without bound: nobody could keep as many envelopes as 64 bits can number.
-/

set_option autoImplicit false

namespace Checkout

/-! ## Channels -/

structure Line where
  acknowledged : Option Acknowledgement
  failed : Option ProducerError
deriving DecidableEq

/-- What those who wait see of the two channels of a send. -/
abbrev Channels : Type := Channel Acknowledgement × Channel ProducerError

namespace Channel

variable {α : Type}

/-- The channel on which a report was put, or none yet.  Without the handle of the send, none will be
any more. -/
def ofReport (report? : Option α) (held : Bool) : Channel α :=
  match report? with
  | some report => .value report
  | none => if held then .open else .closed

def report? : Channel α → Option α
  | .value report => some report
  | _ => none

end Channel

namespace Line

def blank : Line := ⟨none, none⟩

def report (line : Line) : Report → Line
  | .acknowledged acknowledgement => { line with acknowledged := some acknowledgement }
  | .failed error => { line with failed := some error }

def channels (line : Line) (held : Bool) : Channels :=
  (.ofReport line.acknowledged held, .ofReport line.failed held)

end Line

namespace Delivery

def line : Delivery → Line
  | .reported 0 _ report => Line.blank.report report
  | _ => .blank

def isHeld : Delivery → Bool
  | .reported 0 _ _ => false
  | .discarded => false
  | _ => true

theorem channels_line (delivery : Delivery) :
    delivery.line.channels delivery.isHeld = (delivery.acknowledgement, delivery.error) := by
  cases delivery with
  | reported after ahead report =>
      cases after with
      | zero => cases report <;> rfl
      | succ after => rfl
  | discarded => rfl
  | withheld => rfl

end Delivery

namespace ProducerBehavior

def shown (earlier : Nat) : ProducerBehavior → Channels
  | .acknowledge => (.value ⟨0, earlier⟩, .closed)
  | .fail reason => (.closed, .value (.broker reason))
  | .hang => (.open, .open)

theorem shown_once (behavior : ProducerBehavior) (earlier : Nat) :
    (behavior.shown earlier).1.report? = none ∨ (behavior.shown earlier).2.report? = none := by
  cases behavior with
  | acknowledge => exact Or.inr rfl
  | fail reason => exact Or.inl rfl
  | hang => exact Or.inl rfl

end ProducerBehavior

namespace MemoryProducer

variable (producer : MemoryProducer) (envelope : Envelope)

theorem sent_send : (producer.send envelope).2.sent = producer.sent ++ [envelope] :=
  List.reverse_cons

theorem length_sent : producer.sent.length = producer.received.length :=
  List.length_reverse

theorem delivery_shown :
    ((producer.send envelope).1.acknowledgement, (producer.send envelope).1.error) =
      producer.behavior.shown producer.nextOffset := by
  change (producer.delivery.acknowledgement, producer.delivery.error) = _
  unfold delivery
  cases producer.behavior <;> rfl

/-- The producer holds back the handle of a send exactly if it neither uses nor drops it. -/
theorem mem_pending_send_iff (number : Nat) :
    number ∈ (producer.send envelope).2.pending ↔
      number ∈ producer.pending ∨
        (producer.send envelope).1.isHeld ∧ number = producer.received.length := by
  change number ∈ (if producer.behavior = .hang then _ else _) ↔
    _ ∨ producer.delivery.isHeld ∧ _
  unfold delivery
  cases producer.behavior with
  | acknowledge => simp [Delivery.isHeld]
  | fail reason => simp [Delivery.isHeld]
  | hang => simp [Delivery.isHeld, or_comm]

end MemoryProducer

/-! ## Moves -/

inductive Move where
  | send (envelope : Envelope)
  | setBehavior (behavior : ProducerBehavior)

/-- An envelope that was sent, and how the producer was told to answer at the time. -/
structure Dispatch where
  envelope : Envelope
  behavior : ProducerBehavior

def dispatches (behavior : ProducerBehavior) : List Move → List Dispatch
  | [] => []
  | .send envelope :: rest => ⟨envelope, behavior⟩ :: dispatches behavior rest
  | .setBehavior changed :: rest => dispatches changed rest

def acknowledgements (dispatched : List Dispatch) : Nat :=
  dispatched.countP fun dispatch => dispatch.behavior = .acknowledge

theorem acknowledgements_concat (dispatched : List Dispatch) (dispatch : Dispatch) :
    acknowledgements (dispatched ++ [dispatch]) =
      acknowledgements dispatched + if dispatch.behavior = .acknowledge then 1 else 0 := by
  simp [acknowledgements, List.countP_cons]

/-- A producer, and what has been put on the channels of its sends, in order. -/
structure Switchboard where
  producer : MemoryProducer
  lines : List Line
deriving DecidableEq

namespace Switchboard

def opened : Switchboard := ⟨.empty, []⟩

def send (board : Switchboard) (envelope : Envelope) : Switchboard :=
  let (delivery, producer) := board.producer.send envelope
  ⟨producer, board.lines ++ [delivery.line]⟩

def move (board : Switchboard) : Move → Switchboard
  | .send envelope => board.send envelope
  | .setBehavior behavior => { board with producer := board.producer.setBehavior behavior }

def after (board : Switchboard) (moves : List Move) : Switchboard :=
  moves.foldl move board

def channels? (board : Switchboard) (number : Nat) : Option Channels :=
  board.lines[number]?.map fun line => line.channels (board.producer.pending.contains number)

def offsets (board : Switchboard) : List Int :=
  board.lines.filterMap fun line => line.acknowledged.map Acknowledgement.offset

theorem after_append (board : Switchboard) (moves rest : List Move) :
    board.after (moves ++ rest) = (board.after moves).after rest :=
  List.foldl_append

theorem offsets_send (board : Switchboard) (envelope : Envelope) :
    (board.send envelope).offsets = board.offsets ++
      if board.producer.behavior = .acknowledge then [(board.producer.nextOffset : Int)] else [] := by
  have lines_eq : (board.send envelope).lines = board.lines ++ [board.producer.delivery.line] := rfl
  rw [offsets, lines_eq, List.filterMap_append, offsets]
  unfold MemoryProducer.delivery
  cases board.producer.behavior <;> rfl

/-- A producer and its channels are as these sends must have left them. -/
structure Accounts (board : Switchboard) (dispatched : List Dispatch) : Prop where
  sent_eq : board.producer.sent = dispatched.map Dispatch.envelope
  length_eq : board.lines.length = dispatched.length
  pending_lt : ∀ number ∈ board.producer.pending, number < dispatched.length
  nextOffset_eq : board.producer.nextOffset = acknowledgements dispatched
  shows : ∀ number dispatch, dispatched[number]? = some dispatch →
    board.channels? number =
      some (dispatch.behavior.shown (acknowledgements (dispatched.take number)))
  offsets_eq : board.offsets =
    (List.range (acknowledgements dispatched)).map fun (offset : Nat) => (offset : Int)

namespace Accounts

variable {board : Switchboard} {dispatched : List Dispatch}

theorem opened : Switchboard.opened.Accounts [] where
  sent_eq := rfl
  length_eq := rfl
  pending_lt := by
    intro number member
    cases member
  nextOffset_eq := rfl
  shows := by
    intro number dispatch here
    cases here
  offsets_eq := rfl

theorem received_length (accounts : board.Accounts dispatched) :
    board.producer.received.length = dispatched.length := by
  rw [← board.producer.length_sent, accounts.sent_eq, List.length_map]

theorem channels?_send (accounts : board.Accounts dispatched) (envelope : Envelope) {number : Nat}
    (earlier : number < dispatched.length) :
    (board.send envelope).channels? number = board.channels? number := by
  have other : number ≠ board.producer.received.length := by
    have length := accounts.received_length
    omega
  have held : (board.producer.send envelope).2.pending.contains number =
      board.producer.pending.contains number := by
    rw [Bool.eq_iff_iff, List.contains_iff_mem, List.contains_iff_mem,
      board.producer.mem_pending_send_iff]
    simp [other]
  have line : (board.lines ++ [(board.producer.send envelope).1.line])[number]? =
      board.lines[number]? := by
    rw [← accounts.length_eq] at earlier
    exact List.getElem?_append_left earlier
  simp only [channels?, send, line, held]

/-- The channels of a send show what the sender is given. -/
theorem channels?_sent (accounts : board.Accounts dispatched) (envelope : Envelope) :
    (board.send envelope).channels? dispatched.length =
      some (board.producer.behavior.shown board.producer.nextOffset) := by
  have fresh : dispatched.length ∉ board.producer.pending := by
    intro member
    exact Nat.lt_irrefl _ (accounts.pending_lt _ member)
  have held : (board.producer.send envelope).2.pending.contains dispatched.length =
      (board.producer.send envelope).1.isHeld := by
    rw [Bool.eq_iff_iff, List.contains_iff_mem, board.producer.mem_pending_send_iff,
      accounts.received_length]
    simp [fresh]
  have line : (board.lines ++ [(board.producer.send envelope).1.line])[dispatched.length]? =
      some (board.producer.send envelope).1.line := by
    rw [← accounts.length_eq]
    exact List.getElem?_concat_length
  simp only [channels?, send, line, held, Option.map_some]
  rw [Delivery.channels_line, MemoryProducer.delivery_shown]

protected theorem send (accounts : board.Accounts dispatched) (envelope : Envelope) :
    (board.send envelope).Accounts (dispatched ++ [⟨envelope, board.producer.behavior⟩]) where
  sent_eq := by
    change (board.producer.send envelope).2.sent = _
    rw [board.producer.sent_send, accounts.sent_eq, List.map_append]
    rfl
  length_eq := by
    change (board.lines ++ [_]).length = _
    rw [List.length_append, List.length_append, accounts.length_eq]
    rfl
  pending_lt := by
    intro number member
    rw [List.length_append, List.length_singleton]
    rcases (board.producer.mem_pending_send_iff envelope number).mp member with before | new
    · exact Nat.lt_succ_of_lt (accounts.pending_lt number before)
    · rw [new.2, accounts.received_length]
      exact Nat.lt_succ_self _
  nextOffset_eq := by
    rw [acknowledgements_concat, ← accounts.nextOffset_eq]
    rfl
  shows := by
    intro number dispatch here
    rcases Nat.lt_or_ge number dispatched.length with earlier | new
    · rw [List.getElem?_append_left earlier] at here
      rw [accounts.channels?_send envelope earlier, List.take_append_of_le_length (Nat.le_of_lt earlier)]
      exact accounts.shows number dispatch here
    · have bound := (List.getElem?_eq_some_iff.mp here).1
      rw [List.length_append, List.length_singleton] at bound
      have last : number = dispatched.length := by omega
      subst last
      rw [List.getElem?_concat_length] at here
      cases here
      rw [accounts.channels?_sent envelope, List.take_left, accounts.nextOffset_eq]
  offsets_eq := by
    rw [offsets_send, acknowledgements_concat, accounts.offsets_eq, accounts.nextOffset_eq]
    by_cases acknowledges : board.producer.behavior = .acknowledge
    · simp only [if_pos acknowledges, List.range_succ, List.map_append, List.map_singleton]
    · simp only [if_neg acknowledges, List.append_nil, Nat.add_zero]

theorem setBehavior (accounts : board.Accounts dispatched) (behavior : ProducerBehavior) :
    (board.move (.setBehavior behavior)).Accounts dispatched :=
  ⟨accounts.sent_eq, accounts.length_eq, accounts.pending_lt, accounts.nextOffset_eq,
    accounts.shows, accounts.offsets_eq⟩

protected theorem after (accounts : board.Accounts dispatched) (moves : List Move) :
    (board.after moves).Accounts (dispatched ++ dispatches board.producer.behavior moves) := by
  induction moves generalizing board dispatched with
  | nil =>
      rw [dispatches, List.append_nil]
      exact accounts
  | cons move rest ih =>
      cases move with
      | send envelope =>
          have sent := ih (accounts.send envelope)
          rw [List.append_assoc] at sent
          exact sent
      | setBehavior behavior => exact ih (accounts.setBehavior behavior)

theorem channels?_after (accounts : board.Accounts dispatched) (moves : List Move) {number : Nat}
    (earlier : number < dispatched.length) :
    (board.after moves).channels? number = board.channels? number := by
  induction moves generalizing board dispatched with
  | nil => rfl
  | cons move rest ih =>
      cases move with
      | send envelope =>
          rw [← accounts.channels?_send envelope earlier]
          apply ih (accounts.send envelope)
          rw [List.length_append]
          omega
      | setBehavior behavior => exact ih (accounts.setBehavior behavior) earlier

/-- No send reports on both of its channels. -/
theorem reports_once (accounts : board.Accounts dispatched) {number : Nat} {channels : Channels}
    (here : board.channels? number = some channels) :
    channels.1.report? = none ∨ channels.2.report? = none := by
  obtain ⟨line, lined, _⟩ := Option.map_eq_some_iff.mp here
  have bound : number < dispatched.length := by
    rw [← accounts.length_eq]
    exact (List.getElem?_eq_some_iff.mp lined).1
  have shown := accounts.shows number dispatched[number] (List.getElem?_eq_getElem bound)
  rw [here] at shown
  cases shown
  exact ProducerBehavior.shown_once _ _

end Accounts

end Switchboard

/-! ## Runs against a world -/

def Happening.delivery? : Happening → Option Delivery
  | .sent _ delivery => some delivery
  | _ => none

def deliveries (trail : List Entry) : List Delivery :=
  trail.filterMap fun entry => entry.happening.delivery?

theorem deliveries_append (trail rest : List Entry) :
    deliveries (trail ++ rest) = deliveries trail ++ deliveries rest :=
  List.filterMap_append

/-- Between two states of a world the producer was given the messages of a trail, and gave its senders
the deliveries there. -/
def World.Posts (before : World) (trail : List Entry) (after : World) : Prop :=
  ∀ lines : List Line, (Switchboard.mk before.producer lines).after ((sends trail).map .send) =
    ⟨after.producer, lines ++ (deliveries trail).map Delivery.line⟩

namespace World.Posts

variable {before between after : World} {trail rest : List Entry}

theorem nothing (producer_eq : after.producer = before.producer) (unsent : sends trail = [])
    (undelivered : deliveries trail = []) : before.Posts trail after := by
  intro lines
  rw [unsent, undelivered, producer_eq]
  exact congrArg (Switchboard.mk before.producer) (List.append_nil lines).symm

theorem trans (first : before.Posts trail between) (second : between.Posts rest after) :
    before.Posts (trail ++ rest) after := by
  intro lines
  rw [sends_append, deliveries_append, List.map_append, List.map_append, Switchboard.after_append,
    first lines, second, List.append_assoc]

end World.Posts

theorem World.producer_answer (world : World) (call : Call) :
    (world.answer call).2.producer = world.producer := by
  cases call with
  | charge endpoint amount card => cases endpoint <;> rfl
  | _ => rfl

theorem World.producer_nextId (world : World) : world.nextId.2.producer = world.producer := by
  unfold nextId
  cases world.ids <;> rfl

theorem World.Answering.posts {world later : World} {now : Instant} {query : Query}
    {trail : List Entry} (answering : world.Answering now query trail later) :
    world.Posts trail later := by
  cases answering with
  | answered call answer instant after answer_eq =>
      have same := world.producer_answer call
      rw [answer_eq] at same
      exact .nothing same rfl rfl
  | orderId => exact .nothing world.producer_nextId rfl rfl
  | send envelope => exact fun _ => rfl
  | _ => exact .nothing rfl rfl rfl

/-- A run moves the producer once for each message in its trail. -/
theorem Program.posts {α : Type} (trace : TraceContext) {program : Program α}
    {machine later : Machine World} {value : α} {trail : List Entry}
    (made : program.progress World.backend trace machine = ⟨trail, some (value, later)⟩) :
    machine.world.Posts trail later.world := by
  have lasting : Lasting fun (first : Machine World) trail second =>
      first.world.Posts trail second.world :=
    ⟨fun _ => .nothing rfl rfl rfl, fun posts postsRest => posts.trans postsRest⟩
  exact Program.lasting_of_progress World.backend trace lasting
    (fun asked => (Machine.answering trace asked).posts) made

/-! ## Histories of a world -/

/-- What is done with a world: its services are changed, its producer is sent an envelope, or an order
is published or placed.  A publication sends its envelope once and then as often as it is told to
overload the queue. -/
inductive Job where
  | change (change : Change)
  | send (envelope : Envelope)
  | publish (publisher : Publisher) (flagsEnabled : Bool) (order : Order) (trace : TraceContext)
      (life : Lifetime) (now : Instant)
  | place (saga : Saga) (visit : Visit)

def Change.moves : Change → List Move
  | .setBehavior behavior => [.setBehavior behavior]
  | _ => []

/-- The services, what has been put on the channels of all sends, and all moves of the producer, in
order. -/
structure Depot where
  world : World
  lines : List Line
  moves : List Move

namespace Depot

def opened (price : Money) (ids : List (Except IdentityError OrderId)) : Depot :=
  ⟨.start price ids, [], []⟩

def board (depot : Depot) : Switchboard :=
  ⟨depot.world.producer, depot.lines⟩

def perform {α : Type} (depot : Depot) (program : Program α) (trace : TraceContext)
    (life : Lifetime) (now : Instant) : Option Depot :=
  (program.run World.backend trace ⟨now, life, depot.world⟩).map fun result =>
    ⟨result.machine.world, depot.lines ++ (deliveries result.trail).map Delivery.line,
      depot.moves ++ (sends result.trail).map .send⟩

def act (depot : Depot) : Job → Option Depot
  | .change change =>
    some ⟨depot.world.change change, depot.lines, depot.moves ++ change.moves⟩
  | .send envelope =>
    let (delivery, world) := depot.world.send envelope
    some ⟨world, depot.lines ++ [delivery.line], depot.moves ++ [.send envelope]⟩
  | .publish publisher flagsEnabled order trace life now =>
    depot.perform (publisher.publish flagsEnabled trace order) trace life now
  | .place saga visit =>
    depot.perform (saga.place visit.trace visit.request) visit.trace visit.life visit.now

def after (depot : Depot) : List Job → Option Depot
  | [] => some depot
  | job :: rest => (depot.act job).bind fun next => next.after rest

/-- The producer of a depot has moved on to that of another one. -/
def Leads (depot later : Depot) : Prop :=
  ∃ moves, later.moves = depot.moves ++ moves ∧ later.board = depot.board.after moves

theorem Leads.refl (depot : Depot) : depot.Leads depot :=
  ⟨[], (List.append_nil _).symm, rfl⟩

theorem Leads.trans {depot between later : Depot} (first : depot.Leads between)
    (second : between.Leads later) : depot.Leads later := by
  obtain ⟨moves, moved, board⟩ := first
  obtain ⟨rest, movedRest, boardRest⟩ := second
  refine ⟨moves ++ rest, ?_, ?_⟩
  · rw [movedRest, moved, List.append_assoc]
  · rw [boardRest, board, Switchboard.after_append]

theorem perform_leads {α : Type} (depot : Depot) (program : Program α) (trace : TraceContext)
    (life : Lifetime) (now : Instant) :
    ∃ later, depot.perform program trace life now = some later ∧ depot.Leads later := by
  obtain ⟨value, machine, trail, made⟩ :=
    Program.returns_of_world trace program ⟨now, life, depot.world⟩
  have ran := (Program.run_eq_some_iff World.backend trace).mpr made
  refine ⟨_, by rw [perform, ran, Option.map_some], (sends trail).map .send, rfl, ?_⟩
  exact (Program.posts trace made depot.lines).symm

theorem change_leads (depot : Depot) (change : Change) :
    depot.Leads ⟨depot.world.change change, depot.lines, depot.moves ++ change.moves⟩ := by
  refine ⟨change.moves, rfl, ?_⟩
  cases change with
  | setFailing operation fails => cases operation <;> rfl
  | setDelay operation delay => cases delay <;> rfl
  | _ => rfl

theorem act_leads (depot : Depot) (job : Job) :
    ∃ later, depot.act job = some later ∧ depot.Leads later := by
  cases job with
  | change change => exact ⟨_, rfl, depot.change_leads change⟩
  | send envelope => exact ⟨_, rfl, [.send envelope], rfl, rfl⟩
  | publish publisher flagsEnabled order trace life now => exact depot.perform_leads _ trace life now
  | place saga visit => exact depot.perform_leads _ visit.trace visit.life visit.now

theorem after_leads (depot : Depot) (jobs : List Job) :
    ∃ later, depot.after jobs = some later ∧ depot.Leads later := by
  induction jobs generalizing depot with
  | nil => exact ⟨depot, rfl, .refl depot⟩
  | cons job rest ih =>
      obtain ⟨next, acted, leads⟩ := depot.act_leads job
      obtain ⟨later, done, leadsRest⟩ := ih next
      refine ⟨later, ?_, leads.trans leadsRest⟩
      rw [after, acted]
      exact done

end Depot

/-- Whatever is done with a world, each send reports at most once: with the next offset, with the
reason that the producer was told, or not at all, and nothing that is done later changes that. -/
theorem sends_report_once (price : Money) (ids : List (Except IdentityError OrderId))
    (jobs more : List Job) :
    ∃ depot later, (Depot.opened price ids).after jobs = some depot ∧
      depot.after more = some later ∧
      depot.board.Accounts (dispatches .acknowledge depot.moves) ∧
      ∀ number channels, depot.board.channels? number = some channels →
        (channels.1.report? = none ∨ channels.2.report? = none) ∧
          later.board.channels? number = some channels := by
  obtain ⟨depot, done, moves, moved, board⟩ := (Depot.opened price ids).after_leads jobs
  obtain ⟨later, doneMore, movesMore, movedMore, boardMore⟩ := depot.after_leads more
  have accounts : depot.board.Accounts (dispatches .acknowledge depot.moves) := by
    rw [board, moved]
    exact Switchboard.Accounts.opened.after moves
  refine ⟨depot, later, done, doneMore, accounts, ?_⟩
  intro number channels here
  refine ⟨accounts.reports_once here, ?_⟩
  obtain ⟨line, lined, _⟩ := Option.map_eq_some_iff.mp here
  have bound := (List.getElem?_eq_some_iff.mp lined).1
  rw [accounts.length_eq] at bound
  rw [boardMore, accounts.channels?_after movesMore bound, here]

namespace Sample

def job : Deed → Job
  | .change change => .change change
  | .place visit => .place ⟨some ⟨"orders", 5000⟩, true⟩ visit

/-- One more order, which is shipped and whose message nobody reports on. -/
def epilogue : List Deed :=
  [.change (.setFailing .ship false), .change (.setBehavior .hang)] ++ visit

end Sample

/-- Of three placements only the one that returns an order sends anything, and what is reported on it
stays when another order is sent later. -/
theorem sends_report_once_of_season :
    ∃ depot later,
      (Depot.opened Sample.price (Sample.orderIds ++ Sample.orderIds)).after
        (Sample.season.map Sample.job) = some depot ∧
      depot.after (Sample.epilogue.map Sample.job) = some later ∧
      depot.board.channels? 0 = some (.value ⟨0, 0⟩, .closed) ∧
      depot.board.channels? 1 = none ∧
      later.board.channels? 0 = some (.value ⟨0, 0⟩, .closed) ∧
      later.board.channels? 1 = some (.open, .open) := by
  obtain ⟨depot, later, done, doneMore, _, stays⟩ :=
    sends_report_once Sample.price (Sample.orderIds ++ Sample.orderIds)
      (Sample.season.map Sample.job) (Sample.epilogue.map Sample.job)
  have before : ((Depot.opened Sample.price (Sample.orderIds ++ Sample.orderIds)).after
      (Sample.season.map Sample.job)).map (fun depot =>
        (depot.board.channels? 0, depot.board.channels? 1)) =
      some (some (.value ⟨0, 0⟩, .closed), none) := by
    decide +kernel
  have after : ((Depot.opened Sample.price (Sample.orderIds ++ Sample.orderIds)).after
      (Sample.season.map Sample.job)).bind (fun depot =>
        (depot.after (Sample.epilogue.map Sample.job)).map fun later =>
          later.board.channels? 1) = some (some (.open, .open)) := by
    decide +kernel
  rw [done, Option.map_some, Option.some.injEq, Prod.mk.injEq] at before
  rw [done, Option.bind_some, doneMore, Option.map_some, Option.some.injEq] at after
  exact ⟨depot, later, done, doneMore, before.1, before.2, (stays 0 _ before.1).2, after⟩

example : (Switchboard.opened.after [.send (.blank "orders"), .setBehavior .hang,
    .send (.blank "orders"), .setBehavior (.fail "no leader"), .send (.blank "orders"),
    .setBehavior .acknowledge, .send (.blank "orders")]).offsets = [0, 1] := by
  decide

end Checkout

import Checkout.Proofs.FirstFailures
import Checkout.Proofs.FlagReplies
import Checkout.Proofs.SettledPublications
import Checkout.Proofs.TracePropagation

/-!
# Fault injection

Operators inject two faults by flags: charges that go to an endpoint that cannot be reached, and
copies of what is published.  Only a reply that tells so, in time, injects a fault.  Whatever else the
flag backend does, a placement is charged once, at the payment service proper, and published once.
-/

set_option autoImplicit false

namespace Checkout

section Runs

variable {σ : Type} (backend : Backend σ) (trace : TraceContext)

theorem calls_bind_of_local {α β : Type} (program : Program α) {next : α → Program β}
    (isLocal : ∀ value, (next value).Asks Query.IsLocal) (machine : Machine σ) :
    calls ((program >>= next).progress backend trace machine).trail =
      calls (program.progress backend trace machine).trail := by
  rw [Program.progress_bind]
  cases program.progress backend trace machine with
  | mk trail reached =>
      cases reached with
      | none => rfl
      | some pair =>
          have silent := (next pair.1).silent_of_asks_isLocal backend trace (isLocal pair.1) pair.2
          simp only [Progress.andThen, calls_append, silent.calls_eq, List.append_nil]

/-- A call under a live context is made, once, whatever becomes of it. -/
theorem calls_of_live {machine : Machine σ} (live : machine.IsLive) (call : Call) :
    calls ((Program.query (.call call)).progress backend trace machine).trail = [call] := by
  rw [Program.progress_query]
  cases machine.callCourse backend trace call with
  | refused error ended made => cases live.symm.trans ended
  | answered answer length later took answer_eq now_eq life_eq made => rw [made]; rfl
  | abandoned error later world_eq life_eq made => rw [made]; rfl
  | endless silent unbounded made => rw [made]; rfl

theorem calls_of_ended {machine : Machine σ} (ended : ¬ machine.IsLive) (call : Call) :
    calls ((Program.query (.call call)).progress backend trace machine).trail = [] := by
  obtain ⟨error, ended⟩ := Option.ne_none_iff_exists'.mp ended
  rw [Program.progress_query]
  simp only [Machine.progress, Machine.step, Machine.stepCall, ended]
  rfl

/-- What follows a call in a charge is no call. -/
theorem charge_calls (machine : Machine σ) (endpoint : Endpoint) (total : Money) (card : Card) :
    calls (Program.progress backend trace
      (Attempt.call (.charge endpoint total card) .paymentDeclined >>= fun transaction =>
        Attempt.note (.charged transaction) >>= fun _ => pure transaction).run machine).trail =
      calls ((Program.query (.call (.charge endpoint total card))).progress backend trace
        machine).trail := by
  have noting : ∀ outcome : Except CheckoutError String,
      Program.Asks Query.IsLocal (ExceptT.bindCont (fun transaction =>
        Attempt.note (.charged transaction) >>= fun _ => pure transaction) outcome) := by
    intro outcome
    cases outcome with
    | ok transaction =>
        exact Attempt.asks_bind (Attempt.asks_note trivial) fun _ => Attempt.asks_pure _
    | error error => exact Program.asks_pure _
  refine (calls_bind_of_local backend trace _ noting machine).trans ?_
  exact calls_bind_of_local backend trace _ (fun _ => Program.asks_pure _) machine

theorem sends_andThen_of_unsent {α β : Type} (first : Progress σ α)
    {next : α → Machine σ → Progress σ β}
    (unsent : ∀ value later, sends (next value later).trail = []) :
    sends (first.andThen next).trail = sends first.trail := by
  obtain ⟨trail, reached⟩ := first
  cases reached with
  | none => rfl
  | some pair => simp only [Progress.andThen, sends_append, unsent, List.append_nil]

theorem sends_repeatSend (envelope : Envelope) (count : Nat) (machine : Machine σ) :
    sends ((Publisher.repeatSend envelope count).progress backend trace machine).trail =
      List.replicate count envelope := by
  induction count generalizing machine with
  | zero => rfl
  | succ count ih =>
      have sending : (Publisher.repeatSend envelope (count + 1)).progress backend trace machine =
          _ :=
        Program.progress_bind backend trace (Program.query (.send envelope)) _ machine
      rw [sending, Program.progress_query]
      exact congrArg (envelope :: ·) (ih _)

/-- A count that is not positive stands for no copies. -/
theorem sends_copies (count : Int) (envelope : Envelope) (machine : Machine σ) :
    sends (Program.progress backend trace (if count ≤ 0 then pure () else do
      Program.note (.overloading count.toNat)
      Publisher.repeatSend envelope count.toNat
      Program.note (.overloaded count.toNat)) machine).trail =
      List.replicate count.toNat envelope := by
  by_cases none : count ≤ 0
  · rw [if_pos none, Int.toNat_of_nonpos none]
    rfl
  · rw [if_neg none, Program.progress_bind, Program.progress_note,
      ← sends_repeatSend backend trace envelope count.toNat machine]
    refine (congrArg sends (congrArg Progress.trail (Program.progress_bind backend trace
      (Publisher.repeatSend envelope count.toNat) _ machine))).trans ?_
    exact sends_andThen_of_unsent _ fun _ _ => rfl

end Runs

/-! ## Flags over HTTP -/

/-- A backend whose flags are asked for over HTTP, as a configuration says. -/
def Backend.withHttpFlags {σ : Type} (backend : Backend σ) (around : Http.Surroundings σ)
    (config : Config) : Backend σ :=
  { backend with flag := (Http.backend around config).flag }

def Machine.flagReply? {σ : Type} (machine : Machine σ) (around : Http.Surroundings σ)
    (config : Config) (trace : TraceContext) (enabled : Bool) (flag : String) :
    Option Http.Reply :=
  Http.flagReply? around (machine.caller trace) machine.world config enabled flag

def Machine.timeLeft {σ : Type} (machine : Machine σ) : Option Nat :=
  machine.life.deadline.map (· - machine.now)

/-- Whether the context is live when the reply to a question, if there was one, is complete. -/
def Machine.IsLiveAfter {σ : Type} (machine : Machine σ) : Option Http.Reply → Prop
  | none => machine.IsLive
  | some reply => ∃ n, reply.length? = some n ∧ machine.life.error? (machine.now + n) = none

section Flags

variable {σ : Type} (backend : Backend σ) (around : Http.Surroundings σ) (config : Config)
  (trace : TraceContext) (machine : Machine σ)

/-- What a flag is found to be in the state `later`, given the reply to the question for it, if
there was one.  The reply takes its time, but not beyond the deadline. -/
structure FlagTold (kind : FlagKind) (told : Option Http.Reply) (value : kind.Value)
    (later : Machine σ) : Prop where
  means : kind.Means machine.timeLeft told value
  life_eq : later.life = machine.life
  prompt : told = none → later.now = machine.now
  takes : ∀ reply ∈ told, ∀ n, reply.IsComplete machine.timeLeft n → later.now = machine.now + n
  waits : ∀ reply ∈ told, (∀ n, ¬ reply.IsComplete machine.timeLeft n) →
    ∃ limit ∈ machine.timeLeft, later.now = machine.now + limit

theorem flagTold_of_answers {kind : FlagKind} {told : Option Http.Reply}
    {reaction : Reaction σ (Except FlagError kind.Value)} {answer : Except FlagError kind.Value}
    {length : Nat} {later : Machine σ}
    (answers : Http.Answers (machine.caller trace) told reaction)
    (took : reaction.delay = some length)
    (answer_eq : reaction.answer reaction.received = (answer, later.world))
    (now_eq : later.now = machine.now + length)
    (life_eq : later.life = machine.lifeAfter reaction) :
    FlagTold machine kind told (Flags.valueOr kind answer) later where
  means := by
    have heard := answers.means reaction.received
    rwa [answer_eq] at heard
  life_eq := by
    rw [life_eq, Machine.lifeAfter, answers.stays]
    rfl
  prompt unasked := by
    rw [now_eq, Option.some.inj (took.symm.trans (answers.prompt unasked)), Nat.add_zero]
  takes reply replied n complete := by
    rw [now_eq, Option.some.inj (took.symm.trans (answers.takes reply replied n complete))]
  waits reply replied late :=
    ⟨length, (took.symm.trans (answers.waits reply replied late)).symm, now_eq⟩

theorem FlagTold.isLive_iff {kind : FlagKind} {told : Option Http.Reply} {value : kind.Value}
    {later : Machine σ} (flag : FlagTold machine kind told value later) :
    later.IsLive ↔ machine.IsLiveAfter told := by
  rw [Machine.IsLive, flag.life_eq]
  cases told with
  | none => rw [flag.prompt rfl, Machine.IsLiveAfter, Machine.IsLive]
  | some reply =>
      by_cases complete : ∃ n, reply.IsComplete machine.timeLeft n
      · obtain ⟨n, complete⟩ := complete
        rw [flag.takes reply rfl n complete]
        refine ⟨fun live => ⟨n, complete.1, live⟩, ?_⟩
        rintro ⟨m, length, live⟩
        rwa [Option.some.inj (complete.1.symm.trans length)]
      -- The reply that stays away keeps the question until the deadline has come.
      · obtain ⟨limit, left, now_eq⟩ := flag.waits reply rfl (not_exists.mp complete)
        obtain ⟨deadline, bounded, rfl⟩ := Option.map_eq_some_iff.mp left
        rw [now_eq]
        refine iff_of_false (fun live => ?_) ?_
        · have ahead := ((Lifetime.error?_eq_none_iff _ _).mp live).2 deadline bounded
          omega
        · rintro ⟨n, length, live⟩
          have ahead := ((Lifetime.error?_eq_none_iff _ _).mp live).2 deadline bounded
          refine complete ⟨n, length, fun limit member => ?_⟩
          cases left.symm.trans member
          omega

inductive FlagOutcome (kind : FlagKind) (told : Option Http.Reply)
    (progress : Progress σ kind.Value) : Prop where
  | waits (reply : Http.Reply) (replied : told = some reply) (endless : reply.length? = none)
      (unbounded : machine.life.deadline = none) (trail : List Entry)
      (shows : Shows trail [] [] []) (made : progress = ⟨trail, none⟩)
  | tells (value : kind.Value) (later : Machine σ) (trail : List Entry) (reported : List Event)
      (shows : Shows trail [] [] reported) (flag : FlagTold machine kind told value later)
      (made : progress = ⟨trail, some (value, later)⟩)

theorem Machine.flagOutcome (enabled : Bool) (kind : FlagKind) (flag : String) :
    FlagOutcome machine kind (machine.flagReply? around config trace enabled flag)
      ((Program.flag enabled kind flag).progress (backend.withHttpFlags around config) trace
        machine) := by
  cases enabled with
  | false =>
      exact .tells kind.default machine [] [] .nil
        ⟨Http.means_default _ kind, rfl, fun _ => rfl, nofun, nofun⟩ rfl
  | true =>
      have answers : Http.Answers (machine.caller trace)
          (machine.flagReply? around config trace true flag)
          (machine.flagReaction (backend.withHttpFlags around config) trace kind flag) :=
        Http.flag_answers around (machine.caller trace) machine.world config kind flag
      have asking : (Program.flag true kind flag).progress (backend.withHttpFlags around config)
          trace machine = _ :=
        Program.progress_bind _ trace (Program.query (.flag kind flag)) _ machine
      rw [Program.progress_query] at asking
      cases machine.flagCourse (backend.withHttpFlags around config) trace kind flag with
      | answered answer length later took answer_eq now_eq life_eq made =>
          rw [made] at asking
          have told := flagTold_of_answers trace machine answers took answer_eq now_eq life_eq
          cases answer with
          | ok value =>
              exact .tells value later [⟨machine.now, .asked kind flag⟩] [] ⟨rfl, rfl, rfl, rfl⟩
                told asking
          | error error =>
              exact .tells kind.default later
                [⟨machine.now, .asked kind flag⟩, ⟨later.now, .noted (.flagDefaulted flag error)⟩]
                [.flagDefaulted flag error] ⟨rfl, rfl, rfl, rfl⟩ told asking
      | endless silent made =>
          rw [made] at asking
          cases told : machine.flagReply? around config trace true flag with
          | none => cases silent.symm.trans (answers.prompt told)
          | some reply =>
              have late : ∀ n, ¬ reply.IsComplete machine.timeLeft n := fun n complete => by
                cases silent.symm.trans (answers.takes reply told n complete)
              have unbounded : machine.timeLeft = none :=
                (answers.waits reply told late).symm.trans silent
              refine .waits reply rfl ?_ (Option.map_eq_none_iff.mp unbounded) _
                ⟨rfl, rfl, rfl, rfl⟩ asking
              refine Option.eq_none_iff_forall_ne_some.mpr fun n length => late n ⟨length, ?_⟩
              rw [unbounded]
              nofun

/-- The endpoint is chosen by the reply. -/
theorem chooseEndpoint_of_told (saga : Saga) {told : Option Http.Reply} {on : Bool}
    {later : Machine σ} {trail : List Entry} {reported : List Event}
    (shows : Shows trail [] [] reported)
    (flag : FlagTold machine .boolean told on later)
    (made : (Program.flag saga.flagsEnabled .boolean Flags.paymentUnreachable).progress
      backend trace machine = ⟨trail, some (on, later)⟩) :
    ∃ endpoint trail, saga.chooseEndpoint.progress backend trace machine =
        ⟨trail, some (endpoint, later)⟩ ∧
      calls trail = [] ∧
      (endpoint = .unreachable ↔ ∃ reply ∈ told, reply.Tells machine.timeLeft (.bool true)) := by
  have choosing : saga.chooseEndpoint.progress backend trace machine = _ :=
    Program.progress_bind _ trace
      (Program.flag saga.flagsEnabled .boolean Flags.paymentUnreachable) _ machine
  rw [made] at choosing
  cases on with
  | false =>
      refine ⟨.primary, trail ++ [], choosing, ?_,
        iff_of_false nofun fun told => Bool.noConfusion (flag.means.mpr told)⟩
      rw [List.append_nil, shows.calls_eq]
  | true =>
      refine ⟨.unreachable, trail ++ [⟨later.now, .noted .paymentDiverted⟩], choosing, ?_,
        iff_of_true rfl (flag.means.mp rfl)⟩
      rw [calls_append, shows.calls_eq]
      rfl

/-- A charge is one call, to the endpoint that the flag tells, if the context is live when the flag is
known, and none otherwise. -/
theorem charge_calls_by_flag (saga : Saga) (total : Money) (card : Card) :
    let told := machine.flagReply? around config trace saga.flagsEnabled Flags.paymentUnreachable
    let trail := (Program.progress (backend.withHttpFlags around config) trace
      (saga.charge total card).run machine).trail
    (machine.IsLiveAfter told → ∃ endpoint, calls trail = [.charge endpoint total card] ∧
      (endpoint = .unreachable ↔ ∃ reply ∈ told, reply.Tells machine.timeLeft (.bool true))) ∧
    (¬ machine.IsLiveAfter told → calls trail = []) := by
  intro told trail
  cases machine.flagOutcome backend around config trace saga.flagsEnabled .boolean
      Flags.paymentUnreachable with
  | waits reply replied endless unbounded asked shows made =>
      have choosing : saga.chooseEndpoint.progress (backend.withHttpFlags around config) trace
          machine = _ :=
        Program.progress_bind _ trace
          (Program.flag saga.flagsEnabled .boolean Flags.paymentUnreachable) _ machine
      rw [made] at choosing
      have waiting : (saga.charge total card).Halts (backend.withHttpFlags around config) trace
          machine none asked :=
        Attempt.halts_bind (Attempt.halts_perform choosing)
      refine ⟨fun live => ?_, fun _ => ?_⟩
      · simp only [told, replied, Machine.IsLiveAfter, endless] at live
        obtain ⟨_, ⟨⟩, _⟩ := live
      · obtain ⟨_, halts⟩ := waiting
        simp only [trail, halts]
        exact shows.calls_eq
  | tells on later asked reported shows flag made =>
      obtain ⟨endpoint, chosen, choosing, uncalled, diverted⟩ :=
        chooseEndpoint_of_told _ trace machine saga shows flag made
      have charging : calls trail = calls ((Program.query (.call (.charge endpoint total card))).progress
          (backend.withHttpFlags around config) trace later).trail := by
        simp only [trail]
        rw [Saga.charge, Attempt.progress_bind_of_succeeds (Attempt.succeeds_perform choosing),
          calls_append, uncalled, List.nil_append]
        exact charge_calls _ trace later endpoint total card
      rw [charging, ← flag.isLive_iff]
      exact ⟨fun live => ⟨endpoint, calls_of_live _ trace live _, diverted⟩,
        fun ended => calls_of_ended _ trace ended _⟩

/-- The copies that follow a message are those that the flag tells. -/
theorem overload_sends (enabled : Bool) (envelope : Envelope) :
    ∃ copies : Nat,
      sends ((Publisher.overload enabled envelope).progress (backend.withHttpFlags around config)
        trace machine).trail = List.replicate copies envelope ∧
      ∀ n : Int, 0 < n → (copies = n.toNat ↔ fitsInt64 n = true ∧
        ∃ reply ∈ machine.flagReply? around config trace enabled Flags.queueProblems,
          reply.Tells machine.timeLeft (.ofInt n)) := by
  have overloading : (Publisher.overload enabled envelope).progress
      (backend.withHttpFlags around config) trace machine = _ :=
    Program.progress_bind _ trace (Program.flag enabled .integer Flags.queueProblems) _ machine
  cases machine.flagOutcome backend around config trace enabled .integer Flags.queueProblems with
  | waits reply replied endless unbounded asked shows made =>
      have waiting := overloading
      rw [made] at waiting
      refine ⟨0, by rw [waiting]; exact shows.sends_eq, fun n positive => ?_⟩
      refine iff_of_false (by omega) ?_
      rintro ⟨_, _, told, content, json, brings, _⟩
      cases replied.symm.trans told
      obtain ⟨length, complete, _⟩ := brings.isComplete
      cases endless.symm.trans complete
  | tells count later asked reported shows flag made =>
      rw [made] at overloading
      refine ⟨Int.toNat count, ?_, fun n positive => ?_⟩
      · rw [overloading]
        simp only [Progress.andThen, sends_append, shows.sends_eq, List.nil_append]
        exact sends_copies _ trace count envelope later
      · have same : ∀ count : Int, count.toNat = n.toNat ↔ count = n := by omega
        exact (same count).trans (flag.means n (Int.ne_of_gt positive))

theorem publish_sends (publisher : Publisher) (enabled : Bool) {order : Order}
    {payload : List UInt8} (written : order.encode = .ok payload) :
    ∃ copies : Nat,
      sends ((publisher.publish enabled trace order).progress (backend.withHttpFlags around config)
        trace machine).trail =
        List.replicate (1 + copies) (publisher.message backend trace order machine payload) ∧
      ∀ n : Int, 0 < n → (copies = n.toNat ↔ fitsInt64 n = true ∧
        ∃ reply ∈ (publisher.settledState backend trace order machine payload).flagReply? around
          config trace enabled Flags.queueProblems,
          reply.Tells (publisher.settledState backend trace order machine payload).timeLeft
            (.ofInt n)) := by
  obtain ⟨copies, copied, told⟩ := overload_sends backend around config trace
    (publisher.settledState backend trace order machine payload) enabled
    (publisher.message backend trace order machine payload)
  refine ⟨copies, ?_, told⟩
  cases settled : publisher.settlement backend trace order machine payload with
  | mk instant outcome =>
      rw [publisher.publish_progress (backend.withHttpFlags around config) trace order machine
        written enabled settled, Nat.add_comm, List.replicate_succ, ← copied]
      -- The message is sent first, and the report of its outcome hands the producer nothing.
      refine congrArg (_ :: ·) ?_
      exact sends_andThen_of_unsent _ fun _ _ => rfl

end Flags

/-- Whatever the flag backend replies, a flag has a value, unless a reply to a request without a
deadline is never complete; and the value is the default of its kind unless the reply tells another
one.  So a charge is one call if the context is live once the flag is known, which goes to the endpoint
that cannot be reached exactly if the reply tells so; and no call otherwise.  What is published is sent
once, and once more for each copy that the reply tells. -/
theorem fault_injection_fails_safe {σ : Type} (backend : Backend σ) (around : Http.Surroundings σ)
    (config : Config) (trace : TraceContext) (machine : Machine σ) :
    let answering := backend.withHttpFlags around config
    (∀ (enabled : Bool) (kind : FlagKind) (flag : String),
      let told := machine.flagReply? around config trace enabled flag
      ((Program.flag enabled kind flag).run answering trace machine = none ↔
        machine.life.deadline = none ∧ ∃ reply ∈ told, reply.length? = none) ∧
      ∀ value later trail,
        (Program.flag enabled kind flag).run answering trace machine = some ⟨value, later, trail⟩ →
        kind.Means machine.timeLeft told value) ∧
    (∀ (saga : Saga) (total : Money) (card : Card),
      let told := machine.flagReply? around config trace saga.flagsEnabled Flags.paymentUnreachable
      let trail := (Program.progress answering trace (saga.charge total card).run machine).trail
      (machine.IsLiveAfter told → ∃ endpoint, calls trail = [.charge endpoint total card] ∧
        (endpoint = .unreachable ↔
          ∃ reply ∈ told, reply.Tells machine.timeLeft (.bool true))) ∧
      (¬ machine.IsLiveAfter told → calls trail = [])) ∧
    ∀ (publisher : Publisher) (enabled : Bool) (order : Order) (payload : List UInt8),
      let settled := publisher.settledState backend trace order machine payload
      let told := settled.flagReply? around config trace enabled Flags.queueProblems
      order.encode = .ok payload → ∃ copies : Nat,
        sends ((publisher.publish enabled trace order).progress answering trace machine).trail =
          List.replicate (1 + copies) (publisher.message backend trace order machine payload) ∧
        ∀ n : Int, 0 < n → (copies = n.toNat ↔ fitsInt64 n = true ∧
          ∃ reply ∈ told, reply.Tells settled.timeLeft (.ofInt n)) := by
  refine ⟨fun enabled kind flag => ?_, fun saga total card => ?_,
    fun publisher enabled order payload written => ?_⟩
  · cases machine.flagOutcome backend around config trace enabled kind flag with
    | waits reply replied endless unbounded asked shows made =>
        rw [Program.run_eq_result?, made]
        exact ⟨iff_of_true rfl ⟨unbounded, reply, replied, endless⟩, nofun⟩
    | tells value later asked reported shows flag made =>
        rw [Program.run_eq_result?, made]
        refine ⟨iff_of_false nofun ?_, ?_⟩
        · rintro ⟨unbounded, reply, replied, endless⟩
          obtain ⟨limit, left, _⟩ := flag.waits reply replied fun n complete => by
            cases endless.symm.trans complete.1
          rw [Machine.timeLeft, unbounded] at left
          cases left
        · rintro _ _ _ ⟨⟩
          exact flag.means
  · exact charge_calls_by_flag backend around config trace machine saga total card
  · exact publish_sends backend around config trace machine publisher enabled written

namespace Sample

def flagContent (value : Json) : Json :=
  .record [("reason", .ofString "STATIC"), ("value", value)]

def flagReply (value : Json) : Http.Reply :=
  .after 20 (some ⟨200, fun _ => "", .after 5 (some (Text.utf8 (flagContent value).text))⟩)

def flagServer (value : Json) : Http.Surroundings (List Money) where
  exchange _ book := (flagReply value, book)
  digits book := (fun _ => Text.lastHexDigit 0, book)
  span book := (.nth 0, book)
  send _ book := (.withheld, book)

theorem flagReply_tells (value : Json) : (flagReply value).Tells none value :=
  ⟨_, flagContent value, .intro (by decide) (by decide) nofun, Json.parseBytes?_text _,
    .object [(some "reason", .ofString "STATIC")] [] fun _ member =>
      ⟨"reason", by decide, by cases List.mem_singleton.mp member; rfl⟩⟩

theorem flagServer_replies (value : Json) (flag : String) (machine : Machine (List Money))
    (built : (Http.build "http://shop" (Http.flagExchange flag) (machine.caller trace)
      (.nth 0)).toOption.isSome = true) :
    machine.flagReply? (flagServer value) Http.Sample.config trace true flag =
      some (flagReply value) := by
  have base : Http.Sample.config.flagBackend = some "http://shop" := rfl
  simp only [Machine.flagReply?, Http.flagReply?, base, if_true, Option.bind_some, Http.replyTo?,
    flagServer]
  cases sent : Http.build "http://shop" (Http.flagExchange flag) (machine.caller trace)
      (.nth 0) with
  | error error =>
      rw [sent] at built
      cases built
  | ok sent => rfl

def patient : Machine (List Money) := ⟨0, .unbounded, []⟩

end Sample

/-- A flag that is on diverts the charge, and one that is two brings two copies. -/
theorem fault_injection_fails_safe_of_faults :
    let backend := bookkeeping Sample.price Sample.cart 0 true
    let diverting := backend.withHttpFlags (Sample.flagServer (.bool true)) Http.Sample.config
    let copying := backend.withHttpFlags (Sample.flagServer (.ofInt 2)) Http.Sample.config
    calls (Program.progress diverting Sample.trace
        (Sample.saga.charge Sample.price Sample.request.card).run Sample.patient).trail =
      [.charge .unreachable Sample.price Sample.request.card] ∧
    (sends ((Publisher.publish ⟨"orders", 5000⟩ true Sample.trace Sample.order).progress
      copying Sample.trace Sample.patient).trail).length = 3 := by
  intro backend diverting copying
  refine ⟨?_, ?_⟩
  · obtain ⟨_, charges, _⟩ := fault_injection_fails_safe backend (Sample.flagServer (.bool true))
      Http.Sample.config Sample.trace Sample.patient
    have told := Sample.flagServer_replies (.bool true) Flags.paymentUnreachable Sample.patient
      (by decide +kernel)
    have live : Sample.patient.IsLiveAfter (some (Sample.flagReply (.bool true))) := ⟨25, rfl, rfl⟩
    obtain ⟨endpoint, called, diverted⟩ :=
      (charges Sample.saga Sample.price Sample.request.card).1 (by rw [Sample.saga, told]; exact live)
    rw [diverted.mpr ⟨_, told, Sample.flagReply_tells (.bool true)⟩] at called
    exact called
  · obtain ⟨_, _, publications⟩ := fault_injection_fails_safe backend
      (Sample.flagServer (.ofInt 2)) Http.Sample.config Sample.trace Sample.patient
    obtain ⟨payload, written⟩ : ∃ payload, Sample.order.encode = .ok payload :=
      ⟨_, Sample.order.encode_of_le (by decide)⟩
    let settled := Publisher.settledState ⟨"orders", 5000⟩ backend Sample.trace Sample.order
      Sample.patient payload
    have called : settled.caller Sample.trace = ⟨Sample.trace, .unbounded, 5000⟩ := rfl
    have told := Sample.flagServer_replies (.ofInt 2) Flags.queueProblems settled
      (by rw [called]; decide +kernel)
    obtain ⟨copies, sent, copies_iff⟩ :=
      publications ⟨"orders", 5000⟩ true Sample.order payload written
    have two := (copies_iff 2 (by decide)).mpr ⟨by decide, _, told, Sample.flagReply_tells (.ofInt 2)⟩
    rw [sent, two]
    exact List.length_replicate

end Checkout

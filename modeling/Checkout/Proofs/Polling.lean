import Checkout.Context.Basic
import Checkout.Proofs.Races

/-!
# Waiting by polling

Nobody is told that a context has ended.  Whoever waits for the end is woken, looks, and goes on
waiting if there is nothing to see.  A handle and its contexts share a channel, which holds the flag
that the handle sets, counts how often it was set, and is closed when the handle is dropped.  A loop
watches the channel, and a timer runs beside it for the deadline.

A look at an instant sees all that has happened by then, unless it happens in the poll that follows
the look: the work that is run may itself cancel its context.  What is looked at first, where two
things can be seen at once, is left to chance, and so are polls for which there is no reason.
-/

set_option autoImplicit false

namespace Checkout

/-! ## Handles -/

/-- What is done with a handle: it cancels at some instants, in any order and as often as it likes,
and is dropped at some instant or kept for ever.  A handle that is gone does not cancel. -/
structure Tenure where
  cancels : List Instant
  dropped : Option Instant
  kept : ∀ cancel ∈ cancels, ∀ drop ∈ dropped, cancel ≤ drop

/-- What a receiver finds in a channel: how often its flag was set, the flag, and whether the handle
is gone. -/
structure Signal where
  version : Nat
  flag : Bool
  closed : Bool
deriving DecidableEq

namespace Tenure

/-- The handle of a context that nothing can cancel: it is dropped where it is made. -/
def unheld : Tenure := ⟨[], some 0, by simp⟩

def cancelled? (tenure : Tenure) : Option Instant :=
  tenure.cancels.min?

def signal (tenure : Tenure) (now : Instant) : Signal :=
  ⟨(tenure.cancels.filter fun cancel => cancel ≤ now).length,
    tenure.cancels.any fun cancel => cancel ≤ now, Lifetime.reached tenure.dropped now⟩

/-- The channel before anything is done with the handle at an instant. -/
def signalBefore (tenure : Tenure) : Instant → Signal
  | 0 => ⟨0, false, false⟩
  | earlier + 1 => tenure.signal earlier

def lifetime (tenure : Tenure) (deadline : Option Instant) : Lifetime :=
  ⟨tenure.cancelled?, deadline⟩

end Tenure

/-! ## The loop and the timer -/

/-- Where the loop that watches a channel stands: before a look at the flag, waiting for a change of
the version it has seen, at rest since there will be no change, or at its end. -/
inductive Watcher where
  | looking
  | listening (seen : Nat)
  | resting
  | cancelled
deriving DecidableEq

namespace Watcher

/-- One step of the loop, or `none` where it waits, rests or is over. -/
def step (signal : Signal) : Watcher → Option Watcher
  | .looking => some (if signal.flag then .cancelled else .listening signal.version)
  | .listening seen =>
    if signal.version ≠ seen then some .looking
    else if signal.closed then some .resting
    else none
  | .resting => none
  | .cancelled => none

/-- As many steps as the loop can still take, at most, in a channel that does not change. -/
def stepsLeft (signal : Signal) : Watcher → Nat
  | .looking => 2
  | .listening seen => if signal.version ≠ seen then 3 else 1
  | .resting => 0
  | .cancelled => 0

theorem stepsLeft_of_step {signal : Signal} {watcher next : Watcher}
    (stepped : watcher.step signal = some next) :
    next.stepsLeft signal < watcher.stepsLeft signal := by
  cases watcher with
  | looking =>
      cases stepped
      by_cases set : signal.flag = true
      · simp [set, stepsLeft]
      · simp [set, stepsLeft]
  | listening seen =>
      by_cases changed : signal.version ≠ seen
      · rw [step, if_pos changed] at stepped
        cases stepped
        simp [stepsLeft, changed]
      · rw [step, if_neg changed] at stepped
        by_cases closed : signal.closed = true
        · rw [if_pos closed] at stepped
          cases stepped
          simp [stepsLeft, changed]
        · rw [if_neg closed] at stepped
          cases stepped
  | resting => cases stepped
  | cancelled => cases stepped

def poll (signal : Signal) (watcher : Watcher) : Watcher :=
  match _ : watcher.step signal with
  | none => watcher
  | some next => next.poll signal
termination_by watcher.stepsLeft signal
decreasing_by exact stepsLeft_of_step ‹_›

/-- One poll of the loop and the timer: why the context is over, if it is, and where the loop stands
then. -/
def await (deadline : Option Instant) (signal : Signal) (now : Instant) (deadlineFirst : Bool)
    (watcher : Watcher) : Option ContextError × Watcher :=
  let expired := Lifetime.reached deadline now
  if deadlineFirst && expired then (some .deadlineExceeded, watcher)
  else
    let watcher := watcher.poll signal
    if watcher = .cancelled then (some .cancelled, watcher)
    else (if expired then some .deadlineExceeded else none, watcher)

end Watcher

/-! ## Polls over time -/

/-- What is left to chance: what is looked at first, and polls that nothing has asked for. -/
structure Chance where
  deadlineFirst : Instant → Bool
  workFirst : Instant → Bool
  idle : Instant → Bool

/-- Polls at every instant for which there is a reason, over a span of time: the first value and its
instant, if there is one, and the state after it. -/
def pollUntil {α σ : Type} (poll : Instant → σ → Option α × σ) (woken : Instant → σ → Bool) :
    (span : Nat) → Instant → σ → Option (Instant × α) × σ
  | 0, _, state => (none, state)
  | span + 1, now, state =>
    if woken now state then
      match poll now state with
      | (some value, state) => (some (now, value), state)
      | (none, state) => pollUntil poll woken span (now + 1) state
    else pollUntil poll woken span (now + 1) state

/-- Work under a context: where the loop stands that watches the context, and how often the work
itself was polled. -/
structure Running where
  watcher : Watcher
  polls : Nat
deriving DecidableEq

namespace Context

section Waiting

variable (tenures : Handle → Tenure) (chance : Chance) (context : Context)

def tenure : Tenure :=
  context.handle.elim .unheld tenures

def signal (now : Instant) : Signal :=
  (context.tenure tenures).signal now

/-- The channel before the work is polled, if `own` tells at which instants the work itself does what
is done with the handle. -/
def signalFound (own : Instant → Bool) (now : Instant) : Signal :=
  if own now then (context.tenure tenures).signalBefore now else context.signal tenures now

def errorIn (signal : Signal) (now : Instant) : Option ContextError :=
  if signal.flag then some .cancelled
  else if Lifetime.reached context.deadline now then some .deadlineExceeded
  else none

def error? (now : Instant) : Option ContextError :=
  context.errorIn (context.signal tenures now) now

/-- Why the context is over at `now` before the work is polled. -/
def errorFound? (own : Instant → Bool) (now : Instant) : Option ContextError :=
  context.errorIn (context.signalFound tenures own now) now

def lookIn (signal : Signal) (now : Instant) (watcher : Watcher) : Option ContextError × Watcher :=
  watcher.await context.deadline signal now (chance.deadlineFirst now)

def pollDone (now : Instant) (watcher : Watcher) : Option ContextError × Watcher :=
  context.lookIn chance (context.signal tenures now) now watcher

/-- Whether somebody who waits for the end is polled: the loop can go on, or the timer has gone off,
or there is no reason. -/
def wokenDone (now : Instant) (watcher : Watcher) : Bool :=
  (watcher.step (context.signal tenures now)).isSome || Lifetime.reached context.deadline now
    || chance.idle now

def done (start : Instant) (span : Nat) : Option (Instant × ContextError) :=
  (pollUntil (context.pollDone tenures chance) (context.wokenDone tenures chance) span start
    .looking).1

variable {ε τ : Type} (own : Instant → Bool) (wrap : ContextError → ε) (finish : Option Instant)
  (outcome : Except ε τ)

/-- One poll of work that has its outcome at `finish`, and of the end of the context beside it.  If
the work goes on, whoever waits for that end looks again, since the work may have caused it. -/
def pollRun (now : Instant) (running : Running) : Option (Except ε τ) × Running :=
  let finished := if Lifetime.reached finish now then some outcome else none
  let first := if chance.workFirst now then (none, running.watcher)
    else context.lookIn chance (context.signalFound tenures own now) now running.watcher
  match first.1 with
  | some error => (some (.error (wrap error)), ⟨first.2, running.polls⟩)
  | none =>
    match finished with
    | some outcome => (some outcome, ⟨first.2, running.polls + 1⟩)
    | none =>
      let second := context.pollDone tenures chance now first.2
      (second.1.map fun error => .error (wrap error), ⟨second.2, running.polls + 1⟩)

def wokenRun (now : Instant) (running : Running) : Bool :=
  Lifetime.reached finish now || context.wokenDone tenures chance now running.watcher

/-- What comes of work that takes `delay` and is to be run from `start` on, over a span of time.
The work is not polled at all if the context is over by then. -/
def run (delay : Option Nat) (start : Instant) (span : Nat) :
    Option (Instant × Except ε τ) × Running :=
  match context.errorFound? tenures own start with
  | some error => (some (start, .error (wrap error)), ⟨.looking, 0⟩)
  | none =>
    let finish := delay.map (start + ·)
    pollUntil (context.pollRun tenures chance own wrap finish outcome)
      (context.wokenRun tenures chance finish) span start ⟨.looking, 0⟩

end Waiting

end Context

/-! ## What the channel tells -/

namespace Tenure

variable {tenure : Tenure} {now : Instant}

theorem flag_signal (tenure : Tenure) (now : Instant) :
    (tenure.signal now).flag = Lifetime.reached tenure.cancelled? now := by
  change (tenure.cancels.any fun cancel => decide (cancel ≤ now)) = _
  rw [cancelled?]
  cases first : tenure.cancels.min? with
  | none =>
      rw [List.min?_eq_none_iff.mp first]
      rfl
  | some earliest =>
      obtain ⟨member, least⟩ := List.min?_eq_some_iff.mp first
      rw [Lifetime.reached, Option.any_some, Bool.eq_iff_iff, List.any_eq_true]
      simp only [decide_eq_true_eq]
      constructor
      · rintro ⟨cancel, cancels, past⟩
        exact Nat.le_trans (least cancel cancels) past
      · intro past
        exact ⟨earliest, member, past⟩

theorem version_signal_eq_zero_iff (tenure : Tenure) (now : Instant) :
    (tenure.signal now).version = 0 ↔ (tenure.signal now).flag = false := by
  simp [signal]

/-- A handle that is gone and has not cancelled never will. -/
theorem cancels_eq_nil (closed : (tenure.signal now).closed = true)
    (unset : (tenure.signal now).flag = false) : tenure.cancels = [] := by
  rw [List.eq_nil_iff_forall_not_mem]
  intro cancel member
  have later : now < cancel := by
    have unreached := List.any_eq_false.mp unset cancel member
    simpa using unreached
  cases dropped : tenure.dropped with
  | none => simp [signal, dropped, Lifetime.reached] at closed
  | some drop =>
      have past : drop ≤ now := by
        simpa [signal, dropped, Lifetime.reached] using closed
      have kept := tenure.kept cancel member drop dropped
      exact Nat.lt_irrefl now (Nat.lt_of_lt_of_le later (Nat.le_trans kept past))

/-- A channel through which no cancellation has come, nor ever will if it is closed. -/
structure Quiet (tenure : Tenure) (signal : Signal) : Prop where
  version_eq : signal.version = 0
  flag_eq : signal.flag = false
  final : signal.closed = true → tenure.cancels = []

theorem quiet_signal (unset : (tenure.signal now).flag = false) : tenure.Quiet (tenure.signal now) where
  version_eq := (tenure.version_signal_eq_zero_iff now).mpr unset
  flag_eq := unset
  final closed := cancels_eq_nil closed unset

theorem quiet_signalBefore (unset : ∀ earlier < now, (tenure.signal earlier).flag = false) :
    tenure.Quiet (tenure.signalBefore now) := by
  cases now with
  | zero => exact ⟨rfl, rfl, nofun⟩
  | succ earlier => exact quiet_signal (unset earlier (Nat.lt_succ_self earlier))

end Tenure

/-! ## What the loop does -/

namespace Watcher

variable {signal : Signal} {watcher next : Watcher} {tenure : Tenure} {now : Instant}

theorem poll_of_step (stepped : watcher.step signal = some next) :
    watcher.poll signal = next.poll signal := by
  rw [poll]
  split
  · rename_i waits
    cases waits.symm.trans stepped
  · rename_i other moved
    cases moved.symm.trans stepped
    rfl

theorem poll_of_wait (waits : watcher.step signal = none) : watcher.poll signal = watcher := by
  rw [poll]
  split
  · rfl
  · rename_i other moved
    cases waits.symm.trans moved

/-- The loop has not missed a cancellation. -/
def Waits (tenure : Tenure) : Watcher → Prop
  | .looking => True
  | .listening seen => seen = 0
  | .resting => tenure.cancels = []
  | .cancelled => False

theorem poll_of_flag (waits : watcher.Waits tenure) (set : (tenure.signal now).flag = true) :
    watcher.poll (tenure.signal now) = .cancelled := by
  have looks : Watcher.looking.poll (tenure.signal now) = .cancelled := by
    have stepped : Watcher.looking.step (tenure.signal now) = some .cancelled := by
      rw [step, if_pos set]
    rw [poll_of_step stepped, poll_of_wait rfl]
  cases watcher with
  | looking => exact looks
  | listening seen =>
      have changed : (tenure.signal now).version ≠ seen := by
        intro unchanged
        have unset := (tenure.version_signal_eq_zero_iff now).mp (unchanged.trans waits)
        rw [set] at unset
        cases unset
      have stepped : (Watcher.listening seen).step (tenure.signal now) = some .looking := by
        rw [step, if_pos changed]
      rw [poll_of_step stepped, looks]
  | resting =>
      have none_set : (tenure.signal now).flag = false := by
        change (tenure.cancels.any fun cancel => decide (cancel ≤ now)) = false
        rw [waits]
        rfl
      rw [set] at none_set
      cases none_set
  | cancelled => exact waits.elim

theorem waits_poll (waits : watcher.Waits tenure) (quiet : tenure.Quiet signal) :
    (watcher.poll signal).Waits tenure := by
  have listens : ((Watcher.listening 0).poll signal).Waits tenure := by
    by_cases closed : signal.closed = true
    · have stepped : (Watcher.listening 0).step signal = some .resting := by
        rw [step, if_neg (not_not_intro quiet.version_eq), if_pos closed]
      rw [poll_of_step stepped, poll_of_wait rfl]
      exact quiet.final closed
    · have stays : (Watcher.listening 0).step signal = none := by
        rw [step, if_neg (not_not_intro quiet.version_eq), if_neg closed]
      rw [poll_of_wait stays]
      rfl
  cases watcher with
  | looking =>
      have stepped : Watcher.looking.step signal = some (.listening 0) := by
        rw [step, if_neg (by simp [quiet.flag_eq]), quiet.version_eq]
      rw [poll_of_step stepped]
      exact listens
  | listening seen =>
      rw [show seen = 0 from waits]
      exact listens
  | resting =>
      rw [poll_of_wait rfl]
      exact waits
  | cancelled => exact waits.elim

theorem ne_cancelled_of_waits (waits : watcher.Waits tenure) : watcher ≠ .cancelled := by
  rintro rfl
  exact waits

/-- Through a quiet channel only the deadline is found. -/
theorem await_of_quiet (deadline : Option Instant) (now : Instant) (deadlineFirst : Bool)
    (waits : watcher.Waits tenure) (quiet : tenure.Quiet signal) :
    (watcher.await deadline signal now deadlineFirst).1 =
        (if Lifetime.reached deadline now then some .deadlineExceeded else none) ∧
      (Lifetime.reached deadline now = false →
        (watcher.await deadline signal now deadlineFirst).2.Waits tenure) := by
  have polled := waits_poll waits quiet
  have unmoved := ne_cancelled_of_waits polled
  rw [await]
  cases Lifetime.reached deadline now with
  | true => cases deadlineFirst <;> simp [unmoved]
  | false => simpa [unmoved] using polled

/-- A poll of the loop and the timer finds the reason that it comes upon first. -/
theorem await_fst (deadline : Option Instant) (deadlineFirst : Bool)
    (waits : watcher.Waits tenure) :
    (watcher.await deadline (tenure.signal now) now deadlineFirst).1 =
      (tenure.lifetime deadline).reason? now deadlineFirst := by
  have flag := tenure.flag_signal now
  cases set : (tenure.signal now).flag with
  | true =>
      rw [await, Lifetime.reason?, Tenure.lifetime, ← flag, set, poll_of_flag waits set]
      cases Lifetime.reached deadline now <;> cases deadlineFirst <;> rfl
  | false =>
      rw [(await_of_quiet deadline now deadlineFirst waits (Tenure.quiet_signal set)).1,
        Lifetime.reason?, Tenure.lifetime, ← flag, set]
      cases Lifetime.reached deadline now <;> cases deadlineFirst <;> rfl

theorem waits_await (deadline : Option Instant) (deadlineFirst : Bool)
    (waits : watcher.Waits tenure) (live : (tenure.lifetime deadline).error? now = none) :
    (watcher.await deadline (tenure.signal now) now deadlineFirst).2.Waits tenure := by
  obtain ⟨uncancelled, unexpired⟩ := (Lifetime.error?_eq_none_iff _ _).mp live
  have unset : (tenure.signal now).flag = false := by
    rw [tenure.flag_signal]
    exact (Lifetime.reached_eq_false_iff _ _).mpr uncancelled
  exact (await_of_quiet deadline now deadlineFirst waits (Tenure.quiet_signal unset)).2
    ((Lifetime.reached_eq_false_iff _ _).mpr unexpired)

end Watcher

/-! ## What polls come to -/

/-- If the state keeps a property while nothing is due, and whatever is due is found at its instant
by a poll that has a reason, then that is what polling comes to, if the span reaches so far. -/
theorem pollUntil_eq_filter {α σ : Type} {poll : Instant → σ → Option α × σ}
    {woken : Instant → σ → Bool} {due : Option (Instant × α)} (holds : σ → Prop)
    (waits : ∀ now state, (∀ ending ∈ due, now < ending.1) → holds state →
      (poll now state).1 = none ∧ holds (poll now state).2)
    (settles : ∀ ending ∈ due, ∀ state, holds state →
      woken ending.1 state = true ∧ (poll ending.1 state).1 = some ending.2)
    (span : Nat) {now : Instant} {state : σ} (ahead : ∀ ending ∈ due, now ≤ ending.1)
    (held : holds state) :
    (pollUntil poll woken span now state).1 =
      due.filter fun ending => decide (ending.1 < now + span) := by
  induction span generalizing now state with
  | zero =>
      symm
      rw [pollUntil, Option.filter_eq_none_iff]
      intro ending isDue
      have later := ahead ending isDue
      simpa using later
  | succ span ih =>
      have goes_on : (∀ ending ∈ due, now < ending.1) →
          (pollUntil poll woken (span + 1) now state).1 =
            due.filter fun ending => decide (ending.1 < now + (span + 1)) := by
        intro early
        obtain ⟨silent, kept⟩ := waits now state early held
        have rest := @ih (now + 1)
        rw [Nat.add_assoc, Nat.add_comm 1 span] at rest
        rw [pollUntil]
        by_cases reason : woken now state = true
        · rw [if_pos reason]
          cases polled : poll now state with
          | mk found next =>
              rw [polled] at silent kept
              cases silent
              exact rest early kept
        · rw [if_neg reason]
          exact rest early held
      cases isDue : due with
      | none =>
          rw [← isDue]
          apply goes_on
          intro ending member
          cases isDue.symm.trans member
      | some ending =>
          have since := ahead ending isDue
          rw [← isDue]
          rcases Nat.eq_or_lt_of_le since with same | early
          · obtain ⟨reason, found⟩ := settles ending isDue state held
            rw [← same] at reason found
            rw [pollUntil, if_pos reason]
            cases polled : poll now state with
            | mk value next =>
                rw [polled] at found
                cases found
                have inside : ending.1 < now + (span + 1) := by
                  rw [← same]
                  exact Nat.lt_add_of_pos_right (Nat.succ_pos span)
                rw [isDue, Option.filter_some, if_pos (decide_eq_true inside), same]
          · apply goes_on
            intro other member
            cases isDue.symm.trans member
            exact early

end Checkout

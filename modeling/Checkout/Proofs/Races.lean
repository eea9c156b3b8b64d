import Checkout.Proofs.CallTiming

/-!
# The race for an outcome

Whoever has sent a message waits on three branches: the channel for acknowledgements, the channel
for errors, and the end of the lifetime.  They are polled in this order, and the first that has
something to take wins.  A channel that was closed without a value can never win, so its branch is
disabled; a race of which no branch is left cannot go on at all.  If a lifetime is both cancelled
and past its deadline when it is polled, either may be taken for the reason.

Polls happen right after the send and then twice at each instant.  The second one sees all that has
happened at the instant.  The first one sees the end of the lifetime and, as the schedule has it, also
a report that comes at that instant, or not yet.  So a schedule says which of the two is seen first if
both come at one instant.  Further polls would find nothing else.  The wait for a report cannot even
begin if its limit is beyond the last instant of the clock.
-/

set_option autoImplicit false

namespace Checkout

/-- What becomes of the handle with which a producer reports on a message: it is used or dropped
some time after the send, or kept for ever. -/
inductive Handling where
  | used (after : Nat) (report : Report)
  | dropped (after : Nat)
  | kept
deriving DecidableEq

inductive Polled where
  | pending
  | mismatched
  | matched (outcome : PublishOutcome)
deriving DecidableEq

namespace Polled

def outcome? : Polled → Option PublishOutcome
  | .matched outcome => some outcome
  | _ => none

def isPending : Polled → Bool
  | .pending => true
  | _ => false

end Polled

/-- What comes of one poll: an outcome, or more waiting on the branches that are still enabled, or
nothing to wait for. -/
inductive Selection where
  | settled (outcome : PublishOutcome)
  | waiting (enabled : List Bool)
  | exhausted
deriving DecidableEq

def select (branches : List (Bool × Polled)) : Selection :=
  match branches.findSome? fun (enabled, polled) => if enabled then polled.outcome? else none with
  | some outcome => .settled outcome
  | none =>
    let enabled := branches.map fun (enabled, polled) => enabled && polled.isPending
    if enabled.any id then .waiting enabled else .exhausted

namespace Handling

/-- The delivery that the sender sees, if `ahead` tells which reports are there as he wakes up. -/
def delivery (ahead : Nat → Bool) : Handling → Delivery
  | .used after report => .reported after (ahead after) report
  | .dropped _ => .discarded
  | .kept => .withheld

/-- The channel for the reports that `pick` takes, at some time after the send. -/
def channel (handling : Handling) (pick : Report → Option PublishOutcome) (age : Nat) : Polled :=
  match handling with
  | .used after report =>
    if after ≤ age then (pick report).elim .mismatched .matched else .pending
  | .dropped after => if after ≤ age then .mismatched else .pending
  | .kept => .pending

end Handling

def Report.delivered? : Report → Option PublishOutcome
  | .acknowledged acknowledgement => some (.delivered acknowledgement)
  | .failed _ => none

def Report.failed? : Report → Option PublishOutcome
  | .acknowledged _ => none
  | .failed error => some (.failed error)

namespace Lifetime

def reason? (life : Lifetime) (now : Instant) (deadlineFirst : Bool) : Option ContextError :=
  match reached life.cancelled now, reached life.deadline now with
  | false, false => none
  | true, false => some .cancelled
  | false, true => some .deadlineExceeded
  | true, true => some (if deadlineFirst then .deadlineExceeded else .cancelled)

def polled (life : Lifetime) (now : Instant) (deadlineFirst : Bool) : Polled :=
  match life.reason? now deadlineFirst with
  | some error => .matched (.cancelled error)
  | none => .pending

end Lifetime

/-- The instant of a poll, up to what time after the send it sees what the producer did, and where
it looks first for the end of the lifetime. -/
structure Moment where
  instant : Instant
  age : Nat
  deadlineFirst : Bool

/-- How the polls of a race fall: by their numbers, where they look first for the end of the lifetime,
and by the time after the send, whether the first poll at an instant sees a report of this instant. -/
structure Schedule where
  deadlineFirst : Nat → Bool
  ahead : Nat → Bool

namespace Moment

def nth (sent : Instant) (schedule : Schedule) (number : Nat) : Moment :=
  let time := (number + 1) / 2
  ⟨sent + time, if schedule.ahead time then time else number / 2, schedule.deadlineFirst number⟩

variable (sent : Instant) (schedule : Schedule) (number : Nat)

theorem instant_nth : (nth sent schedule number).instant = sent + (number + 1) / 2 :=
  rfl

theorem deadlineFirst_nth :
    (nth sent schedule number).deadlineFirst = schedule.deadlineFirst number :=
  rfl

theorem le_age_nth : number / 2 ≤ (nth sent schedule number).age := by
  rw [nth]
  split <;> simp only <;> omega

theorem age_nth_le : (nth sent schedule number).age ≤ (number + 1) / 2 := by
  rw [nth]
  split <;> simp only <;> omega

theorem age_nth_of_ahead (ahead : schedule.ahead ((number + 1) / 2) = true) :
    (nth sent schedule number).age = (number + 1) / 2 :=
  if_pos ahead

theorem age_nth_of_not_ahead (behind : schedule.ahead ((number + 1) / 2) = false) :
    (nth sent schedule number).age = number / 2 :=
  if_neg (Bool.not_eq_true _ ▸ behind)

end Moment

inductive Race where
  | settled (instant : Instant) (outcome : PublishOutcome)
  | waiting
  | exhausted
  | panicked
deriving DecidableEq

namespace Handling

def branches (handling : Handling) (life : Lifetime) (moment : Moment) : List Polled :=
  [handling.channel Report.delivered? moment.age, handling.channel Report.failed? moment.age,
    life.polled moment.instant moment.deadlineFirst]

/-- Polls a number of times, from poll `number` on. -/
def raceFrom (handling : Handling) (life : Lifetime) (sent : Instant) (schedule : Schedule) :
    (polls number : Nat) → List Bool → Race
  | 0, _, _ => .waiting
  | polls + 1, number, enabled =>
    match select (enabled.zip (handling.branches life (.nth sent schedule number))) with
    | .settled outcome => .settled (Moment.nth sent schedule number).instant outcome
    | .waiting enabled => handling.raceFrom life sent schedule polls (number + 1) enabled
    | .exhausted => .exhausted

/-- The race of somebody who has sent a message and waits within a lifetime, after so many polls. -/
def race (handling : Handling) (life : Lifetime) (sent : Instant) (schedule : Schedule)
    (polls : Nat) : Race :=
  handling.raceFrom life sent schedule polls 0 [true, true, true]

/-- The race of somebody who gives up after `limit` at the latest. -/
def wait (handling : Handling) (life : Lifetime) (sent : Instant) (limit : Nat)
    (schedule : Schedule) (polls : Nat) : Race :=
  if sent + limit ≤ lastInstant then
    handling.race (life.tighten (sent + limit)) sent schedule polls
  else .panicked

/-! ## One poll -/

def heard? (handling : Handling) (age : Nat) : Option PublishOutcome :=
  match handling with
  | .used after report => if after ≤ age then some report.outcome else none
  | _ => none

inductive Standing (handling : Handling) (age : Nat) : Prop where
  | silent (unheard : handling.heard? age = none)
      (delivered : handling.channel Report.delivered? age = .pending)
      (failed : handling.channel Report.failed? age = .pending)
  | closed (unheard : handling.heard? age = none)
      (delivered : handling.channel Report.delivered? age = .mismatched)
      (failed : handling.channel Report.failed? age = .mismatched)
  | acknowledged (outcome : PublishOutcome) (heard : handling.heard? age = some outcome)
      (delivered : handling.channel Report.delivered? age = .matched outcome)
      (failed : handling.channel Report.failed? age = .mismatched)
  | failed (outcome : PublishOutcome) (heard : handling.heard? age = some outcome)
      (delivered : handling.channel Report.delivered? age = .mismatched)
      (failed : handling.channel Report.failed? age = .matched outcome)

theorem standing (handling : Handling) (age : Nat) : Standing handling age := by
  cases handling with
  | used after report =>
      by_cases due : after ≤ age
      · cases report with
        | acknowledged acknowledgement =>
            exact .acknowledged (.delivered acknowledgement) (if_pos due) (if_pos due) (if_pos due)
        | failed error => exact .failed (.failed error) (if_pos due) (if_pos due) (if_pos due)
      · exact .silent (if_neg due) (if_neg due) (if_neg due)
  | dropped after =>
      by_cases due : after ≤ age
      · exact .closed rfl (if_pos due) (if_pos due)
      · exact .silent rfl (if_neg due) (if_neg due)
  | kept => exact .silent rfl rfl rfl

theorem channel_mismatched_mono {handling : Handling} {pick : Report → Option PublishOutcome}
    {age later : Nat} (le : age ≤ later) (closed : handling.channel pick age = .mismatched) :
    handling.channel pick later = .mismatched := by
  cases handling with
  | used after report =>
      by_cases due : after ≤ age
      · rw [channel, if_pos due] at closed
        rw [channel, if_pos (Nat.le_trans due le), closed]
      · rw [channel, if_neg due] at closed
        cases closed
  | dropped after =>
      by_cases due : after ≤ age
      · exact if_pos (Nat.le_trans due le)
      · rw [channel, if_neg due] at closed
        cases closed
  | kept => cases closed

/-- Only channels that were closed unused have been disabled. -/
structure Enables (handling : Handling) (age : Nat) (delivered failed : Bool) : Prop where
  delivered : delivered = false → handling.channel Report.delivered? age = .mismatched
  failed : failed = false → handling.channel Report.failed? age = .mismatched

/-- What is there to be taken at a moment; a report comes before the end of the lifetime. -/
def taken? (handling : Handling) (life : Lifetime) (moment : Moment) : Option PublishOutcome :=
  (handling.heard? moment.age).or
    ((life.reason? moment.instant moment.deadlineFirst).map .cancelled)

theorem Enables.mono {handling : Handling} {age later : Nat} {delivered failed : Bool}
    (enables : handling.Enables age delivered failed) (le : age ≤ later) :
    handling.Enables later delivered failed :=
  ⟨fun off => channel_mismatched_mono le (enables.delivered off),
    fun off => channel_mismatched_mono le (enables.failed off)⟩

theorem enabled_of_ne {enabled : Bool} {polled : Polled}
    (closed : enabled = false → polled = .mismatched) (other : polled ≠ .mismatched) :
    enabled = true := by
  cases enabled with
  | false => exact absurd (closed rfl) other
  | true => rfl

variable {handling : Handling} {life : Lifetime} {delivered failed : Bool}

theorem select_of_taken (moment : Moment) {outcome : PublishOutcome}
    (enables : handling.Enables moment.age delivered failed)
    (taken : handling.taken? life moment = some outcome) :
    select ([delivered, failed, true].zip (handling.branches life moment)) = .settled outcome := by
  cases handling.standing moment.age with
  | silent unheard first second =>
      rw [taken?, unheard, Option.none_or] at taken
      obtain ⟨error, ceased, rfl⟩ := Option.map_eq_some_iff.mp taken
      simp [select, branches, first, second, Lifetime.polled, ceased, Polled.outcome?]
  | closed unheard first second =>
      rw [taken?, unheard, Option.none_or] at taken
      obtain ⟨error, ceased, rfl⟩ := Option.map_eq_some_iff.mp taken
      simp [select, branches, first, second, Lifetime.polled, ceased, Polled.outcome?]
  | acknowledged report heard first second =>
      rw [taken?, heard, Option.some_or] at taken
      cases taken
      have on := enabled_of_ne enables.delivered (by rw [first]; simp)
      simp [select, branches, first, on, Polled.outcome?]
  | failed report heard first second =>
      rw [taken?, heard, Option.some_or] at taken
      cases taken
      have on := enabled_of_ne enables.failed (by rw [second]; simp)
      simp [select, branches, first, second, on, Polled.outcome?]

/-- A poll that takes nothing goes on with the branch of the lifetime at least. -/
theorem select_of_not_taken (moment : Moment)
    (enables : handling.Enables moment.age delivered failed)
    (nothing : handling.taken? life moment = none) :
    ∃ delivered' failed', handling.Enables moment.age delivered' failed' ∧
      select ([delivered, failed, true].zip (handling.branches life moment)) =
        .waiting [delivered', failed', true] := by
  rw [taken?, Option.or_eq_none_iff, Option.map_eq_none_iff] at nothing
  obtain ⟨unheard, live⟩ := nothing
  cases handling.standing moment.age with
  | silent _ first second =>
      refine ⟨delivered, failed, enables, ?_⟩
      simp [select, branches, first, second, Lifetime.polled, live, Polled.outcome?,
        Polled.isPending]
  | closed _ first second =>
      refine ⟨false, false, ⟨fun _ => first, fun _ => second⟩, ?_⟩
      simp [select, branches, first, second, Lifetime.polled, live, Polled.outcome?,
        Polled.isPending]
  | acknowledged report heard first second => cases heard.symm.trans unheard
  | failed report heard first second => cases heard.symm.trans unheard

/-! ## All polls -/

variable {sent : Instant} {schedule : Schedule} {polls decisive : Nat} {outcome : PublishOutcome}

/-- The race is decided by the first poll at which there is something to be taken. -/
theorem raceFrom_eq {number : Nat} (enables : handling.Enables (number / 2) delivered failed)
    (from_number : number ≤ decisive) (enough : decisive < number + polls)
    (nothing : ∀ earlier, number ≤ earlier → earlier < decisive →
      handling.taken? life (.nth sent schedule earlier) = none)
    (taken : handling.taken? life (.nth sent schedule decisive) = some outcome) :
    handling.raceFrom life sent schedule polls number [delivered, failed, true] =
      .settled (Moment.nth sent schedule decisive).instant outcome := by
  induction polls generalizing number delivered failed with
  | zero => omega
  | succ polls ih =>
      rw [raceFrom]
      by_cases now : number = decisive
      · subst now
        have selected := select_of_taken (.nth sent schedule number)
          (enables.mono (Moment.le_age_nth sent schedule number)) taken
        simp only [selected]
      · obtain ⟨delivered', failed', enables', selected⟩ :=
          select_of_not_taken (.nth sent schedule number)
            (enables.mono (Moment.le_age_nth sent schedule number))
            (nothing number (Nat.le_refl number) (by omega))
        have later := enables'.mono (Moment.age_nth_le sent schedule number)
        simp only [selected]
        exact ih later (by omega) (by omega) fun earlier since before =>
          nothing earlier (by omega) before

theorem race_eq (enough : decisive < polls)
    (nothing : ∀ earlier < decisive, handling.taken? life (.nth sent schedule earlier) = none)
    (taken : handling.taken? life (.nth sent schedule decisive) = some outcome) :
    handling.race life sent schedule polls =
      .settled (Moment.nth sent schedule decisive).instant outcome := by
  have enables : handling.Enables (0 / 2) true true := ⟨nofun, nofun⟩
  exact raceFrom_eq enables (Nat.zero_le decisive) (by omega)
    (fun earlier _ before => nothing earlier before) taken

theorem raceFrom_add (number : Nat) (enabled : List Bool) (more : Nat) :
    handling.raceFrom life sent schedule polls number enabled = .waiting ∨
      handling.raceFrom life sent schedule (polls + more) number enabled =
        handling.raceFrom life sent schedule polls number enabled := by
  induction polls generalizing number enabled with
  | zero => exact Or.inl rfl
  | succ polls ih =>
      rw [Nat.succ_add, raceFrom, raceFrom]
      cases select (enabled.zip (handling.branches life (.nth sent schedule number))) with
      | settled outcome => exact Or.inr rfl
      | waiting enabled => exact ih (number + 1) enabled
      | exhausted => exact Or.inr rfl

theorem race_add (handling : Handling) (life : Lifetime) (sent : Nat) (schedule : Schedule)
    (polls more : Nat) :
    handling.race life sent schedule polls = .waiting ∨
      handling.race life sent schedule (polls + more) = handling.race life sent schedule polls :=
  raceFrom_add 0 [true, true, true] more

end Handling

/-! ## When a delivery is settled -/

namespace Lifetime

def endBy (life : Lifetime) (bound : Nat) : Nat :=
  min (life.cancelled.getD bound) (min (life.deadline.getD bound) bound)

variable (life : Lifetime) (bound now : Nat)

theorem endBy_le : life.endBy bound ≤ bound :=
  Nat.le_trans (Nat.min_le_right _ _) (Nat.min_le_right _ _)

theorem reached_eq_false_iff (event : Option Nat) :
    reached event now = false ↔ ∀ instant ∈ event, now < instant := by
  cases event with
  | none => simp [reached]
  | some instant => simp [reached]

theorem error?_eq_none_iff :
    life.error? now = none ↔
      (∀ instant ∈ life.cancelled, now < instant) ∧ ∀ instant ∈ life.deadline, now < instant := by
  rw [← reached_eq_false_iff, ← reached_eq_false_iff, error?]
  cases reached life.cancelled now with
  | true => simp
  | false => cases reached life.deadline now <;> simp

theorem reason?_false : life.reason? now false = life.error? now := by
  rw [reason?, error?]
  cases reached life.cancelled now <;> cases reached life.deadline now <;> rfl

theorem reason?_eq_none_iff (deadlineFirst : Bool) :
    life.reason? now deadlineFirst = none ↔ life.error? now = none := by
  rw [reason?, error?]
  cases reached life.cancelled now <;> cases reached life.deadline now <;> simp

theorem lt_endBy_iff :
    now < life.endBy bound ↔ (∀ instant ∈ life.cancelled, now < instant) ∧
      (∀ instant ∈ life.deadline, now < instant) ∧ now < bound := by
  obtain ⟨cancelled, deadline⟩ := life
  rw [endBy, Nat.lt_min, Nat.lt_min]
  cases cancelled with
  | none => cases deadline <;> simp
  | some cancelled => cases deadline <;> simp

theorem error?_tighten_eq_none_iff :
    (life.tighten bound).error? now = none ↔ now < life.endBy bound := by
  rw [error?_eq_none_iff, lt_endBy_iff, tighten]
  cases life.deadline with
  | none => simp [earlier]
  | some deadline =>
      simp only [earlier, Option.mem_def, Option.some.injEq, forall_eq', Nat.lt_min]

theorem reason?_tighten_eq_none_iff (deadlineFirst : Bool) :
    (life.tighten bound).reason? now deadlineFirst = none ↔ now < life.endBy bound := by
  rw [reason?_eq_none_iff, error?_tighten_eq_none_iff]

theorem ending?_tighten_ne_none : (life.tighten bound).ending? ≠ none := by
  obtain ⟨cancelled, deadline⟩ := life
  cases cancelled with
  | none => cases deadline <;> simp [tighten, earlier, ending?]
  | some cancelled =>
      cases deadline with
      | none => simp only [tighten, earlier, ending?]; split <;> simp
      | some deadline => simp only [tighten, earlier, ending?]; split <;> simp

/-- Whoever waits within a bounded lifetime sees its end. -/
theorem await?_tighten :
    ∃ error, (life.tighten bound).await? now = some (max now (life.endBy bound), error) ∧
      (life.tighten bound).error? (max now (life.endBy bound)) = some error := by
  cases ended : (life.tighten bound).error? now with
  | some error =>
      have past : ¬ now < life.endBy bound := by
        rw [← error?_tighten_eq_none_iff, ended]
        simp
      rw [Nat.max_eq_left (Nat.not_lt.mp past)]
      exact ⟨error, by rw [await?, ended], ended⟩
  | none =>
      have ahead := (life.error?_tighten_eq_none_iff bound now).mp ended
      cases awaited : (life.tighten bound).ending? with
      | none => exact absurd awaited (life.ending?_tighten_ne_none bound)
      | some ending =>
          obtain ⟨instant, error⟩ := ending
          obtain ⟨ceased, before⟩ := error?_of_ending? awaited
          -- The end is the first instant at which the lifetime is over.
          have past : ¬ instant < life.endBy bound := by
            rw [← error?_tighten_eq_none_iff, ceased]
            simp
          have first : ¬ life.endBy bound < instant := fun early =>
            Nat.lt_irrefl _ ((life.error?_tighten_eq_none_iff bound _).mp (before _ early))
          have same : life.endBy bound = instant :=
            Nat.le_antisymm (Nat.not_lt.mp past) (Nat.not_lt.mp first)
          rw [Nat.max_eq_right (Nat.le_of_lt ahead), same]
          exact ⟨error, by rw [await?, ended]; exact awaited, ceased⟩

end Lifetime

/-- The instant at which somebody who waits from `now` on, and no longer than `limit`, gives up. -/
def Lifetime.givenUp (life : Lifetime) (now limit : Nat) : Nat :=
  max now (life.endBy (now + limit))

namespace Delivery

variable (delivery : Delivery) (life : Lifetime) (now limit : Nat)

/-- A report comes with the send, or before the end of the wait, or ahead as the wait ends. -/
structure Reports (after : Nat) (ahead : Bool) (report : Report) : Prop where
  used : delivery = .reported after ahead report
  inTime : after = 0 ∨ now + after < life.endBy (now + limit) ∨
    (ahead = true ∧ now + after = life.endBy (now + limit))

def IsLate : Prop :=
  ∀ after ahead report, delivery = .reported after ahead report → after ≠ 0 ∧
    (life.endBy (now + limit) < now + after ∨
      (ahead = false ∧ now + after = life.endBy (now + limit)))

/-- How a delivery can be settled for somebody who sent the message at `now` and waits no longer
than `limit`. -/
inductive Settles : Nat → PublishOutcome → Prop where
  | reported {after : Nat} {ahead : Bool} {report : Report}
      (reports : delivery.Reports life now limit after ahead report) :
      Settles (now + after) report.outcome
  | cancelled {deadlineFirst : Bool} {error : ContextError}
      (late : delivery.IsLate life now limit)
      (reason : (life.tighten (now + limit)).reason? (life.givenUp now limit) deadlineFirst =
        some error) :
      Settles (life.givenUp now limit) (.cancelled error)

theorem settle_cases :
    (∃ after ahead report, delivery.Reports life now limit after ahead report ∧
      delivery.settle life now limit = (now + after, report.outcome)) ∨
    (delivery.IsLate life now limit ∧
      ∃ error, (life.tighten (now + limit)).error? (life.givenUp now limit) = some error ∧
        delivery.settle life now limit = (life.givenUp now limit, .cancelled error)) := by
  obtain ⟨error, awaited, ceased⟩ := life.await?_tighten (now + limit) now
  cases delivery with
  | reported after ahead report =>
      simp only [settle, awaited, Option.getD_some, Lifetime.givenUp]
      by_cases inTime : after = 0 ∨ now + after < life.endBy (now + limit) ∨
          (ahead = true ∧ now + after = life.endBy (now + limit))
      · refine Or.inl ⟨after, ahead, report, ⟨rfl, inTime⟩, if_pos ?_⟩
        refine inTime.imp_right (Or.imp (fun early => ?_) fun ⟨isAhead, tied⟩ => ⟨isAhead, ?_⟩)
        · exact Nat.lt_of_lt_of_le early (Nat.le_max_right _ _)
        · rw [tied, Nat.max_eq_right (tied ▸ Nat.le_add_right now after)]
      · have late : after ≠ 0 ∧ (life.endBy (now + limit) < now + after ∨
            (ahead = false ∧ now + after = life.endBy (now + limit))) := by
          cases ahead <;> simp at inTime ⊢ <;> omega
        refine Or.inr ⟨fun _ _ _ same => ?_, error, ceased, if_neg ?_⟩
        · cases same
          exact late
        · rintro (zero | early | ⟨isAhead, tied⟩)
          · exact late.1 zero
          · exact Nat.not_lt_of_le (Nat.max_le.mpr ⟨Nat.le_add_right now after, by omega⟩) early
          · rcases late.2 with beyond | ⟨behind, _⟩
            · exact Nat.ne_of_gt (Nat.max_lt.mpr ⟨by omega, beyond⟩) tied
            · cases isAhead.symm.trans behind
  | discarded =>
      refine Or.inr ⟨fun _ _ _ same => (by cases same), error, ceased, ?_⟩
      simp only [settle, awaited, Option.getD_some, Lifetime.givenUp]
  | withheld =>
      refine Or.inr ⟨fun _ _ _ same => (by cases same), error, ceased, ?_⟩
      simp only [settle, awaited, Option.getD_some, Lifetime.givenUp]

theorem settles :
    delivery.Settles life now limit (delivery.settle life now limit).1
      (delivery.settle life now limit).2 := by
  obtain ⟨after, ahead, report, reports, settled⟩ | ⟨late, error, ceased, settled⟩ :=
    delivery.settle_cases life now limit
  · rw [settled]
    exact .reported reports
  · rw [settled]
    rw [← Lifetime.reason?_false] at ceased
    exact .cancelled late ceased

end Delivery

namespace Handling

variable {handling : Handling} {life : Lifetime} {now limit polls : Nat} {schedule : Schedule}

theorem heard?_eq_none (schedule : Schedule) {age : Nat}
    (late : ∀ after ahead report,
      handling.delivery schedule.ahead = .reported after ahead report → age < after) :
    handling.heard? age = none := by
  cases handling with
  | used after report => exact if_neg (Nat.not_le.mpr (late after _ report rfl))
  | dropped after => rfl
  | kept => rfl

theorem of_delivery_eq {after : Nat} {ahead : Bool} {report : Report}
    (used : handling.delivery schedule.ahead = .reported after ahead report) :
    handling = .used after report ∧ schedule.ahead after = ahead := by
  cases handling with
  | used other given =>
      cases used
      exact ⟨rfl, rfl⟩
  | dropped other => cases used
  | kept => cases used

def decisive (schedule : Schedule) (after : Nat) : Nat :=
  if schedule.ahead after then 2 * after - 1 else 2 * after

theorem instant_decisive (schedule : Schedule) (after : Nat) :
    (decisive schedule after + 1) / 2 = after := by
  rw [decisive]
  split <;> omega

theorem age_decisive (sent after : Nat) (schedule : Schedule) :
    (Moment.nth sent schedule (decisive schedule after)).age = after := by
  cases ahead : schedule.ahead after with
  | true =>
      rw [Moment.age_nth_of_ahead] <;> rw [instant_decisive]
      exact ahead
  | false =>
      rw [Moment.age_nth_of_not_ahead]
      · rw [decisive, ahead]
        simp
      · rwa [instant_decisive]

theorem age_lt_of_lt_decisive (sent : Nat) {schedule : Schedule} {after number : Nat}
    (before : number < decisive schedule after) :
    (Moment.nth sent schedule number).age < after := by
  have le := Moment.age_nth_le sent schedule number
  rw [decisive] at before
  cases ahead : schedule.ahead after with
  | true =>
      rw [ahead, if_pos rfl] at before
      omega
  | false =>
      rw [ahead, if_neg Bool.false_ne_true] at before
      rcases Nat.lt_or_ge ((number + 1) / 2) after with early | due
      · exact Nat.lt_of_le_of_lt le early
      -- This is the first poll at the instant of the report, which does not see it.
      · have same : (number + 1) / 2 = after := by omega
        rw [Moment.age_nth_of_not_ahead sent schedule number (by rw [same]; exact ahead)]
        omega

/-- The first poll that sees a report takes it if that is in time. -/
theorem race_eq_reported (enough : 2 * limit < polls) {after : Nat} {ahead : Bool} {report : Report}
    (reports : (handling.delivery schedule.ahead).Reports life now limit after ahead report) :
    handling.race (life.tighten (now + limit)) now schedule polls =
      .settled (now + after) report.outcome := by
  obtain ⟨used, inTime⟩ := reports
  obtain ⟨rfl, rfl⟩ := of_delivery_eq used
  have bounded := life.endBy_le (now + limit)
  have place := instant_decisive schedule after
  have first : schedule.ahead after = true → decisive schedule after = 2 * after - 1 :=
    fun ahead => if_pos ahead
  have nothing : ∀ earlier < decisive schedule after,
      taken? (.used after report) (life.tighten (now + limit)) (.nth now schedule earlier) = none := by
    intro earlier before
    have unheard : heard? (.used after report) (Moment.nth now schedule earlier).age = none :=
      if_neg (Nat.not_le.mpr (age_lt_of_lt_decisive now before))
    have alive := (life.reason?_tighten_eq_none_iff (now + limit) (now + (earlier + 1) / 2)
      (schedule.deadlineFirst earlier)).mpr (by
        rcases inTime with zero | early | ⟨ahead, tied⟩
        · omega
        · omega
        · rw [first ahead] at before
          omega)
    simp only [taken?, unheard, Moment.instant_nth, Moment.deadlineFirst_nth, alive, Option.map_none,
      Option.or_none]
  have taken : taken? (.used after report) (life.tighten (now + limit))
      (.nth now schedule (decisive schedule after)) = some report.outcome := by
    rw [taken?, age_decisive, heard?, if_pos (Nat.le_refl after), Option.some_or]
  have raced := race_eq (show decisive schedule after < polls by omega) nothing taken
  rwa [Moment.instant_nth, place] at raced

/-- The first poll at the end of the lifetime, or the very first one, takes that end. -/
theorem race_eq_cancelled (schedule : Schedule) (enough : 2 * limit < polls)
    (late : (handling.delivery schedule.ahead).IsLate life now limit) :
    ∃ number error,
      (life.tighten (now + limit)).reason? (life.givenUp now limit)
        (schedule.deadlineFirst number) = some error ∧
      handling.race (life.tighten (now + limit)) now schedule polls =
        .settled (life.givenUp now limit) (.cancelled error) := by
  have bounded := life.endBy_le (now + limit)
  have alive := life.reason?_tighten_eq_none_iff (now + limit)
  rw [Lifetime.givenUp]
  rw [Delivery.IsLate] at late
  generalize life.endBy (now + limit) = bound at late bounded alive ⊢
  have last : (2 * (bound - now) - 1 + 1) / 2 = bound - now := by omega
  have unheard : ∀ number ≤ 2 * (bound - now) - 1,
      handling.heard? (Moment.nth now schedule number).age = none := by
    intro number before
    refine heard?_eq_none schedule fun after ahead report used => ?_
    obtain ⟨later, beyond | ⟨rfl, tied⟩⟩ := late after ahead report used
    · have := Moment.age_nth_le now schedule number
      omega
    · have behind := (of_delivery_eq used).2
      refine age_lt_of_lt_decisive now ?_
      rw [decisive, behind, if_neg Bool.false_ne_true]
      omega
  have nothing : ∀ earlier < 2 * (bound - now) - 1,
      handling.taken? (life.tighten (now + limit)) (.nth now schedule earlier) = none := by
    intro earlier before
    simp only [taken?, Moment.instant_nth, Moment.deadlineFirst_nth,
      unheard earlier (Nat.le_of_lt before),
      (alive (now + (earlier + 1) / 2) (schedule.deadlineFirst earlier)).mpr (by omega),
      Option.map_none, Option.or_none]
  have due : now + (2 * (bound - now) - 1 + 1) / 2 = max now bound := by omega
  have ended : (life.tighten (now + limit)).reason? (max now bound)
      (schedule.deadlineFirst (2 * (bound - now) - 1)) ≠ none := by
    rw [ne_eq, alive]
    exact Nat.not_lt.mpr (Nat.le_max_right now bound)
  obtain ⟨error, reason⟩ := Option.ne_none_iff_exists'.mp ended
  have taken : handling.taken? (life.tighten (now + limit))
      (.nth now schedule (2 * (bound - now) - 1)) = some (.cancelled error) := by
    simp only [taken?, Moment.instant_nth, Moment.deadlineFirst_nth, unheard _ (Nat.le_refl _), due,
      reason, Option.map_some, Option.none_or]
  have raced := race_eq (show 2 * (bound - now) - 1 < polls by omega) nothing taken
  rw [Moment.instant_nth, due] at raced
  exact ⟨_, error, reason, raced⟩

variable (handling life now limit)

/-- Every race comes to an end: it is settled after some polls, in one of the ways in which the
delivery can be settled, and until then it goes on. -/
theorem race_settles (schedule : Schedule) :
    ∃ instant outcome,
      (handling.delivery schedule.ahead).Settles life now limit instant outcome ∧
      ∀ polls, handling.race (life.tighten (now + limit)) now schedule polls =
          .settled instant outcome ∨
        handling.race (life.tighten (now + limit)) now schedule polls = .waiting ∧
          polls ≤ 2 * limit := by
  have settled : ∃ instant outcome,
      (handling.delivery schedule.ahead).Settles life now limit instant outcome ∧
      handling.race (life.tighten (now + limit)) now schedule (2 * limit + 1) =
        .settled instant outcome := by
    obtain ⟨after, ahead, report, reports, _⟩ | ⟨late, _⟩ :=
      (handling.delivery schedule.ahead).settle_cases life now limit
    · exact ⟨_, _, .reported reports, race_eq_reported (Nat.lt_succ_self _) reports⟩
    · obtain ⟨number, error, reason, raced⟩ :=
        race_eq_cancelled schedule (Nat.lt_succ_self (2 * limit)) late
      exact ⟨_, _, .cancelled late reason, raced⟩
  obtain ⟨instant, outcome, settles, raced⟩ := settled
  refine ⟨instant, outcome, settles, fun polls => ?_⟩
  rcases Nat.lt_or_ge (2 * limit) polls with more | fewer
  · obtain ⟨others, rfl⟩ := Nat.exists_eq_add_of_le (Nat.succ_le_of_lt more)
    have kept := handling.race_add (life.tighten (now + limit)) now schedule (2 * limit + 1) others
    rw [raced] at kept
    exact Or.inl (kept.resolve_left nofun)
  · obtain ⟨others, split⟩ := Nat.exists_eq_add_of_le (Nat.le_succ_of_le fewer)
    have kept := handling.race_add (life.tighten (now + limit)) now schedule polls others
    rw [← split, raced] at kept
    exact kept.symm.imp Eq.symm fun waiting => ⟨waiting, fewer⟩

/-- If a cancellation always is taken before a deadline, a race is settled as its delivery is. -/
theorem race_eq_settle (ahead : Nat → Bool) (enough : 2 * limit < polls) :
    handling.race (life.tighten (now + limit)) now ⟨fun _ => false, ahead⟩ polls =
      .settled ((handling.delivery ahead).settle life now limit).1
        ((handling.delivery ahead).settle life now limit).2 := by
  obtain ⟨after, _, report, reports, settled⟩ | ⟨late, error, ceased, settled⟩ :=
    (handling.delivery ahead).settle_cases life now limit
  · rw [settled]
    exact race_eq_reported enough reports
  · obtain ⟨_, reason, found, raced⟩ := race_eq_cancelled ⟨fun _ => false, ahead⟩ enough late
    rw [Lifetime.reason?_false, ceased] at found
    cases found
    rw [settled]
    exact raced

end Handling

end Checkout

import Checkout.Proofs.Bookkeeping
import Checkout.Proofs.Polling
import Checkout.Services.World

/-!
# Three views of the end of a context

A context tells that it is over when it is asked, whoever waits for its end is woken, and work that
is run under it is given up.  All three happen for the same reason and at the same instant, the
first at which there is something to tell, whatever is left to chance.

Chance has a say in one case only.  If the work is finished at the very instant at which the context
ends, whichever is looked at first decides what comes of it, unless the work itself cancels the
context in the poll in which it is finished: then it has its own outcome in any case.
-/

set_option autoImplicit false

namespace Checkout

/-- The first instant at which there is an error, and the error. -/
structure FirstError (err : Instant → Option ContextError) (instant : Instant)
    (error : ContextError) : Prop where
  found : err instant = some error
  before : ∀ earlier < instant, err earlier = none

namespace Lifetime

variable {life : Lifetime} {now instant : Instant} {error : ContextError}

theorem firstError_of_ending? (ends : life.ending? = some (instant, error)) :
    FirstError life.error? instant error := by
  obtain ⟨found, before⟩ := error?_of_ending? ends
  exact ⟨found, before⟩

theorem error?_of_ending?_eq_none (endless : life.ending? = none) (now : Instant) :
    life.error? now = none := by
  obtain ⟨cancelled, deadline⟩ := life
  cases cancelled with
  | none =>
      cases deadline with
      | none => rfl
      | some deadline => cases endless
  | some cancelled =>
      cases deadline with
      | none => cases endless
      | some deadline =>
          rw [ending?] at endless
          split at endless
          · cases endless
          · cases endless

theorem reached_eq_true_iff {event : Option Instant} :
    reached event now = true ↔ ∃ due, event = some due ∧ due ≤ now := by
  cases event with
  | none => simp [reached]
  | some due => simp [reached]

theorem error?_lasts {earlier later : Instant} (le : earlier ≤ later)
    (found : life.error? earlier = some error) :
    ∃ reason, life.error? later = some reason ∧ (error = .cancelled → reason = .cancelled) := by
  have reached_mono : ∀ event, reached event earlier = true → reached event later = true := by
    intro event reached_by
    obtain ⟨due, is_due, past⟩ := reached_eq_true_iff.mp reached_by
    exact reached_eq_true_iff.mpr ⟨due, is_due, Nat.le_trans past le⟩
  rw [error?] at found ⊢
  by_cases cancelled : reached life.cancelled earlier = true
  · rw [if_pos (reached_mono _ cancelled)]
    exact ⟨.cancelled, rfl, fun _ => rfl⟩
  · rw [if_neg cancelled] at found
    by_cases expired : reached life.deadline earlier = true
    · rw [if_pos expired] at found
      cases found
      by_cases since : reached life.cancelled later = true
      · rw [if_pos since]
        exact ⟨.cancelled, rfl, fun _ => rfl⟩
      · rw [if_neg since, if_pos (reached_mono _ expired)]
        exact ⟨.deadlineExceeded, rfl, id⟩
    · rw [if_neg expired] at found
      cases found

theorem le_of_firstError (live : ∀ earlier < now, life.error? earlier = none)
    (first : FirstError life.error? instant error) : now ≤ instant := by
  apply Nat.le_of_not_lt
  intro past
  cases (live instant past).symm.trans first.found

theorem error?_before (live : life.error? now = none) (earlier : Instant) (before : earlier < now) :
    life.error? earlier = none :=
  error?_of_le live (Nat.le_of_lt before)

/-- The cancellation and the deadline do not fall on one instant. -/
def Apart (life : Lifetime) : Prop :=
  ∀ cancel, life.cancelled = some cancel → life.deadline ≠ some cancel

/-- At the first instant there is but one reason, in whatever order they are looked for. -/
theorem reason?_of_firstError (apart : life.Apart) (first : FirstError life.error? instant error)
    (deadlineFirst : Bool) : life.reason? instant deadlineFirst = some error := by
  have found := first.found
  rw [error?] at found
  rw [reason?]
  cases cancelled : reached life.cancelled instant with
  | false =>
      cases expired : reached life.deadline instant with
      | false => simp [cancelled, expired] at found
      | true => simpa [cancelled, expired] using found
  | true =>
      cases expired : reached life.deadline instant with
      | false => simpa [cancelled, expired] using found
      | true =>
          obtain ⟨cancel, cancels, cancel_le⟩ := reached_eq_true_iff.mp cancelled
          obtain ⟨deadline, expires, deadline_le⟩ := reached_eq_true_iff.mp expired
          rcases Nat.lt_trichotomy cancel deadline with sooner | same | later
          · have live := first.before cancel (Nat.lt_of_lt_of_le sooner deadline_le)
            have ahead := ((error?_eq_none_iff _ _).mp live).1 cancel cancels
            exact absurd ahead (Nat.lt_irrefl cancel)
          · rw [same] at cancels
            exact absurd expires (apart deadline cancels)
          · have live := first.before deadline (Nat.lt_of_lt_of_le later cancel_le)
            have ahead := ((error?_eq_none_iff _ _).mp live).2 deadline expires
            exact absurd ahead (Nat.lt_irrefl deadline)

/-- The deadline has come at the first instant if it is the reason. -/
theorem reached_deadline_of_firstError (apart : life.Apart)
    (first : FirstError life.error? instant error) :
    reached life.deadline instant = decide (error = .deadlineExceeded) := by
  have flagFirst := reason?_of_firstError apart first false
  have timerFirst := reason?_of_firstError apart first true
  rw [reason?] at flagFirst timerFirst
  cases cancelled : reached life.cancelled instant with
  | false =>
      cases expired : reached life.deadline instant with
      | false => simp [cancelled, expired] at flagFirst
      | true => simpa [cancelled, expired, eq_comm] using flagFirst
  | true =>
      cases expired : reached life.deadline instant with
      | false =>
          simp only [cancelled, expired] at flagFirst
          cases flagFirst
          rfl
      | true =>
          simp only [cancelled, expired, Bool.false_eq_true, if_true, if_false]
            at flagFirst timerFirst
          cases flagFirst.trans timerFirst.symm

end Lifetime

/-! ## Waiting for the end -/

/-- What somebody sees who waits for the first error. -/
inductive Sees (err : Instant → Option ContextError) : Option (Instant × ContextError) → Prop where
  | ends {instant : Instant} {error : ContextError} (first : FirstError err instant error) :
    Sees err (some (instant, error))
  | endless (live : ∀ now, err now = none) : Sees err none

/-- What comes of work that has its outcome at `finish`, if ever, where the first error ends it.  Of
two things at one instant the one is taken that is looked at first; but a cancellation that is the
work's `own` cannot be seen before the work is looked at. -/
inductive RunsTo {ε τ : Type} (err : Instant → Option ContextError) (workFirst own : Instant → Bool)
    (wrap : ContextError → ε) (finish : Option Instant) (outcome : Except ε τ) :
    Option (Instant × Except ε τ) → Prop where
  | finished {instant : Instant} (finishes : finish = some instant)
    (live : ∀ now ≤ instant, err now = none) :
    RunsTo err workFirst own wrap finish outcome (some (instant, outcome))
  | tied {instant : Instant} {error : ContextError} (finishes : finish = some instant)
    (first : FirstError err instant error)
    (taken : workFirst instant = true ∨ own instant = true ∧ error = .cancelled) :
    RunsTo err workFirst own wrap finish outcome (some (instant, outcome))
  | abandoned {instant : Instant} {error : ContextError} (first : FirstError err instant error)
    (unfinished : ∀ later ∈ finish, instant < later ∨
      instant = later ∧ ¬ (workFirst instant = true ∨ own instant = true ∧ error = .cancelled)) :
    RunsTo err workFirst own wrap finish outcome (some (instant, .error (wrap error)))
  | endless (never : finish = none) (live : ∀ now, err now = none) :
    RunsTo err workFirst own wrap finish outcome none

theorem FirstError.eq {err : Instant → Option ContextError} {first second : Instant}
    {error other : ContextError} (one : FirstError err first error)
    (two : FirstError err second other) : first = second ∧ error = other := by
  rcases Nat.lt_trichotomy first second with sooner | rfl | later
  · cases one.found.symm.trans (two.before first sooner)
  · cases one.found.symm.trans two.found
    exact ⟨rfl, rfl⟩
  · cases two.found.symm.trans (one.before second later)

theorem Sees.eq_of_firstError {err : Instant → Option ContextError} {instant : Instant}
    {error : ContextError} {seen : Option (Instant × ContextError)} (sees : Sees err seen)
    (first : FirstError err instant error) : seen = some (instant, error) := by
  cases sees with
  | ends other =>
      obtain ⟨rfl, rfl⟩ := other.eq first
      rfl
  | endless live => cases (live instant).symm.trans first.found

namespace Lifetime

variable {life : Lifetime} {start : Instant}

theorem sees_ending? (life : Lifetime) : Sees life.error? life.ending? := by
  cases ends : life.ending? with
  | none => exact .endless (error?_of_ending?_eq_none ends)
  | some ending => exact .ends (firstError_of_ending? ends)

theorem sees_await? (live : life.error? start = none) : Sees life.error? (life.await? start) := by
  rw [await?, live]
  exact life.sees_ending?

variable {ε τ : Type} (wrap : ContextError → ε) (outcome : Except ε τ)

theorem exists_runsTo (life : Lifetime) (workFirst own : Instant → Bool) (finish : Option Instant) :
    ∃ result, RunsTo life.error? workFirst own wrap finish outcome result := by
  obtain ⟨seen, sees⟩ : ∃ seen, Sees life.error? seen := ⟨_, life.sees_ending?⟩
  cases sees with
  | endless live =>
      cases finish with
      | none => exact ⟨_, .endless rfl live⟩
      | some finish => exact ⟨_, .finished rfl fun now _ => live now⟩
  | @ends instant error first =>
      cases finish with
      | none =>
          refine ⟨_, .abandoned first ?_⟩
          rintro later ⟨⟩
      | some finish =>
          rcases Nat.lt_trichotomy finish instant with sooner | rfl | later
          · refine ⟨_, .finished rfl fun now le => ?_⟩
            exact first.before now (Nat.lt_of_le_of_lt le sooner)
          · by_cases taken : workFirst finish = true ∨ own finish = true ∧ error = .cancelled
            · exact ⟨_, .tied rfl first taken⟩
            · refine ⟨_, .abandoned first ?_⟩
              rintro later ⟨⟩
              exact Or.inr ⟨rfl, taken⟩
          · refine ⟨_, .abandoned first ?_⟩
            rintro other ⟨⟩
            exact Or.inl later

end Lifetime

def Course.result {ε τ : Type} (wrap : ContextError → ε) (outcome : Except ε τ)
    (start : Instant) : Course → Option (Instant × Except ε τ)
  | .refused error => some (start, .error (wrap error))
  | .finished instant => some (instant, outcome)
  | .abandoned instant error => some (instant, .error (wrap error))
  | .endless => none

namespace Lifetime

variable {life : Lifetime} {start : Instant} {ε τ : Type} (wrap : ContextError → ε)
  (outcome : Except ε τ) (delay : Option Nat)

section Races

variable (hangsUp : Bool) (before : ∀ earlier < start, life.error? earlier = none)
  (cancelled : life.error? start = if hangsUp then some .cancelled else none)

include before cancelled

theorem sees_await?_of_cancelled : Sees life.error? (life.await? start) := by
  cases hangsUp with
  | false => exact sees_await? cancelled
  | true =>
      have found : life.error? start = some .cancelled := cancelled
      rw [await?, found]
      exact .ends ⟨found, before⟩

/-- Work that is not done before its context ends is abandoned then, unless its first poll did both. -/
theorem runsTo_race_of_late {length : Nat} {instant : Instant} {error : ContextError}
    (awaited : life.await? start = some (instant, error))
    (first : FirstError life.error? instant error) (late : ¬ start + length < instant) :
    RunsTo life.error? (fun _ => false) (fun now => hangsUp && now == start) wrap
      (some (start + length)) outcome
      ((life.race start (some length)).result wrap outcome start) := by
  have ended : instant ≤ start + length := Nat.le_of_not_lt late
  by_cases atOnce : length = 0
  · subst atOnce
    have same : instant = start := Nat.le_antisymm ended (le_of_firstError before first)
    subst same
    have own : hangsUp = true ∧ error = .cancelled := by
      rw [first.found] at cancelled
      cases hangsUp with
      | false => cases cancelled
      | true =>
          cases cancelled
          exact ⟨rfl, rfl⟩
    simp only [race, awaited, true_or, if_true, Course.result]
    refine .tied rfl first (Or.inr ⟨?_, own.2⟩)
    simp [own.1]
  · simp only [race, awaited, atOnce, late, or_self, if_false, Course.result]
    refine .abandoned first ?_
    rintro later ⟨⟩
    refine (Nat.lt_or_eq_of_le ended).imp_right fun same => ⟨same, ?_⟩
    simp [same, atOnce]

/-- A race is what comes of work if the end of the context is looked at first, and the work may have
cancelled it in its first poll. -/
theorem runsTo_race :
    RunsTo life.error? (fun _ => false) (fun now => hangsUp && now == start) wrap
      (delay.map (start + ·)) outcome ((life.race start delay).result wrap outcome start) := by
  have sees := sees_await?_of_cancelled hangsUp before cancelled
  cases awaited : life.await? start with
  | none =>
      rw [awaited] at sees
      cases sees with
      | endless live =>
          cases delay with
          | none =>
              simp only [race, awaited, Course.result]
              exact .endless rfl live
          | some length =>
              simp only [race, awaited, Course.result]
              exact .finished rfl fun now _ => live now
  | some ending =>
      obtain ⟨instant, error⟩ := ending
      rw [awaited] at sees
      cases sees with
      | ends first =>
          cases delay with
          | none =>
              simp only [race, awaited, Course.result]
              exact .abandoned first (by rintro later ⟨⟩)
          | some length =>
              by_cases sooner : start + length < instant
              · simp only [race, awaited, sooner, or_true, if_true, Course.result]
                refine .finished rfl fun now le => ?_
                exact first.before now (Nat.lt_of_le_of_lt le sooner)
              · exact runsTo_race_of_late wrap outcome hangsUp before cancelled awaited first sooner

end Races

/-- The course of work that leaves its context alone is that of somebody who looks at the end of the
context first. -/
theorem runsTo_course (live : life.error? start = none) :
    RunsTo life.error? (fun _ => false) (fun _ => false) wrap (delay.map (start + ·)) outcome
      ((life.course start delay).result wrap outcome start) := by
  rw [course, live]
  exact runsTo_race wrap outcome delay false (error?_before live) live

end Lifetime

namespace Context

variable {tenures : Handle → Tenure} {context : Context} (chance : Chance) {watcher : Watcher}
  {now start : Instant}

/-- The lifetime of a context under handles of which it is known when they cancel. -/
def bounds (tenures : Handle → Tenure) (context : Context) : Lifetime :=
  context.lifetime fun handle => (tenures handle).cancelled?

theorem bounds_eq :
    context.bounds tenures = (context.tenure tenures).lifetime context.deadline := by
  cases held : context.handle with
  | none => simp [bounds, lifetime, tenure, Tenure.lifetime, held, Tenure.unheld, Tenure.cancelled?]
  | some handle => simp [bounds, lifetime, tenure, Tenure.lifetime, held]

theorem error?_eq : context.error? tenures = (context.bounds tenures).error? := by
  funext now
  rw [error?, errorIn, signal, Tenure.flag_signal, bounds_eq]
  rfl

theorem flag_signal_of_live (live : (context.bounds tenures).error? now = none) :
    ((context.tenure tenures).signal now).flag = false := by
  rw [← error?_eq, error?, errorIn, signal] at live
  cases set : ((context.tenure tenures).signal now).flag with
  | true => simp [set] at live
  | false => rfl

/-- If the work is polled at all, nothing has ended its context before. -/
theorem error?_of_errorFound? {own : Instant → Bool}
    (found : context.errorFound? tenures own start = none) (earlier : Instant)
    (before : earlier < start) : (context.bounds tenures).error? earlier = none := by
  rw [errorFound?, signalFound] at found
  cases isOwn : own start with
  | false =>
      rw [isOwn, if_neg Bool.false_ne_true] at found
      have live : context.error? tenures start = none := found
      rw [error?_eq] at live
      exact Lifetime.error?_before live earlier before
  | true =>
      obtain ⟨last, rfl⟩ := Nat.exists_eq_succ_of_ne_zero (Nat.ne_zero_of_lt before)
      rw [isOwn, if_pos rfl, errorIn, Tenure.signalBefore] at found
      have live : context.error? tenures last = none := by
        rw [error?, errorIn, signal]
        cases set : ((context.tenure tenures).signal last).flag with
        | true => simp [set] at found
        | false =>
            cases expired : Lifetime.reached context.deadline last with
            | false => rfl
            | true =>
                obtain ⟨deadline, expires, past⟩ := Lifetime.reached_eq_true_iff.mp expired
                have since := Lifetime.reached_eq_true_iff.mpr
                  ⟨deadline, expires, Nat.le_succ_of_le past⟩
                simp [set, since] at found
      rw [error?_eq] at live
      exact Lifetime.error?_of_le live (Nat.le_of_lt_succ before)

theorem quiet_signalBefore
    (before : ∀ earlier < now, (context.bounds tenures).error? earlier = none) :
    (context.tenure tenures).Quiet ((context.tenure tenures).signalBefore now) :=
  Tenure.quiet_signalBefore fun earlier sooner => flag_signal_of_live (before earlier sooner)

/-- The work is polled if nothing has ended its context by then, its own cancellation apart. -/
theorem errorFound?_eq_none {own : Instant → Bool}
    (before : ∀ earlier < start, (context.bounds tenures).error? earlier = none)
    (live : (context.bounds tenures).error? start = none ∨
      own start = true ∧ Lifetime.reached (context.bounds tenures).deadline start = false) :
    context.errorFound? tenures own start = none := by
  rw [errorFound?, signalFound]
  cases isOwn : own start with
  | false =>
      have alive := live.resolve_right fun cancels => by simp [isOwn] at cancels
      rw [← error?_eq] at alive
      exact alive
  | true =>
      have unexpired : Lifetime.reached context.deadline start = false := by
        rcases live with alive | ⟨_, unexpired⟩
        · exact (Lifetime.reached_eq_false_iff _ _).mpr ((Lifetime.error?_eq_none_iff _ _).mp alive).2
        · exact unexpired
      rw [if_pos rfl, errorIn, (quiet_signalBefore before).flag_eq, unexpired]
      rfl

theorem pollDone_fst (waits : watcher.Waits (context.tenure tenures)) :
    (context.pollDone tenures chance now watcher).1 =
      (context.bounds tenures).reason? now (chance.deadlineFirst now) := by
  rw [bounds_eq]
  exact Watcher.await_fst context.deadline (chance.deadlineFirst now) waits

theorem pollDone_of_live (waits : watcher.Waits (context.tenure tenures))
    (live : (context.bounds tenures).error? now = none) :
    (context.pollDone tenures chance now watcher).1 = none ∧
      (context.pollDone tenures chance now watcher).2.Waits (context.tenure tenures) := by
  constructor
  · rw [pollDone_fst chance waits, Lifetime.reason?_eq_none_iff]
    exact live
  · rw [bounds_eq] at live
    exact Watcher.waits_await context.deadline (chance.deadlineFirst now) waits live

/-- The loop and the timer have not missed the end: there is a reason for a poll. -/
theorem wokenDone_of_error? {error : ContextError}
    (waits : watcher.Waits (context.tenure tenures))
    (ended : (context.bounds tenures).error? now = some error) :
    context.wokenDone tenures chance now watcher = true := by
  rw [wokenDone]
  cases expired : Lifetime.reached context.deadline now with
  | true => simp
  | false =>
      cases stepped : watcher.step (context.signal tenures now) with
      | some next => rfl
      | none =>
          cases set : (context.signal tenures now).flag with
          | true =>
              have cancelled := Watcher.poll_of_flag waits set
              rw [signal] at stepped
              rw [Watcher.poll_of_wait stepped] at cancelled
              rw [cancelled] at waits
              exact waits.elim
          | false =>
              rw [← error?_eq, error?, errorIn, set, expired] at ended
              cases ended

/-- Whoever waits sees the first error, if the span of time reaches so far. -/
theorem done_eq {seen : Option (Instant × ContextError)} (apart : (context.bounds tenures).Apart)
    (live : (context.bounds tenures).error? start = none)
    (sees : Sees (context.bounds tenures).error? seen) (span : Nat) :
    context.done tenures chance start span =
      seen.filter fun ending => decide (ending.1 < start + span) := by
  apply pollUntil_eq_filter fun watcher => watcher.Waits (context.tenure tenures)
  · intro now watcher early waits
    apply pollDone_of_live chance waits
    cases sees with
    | ends first => exact first.before now (early _ rfl)
    | endless live => exact live now
  · intro ending is_seen watcher waits
    cases sees with
    | endless live => cases is_seen
    | ends first =>
        cases is_seen
        refine ⟨wokenDone_of_error? chance waits first.found, ?_⟩
        rw [pollDone_fst chance waits]
        exact Lifetime.reason?_of_firstError apart first _
  · intro ending is_seen
    cases sees with
    | endless live => cases is_seen
    | ends first =>
        cases is_seen
        exact Lifetime.le_of_firstError (Lifetime.error?_before live) first
  · trivial

/-! ## Running work -/

section Running

variable {ε τ : Type} {own : Instant → Bool} {wrap : ContextError → ε} {finish : Option Instant}
  {outcome : Except ε τ} {result : Option (Instant × Except ε τ)} {running : Running}

/-- A look before the work is polled finds nothing under a live context. -/
theorem lookIn_of_live (own : Instant → Bool) (waits : watcher.Waits (context.tenure tenures))
    (live : (context.bounds tenures).error? now = none) :
    (context.lookIn chance (context.signalFound tenures own now) now watcher).1 = none ∧
      (context.lookIn chance (context.signalFound tenures own now) now watcher).2.Waits
        (context.tenure tenures) := by
  rw [signalFound]
  cases own now with
  | false => exact pollDone_of_live chance waits live
  | true =>
      have quiet := quiet_signalBefore (Lifetime.error?_before live)
      have unexpired : Lifetime.reached context.deadline now = false :=
        (Lifetime.reached_eq_false_iff _ _).mpr ((Lifetime.error?_eq_none_iff _ _).mp live).2
      obtain ⟨found, kept⟩ :=
        Watcher.await_of_quiet context.deadline now (chance.deadlineFirst now) waits quiet
      rw [unexpired] at found
      exact ⟨found, kept unexpired⟩

/-- At the first instant at which there is an error, a look before the work is polled finds it, unless
it is the work's own doing. -/
theorem lookIn_of_firstError {instant : Instant} {error : ContextError} (own : Instant → Bool)
    (apart : (context.bounds tenures).Apart)
    (first : FirstError (context.bounds tenures).error? instant error)
    (waits : watcher.Waits (context.tenure tenures)) :
    (own instant = true ∧ error = .cancelled ∧
      (context.lookIn chance (context.signalFound tenures own instant) instant watcher).1 = none ∧
      (context.lookIn chance (context.signalFound tenures own instant) instant watcher).2.Waits
        (context.tenure tenures)) ∨
    ¬ (own instant = true ∧ error = .cancelled) ∧
      (context.lookIn chance (context.signalFound tenures own instant) instant watcher).1 =
        some error := by
  have reason := Lifetime.reason?_of_firstError apart first
  rw [signalFound]
  cases isOwn : own instant with
  | false =>
      refine Or.inr ⟨by simp, ?_⟩
      exact (pollDone_fst chance waits).trans (reason _)
  | true =>
      have quiet := quiet_signalBefore first.before
      obtain ⟨found, kept⟩ :=
        Watcher.await_of_quiet context.deadline instant (chance.deadlineFirst instant) waits quiet
      have deadline_eq : Lifetime.reached context.deadline instant =
          decide (error = .deadlineExceeded) :=
        Lifetime.reached_deadline_of_firstError apart first
      rw [deadline_eq] at found kept
      cases error with
      | cancelled => exact Or.inl ⟨rfl, rfl, found, kept rfl⟩
      | deadlineExceeded => exact Or.inr ⟨by simp, found⟩

theorem pollRun_of_live (waits : running.watcher.Waits (context.tenure tenures))
    (live : (context.bounds tenures).error? now = none)
    (unfinished : Lifetime.reached finish now = false) :
    (context.pollRun tenures chance own wrap finish outcome now running).1 = none ∧
      (context.pollRun tenures chance own wrap finish outcome now running).2.watcher.Waits
        (context.tenure tenures) := by
  obtain ⟨silent, kept⟩ := lookIn_of_live chance own waits live
  rw [pollRun, unfinished]
  cases chance.workFirst now with
  | true =>
      obtain ⟨silent, kept⟩ := pollDone_of_live chance waits live
      simp only [if_true, Bool.false_eq_true, if_false, silent, Option.map_none]
      exact ⟨trivial, kept⟩
  | false =>
      obtain ⟨quiet, still⟩ := pollDone_of_live chance kept live
      simp only [Bool.false_eq_true, if_false, silent, quiet, Option.map_none]
      exact ⟨trivial, still⟩

/-- Before anything comes of the work it is not finished, and the context is live. -/
theorem unfinished_of_runsTo {life : Lifetime} {workFirst : Instant → Bool}
    (runs : RunsTo life.error? workFirst own wrap finish outcome result)
    (early : ∀ due ∈ result, now < due.1) :
    life.error? now = none ∧ Lifetime.reached finish now = false := by
  rw [Lifetime.reached_eq_false_iff]
  cases runs with
  | finished finishes live =>
      have before : now < _ := early _ rfl
      refine ⟨live now (Nat.le_of_lt before), ?_⟩
      intro instant member
      cases finishes.symm.trans member
      exact before
  | tied finishes first taken =>
      have before : now < _ := early _ rfl
      refine ⟨first.before now before, ?_⟩
      intro instant member
      cases finishes.symm.trans member
      exact before
  | abandoned first unfinished =>
      have before : now < _ := early _ rfl
      refine ⟨first.before now before, ?_⟩
      intro instant member
      rcases unfinished instant member with later | ⟨same, _⟩
      · exact Nat.lt_trans before later
      · exact same ▸ before
  | endless never live =>
      refine ⟨live now, ?_⟩
      intro instant member
      cases never.symm.trans member

/-- The poll at the instant at which something comes of the work finds it. -/
theorem pollRun_of_runsTo {due : Instant × Except ε τ} (apart : (context.bounds tenures).Apart)
    (runs : RunsTo (context.bounds tenures).error? chance.workFirst own wrap finish outcome
      (some due))
    (waits : running.watcher.Waits (context.tenure tenures)) :
    context.wokenRun tenures chance finish due.1 running = true ∧
      (context.pollRun tenures chance own wrap finish outcome due.1 running).1 = some due.2 := by
  have reached : ∀ instant, Lifetime.reached (some instant) instant = true := by
    intro instant
    simp [Lifetime.reached]
  rw [wokenRun, pollRun]
  cases runs with
  | @finished instant finishes live =>
      obtain ⟨silent, _⟩ := lookIn_of_live chance own waits (live instant (Nat.le_refl instant))
      rw [finishes, reached]
      refine ⟨Bool.true_or _, ?_⟩
      cases chance.workFirst instant <;> simp [silent]
  | @tied instant error finishes first taken =>
      rw [finishes, reached]
      refine ⟨Bool.true_or _, ?_⟩
      cases order : chance.workFirst instant with
      | true => simp
      | false =>
          rw [order] at taken
          rcases lookIn_of_firstError chance own apart first waits with
            ⟨_, _, silent, _⟩ | ⟨others, _⟩
          · simp [silent]
          · exact absurd (taken.resolve_left Bool.false_ne_true) others
  | @abandoned instant error first unfinished =>
      rw [wokenDone_of_error? chance waits first.found]
      refine ⟨Bool.or_true _, ?_⟩
      have seen : ∀ watcher : Watcher, watcher.Waits (context.tenure tenures) →
          (context.pollDone tenures chance instant watcher).1 = some error := fun watcher waits =>
        (pollDone_fst chance waits).trans (Lifetime.reason?_of_firstError apart first _)
      have unreached : (chance.workFirst instant = true ∨ own instant = true ∧ error = .cancelled) →
          Lifetime.reached finish instant = false := by
        intro taken
        rw [Lifetime.reached_eq_false_iff]
        intro later member
        exact (unfinished later member).resolve_right fun same => same.2 taken
      cases order : chance.workFirst instant with
      | true => simp [unreached (Or.inl order), seen _ waits]
      | false =>
          rcases lookIn_of_firstError chance own apart first waits with
            ⟨isOwn, isCancelled, silent, kept⟩ | ⟨_, found⟩
          · simp [unreached (Or.inr ⟨isOwn, isCancelled⟩), silent, seen _ kept]
          · simp [found]

theorem run_of_errorFound? {delay : Option Nat} {error : ContextError}
    (ended : context.errorFound? tenures own start = some error) (span : Nat) :
    context.run tenures chance own wrap outcome delay start span =
      (some (start, .error (wrap error)), ⟨.looking, 0⟩) := by
  rw [run, ended]

/-- What comes of work that has been started, if the span of time reaches so far. -/
theorem run_eq {delay : Option Nat} (apart : (context.bounds tenures).Apart)
    (found : context.errorFound? tenures own start = none)
    (runs : RunsTo (context.bounds tenures).error? chance.workFirst own wrap
      (delay.map (start + ·)) outcome result) (span : Nat) :
    (context.run tenures chance own wrap outcome delay start span).1 =
      result.filter fun due => decide (due.1 < start + span) := by
  have started : ∀ instant ∈ delay.map (start + ·), start ≤ instant := by
    intro instant member
    obtain ⟨length, _, rfl⟩ := Option.map_eq_some_iff.mp member
    exact Nat.le_add_right start length
  rw [run, found]
  apply pollUntil_eq_filter fun running => running.watcher.Waits (context.tenure tenures)
  · intro now running early waits
    obtain ⟨alive, unfinished⟩ := unfinished_of_runsTo runs early
    exact pollRun_of_live chance waits alive unfinished
  · rintro due rfl running waits
    exact pollRun_of_runsTo chance apart runs waits
  · rintro due rfl
    cases runs with
    | finished finishes _ => exact started _ finishes
    | tied finishes _ _ => exact started _ finishes
    | abandoned first _ => exact Lifetime.le_of_firstError (error?_of_errorFound? found) first
  · trivial

end Running

/-- A context, whoever waits for its end, and work that is run under it agree on when it ends and
why.  The work has its own outcome if it is finished strictly before, and if it is finished at that
very instant and is looked at first or ends the context itself in the same poll. -/
theorem ends_agree (tenures : Handle → Tenure) (context : Context) (chance : Chance)
    (apart : (context.bounds tenures).Apart) :
    (∀ earlier later error, earlier ≤ later → context.error? tenures earlier = some error →
      ∃ reason, context.error? tenures later = some reason ∧
        (error = .cancelled → reason = .cancelled)) ∧
    (∀ start, context.error? tenures start = none →
      ∃ seen, Sees (context.error? tenures) seen ∧
        ∀ span, context.done tenures chance start span =
          seen.filter fun ending => decide (ending.1 < start + span)) ∧
    (∀ (ε τ : Type) (own : Instant → Bool) (wrap : ContextError → ε) (outcome : Except ε τ)
        (delay : Option Nat) (start : Instant),
      (∀ error, context.errorFound? tenures own start = some error →
        ∀ span, context.run tenures chance own wrap outcome delay start span =
          (some (start, .error (wrap error)), ⟨.looking, 0⟩)) ∧
      (context.errorFound? tenures own start = none →
        ∃ result, RunsTo (context.error? tenures) chance.workFirst own wrap
            (delay.map (start + ·)) outcome result ∧
          ∀ span, (context.run tenures chance own wrap outcome delay start span).1 =
            result.filter fun due => decide (due.1 < start + span))) ∧
    context.error? tenures = (context.bounds tenures).error? ∧
    ∀ start, context.error? tenures start = none →
      Sees (context.error? tenures) ((context.bounds tenures).await? start) ∧
      ∀ (ε τ : Type) (wrap : ContextError → ε) (outcome : Except ε τ) (delay : Option Nat),
        RunsTo (context.error? tenures) (fun _ => false) (fun _ => false) wrap
          (delay.map (start + ·)) outcome
          (((context.bounds tenures).course start delay).result wrap outcome start) := by
  refine ⟨?_, ?_, ?_, error?_eq, ?_⟩
  · intro earlier later error le found
    rw [error?_eq] at found ⊢
    exact Lifetime.error?_lasts le found
  · intro start live
    rw [error?_eq] at live ⊢
    have sees := (context.bounds tenures).sees_ending?
    exact ⟨_, sees, done_eq chance apart live sees⟩
  · intro ε τ own wrap outcome delay start
    refine ⟨fun error ended => run_of_errorFound? chance ended, fun found => ?_⟩
    rw [error?_eq]
    obtain ⟨result, runs⟩ := (context.bounds tenures).exists_runsTo wrap outcome chance.workFirst
      own (delay.map (start + ·))
    exact ⟨result, runs, run_eq chance apart found runs⟩
  · intro start live
    rw [error?_eq] at live ⊢
    refine ⟨Lifetime.sees_await? live, ?_⟩
    intro ε τ wrap outcome delay
    exact Lifetime.runsTo_course wrap outcome delay live

end Context

/-! ## Calls of collaborators -/

namespace Machine

variable {σ : Type} {machine : Machine σ}

/-- The instants at which work that is taken with a reaction cancels its own context. -/
def hangsUpAt {α : Type} (machine : Machine σ) (reaction : Reaction σ α) (now : Instant) : Bool :=
  reaction.hangsUp && now == machine.now

theorem error?_lifeAfter {α : Type} (reaction : Reaction σ α)
    (live : machine.life.error? machine.now = none) :
    (machine.lifeAfter reaction).error? machine.now =
      if reaction.hangsUp then some .cancelled else none := by
  rw [lifeAfter]
  cases reaction.hangsUp with
  | false => exact live
  | true =>
      have cancelled : Lifetime.reached (machine.life.cancelledBy machine.now).cancelled
          machine.now = true := by
        rw [Lifetime.cancelledBy, Lifetime.reached_eq_true_iff]
        cases machine.life.cancelled with
        | none => exact ⟨machine.now, rfl, Nat.le_refl _⟩
        | some instant => exact ⟨min instant machine.now, rfl, Nat.min_le_right _ _⟩
      rw [if_pos rfl, if_pos rfl, Lifetime.error?, if_pos cancelled]

/-- A call is work whose context may be cancelled in the poll in which the call is made. -/
theorem runsTo_stepCall (backend : Backend σ) (trace : TraceContext) (call : Call)
    (live : machine.life.error? machine.now = none)
    {reaction : Reaction σ (Except ServiceError call.Reply)}
    (reacts : machine.reaction backend trace call = reaction) :
    RunsTo (machine.lifeAfter reaction).error? (fun _ => false) (machine.hangsUpAt reaction)
      ServiceError.context (reaction.delay.map (machine.now + ·))
      (reaction.answer reaction.received).1
      ((machine.stepCall backend trace call).map fun result =>
        (result.machine.now, result.value)) := by
  have runs := Lifetime.runsTo_race ServiceError.context (reaction.answer reaction.received).1
    reaction.delay reaction.hangsUp (live_before_lifeAfter reaction live)
    (error?_lifeAfter reaction live)
  rw [Machine.reaction] at reacts
  cases raced : (machine.lifeAfter reaction).race machine.now reaction.delay with
  | _ =>
      rw [raced] at runs
      simp only [stepCall, live, reacts, raced, Option.map_some, Option.map_none]
      exact runs

/-- Polls of a call and of the end of its context come to the step that a machine takes, if the end
is looked at first. -/
theorem run_eq_stepCall (backend : Backend σ) (trace : TraceContext) (call : Call)
    (live : machine.life.error? machine.now = none)
    {reaction : Reaction σ (Except ServiceError call.Reply)}
    (reacts : machine.reaction backend trace call = reaction) {tenures : Handle → Tenure}
    {context : Context} (bounds : context.bounds tenures = machine.lifeAfter reaction)
    (apart : (context.bounds tenures).Apart) (chance : Chance)
    (contextFirst : chance.workFirst = fun _ => false) (span : Nat) :
    (context.run tenures chance (machine.hangsUpAt reaction) ServiceError.context
        (reaction.answer reaction.received).1 reaction.delay machine.now span).1 =
      ((machine.stepCall backend trace call).map fun result =>
        (result.machine.now, result.value)).filter fun due =>
          decide (due.1 < machine.now + span) := by
  have runs := runsTo_stepCall backend trace call live reacts
  have before := live_before_lifeAfter reaction live
  have found := error?_lifeAfter reaction live
  rw [← bounds] at runs before found
  rw [← contextFirst] at runs
  refine Context.run_eq chance apart ?_ runs span
  apply Context.errorFound?_eq_none before
  rw [found]
  cases hangs : reaction.hangsUp with
  | false => exact Or.inl rfl
  | true =>
      refine Or.inr ⟨by simp [hangsUpAt, hangs], ?_⟩
      rw [bounds, lifeAfter, hangs]
      exact (Lifetime.reached_eq_false_iff _ _).mpr ((Lifetime.error?_eq_none_iff _ _).mp live).2

end Machine

namespace Sample

def hasty : Tenure := ⟨[25, 7], some 30, by decide⟩

def bounded : Context := ⟨trace, some 40, some ⟨0⟩⟩

/-- Looks at the deadline before the flag and at the work before the context. -/
def wayward : Chance := ⟨fun _ => true, fun _ => true, fun _ => false⟩

/-- Looks at the context before the work. -/
def wary : Chance := { wayward with workFirst := fun _ => false }

def harmless : Instant → Bool := fun _ => false

def selfish : Instant → Bool := fun now => now == 7

/-- Services that make the caller hang up when it calls for a shipment. -/
def rude : World := { World.start price [] with hangsUpOn := some .ship }

theorem apart_bounded : (bounded.bounds fun _ => hasty).Apart := by
  rintro cancel cancels expires
  cases cancels
  cases expires

theorem firstError_bounded : FirstError (bounded.error? fun _ => hasty) 7 .cancelled :=
  ⟨rfl, by decide⟩

end Sample

/-- The context is cancelled before its deadline: work has its own outcome before that, is given up
then, unless it is the work that cancels as it is finished, and is not polled any more afterwards. -/
theorem Context.ends_agree_of_hasty_handle :
    (Sample.bounded.bounds fun _ => Sample.hasty).Apart ∧
    Sample.bounded.done (fun _ => Sample.hasty) Sample.wary 2 100 = some (7, .cancelled) ∧
    ∀ outcome : Except ContextError Nat,
      (Sample.bounded.run (fun _ => Sample.hasty) Sample.wary Sample.harmless id outcome
        (some 3) 2 100).1 = some (5, outcome) ∧
      (Sample.bounded.run (fun _ => Sample.hasty) Sample.wary Sample.harmless id outcome
        (some 5) 2 100).1 = some (7, .error .cancelled) ∧
      (Sample.bounded.run (fun _ => Sample.hasty) Sample.wary Sample.selfish id outcome
        (some 5) 2 100).1 = some (7, outcome) ∧
      Sample.bounded.run (fun _ => Sample.hasty) Sample.wary Sample.harmless id outcome
        (some 3) 50 100 = (some (50, .error .cancelled), ⟨.looking, 0⟩) := by
  obtain ⟨_, sees, runs, _⟩ := Context.ends_agree (fun _ => Sample.hasty) Sample.bounded
    Sample.wary Sample.apart_bounded
  refine ⟨Sample.apart_bounded, ?_, fun outcome => ⟨?_, ?_, ?_, ?_⟩⟩
  · obtain ⟨seen, sees, done_eq⟩ := sees 2 rfl
    rw [done_eq, sees.eq_of_firstError Sample.firstError_bounded]
    rfl
  · obtain ⟨result, runsTo, run_eq⟩ := (runs _ _ Sample.harmless id outcome (some 3) 2).2 rfl
    rw [run_eq]
    cases runsTo with
    | finished finishes live =>
        cases finishes
        rfl
    | tied finishes first taken =>
        cases finishes
        cases (first.eq Sample.firstError_bounded).1
    | abandoned first unfinished =>
        obtain ⟨rfl, rfl⟩ := first.eq Sample.firstError_bounded
        exact absurd (unfinished 5 rfl) (by decide)
    | endless never live => cases never
  · obtain ⟨result, runsTo, run_eq⟩ := (runs _ _ Sample.harmless id outcome (some 5) 2).2 rfl
    rw [run_eq]
    cases runsTo with
    | finished finishes live =>
        cases finishes
        cases (live 7 (by decide)).symm.trans Sample.firstError_bounded.found
    | tied finishes first taken =>
        cases finishes
        exact absurd taken (by simp [Sample.wary, Sample.harmless])
    | abandoned first unfinished =>
        obtain ⟨rfl, rfl⟩ := first.eq Sample.firstError_bounded
        rfl
    | endless never live => cases never
  · obtain ⟨result, runsTo, run_eq⟩ := (runs _ _ Sample.selfish id outcome (some 5) 2).2 rfl
    rw [run_eq]
    cases runsTo with
    | finished finishes live =>
        cases finishes
        cases (live 7 (by decide)).symm.trans Sample.firstError_bounded.found
    | tied finishes first taken =>
        cases finishes
        rfl
    | abandoned first unfinished =>
        obtain ⟨rfl, rfl⟩ := first.eq Sample.firstError_bounded
        exact absurd (unfinished 7 rfl) (by simp [Sample.selfish])
    | endless never live => cases never
  · exact (runs _ _ Sample.harmless id outcome (some 3) 50).1 _ rfl 100

/-- Work that is finished at the instant at which its context ends is not always given up: it has
its own outcome if it is looked at first, and so has a call of a collaborator that makes the caller
hang up and replies at once. -/
theorem Context.tied_work_not_abandoned :
    (¬ ∀ (tenures : Handle → Tenure) (context : Context) (chance : Chance)
        (outcome : Except ContextError Nat) (length start instant : Nat) (error : ContextError),
      (context.bounds tenures).Apart → context.error? tenures start = none →
      FirstError (context.error? tenures) instant error → ¬ start + length < instant →
      ∀ span, instant < start + span →
        (context.run tenures chance (fun _ => false) id outcome (some length) start span).1 =
          some (instant, .error error)) ∧
    ∃ (machine : Machine World) (tracking : String) (later : Machine World) (trail : List Entry),
      machine.life.error? machine.now = none ∧
      machine.stepCall World.backend Sample.trace (.shipOrder .blank []) =
        some ⟨.ok tracking, later, trail⟩ ∧
      later.now = machine.now ∧ later.life.error? later.now = some .cancelled := by
  constructor
  · intro claimed
    have given := claimed (fun _ => Sample.hasty) Sample.bounded Sample.wayward (.ok 0) 5 2 7
      .cancelled Sample.apart_bounded rfl Sample.firstError_bounded (by decide) 100 (by decide)
    have first := Sample.firstError_bounded
    rw [Context.error?_eq] at first
    have tied : RunsTo (Sample.bounded.bounds fun _ => Sample.hasty).error?
        Sample.wayward.workFirst (fun _ => false) id (some 7) (.ok 0 : Except ContextError Nat)
        (some (7, .ok 0)) := .tied rfl first (Or.inl rfl)
    rw [Context.run_eq Sample.wayward Sample.apart_bounded rfl tied] at given
    cases given
  · refine ⟨⟨0, .unbounded, Sample.rude⟩, _, _, _, rfl, rfl, ?_, ?_⟩
    · rfl
    · rfl

end Checkout

import Checkout.Proofs.Questions

/-!
# The timing of calls

A call is made only while the context is live, and it is over at the first instant at which the
context is: either the answer has come before that, or the call is abandoned right then.  The one
exception is an answer that comes with the call itself, although the collaborator has made the
caller hang up.

A run is the sequence of the questions it asks, each with the state in which it is asked, so what
holds of the call at each of these holds of all calls of the run.
-/

set_option autoImplicit false

namespace Checkout

namespace Lifetime

variable {life : Lifetime} {now instant : Nat} {error : ContextError}

theorem error?_of_ending? (ends : life.ending? = some (instant, error)) :
    life.error? instant = some error ∧ ∀ earlier < instant, life.error? earlier = none := by
  obtain ⟨cancelled, deadline⟩ := life
  cases cancelled with
  | none =>
      cases deadline with
      | none => simp [ending?] at ends
      | some deadline =>
          simp only [ending?, Option.some.injEq, Prod.mk.injEq] at ends
          obtain ⟨rfl, rfl⟩ := ends
          simp [error?, reached]
  | some cancelled =>
      cases deadline with
      | none =>
          simp only [ending?, Option.some.injEq, Prod.mk.injEq] at ends
          obtain ⟨rfl, rfl⟩ := ends
          simp [error?, reached]
      | some deadline =>
          by_cases first : cancelled ≤ deadline
          · simp only [ending?, if_pos first, Option.some.injEq, Prod.mk.injEq] at ends
            obtain ⟨rfl, rfl⟩ := ends
            simp only [error?, reached, Option.any_some, Nat.le_refl, decide_true, if_true, true_and]
            intro earlier before
            have uncancelled := Nat.not_le_of_lt before
            have unexpired := Nat.not_le_of_lt (Nat.lt_of_lt_of_le before first)
            simp [unexpired, uncancelled]
          · simp only [ending?, if_neg first, Option.some.injEq, Prod.mk.injEq] at ends
            obtain ⟨rfl, rfl⟩ := ends
            simp only [error?, reached, Option.any_some, first, decide_false, Nat.le_refl,
              decide_true, if_true, Bool.false_eq_true, if_false, true_and]
            intro earlier before
            have unexpired := Nat.not_le_of_lt before
            have uncancelled := Nat.not_le_of_lt (Nat.lt_trans before (Nat.lt_of_not_le first))
            simp [unexpired, uncancelled]

theorem error?_of_le (live : life.error? now = none) {earlier : Nat} (before : earlier ≤ now) :
    life.error? earlier = none := by
  have reached_mono : ∀ event, reached event now = false → reached event earlier = false := by
    intro event unreached
    cases event with
    | none => rfl
    | some due =>
        simp only [reached, Option.any_some, decide_eq_false_iff_not] at unreached ⊢
        exact fun passed => unreached (Nat.le_trans passed before)
  unfold error? at live ⊢
  cases cancelled : reached life.cancelled now with
  | true => simp [cancelled] at live
  | false =>
      cases expired : reached life.deadline now with
      | true => simp [cancelled, expired] at live
      | false => simp [reached_mono _ cancelled, reached_mono _ expired]

/-- Whoever waits from `now` on sees the end at the first instant there is one. -/
theorem error?_of_await? (fresh : ∀ earlier < now, life.error? earlier = none)
    (ends : life.await? now = some (instant, error)) :
    now ≤ instant ∧ life.error? instant = some error ∧
      ∀ earlier < instant, life.error? earlier = none := by
  unfold await? at ends
  cases ceased : life.error? now with
  | some reason =>
      simp only [ceased, Option.some.injEq, Prod.mk.injEq] at ends
      obtain ⟨rfl, rfl⟩ := ends
      exact ⟨Nat.le_refl now, ceased, fresh⟩
  | none =>
      simp only [ceased] at ends
      obtain ⟨ended, before⟩ := error?_of_ending? ends
      refine ⟨?_, ended, before⟩
      apply Nat.le_of_not_lt
      intro past
      have live := error?_of_le ceased (Nat.le_of_lt past)
      cases live.symm.trans ended

/-- When work under way is over, and how the lifetime stands then. -/
theorem race_timing (fresh : ∀ earlier < now, life.error? earlier = none) (delay : Option Nat) :
    match life.race now delay with
    | .finished instant => now ≤ instant ∧ (instant = now ∨ life.error? instant = none) ∧
        ∀ earlier < instant, life.error? earlier = none
    | .abandoned instant error => now ≤ instant ∧ life.error? instant = some error ∧
        ∀ earlier < instant, life.error? earlier = none
    | .endless => life = .unbounded
    | .refused _ => False := by
  cases awaited : life.await? now with
  | none =>
      have unbounded := eq_unbounded_of_await? awaited
      cases delay with
      | none => simpa [race, awaited] using unbounded
      | some length =>
          subst unbounded
          simp only [race, awaited]
          exact ⟨Nat.le_add_right now length, Or.inr rfl, fun _ _ => rfl⟩
  | some ending =>
      obtain ⟨instant, error⟩ := ending
      obtain ⟨since, ended, before⟩ := error?_of_await? fresh awaited
      cases delay with
      | none =>
          simp only [race, awaited]
          exact ⟨since, ended, before⟩
      | some length =>
          by_cases intime : length = 0 ∨ now + length < instant
          · simp only [race, awaited, if_pos intime]
            rcases intime with atOnce | early
            · subst atOnce
              exact ⟨Nat.le_refl now, Or.inl rfl, fresh⟩
            · refine ⟨Nat.le_add_right now length, Or.inr (before _ early), ?_⟩
              intro earlier soon
              exact before earlier (Nat.lt_trans soon early)
          · simp only [race, awaited, if_neg intime]
            exact ⟨since, ended, before⟩

end Lifetime

/-- A collaborator that makes the caller hang up does so no earlier than it is called. -/
theorem Machine.live_before_lifeAfter {σ α : Type} {machine : Machine σ} (reaction : Reaction σ α)
    (live : machine.life.error? machine.now = none) :
    ∀ earlier < machine.now, (machine.lifeAfter reaction).error? earlier = none := by
  intro earlier before
  have live_earlier := Lifetime.error?_of_le live (Nat.le_of_lt before)
  unfold Machine.lifeAfter
  by_cases hangsUp : reaction.hangsUp
  · rw [if_pos hangsUp]
    have later := Nat.not_le_of_lt before
    have unreached : Lifetime.reached (Lifetime.earlier machine.life.cancelled (some machine.now))
        earlier = Lifetime.reached machine.life.cancelled earlier := by
      cases machine.life.cancelled with
      | none => simp [Lifetime.earlier, Lifetime.reached, later]
      | some instant =>
          have same : min instant machine.now ≤ earlier ↔ instant ≤ earlier := by
            rw [Nat.min_def]
            by_cases first : instant ≤ machine.now
            · rw [if_pos first]
            · rw [if_neg first]
              have past := Nat.lt_trans before (Nat.lt_of_not_le first)
              simp [later, Nat.not_le_of_lt past]
          simp [Lifetime.earlier, Lifetime.reached, same]
    simp only [Lifetime.error?, Lifetime.cancelledBy, unreached] at live_earlier ⊢
    exact live_earlier
  · rw [if_neg hangsUp]
    exact live_earlier

section Calls

variable {σ : Type} (backend : Backend σ) (trace : TraceContext) (machine : Machine σ) (call : Call)

/-- A call keeps to the context: it is refused if that is over, and otherwise over when that is, the
context being the one that the collaborator has left. -/
inductive Timely : Progress σ (Except ServiceError call.Reply) → Prop where
  | refused (error : ContextError) (ceased : machine.life.error? machine.now = some error) :
      Timely ⟨[], some (.error (.context error), machine)⟩
  | answered (answer : Except ServiceError call.Reply) (later : Machine σ)
      (live : machine.life.error? machine.now = none) (since : machine.now ≤ later.now)
      (life_eq : later.life = machine.lifeAfter (machine.reaction backend trace call))
      (intime : later.now = machine.now ∨ later.life.error? later.now = none)
      (before : ∀ earlier < later.now, later.life.error? earlier = none) :
      Timely ⟨[⟨machine.now, .called call⟩, ⟨later.now, .answered call answer⟩],
        some (answer, later)⟩
  | abandoned (error : ContextError) (later : Machine σ)
      (live : machine.life.error? machine.now = none) (since : machine.now ≤ later.now)
      (life_eq : later.life = machine.lifeAfter (machine.reaction backend trace call))
      (ceased : later.life.error? later.now = some error)
      (before : ∀ earlier < later.now, later.life.error? earlier = none) :
      Timely ⟨[⟨machine.now, .called call⟩, ⟨later.now, .abandoned call error⟩],
        some (.error (.context error), later)⟩
  | endless (live : machine.life.error? machine.now = none)
      (unbounded : machine.lifeAfter (machine.reaction backend trace call) = .unbounded) :
      Timely ⟨[⟨machine.now, .called call⟩], none⟩

theorem Machine.timely :
    Timely backend trace machine call (machine.progress backend trace (.call call)) := by
  cases ended : machine.life.error? machine.now with
  | some error =>
      simp only [Machine.progress, Machine.step, Machine.stepCall, ended]
      exact .refused error ended
  | none =>
      let reaction := machine.reaction backend trace call
      have timing := Lifetime.race_timing (Machine.live_before_lifeAfter reaction ended)
        reaction.delay
      cases raced : (machine.lifeAfter reaction).race machine.now reaction.delay with
      | refused error =>
          rw [raced] at timing
          exact False.elim timing
      | finished instant =>
          rw [raced] at timing
          obtain ⟨since, intime, before⟩ := timing
          simp only [reaction, Machine.reaction] at raced
          simp only [Machine.progress, Machine.step, Machine.stepCall, ended, raced]
          exact .answered _ ⟨instant, machine.lifeAfter reaction, _⟩ ended since rfl intime before
      | abandoned instant error =>
          rw [raced] at timing
          obtain ⟨since, ceased, before⟩ := timing
          simp only [reaction, Machine.reaction] at raced
          simp only [Machine.progress, Machine.step, Machine.stepCall, ended, raced]
          exact .abandoned error ⟨instant, machine.lifeAfter reaction, _⟩ ended since rfl ceased
            before
      | endless =>
          rw [raced] at timing
          simp only [reaction, Machine.reaction] at raced
          simp only [Machine.progress, Machine.step, Machine.stepCall, ended, raced,
            Machine.unanswered]
          exact .endless ended timing

end Calls

/-! ## Runs -/

/-- A question of a run, and the state in which it is asked. -/
structure Stage (σ : Type) where
  machine : Machine σ
  query : Query

namespace Stage

variable {σ : Type} (backend : Backend σ) (trace : TraceContext)

def trail (stage : Stage σ) : List Entry :=
  (stage.machine.progress backend trace stage.query).trail

end Stage

section Runs

variable {σ α : Type} (backend : Backend σ) (trace : TraceContext)

def Program.stages : Program α → Machine σ → List (Stage σ)
  | .done _, _ => []
  | .ask query next, machine =>
    ⟨machine, query⟩ ::
      match (machine.progress backend trace query).reached with
      | none => []
      | some (answer, later) => (next answer).stages later

end Runs

end Checkout

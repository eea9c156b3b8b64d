import Checkout.Proofs.AgreeingEnds

/-!
# Derived contexts

A context is derived from another one by a timeout, by a deadline, by a new trace, or as a copy,
and others are derived from it in turn.  All of them share the channel of the first one, so its
handle cancels all of them at once.  Of the deadlines that were given on the way the earliest
counts, so none of them outlives a context that it comes from, however the clock goes on between.

What one derivation does to the deadline, the trace and the channel is said once; a chain of
derivations is then followed from its first context on.
-/

set_option autoImplicit false

namespace Checkout

namespace Lifetime

theorem min?_earlier_append (left right : Option Instant) (others : List Instant) :
    ((earlier left right).toList ++ others).min? =
      (left.toList ++ (right.toList ++ others)).min? := by
  cases left with
  | none => rfl
  | some first =>
      cases right with
      | none => rfl
      | some second =>
          cases least : others.min? with
          | none => simp [earlier, List.min?_cons, least]
          | some instant => simp [earlier, List.min?_cons, least, Nat.min_assoc]

theorem le_of_mem_earlier {left : Option Instant} {instant : Instant} (given : instant ∈ left)
    (right : Option Instant) :
    ∃ sooner ∈ earlier left right, sooner ≤ instant := by
  cases given
  cases right with
  | none => exact ⟨instant, rfl, Nat.le_refl instant⟩
  | some other => exact ⟨min instant other, rfl, Nat.min_le_left instant other⟩

end Lifetime

inductive Adjustment where
  | timeout (length : Nat)
  | deadline (instant : Instant)
  | trace (trace : TraceContext)
  | copy
deriving DecidableEq

structure Derivation where
  now : Instant
  adjustment : Adjustment
deriving DecidableEq

namespace Derivation

def deadline? (derivation : Derivation) : Option Instant :=
  match derivation.adjustment with
  | .timeout length => some (derivation.now + length)
  | .deadline instant => some instant
  | .trace _ => none
  | .copy => none

def trace? (derivation : Derivation) : Option TraceContext :=
  match derivation.adjustment with
  | .trace trace => some trace
  | _ => none

end Derivation

namespace Context

def derived (context : Context) (derivation : Derivation) : Context :=
  match derivation.adjustment with
  | .timeout length => context.withTimeout derivation.now length
  | .deadline instant => context.withDeadline instant
  | .trace trace => context.withTrace trace
  | .copy => context

def derive (root : Context) (chain : List Derivation) : Context :=
  chain.foldl derived root

/-- The deadlines that were given to the first context of a chain and along it. -/
def deadlines (root : Context) (chain : List Derivation) : List Instant :=
  root.deadline.toList ++ chain.filterMap Derivation.deadline?

/-! ## One derivation -/

section Steps

variable (context : Context) (derivation : Derivation)

theorem deadline_derived :
    (context.derived derivation).deadline =
      Lifetime.earlier context.deadline derivation.deadline? := by
  obtain ⟨now, adjustment⟩ := derivation
  have kept : context.deadline = Lifetime.earlier context.deadline none := by
    cases context.deadline <;> rfl
  cases adjustment with
  | timeout length => rfl
  | deadline instant => rfl
  | trace trace => exact kept
  | copy => exact kept

theorem trace_derived :
    (context.derived derivation).trace = derivation.trace?.getD context.trace := by
  obtain ⟨now, adjustment⟩ := derivation
  cases adjustment <;> rfl

theorem handle_derived : (context.derived derivation).handle = context.handle := by
  obtain ⟨now, adjustment⟩ := derivation
  cases adjustment <;> rfl

end Steps

/-! ## Chains -/

section Chains

variable (root : Context) (chain : List Derivation)

theorem derive_append (before after : List Derivation) :
    root.derive (before ++ after) = (root.derive before).derive after :=
  List.foldl_append

theorem deadline_derive : (root.derive chain).deadline = (root.deadlines chain).min? := by
  induction chain generalizing root with
  | nil =>
      cases given : root.deadline with
      | none => simp [derive, deadlines, given]
      | some instant => simp [derive, deadlines, given]
  | cons derivation rest ih =>
      have first : (derivation :: rest).filterMap Derivation.deadline? =
          derivation.deadline?.toList ++ rest.filterMap Derivation.deadline? := by
        cases given : derivation.deadline? <;> simp [given]
      rw [deadlines, first, ← Lifetime.min?_earlier_append, ← deadline_derived]
      exact ih (root.derived derivation)

theorem trace_derive :
    (root.derive chain).trace = (chain.filterMap Derivation.trace?).getLast?.getD root.trace := by
  induction chain generalizing root with
  | nil => rfl
  | cons derivation rest ih =>
      have goes_on : (root.derive (derivation :: rest)).trace =
          (rest.filterMap Derivation.trace?).getLast?.getD (derivation.trace?.getD root.trace) := by
        rw [← trace_derived]
        exact ih (root.derived derivation)
      rw [goes_on]
      cases given : derivation.trace? with
      | none => simp [given]
      | some trace => simp [given, List.getLast?_cons]

theorem handle_derive : (root.derive chain).handle = root.handle := by
  induction chain generalizing root with
  | nil => rfl
  | cons derivation rest ih =>
      rw [← handle_derived root derivation]
      exact ih (root.derived derivation)

/-- The deadline of a context is also a bound on all that are derived from it. -/
theorem deadline_derive_le {deadline : Instant} (given : deadline ∈ root.deadline) :
    ∃ sooner ∈ (root.derive chain).deadline, sooner ≤ deadline := by
  induction chain generalizing root deadline with
  | nil => exact ⟨deadline, given, Nat.le_refl deadline⟩
  | cons derivation rest ih =>
      obtain ⟨next, nextGiven, nextLe⟩ :=
        Lifetime.le_of_mem_earlier given derivation.deadline?
      rw [← deadline_derived] at nextGiven
      obtain ⟨last, lastGiven, lastLe⟩ := ih (root.derived derivation) nextGiven
      exact ⟨last, lastGiven, Nat.le_trans lastLe nextLe⟩

theorem mem_remaining_iff (context : Context) (now : Instant) (left : Nat) :
    left ∈ context.remaining now ↔
      ∃ deadline ∈ context.deadline, (left : Int) = max ((deadline : Int) - now) 0 := by
  rw [remaining, Option.mem_def, Option.map_eq_some_iff]
  constructor
  · rintro ⟨deadline, given, rfl⟩
    exact ⟨deadline, given, by omega⟩
  · rintro ⟨deadline, given, left_eq⟩
    exact ⟨deadline, given, by omega⟩

end Chains

/-! ## The end of derived contexts -/

section Ends

variable {tenures : Handle → Tenure} (root : Context) (chain : List Derivation) (now : Instant)

/-- A context tells of a cancellation from the first one of its handle on. -/
theorem error?_eq_cancelled_iff (context : Context) :
    context.error? tenures now = some .cancelled ↔
      ∃ cancel ∈ (context.tenure tenures).cancels, cancel ≤ now := by
  have set : (context.signal tenures now).flag = true ↔
      ∃ cancel ∈ (context.tenure tenures).cancels, cancel ≤ now := by
    simp [signal, Tenure.signal]
  rw [← set, error?, errorIn]
  cases (context.signal tenures now).flag with
  | true => simp
  | false => simp

theorem tenure_derive : (root.derive chain).tenure tenures = root.tenure tenures := by
  rw [tenure, handle_derive, tenure]

theorem error?_derive_of_error? (ended : root.error? tenures now ≠ none) :
    (root.derive chain).error? tenures now ≠ none := by
  intro live
  apply ended
  rw [error?_eq, bounds_eq, Lifetime.error?_eq_none_iff] at live ⊢
  obtain ⟨uncancelled, unexpired⟩ := live
  rw [tenure_derive] at uncancelled
  refine ⟨uncancelled, fun deadline given => ?_⟩
  obtain ⟨sooner, soonerGiven, le⟩ := root.deadline_derive_le chain given
  exact Nat.lt_of_lt_of_le (unexpired sooner soonerGiven) le

end Ends

/-- Contexts that are derived from one another only become tighter.  The last one of a chain has the
earliest of all deadlines that were given to the first one and along the chain, so none later than
that of a context before it, and it has the trace that was set last.  The handle of the first one
cancels every context of the chain, and a context is over when one before it is. -/
theorem derived_contexts_tighten (tenures : Handle → Tenure) (root : Context)
    (before after : List Derivation) :
    let ancestor := root.derive before
    let last := root.derive (before ++ after)
    last.deadline = (root.deadlines (before ++ after)).min? ∧
    (last.deadline = none ↔
      root.deadline = none ∧ ∀ derivation ∈ before ++ after, derivation.deadline? = none) ∧
    (∀ deadline ∈ ancestor.deadline, ∃ sooner ∈ last.deadline, sooner ≤ deadline) ∧
    (∀ now left, left ∈ last.remaining now ↔
      ∃ deadline ∈ (root.deadlines (before ++ after)).min?,
        (left : Int) = max ((deadline : Int) - now) 0) ∧
    last.trace = ((before ++ after).filterMap Derivation.trace?).getLast?.getD root.trace ∧
    (∀ now, ancestor.error? tenures now = some .cancelled ↔
      ∃ cancel ∈ (root.tenure tenures).cancels, cancel ≤ now) ∧
    ∀ now, ancestor.error? tenures now ≠ none → last.error? tenures now ≠ none := by
  have deadline_eq := root.deadline_derive (before ++ after)
  refine ⟨deadline_eq, ?_, ?_, ?_, root.trace_derive (before ++ after), ?_, ?_⟩
  · rw [deadline_eq, List.min?_eq_none_iff, deadlines, List.append_eq_nil_iff,
      List.filterMap_eq_nil_iff]
    cases root.deadline <;> simp
  · intro deadline given
    rw [derive_append]
    exact (root.derive before).deadline_derive_le after given
  · intro now left
    rw [mem_remaining_iff, deadline_eq]
  · intro now
    rw [error?_eq_cancelled_iff, tenure_derive]
  · intro now ended
    rw [derive_append]
    exact (root.derive before).error?_derive_of_error? after now ended

end Context

namespace Sample

def otherTrace : TraceContext := { trace with spanId := ⟨2, by decide, by decide⟩ }

def chain : List Derivation :=
  [⟨2, .timeout 100⟩, ⟨3, .deadline 35⟩, ⟨5, .trace otherTrace⟩, ⟨6, .copy⟩]

end Sample

/-- The handle of the first context cancels at the instant 7, long before all deadlines. -/
theorem Context.derived_contexts_tighten_of_chain :
    let last := Sample.bounded.derive Sample.chain
    last.deadline = some 35 ∧ last.trace = Sample.otherTrace ∧
    25 ∈ last.remaining 10 ∧ 0 ∈ last.remaining 50 ∧
    last.error? (fun _ => Sample.hasty) 6 ≠ some .cancelled ∧
    last.error? (fun _ => Sample.hasty) 7 = some .cancelled ∧
    ∃ sooner ∈ last.deadline, sooner ≤ 40 := by
  obtain ⟨deadline_eq, _, tightens, remaining_iff, trace_eq, cancelled_iff, _⟩ :=
    Context.derived_contexts_tighten (fun _ => Sample.hasty) Sample.bounded Sample.chain []
  obtain ⟨_, _, bounded, _⟩ :=
    Context.derived_contexts_tighten (fun _ => Sample.hasty) Sample.bounded [] Sample.chain
  refine ⟨deadline_eq, trace_eq, ?_, ?_, ?_, ?_, bounded 40 rfl⟩
  · exact (remaining_iff 10 25).mpr ⟨35, rfl, by decide⟩
  · exact (remaining_iff 50 0).mpr ⟨35, rfl, by decide⟩
  · rw [Ne, cancelled_iff]
    decide
  · exact (cancelled_iff 7).mpr ⟨7, by decide, Nat.le_refl 7⟩

end Checkout

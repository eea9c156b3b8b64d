import Checkout.Proofs.Paying
import Checkout.Saga.Metrics

/-!
# Milestones of placements

Of all that a placement reports, the milestones alone move its state and its counters.  Each part of
a placement reaches milestones that are known beforehand: all of them if the part comes to its end,
and the first few of them if it waits for ever.
-/

set_option autoImplicit false

open scoped List

namespace Checkout

def milestones (reported : List Event) : List Event :=
  reported.filter Event.isMilestone

theorem milestones_append (reported rest : List Event) :
    milestones (reported ++ rest) = milestones reported ++ milestones rest :=
  List.filter_append ..

/-! ## Moves -/

def Event.move? : Event → Option (SagaState × SagaState)
  | .moved source target => some (source, target)
  | _ => none

def moves (reported : List Event) : List (SagaState × SagaState) :=
  reported.filterMap Event.move?

theorem moves_append (reported rest : List Event) :
    moves (reported ++ rest) = moves reported ++ moves rest :=
  List.filterMap_append

theorem moves_milestones (reported : List Event) : moves (milestones reported) = moves reported := by
  induction reported with
  | nil => rfl
  | cons event rest ih =>
      cases event with
      | moved source target => exact congrArg ((source, target) :: ·) ih
      | _ => exact ih

namespace SagaState

/-- Where moves lead from a state, if each is allowed and starts where the one before it ended. -/
def follow (state : SagaState) : List (SagaState × SagaState) → Option SagaState
  | [] => some state
  | (source, target) :: rest =>
    if source = state ∧ source.canMoveTo target = true then follow target rest else none

theorem follow_append (state : SagaState) (earlier later : List (SagaState × SagaState)) :
    state.follow (earlier ++ later) = (state.follow earlier).bind fun reached =>
      reached.follow later := by
  induction earlier generalizing state with
  | nil => rfl
  | cons move rest ih =>
      obtain ⟨source, target⟩ := move
      by_cases possible : source = state ∧ source.canMoveTo target = true
      · simp only [List.cons_append, follow, if_pos possible, ih]
      · simp only [List.cons_append, follow, if_neg possible, Option.bind_none]

theorem canMoveTo_of_follow {state reached : SagaState} {path : List (SagaState × SagaState)}
    (leads : state.follow path = some reached) :
    ∀ move ∈ path, move.1.canMoveTo move.2 = true := by
  induction path generalizing state with
  | nil =>
      intro move member
      cases member
  | cons first rest ih =>
      obtain ⟨source, target⟩ := first
      by_cases possible : source = state ∧ source.canMoveTo target = true
      · rw [follow, if_pos possible] at leads
        exact List.forall_mem_cons.mpr ⟨possible.2, ih leads⟩
      · rw [follow, if_neg possible] at leads
        cases leads

end SagaState

/-! ## Counters -/

theorem PlacementCounts.count_of_not_milestone (counts : PlacementCounts) {event : Event}
    (routine : event.isMilestone = false) : counts.count event = counts := by
  cases event with
  | placed order => cases routine
  | aborted error => cases routine
  | paidUnshipped order transaction total error => cases routine
  | _ => rfl

theorem PlacementCounts.foldl_count_milestones (counts : PlacementCounts) (reported : List Event) :
    (milestones reported).foldl PlacementCounts.count counts =
      reported.foldl PlacementCounts.count counts := by
  induction reported generalizing counts with
  | nil => rfl
  | cons event rest ih =>
      cases routine : event.isMilestone with
      | true =>
          rw [milestones, List.filter_cons_of_pos routine]
          exact ih (counts.count event)
      | false =>
          rw [milestones, List.filter_cons_of_neg (Bool.eq_false_iff.mp routine), List.foldl_cons,
            counts.count_of_not_milestone routine]
          exact ih counts

theorem Metrics.placements_countAll (metrics : Metrics) (reported : List Event) :
    (metrics.countAll reported).placements =
      reported.foldl PlacementCounts.count metrics.placements := by
  induction reported generalizing metrics with
  | nil => rfl
  | cons event rest ih => exact ih (metrics.count event)

/-! ## What the parts of a placement reach -/

theorem FlagReport.milestones_eq {flag : String} {reported : List Event}
    (report : FlagReport flag reported) : milestones reported = [] := by
  rcases report with rfl | ⟨error, rfl⟩
  · rfl
  · rfl

theorem Diversion.milestones_eq {endpoint : Endpoint} {reported : List Event}
    (diverted : Diversion endpoint reported) : milestones reported = [] := by
  cases diverted with
  | primary report => exact report.milestones_eq
  | unreachable => rfl

namespace Bill

variable {request : OrderRequest} (bill : Bill request)

theorem milestones_charging :
    milestones bill.charging = [.totalComputed bill.total, .moved .preparing .paying] := by
  rw [charging, milestones_append, bill.diverted.milestones_eq]
  rfl

theorem milestones_shipping (transaction : String) (rest : List Event) :
    milestones (bill.shipping transaction ++ rest) =
      [.totalComputed bill.total, .moved .preparing .paying, .moved .paying .shipping] ++
        milestones rest := by
  rw [milestones_append, shipping, milestones_append, bill.milestones_charging]
  rfl

end Bill

section Runs

variable {σ α β : Type} (backend : Backend σ) (trace : TraceContext)

/-- The run reaches the first of these milestones, and all of them if it comes to its end. -/
structure Progress.Marks (progress : Progress σ α) (marks : List Event) : Prop where
  reached_prefix : milestones (events progress.trail) <+: marks
  reached_all : ∀ reached ∈ progress.reached, milestones (events progress.trail) = marks

theorem marks_note {event : Event} (milestone : event.isMilestone = true) (machine : Machine σ) :
    ((Program.note event).progress backend trace machine).Marks [event] := by
  have reached : milestones (events ((Program.note event).progress backend trace machine).trail) =
      [event] := List.filter_cons_of_pos milestone
  exact ⟨reached ▸ List.prefix_rfl, fun _ _ => reached⟩

theorem marks_bind {program : Program α} {next : α → Program β} {first second : List Event}
    {machine : Machine σ} (marks : (program.progress backend trace machine).Marks first)
    (marksNext : ∀ value later, ((next value).progress backend trace later).Marks second) :
    ((program >>= next).progress backend trace machine).Marks (first ++ second) := by
  rw [Program.progress_bind]
  cases progress : program.progress backend trace machine with
  | mk trail reached =>
      rw [progress] at marks
      cases reached with
      -- The first part waits for ever, and the second is never begun.
      | none =>
          refine ⟨marks.reached_prefix.trans (List.prefix_append first second), ?_⟩
          intro pair impossible
          cases impossible
      | some pair =>
          have all := marks.reached_all pair rfl
          have rest := marksNext pair.1 pair.2
          simp only at all
          refine ⟨?_, ?_⟩
          · simp only [Progress.andThen, events_append, milestones_append, all]
            exact List.prefix_append_right_inj first |>.mpr rest.reached_prefix
          · intro last member
            simp only [Progress.andThen, events_append, milestones_append, all]
            rw [rest.reached_all last member]

/-- A stretch of a run in which no milestone was reached. -/
def Unmarked (trail : List Entry) : Prop :=
  milestones (events trail) = []

theorem Unmarked.append {trail rest : List Entry} (first : Unmarked trail)
    (second : Unmarked rest) : Unmarked (trail ++ rest) := by
  rw [Unmarked, events_append, milestones_append, first, second, List.append_nil]

theorem Machine.unmarked_of_isRoutine (machine : Machine σ) {query : Query}
    (routine : query.IsRoutine) : Unmarked (machine.progress backend trace query).trail := by
  cases query with
  | call call =>
      cases machine.callCourse backend trace call with
      | refused error ended made => rw [made]; rfl
      | answered answer length later took answer_eq now_eq life_eq made => rw [made]; rfl
      | abandoned error later world_eq life_eq made => rw [made]; rfl
      | endless silent unbounded made => rw [made]; rfl
  | flag kind flag =>
      cases machine.flagCourse backend trace kind flag with
      | answered answer length later took answer_eq now_eq life_eq made => rw [made]; rfl
      | endless silent made => rw [made]; rfl
  | orderId => rfl
  | span => rfl
  | send envelope => rfl
  | settle delivery limit => rfl
  | note event =>
      have passed : ¬ event.isMilestone = true := Bool.eq_false_iff.mp routine
      exact List.filter_cons_of_neg passed

/-- A program that reports no milestone reaches none. -/
theorem marks_of_asks {program : Program α} (asks : program.Asks Query.IsRoutine)
    (machine : Machine σ) : (program.progress backend trace machine).Marks [] := by
  have unmarked : Unmarked (program.progress backend trace machine).trail :=
    Program.trail_of_asks backend trace (rfl : Unmarked []) Unmarked.append
      (fun machine _ routine => machine.unmarked_of_isRoutine backend trace routine) asks machine
  exact ⟨unmarked ▸ List.prefix_rfl, fun _ _ => unmarked⟩

/-- What finishes a placement moves its state at its beginning and at its end. -/
theorem marks_finish (saga : Saga) (request : OrderRequest) (order : Order) (machine : Machine σ) :
    ((saga.finish trace request order).progress backend trace machine).Marks
      [.moved .shipping .finalizing, .moved .finalizing .done] := by
  have reset : (Saga.resetCart request.userId).Asks Query.IsRoutine :=
    resetCart_asks (fun _ routine => routine) request.userId trivial
  have notified : (Saga.notify request.email order).Asks Query.IsRoutine :=
    notify_asks (fun _ routine => routine) request.email order trivial
  have published : (saga.publish trace order).Asks Query.IsRoutine :=
    publish_asks (fun _ _ routine => routine) saga trace order
  exact marks_bind backend trace (marks_note backend trace rfl machine) fun _ later =>
    marks_bind backend trace (marks_of_asks backend trace reset later) fun _ later =>
      marks_bind backend trace (marks_of_asks backend trace notified later) fun _ later =>
        marks_bind backend trace (marks_of_asks backend trace published later) fun _ later =>
          marks_note backend trace rfl later

end Runs

end Checkout

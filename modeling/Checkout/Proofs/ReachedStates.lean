import Checkout.Proofs.Bookkeeping
import Checkout.Proofs.Milestones

/-!
# The states a placement reaches

A placement keeps its state apart from its errors and its counters, and the three agree.  Its moves
form a path through the allowed ones; the state that its error tells is the one that the path had
reached; and its end is counted once, under that state.  A shipment that was paid for and did not
succeed is counted besides.
-/

set_option autoImplicit false

open scoped List

namespace Checkout

def Answered.isCharged : Answered → Bool
  | ⟨.charge _ _ _, .ok _⟩ => true
  | _ => false

def Answered.isShipped : Answered → Bool
  | ⟨.shipOrder _ _, .ok _⟩ => true
  | _ => false

def Event.isTotal : Event → Bool
  | .totalComputed _ => true
  | _ => false

/-- The state of a placement, told from its progress and not from its moves: it prepares until the
total is known, pays until the charge has succeeded, and ships from then on. -/
def stage (heard : List Answered) (reported : List Event) : SagaState :=
  if heard.any Answered.isCharged then .shipping
  else if reported.any Event.isTotal then .paying
  else .preparing

def isLost (heard : List Answered) : Bool :=
  heard.any Answered.isCharged && ! heard.any Answered.isShipped

def lastState : Except CheckoutError Order → SagaState
  | .ok _ => .done
  | .error error => error.failedState

def PlacementCounts.after (counts : PlacementCounts) (state : SagaState) (lost : Bool) :
    PlacementCounts where
  placed := counts.placed + if state = .done then 1 else 0
  failedPreparing := counts.failedPreparing + if state = .preparing then 1 else 0
  failedPaying := counts.failedPaying + if state = .paying then 1 else 0
  failedShipping := counts.failedShipping + if state = .shipping then 1 else 0
  paidUnshipped := counts.paidUnshipped + if lost then 1 else 0

/-- The moves, the outcome and the counters of a placement that heard and reported this agree. -/
structure Agrees (counts later : PlacementCounts) (heard : List Answered) (reported : List Event)
    (outcome? : Option (Except CheckoutError Order)) : Prop where
  allowed : ∀ move ∈ moves reported, move.1.canMoveTo move.2 = true
  connected : ∃ state, SagaState.initial.follow (moves reported) = some state
  done : ∀ order, outcome? = some (.ok order) →
    SagaState.initial.follow (moves reported) = some .done
  aborted : ∀ error, outcome? = some (.error error) →
    error.failedState = stage heard reported ∧
      ∃ path, SagaState.initial.follow path = some error.failedState ∧
        moves reported = path ++ [(error.failedState, .aborted)]
  counted : ∀ outcome, outcome? = some outcome →
    later = counts.after (lastState outcome) (isLost heard) ∧ later.total = counts.total + 1
  uncounted : outcome? = none → later = counts

/-- A placement can be aborted in each of the states in which errors abort it. -/
theorem CheckoutError.failedState_cases (error : CheckoutError) :
    error.failedState = .preparing ∨ error.failedState = .paying ∨
      error.failedState = .shipping := by
  cases error with
  | paymentDeclined source => exact Or.inr (Or.inl rfl)
  | shippingFailed source => exact Or.inr (Or.inr rfl)
  | _ => exact Or.inl rfl

theorem CheckoutError.canMoveTo_aborted (error : CheckoutError) :
    error.failedState.canMoveTo .aborted = true := by
  rcases error.failedState_cases with state | state | state
  all_goals
    rw [state]
    rfl

theorem PlacementCounts.total_after (counts : PlacementCounts)
    (outcome : Except CheckoutError Order) (lost : Bool) :
    (counts.after (lastState outcome) lost).total = counts.total + 1 := by
  cases outcome with
  | ok order =>
      simp only [after, total, lastState, reduceCtorEq, if_true, if_false]
      omega
  | error error =>
      rcases error.failedState_cases with state | state | state
      all_goals
        simp only [after, total, lastState, state, reduceCtorEq, if_true, if_false]
        omega

theorem PlacementCounts.countFailure_eq_after (counts : PlacementCounts) (error : CheckoutError)
    (lost : Bool) :
    { counts with paidUnshipped := counts.paidUnshipped + if lost then 1 else 0 }.countFailure
      error.failedState = counts.after error.failedState lost := by
  rcases error.failedState_cases with state | state | state
  all_goals
    rw [state]
    rfl

section Milestones

variable {counts : PlacementCounts} {heard : List Answered} {reported : List Event}

theorem stage_milestones (heard : List Answered) (reported : List Event) :
    stage heard (milestones reported) = stage heard reported := by
  have same : (milestones reported).any Event.isTotal = reported.any Event.isTotal := by
    rw [milestones, List.any_filter]
    congr 1
    funext event
    cases event <;> rfl
  rw [stage, same, stage]

theorem Agrees.of_milestones {later : PlacementCounts}
    {outcome? : Option (Except CheckoutError Order)}
    (agrees : Agrees counts later heard (milestones reported) outcome?) :
    Agrees counts later heard reported outcome? := by
  obtain ⟨allowed, connected, done, aborted, counted, uncounted⟩ := agrees
  rw [moves_milestones] at allowed connected done
  simp only [moves_milestones, stage_milestones] at aborted
  exact ⟨allowed, connected, done, aborted, counted, uncounted⟩

theorem Agrees.of_waits {state : SagaState}
    (leads : SagaState.initial.follow (moves reported) = some state)
    (counts_eq : reported.foldl PlacementCounts.count counts = counts) :
    Agrees counts (reported.foldl PlacementCounts.count counts) heard reported none where
  allowed := SagaState.canMoveTo_of_follow leads
  connected := ⟨state, leads⟩
  done := by
    intro order impossible
    cases impossible
  aborted := by
    intro error impossible
    cases impossible
  counted := by
    intro outcome impossible
    cases impossible
  uncounted := fun _ => counts_eq

/-- A placement that is aborted in the state that its moves have led to. -/
theorem Agrees.of_aborted {error : CheckoutError}
    (leads : SagaState.initial.follow (moves reported) = some error.failedState)
    (stage_eq : error.failedState = stage heard reported)
    (counts_eq : reported.foldl PlacementCounts.count counts =
      { counts with paidUnshipped := counts.paidUnshipped + if isLost heard then 1 else 0 }) :
    Agrees counts ((reported ++ closing (.error error)).foldl PlacementCounts.count counts) heard
      (reported ++ closing (.error error)) (some (.error error)) := by
  have path : moves (reported ++ closing (.error error)) =
      moves reported ++ [(error.failedState, .aborted)] := moves_append reported _
  have leads_on : SagaState.initial.follow (moves (reported ++ closing (.error error))) =
      some .aborted := by
    rw [path, SagaState.follow_append, leads, Option.bind_some, SagaState.follow,
      if_pos ⟨rfl, error.canMoveTo_aborted⟩, SagaState.follow]
  have total : (reported ++ closing (.error error)).any Event.isTotal =
      reported.any Event.isTotal := by
    rw [List.any_append]
    exact Bool.or_false _
  refine ⟨SagaState.canMoveTo_of_follow leads_on, ⟨_, leads_on⟩, ?_, ?_, ?_, ?_⟩
  · intro order impossible
    cases impossible
  · intro failure same
    cases same
    refine ⟨?_, moves reported, leads, path⟩
    rw [stage_eq, stage, stage, total]
  · intro outcome same
    cases same
    have counted : (reported ++ closing (.error error)).foldl PlacementCounts.count counts =
        counts.after error.failedState (isLost heard) := by
      rw [List.foldl_append, counts_eq]
      exact counts.countFailure_eq_after error (isLost heard)
    refine ⟨counted, ?_⟩
    rw [counted]
    exact counts.total_after (.error error) (isLost heard)
  · intro impossible
    cases impossible

theorem Agrees.of_placed {order : Order}
    (leads : SagaState.initial.follow (moves reported) = some .done)
    (shipped : isLost heard = false)
    (counts_eq : reported.foldl PlacementCounts.count counts = counts) :
    Agrees counts ((reported ++ closing (.ok order)).foldl PlacementCounts.count counts) heard
      (reported ++ closing (.ok order)) (some (.ok order)) := by
  have path : moves (reported ++ closing (.ok order)) = moves reported := by
    rw [moves_append]
    exact List.append_nil _
  have counted : (reported ++ closing (.ok order)).foldl PlacementCounts.count counts =
      counts.after .done (isLost heard) := by
    rw [List.foldl_append, counts_eq, shipped]
    rfl
  rw [← path] at leads
  refine ⟨SagaState.canMoveTo_of_follow leads, ⟨_, leads⟩, fun _ _ => leads, ?_, ?_, ?_⟩
  · intro error impossible
    cases impossible
  · intro outcome same
    cases same
    refine ⟨counted, ?_⟩
    rw [counted]
    exact counts.total_after (.ok order) (isLost heard)
  · intro impossible
    cases impossible

end Milestones

/-! ## What was heard -/

theorem Preparatory.any_eq_false {heard : List Answered} (preparatory : Preparatory heard) :
    heard.any Answered.isCharged = false ∧ heard.any Answered.isShipped = false := by
  constructor
  all_goals
    rw [List.any_eq_false]
    intro answered member
    have early := preparatory answered member
    obtain ⟨call, answer⟩ := answered
    cases call with
    | charge endpoint total card => cases early
    | shipOrder address items => cases early
    | _ => exact Bool.false_ne_true

theorem Setback.any_eq_false {call : Call} {error? : Option ServiceError} {made : List Call}
    {heard : List Answered} (setback : Setback call error? made heard) :
    heard.any Answered.isCharged = false ∧ heard.any Answered.isShipped = false := by
  cases setback with
  | refused error => exact ⟨rfl, rfl⟩
  | failed error => cases call <;> exact ⟨rfl, rfl⟩
  | endless => exact ⟨rfl, rfl⟩

theorem Bill.any_gathered {request : OrderRequest} (bill : Bill request) :
    bill.gathered.any Answered.isCharged = false ∧
      bill.gathered.any Answered.isShipped = false :=
  (bill.gathering.preparatory _ _ _).any_eq_false

theorem Bill.isLost_paid {request : OrderRequest} (bill : Bill request) (transaction : String)
    {error? : Option ServiceError} {made : List Call} {answered : List Answered}
    (setback : Setback bill.shipment error? made answered) :
    (bill.paid transaction ++ answered).any Answered.isCharged = true ∧
      isLost (bill.paid transaction ++ answered) = true := by
  have charged : (bill.paid transaction).any Answered.isCharged = true := by
    rw [Bill.paid, List.any_append, bill.any_gathered.1]
    rfl
  have unshipped : (bill.paid transaction).any Answered.isShipped = false := by
    rw [Bill.paid, List.any_append, bill.any_gathered.2]
    rfl
  rw [isLost, List.any_append, List.any_append, charged, unshipped, setback.any_eq_false.2]
  exact ⟨rfl, rfl⟩

theorem Bill.isLost_shipped {request : OrderRequest} (bill : Bill request)
    (transaction tracking : String) (rest : List Answered) :
    isLost (bill.shipped transaction tracking ++ rest) = false := by
  have shipped : (bill.shipped transaction tracking ++ rest).any Answered.isShipped = true := by
    rw [Bill.shipped, List.any_append, List.any_append, List.any_cons]
    simp only [Bill.shipment, Answered.isShipped, Bool.true_or, Bool.or_true]
  rw [isLost, shipped, Bool.not_true, Bool.and_false]

theorem PreparingDue.failedState {user code : String} {address : Address} {heard : List Answered}
    {call : Call} {abort : ServiceError → CheckoutError}
    (due : PreparingDue user code address heard call abort) (error : ServiceError) :
    (abort error).failedState = .preparing := by
  cases due <;> rfl

section Runs

variable {σ : Type} {backend : Backend σ} {trace : TraceContext}

def AgreesIn (metrics : Metrics) (progress : Progress σ (Except CheckoutError Order)) : Prop :=
  Agrees metrics.placements (metrics.countAll (events progress.trail)).placements
    (answers progress.trail) (events progress.trail) (progress.reached.map Prod.fst)

variable {saga : Saga} {request : OrderRequest} {start : Machine σ} {trail : List Entry}
  {made : List Call} {heard : List Answered} {reported marks : List Event} {metrics : Metrics}

theorem agreesIn_of_waits {state : SagaState}
    (halts : (saga.untilShipment request).Halts backend trace start none trail)
    (shows : Shows trail made heard reported) (marks_eq : milestones reported = marks)
    (leads : SagaState.initial.follow (moves marks) = some state)
    (counts_eq : marks.foldl PlacementCounts.count metrics.placements = metrics.placements) :
    AgreesIn metrics ((saga.place trace request).progress backend trace start) := by
  obtain ⟨whole, later, progress, showsWhole⟩ := place_of_halts backend trace halts shows
  have whole_marks : milestones (events whole) = marks := by
    rw [showsWhole.events_eq, Option.toList_none, List.flatMap_nil, List.append_nil]
    exact marks_eq
  rw [progress]
  refine Agrees.of_milestones ?_
  rw [Metrics.placements_countAll, ← PlacementCounts.foldl_count_milestones, whole_marks]
  exact Agrees.of_waits leads counts_eq

theorem agreesIn_of_aborted {error : CheckoutError}
    (halts : (saga.untilShipment request).Halts backend trace start (some error) trail)
    (shows : Shows trail made heard reported) (marks_eq : milestones reported = marks)
    (leads : SagaState.initial.follow (moves marks) = some error.failedState)
    (stage_eq : error.failedState = stage heard marks)
    (counts_eq : marks.foldl PlacementCounts.count metrics.placements =
      { metrics.placements with
        paidUnshipped := metrics.placements.paidUnshipped + if isLost heard then 1 else 0 }) :
    AgreesIn metrics ((saga.place trace request).progress backend trace start) := by
  obtain ⟨whole, later, progress, showsWhole⟩ := place_of_halts backend trace halts shows
  have whole_marks : milestones (events whole) = marks ++ closing (.error error) := by
    rw [showsWhole.events_eq, Option.toList_some, List.flatMap_singleton, milestones_append,
      ← marks_eq]
    rfl
  rw [progress]
  refine Agrees.of_milestones ?_
  rw [Metrics.placements_countAll, ← PlacementCounts.foldl_count_milestones, whole_marks,
    showsWhole.answers_eq]
  exact Agrees.of_aborted leads stage_eq counts_eq

theorem agreesIn_of_preparing {error? : Option CheckoutError}
    (halts : (saga.untilShipment request).Halts backend trace start error? trail)
    (shows : Shows trail made heard reported) (marks_eq : milestones reported = [])
    (preparatory : Preparatory heard)
    (failed : ∀ error ∈ error?, error.failedState = .preparing) :
    AgreesIn metrics ((saga.place trace request).progress backend trace start) := by
  cases error? with
  | none => exact agreesIn_of_waits halts shows marks_eq rfl rfl
  | some error =>
      have state := failed error rfl
      refine agreesIn_of_aborted halts shows marks_eq ?_ ?_ ?_
      · rw [state]
        rfl
      · rw [state, stage, preparatory.any_eq_false.1]
        rfl
      · rw [isLost, preparatory.any_eq_false.1]
        rfl

/-- A placement that ships its cart, and then finishes or waits for ever. -/
theorem agreesIn_of_finish {order : Order} {whole : List Entry} {later : Machine σ}
    (account : FollowedBy whole heard reported
      ((saga.finish trace request order).progress backend trace later) (.placed order))
    (marks_eq : milestones reported = marks)
    (leads : SagaState.initial.follow (moves marks) = some .shipping)
    (counts_eq : marks.foldl PlacementCounts.count metrics.placements = metrics.placements)
    (shipped : ∀ rest, isLost (heard ++ rest) = false) :
    AgreesIn metrics ⟨whole, ((saga.finish trace request order).progress backend trace
      later).reached.map fun (_, machine) => (.ok order, machine)⟩ := by
  have finishing := marks_finish backend trace saga request order later
  have leads_on : ∀ (part : List Event) (state : SagaState),
      SagaState.shipping.follow (moves part) = some state →
      SagaState.initial.follow (moves (marks ++ part)) = some state := by
    intro part state leadsPart
    rw [moves_append, SagaState.follow_append, leads]
    exact leadsPart
  have counts_on : ∀ {part : List Event},
      part.foldl PlacementCounts.count metrics.placements = metrics.placements →
      (marks ++ part).foldl PlacementCounts.count metrics.placements = metrics.placements := by
    intro part counts_eqPart
    rw [List.foldl_append, counts_eq]
    exact counts_eqPart
  refine Agrees.of_milestones ?_
  rw [Metrics.placements_countAll, ← PlacementCounts.foldl_count_milestones, account.events_eq,
    milestones_append, milestones_append, marks_eq, account.answers_eq]
  generalize (saga.finish trace request order).progress backend trace later = finished at *
  obtain ⟨trail, reached⟩ := finished
  cases reached with
  | none =>
      have part := finishing.reached_prefix
      simp only [Option.toList_none, List.map_nil, Option.map_none, milestones, List.filter_nil,
        List.append_nil] at part ⊢
      -- It has made none, one or both of the moves that are left.
      rcases List.prefix_cons_iff.mp part with none_made | ⟨rest, first_made, part⟩
      · rw [none_made]
        exact Agrees.of_waits (leads_on _ .shipping rfl) (counts_on rfl)
      · rcases List.prefix_cons_iff.mp part with one_made | ⟨rest, second_made, part⟩
        · rw [first_made, one_made]
          exact Agrees.of_waits (leads_on _ .finalizing rfl) (counts_on rfl)
        · rw [first_made, second_made, List.prefix_nil.mp part]
          exact Agrees.of_waits (leads_on _ .done rfl) (counts_on rfl)
  | some pair =>
      rw [finishing.reached_all pair rfl]
      exact Agrees.of_placed (leads_on _ .done rfl) (shipped _) (counts_on rfl)

theorem PlacingCourse.agreesIn (course : PlacingCourse backend trace saga request start)
    (metrics : Metrics) :
    AgreesIn metrics ((saga.place trace request).progress backend trace start) := by
  cases course with
  | noId error failed quits =>
      obtain ⟨trail, halts, shows⟩ := quits
      refine agreesIn_of_preparing halts shows rfl Preparatory.nil ?_
      intro failure same
      cases same
      rfl
  | unprepared due stops =>
      obtain ⟨before, here⟩ := due.preparatory
      obtain ⟨error?, made, answered, trail, setback, halts, shows⟩ := stops
      refine agreesIn_of_preparing halts shows rfl ?_ ?_
      · refine Preparatory.append_iff.mpr ⟨before, ?_⟩
        intro answer member
        obtain ⟨error, same⟩ := setback.isError_of_mem member
        rw [same]
        exact here
      · intro failure same
        obtain ⟨error, _, rfl⟩ := Option.map_eq_some_iff.mp same
        exact due.failedState error
  | badQuantity items item found quits =>
      obtain ⟨trail, halts, shows⟩ := quits
      refine agreesIn_of_preparing halts shows rfl (by simp [Call.isPreparatory]) ?_
      intro failure same
      cases same
      rfl
  | noTotal gathering error failed quits =>
      obtain ⟨trail, halts, shows⟩ := quits
      refine agreesIn_of_preparing halts shows rfl (gathering.preparatory _ _ _) ?_
      intro failure same
      cases same
      rfl
  | undecided gathering total total_eq quits =>
      obtain ⟨trail, halts, shows⟩ := quits
      exact agreesIn_of_waits halts shows rfl rfl rfl
  | unpaid bill stops =>
      obtain ⟨error?, made, answered, trail, setback, halts, shows⟩ := stops
      cases error? with
      | none => exact agreesIn_of_waits halts shows bill.milestones_charging rfl rfl
      | some error =>
          have uncharged : (bill.gathered ++ answered).any Answered.isCharged = false := by
            rw [List.any_append, bill.any_gathered.1, setback.any_eq_false.1]
            rfl
          refine agreesIn_of_aborted halts shows bill.milestones_charging rfl ?_ ?_
          · rw [stage, uncharged]
            rfl
          · rw [isLost, uncharged]
            rfl
  -- The charge is the one call that has succeeded since the total was known.
  | unshipped id bill transaction setback halts shows =>
      rename_i error? made answered trail
      obtain ⟨charged, lost⟩ := bill.isLost_paid transaction setback
      cases error? with
      | none =>
          have marks := bill.milestones_shipping transaction []
          exact agreesIn_of_waits halts shows marks rfl rfl
      | some error =>
          have marks := bill.milestones_shipping transaction
            [.paidUnshipped id transaction bill.total (.shippingFailed error)]
          refine agreesIn_of_aborted halts shows marks rfl ?_ ?_
          · rw [stage, charged]
            rfl
          · rw [lost]
            rfl
  | shipped id identified bill transaction tracking later hears =>
      obtain ⟨whole, progress, account⟩ := place_of_hears backend trace hears
      have marks := bill.milestones_shipping transaction [.shipped tracking]
      rw [progress]
      exact agreesIn_of_finish account marks rfl rfl (bill.isLost_shipped transaction tracking)

variable (backend trace)

/-- Whatever its collaborators do and whenever its request ends, a placement makes allowed moves, is
aborted in the state that they have reached, and is counted once, under that state. -/
theorem states_agree (saga : Saga) (request : OrderRequest) (start : Machine σ)
    (metrics : Metrics) :
    AgreesIn metrics ((saga.place trace request).progress backend trace start) := by
  have course := placingCourse backend trace saga request start
  exact course.agreesIn metrics

end Runs

/-- A placement that returns an order, one whose charge is given up and one whose parcel is not
taken: each is counted under the state that its moves have led to. -/
theorem states_agree_of_three_ends :
    (AgreesIn Metrics.zero (Sample.placing 0 true) ∧
      moves (events (Sample.placing 0 true).trail) =
        [(.preparing, .paying), (.paying, .shipping), (.shipping, .finalizing),
          (.finalizing, .done)] ∧
      (Metrics.zero.countAll (events (Sample.placing 0 true).trail)).placements =
        ⟨1, 0, 0, 0, 0⟩) ∧
    (AgreesIn Metrics.zero (Sample.placing 50 true) ∧
      moves (events (Sample.placing 50 true).trail) =
        [(.preparing, .paying), (.paying, .aborted)] ∧
      (Metrics.zero.countAll (events (Sample.placing 50 true).trail)).placements =
        ⟨0, 0, 1, 0, 0⟩) ∧
    AgreesIn Metrics.zero (Sample.placing 0 false) ∧
      moves (events (Sample.placing 0 false).trail) =
        [(.preparing, .paying), (.paying, .shipping), (.shipping, .aborted)] ∧
      (Metrics.zero.countAll (events (Sample.placing 0 false).trail)).placements =
        ⟨0, 0, 0, 1, 1⟩ :=
  ⟨⟨states_agree _ _ _ _ _ _, rfl, rfl⟩, ⟨states_agree _ _ _ _ _ _, rfl, rfl⟩,
    states_agree _ _ _ _ _ _, rfl, rfl⟩

end Checkout

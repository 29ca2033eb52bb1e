import DrivingControl.Controler.CarTargets

/-!
# The actions of the stations

Every stop, lift and charge that the server orders at a way point should be performed
before the car goes on behind it.  The car rewrites actions from the run modes, lift
heights and actions of two way points, and jumps way points on a straight line; orders
get lost when the one or the other hits a way point that was ordered with an action.
-/

namespace DrivingControl.Controler

open DrivingControl.Comm DrivingControl.Event DrivingControl.Library

/-! ## Actions by position -/

namespace RoutePlanner

/-- The action of a way point in memory. -/
def actionAt (router : RoutePlanner) (i : Nat) : Option Int :=
  router.pathList[i]?.map (·.action)

variable {router other : RoutePlanner} {path : WayPoint}

theorem SameRoute.actionAt (same : SameRoute router other) (i : Nat) :
    other.actionAt i = router.actionAt i := by
  rw [RoutePlanner.actionAt, RoutePlanner.actionAt, same.pathList]

theorem actionAt_target (present : router.getTargetStation = some path) :
    router.actionAt router.targetPathId.toNat = some path.action := by
  rw [actionAt, getElem?_targetPathId present]
  rfl

/-- Only the action of the target is rewritten. -/
theorem RewritesTarget.actionAt (rewrites : RewritesTarget router other path)
    {target : WayPoint} (present : router.getTargetStation = some target) (i : Nat) :
    other.actionAt i =
      if i = router.targetPathId.toNat then some path.action else router.actionAt i := by
  have within := (List.getElem?_eq_some_iff.mp (getElem?_targetPathId present)).1
  simp only [RoutePlanner.actionAt]
  rw [rewrites.pathList, List.getElem?_set]
  by_cases same : i = router.targetPathId.toNat
  · subst same
    simp [within]
  · simp [same, Ne.symm same]

theorem action_takeHeight (cur next : WayPoint) :
    (takeHeight cur next).action = next.action := by
  rw [takeHeight]
  split <;> rfl

theorem actionAt_finishStation (router : RoutePlanner) (i : Nat) :
    router.finishStation.actionAt i = router.actionAt i := by
  simp only [actionAt, finishStation, updateTarget, List.getElem?_modify]
  cases router.pathList[i]? with
  | none => rfl
  | some path =>
      by_cases here : router.targetPathId.toNat = i
      · simp [here]
      · simp [here]

/-- The choice of the next way point leaves the actions and moves the cursor by one or
by two. -/
theorem chooseNext_spec (readings : Readings) (router : RoutePlanner) :
    (∀ i, (router.chooseNext readings).actionAt i = router.actionAt i) ∧
      (router.chooseNext readings).pathList.length = router.pathList.length ∧
      ((router.chooseNext readings).targetPathId = router.targetPathId + 1 ∨
        (router.chooseNext readings).targetPathId = router.targetPathId + 2) := by
  rw [chooseNext]
  dsimp only
  split
  next cur next here further =>
    split
    · refine ⟨fun i => ?_, by simp, .inr (by dsimp only; omega)⟩
      have behind : router.pathList[(router.targetPathId + 1).toNat + 1]? = some next := by
        rw [nextStation] at further
        split at further
        · exact further
        · cases further
      have within := (List.getElem?_eq_some_iff.mp behind).1
      simp only [actionAt]
      rw [List.getElem?_set]
      by_cases same : (router.targetPathId + 1).toNat + 1 = i
      · subst same
        rw [if_pos rfl, if_pos within, behind]
        simp [action_takeHeight]
      · simp [same]
    · exact ⟨fun _ => rfl, rfl, .inl rfl⟩
  next => exact ⟨fun _ => rfl, rfl, .inl rfl⟩

end RoutePlanner

/-! ## Orders -/

/-- The actions that stop the car. -/
def isOrdered (action : Int) : Bool :=
  action == actionStop || action == actionLiftUpDown || action == actionCharge

/-- The action that was ordered at a way point of the installed path. -/
def orderAt (points : List WayPoint) (i : Nat) : Option Int :=
  (points[i]?.map (·.action)).filter isOrdered

/-- Whether a way point keeps an ordered action: a stop is kept before a lift, every stop
and every charge needs the way point to have no lift height otherwise, a lift and a
charge no lift behind them, and all three no charge behind them. -/
def keepsAction (path : WayPoint) (next : Option WayPoint) : Bool :=
  let before (action : Int) : Bool := next.any (·.action == action)
  if path.action = actionStop then
    before actionLiftUpDown || (decide (path.liftHeight < 0) && !before actionCharge)
  else if path.action = actionLiftUpDown then !before actionLiftUpDown && !before actionCharge
  else decide (path.liftHeight < 0) && !before actionLiftUpDown && !before actionCharge

/-- An ordered action is only rewritten by the rule for lift heights and by the action of
the next way point. -/
theorem sentAction_ordered (readings : Readings) (path : WayPoint) (next : Option WayPoint)
    (ordered : isOrdered path.action = true) :
    sentAction readings path next =
      match next with
      | none => liftAction path
      | some next =>
          if next.action = actionLiftUpDown then actionStop
          else if next.action = actionCharge then actionSpeedDown
          else liftAction path := by
  have stops : path.action ≠ actionRun := by
    intro run
    rw [run] at ordered
    exact absurd ordered (by decide)
  have turned : turnAction path next = path.action := if_neg stops
  have lifted : liftAction path ≠ actionRun := by
    rw [liftAction]
    split
    · decide
    · exact stops
  simp only [sentAction]
  rw [turned]
  cases next with
  | none => rfl
  | some next =>
      simp only [runAction]
      change (if next.action = actionLiftUpDown then actionStop
        else if liftAction path = actionRun ∧ _ ∨ next.action = actionCharge then
          actionSpeedDown
        else liftAction path) = _
      simp only [lifted, false_and, false_or]

/-- This is what the rewriting keeps. -/
theorem sentAction_eq_iff (readings : Readings) (path : WayPoint) (next : Option WayPoint)
    (ordered : isOrdered path.action = true) :
    sentAction readings path next = path.action ↔ keepsAction path next = true := by
  rw [sentAction_ordered readings path next ordered]
  simp only [isOrdered, Bool.or_eq_true, beq_iff_eq] at ordered
  rw [keepsAction, liftAction]
  cases next with
  | none =>
      rcases ordered with (action | action) | action <;>
        simp [action, actionStop, actionLiftUpDown, actionCharge]
  | some next =>
      by_cases lift : next.action = actionLiftUpDown
      · rcases ordered with (action | action) | action <;>
          simp [action, lift, actionStop, actionLiftUpDown, actionCharge]
      · by_cases charge : next.action = actionCharge
        · rcases ordered with (action | action) | action <;>
            simp [action, charge, actionStop, actionLiftUpDown, actionCharge, actionSpeedDown]
        · simp only [actionLiftUpDown, actionCharge] at lift charge
          rcases ordered with (action | action) | action <;>
            simp [action, lift, charge, actionStop, actionLiftUpDown, actionCharge]

/-- Whether the target keeps its order when it is sent. -/
def keepsOrder (points : List WayPoint) (router : RoutePlanner) : Bool :=
  match router.getTargetStation with
  | none => true
  | some path =>
      (orderAt points router.targetPathId.toNat).isNone ||
        keepsAction path router.nextStation

/-- Whether the orders are kept when the action of the target is finished: none is
jumped, and the new target keeps its own. -/
def keepsOrders (points : List WayPoint) (readings : Readings) (router : RoutePlanner) : Bool :=
  match router.getTargetStation with
  | none => true
  | some target =>
      target.actionFinish ||
        (((router.goOn readings).targetPathId == router.targetPathId + 1 ||
          (orderAt points (router.targetPathId.toNat + 1)).isNone) &&
        keepsOrder points (router.goOn readings))

/-- The order of the target was performed, unless the end of an action leaves the car
there. -/
def TargetDone (points : List WayPoint) (car : AgvCar) : Prop :=
  ∀ target ∈ car.router.getTargetStation,
    target.actionFinish = true ∨ car.router.nextStation = none ∨
      ∀ action ∈ orderAt points car.router.targetPathId.toNat,
        (car.router.targetPathId, action) ∈ car.performed

/-- Every way point of the path that was ordered with an action has it in memory, and it
was performed if the car is behind the way point. -/
def OrdersKept (points : List WayPoint) (car : AgvCar) : Prop :=
  ∀ i, i < points.length → ∀ action ∈ orderAt points i,
    car.router.actionAt i = some action ∧
      ((i : Int) < car.router.targetPathId → ((i : Int), action) ∈ car.performed)

instance (points : List WayPoint) (car : AgvCar) : Decidable (OrdersKept points car) :=
  inferInstanceAs (Decidable (∀ i, i < points.length → ∀ action ∈ orderAt points i, _))

/-! ## Undisturbed runs -/

/-- The program, as long as no path is installed or reloaded. -/
def undisturbedStep : StepFn AgvCar CarStep
  | .handle evt readings, car =>
      if AgvCar.loadsPath evt.event then none else carStep (.handle evt readings) car
  | label, car => carStep label car

/-- The orders are kept in a step. -/
def PerformsOrders (points : List WayPoint) (_ : AgvCar) (_ : CarStep) (next : AgvCar) : Prop :=
  OrdersKept points next

instance (points : List WayPoint) (car : AgvCar) (label : CarStep) (next : AgvCar) :
    Decidable (PerformsOrders points car label next) :=
  inferInstanceAs (Decidable (OrdersKept points next))

/-- The steps that send a way point keep its order and jump no other, and a lift that
arrives finishes no order that was not performed. -/
def KeepsOrders (points : List WayPoint) (car : AgvCar) (label : CarStep) (_ : AgvCar) : Prop :=
  match label with
  | .handle evt readings =>
      match evt.event with
      | .evKeyStart | .evApplyPath =>
          car.operateMode = .autoMode ∧ car.router.targetPathId = 0 →
            keepsOrder points car.router = true
      | .evNextPathPoint =>
          ∀ target ∈ car.router.getTargetStation, car.completes target = true →
            keepsOrders points readings car.router = true
      | .evLiftArrived =>
          car.currentPathAction = actionLiftUpDown →
            keepsOrders points readings car.router = true ∧ TargetDone points car
      | _ => True
  | _ => True

/-! ## The invariant -/

theorem lt_of_mem_orderAt {points : List WayPoint} {i : Nat} {action : Int}
    (ordered : action ∈ orderAt points i) : i < points.length := by
  rw [orderAt] at ordered
  rw [Option.mem_def, Option.filter_eq_some_iff] at ordered
  rcases Option.map_eq_some_iff.mp ordered.1 with ⟨path, found, -⟩
  exact (List.getElem?_eq_some_iff.mp found).1

theorem isOrdered_of_mem_orderAt {points : List WayPoint} {i : Nat} {action : Int}
    (ordered : action ∈ orderAt points i) : isOrdered action = true := by
  rw [orderAt] at ordered
  rw [Option.mem_def, Option.filter_eq_some_iff] at ordered
  exact ordered.2

/-- The path is executed: its orders are kept, and nothing ahead was performed. -/
structure Executes (points : List WayPoint) (car : AgvCar) : Prop where
  length : car.router.pathList.length = points.length
  nonneg : 0 ≤ car.router.targetPathId
  behind : ∀ entry ∈ car.performed, entry.1 ≤ car.router.targetPathId
  kept : OrdersKept points car

namespace Executes

open RoutePlanner AgvCar

variable {points : List WayPoint} {readings : Readings} {car next : AgvCar}
  {path target : WayPoint}

/-- The place on the path and what was performed are all that counts. -/
theorem congr (executes : Executes points car) (route : SameRoute car.router next.router)
    (performed : next.performed = car.performed) : Executes points next where
  length := by rw [route.pathList, executes.length]
  nonneg := by
    rw [route.targetPathId]
    exact executes.nonneg
  behind := by
    rw [performed, route.targetPathId]
    exact executes.behind
  kept i within order ordered := by
    rw [performed, route.targetPathId, route.actionAt]
    exact executes.kept i within order ordered

/-- A way point that is sent keeps all orders exactly if it keeps its own. -/
theorem ordersKept_departs (kept : OrdersKept points car)
    (present : car.router.getTargetStation = some path)
    (departs : Departs readings (car.router.asSent readings path) car next) :
    OrdersKept points next ↔ keepsOrder points car.router = true := by
  have rewritten := departs.rewrites.actionAt present
  have cursor := departs.rewrites.targetPathId
  have inMemory := actionAt_target present
  rw [keepsOrder]
  simp only [present, Bool.or_eq_true, Option.isNone_iff_eq_none]
  constructor
  · intro keptNext
    cases ordered : orderAt points car.router.targetPathId.toNat with
    | none => exact .inl rfl
    | some action =>
        right
        have before := (kept _ (lt_of_mem_orderAt ordered) action ordered).1
        have after := (keptNext _ (lt_of_mem_orderAt ordered) action ordered).1
        rw [inMemory, Option.some.injEq] at before
        rw [rewritten, if_pos rfl, Option.some.injEq] at after
        have order := isOrdered_of_mem_orderAt ordered
        rw [← before] at order
        exact (sentAction_eq_iff readings path _ order).mp (after.trans before.symm)
  · intro keeps i within action ordered
    rcases kept i within action ordered with ⟨before, performed⟩
    rw [cursor, departs.performed]
    refine ⟨?_, performed⟩
    rw [rewritten]
    split
    next atTarget =>
      subst atTarget
      rw [inMemory, Option.some.injEq] at before
      rcases keeps with absent | keeps
      · simp [absent] at ordered
      · have order := isOrdered_of_mem_orderAt ordered
        rw [← before] at order
        have same := (sentAction_eq_iff readings path _ order).mpr keeps
        exact congrArg some (same.trans before)
    next => exact before

/-- What is true of the planner behind the choice of the next way point. -/
theorem goOn_spec (readings : Readings) (router : RoutePlanner) :
    (∀ i, (router.goOn readings).actionAt i = router.actionAt i) ∧
      (router.goOn readings).pathList.length = router.pathList.length ∧
      ((router.goOn readings).targetPathId = router.targetPathId + 1 ∨
        (router.goOn readings).targetPathId = router.targetPathId + 2) := by
  rcases chooseNext_spec readings router.finishStation with ⟨actions, length, cursor⟩
  refine ⟨fun i => ?_, ?_, cursor⟩
  · rw [goOn, actions, actionAt_finishStation]
  · rw [goOn, length]
    simp [finishStation, updateTarget]

/-- Whether the choice of the next way point jumps none that was ordered with an action. -/
def SkipsNone (points : List WayPoint) (readings : Readings) (router : RoutePlanner) : Prop :=
  (router.goOn readings).targetPathId = router.targetPathId + 1 ∨
    orderAt points (router.targetPathId.toNat + 1) = none

/-- The order of a way point that is jumped is not performed. -/
theorem skipsNone_of_performed (executes : Executes points car)
    (performed : ∀ i action, action ∈ orderAt points i →
      (i : Int) < (car.router.goOn readings).targetPathId → ((i : Int), action) ∈ car.performed) :
    SkipsNone points readings car.router := by
  rcases (goOn_spec readings car.router).2.2 with cursor | cursor
  · exact .inl cursor
  · right
    cases ordered : orderAt points (car.router.targetPathId.toNat + 1) with
    | none => rfl
    | some action =>
        have nonneg := executes.nonneg
        have done := performed _ action ordered (by omega)
        have bound := executes.behind _ done
        simp only at bound
        omega

/-- When the order of the target is performed and none is jumped, the car may go on. -/
theorem ordersKept_goOn (executes : Executes points car)
    (done : ∀ action ∈ orderAt points car.router.targetPathId.toNat,
      (car.router.targetPathId, action) ∈ car.performed)
    (skips : SkipsNone points readings car.router) :
    OrdersKept points
      { car with router := car.router.goOn readings, currentPathAction := 0 } := by
  rcases goOn_spec readings car.router with ⟨actions, -, cursor⟩
  have nonneg := executes.nonneg
  intro i within action ordered
  rcases executes.kept i within action ordered with ⟨inMemory, performed⟩
  refine ⟨(actions i).trans inMemory, ?_⟩
  intro before
  simp only at before ⊢
  by_cases passed : (i : Int) < car.router.targetPathId
  · exact performed passed
  · by_cases atTarget : (i : Int) = car.router.targetPathId
    · have order : action ∈ orderAt points car.router.targetPathId.toNat := by
        rw [← atTarget, Int.toNat_natCast]
        exact ordered
      rw [atTarget]
      exact done action order
    · rcases skips with next | absent
      · omega
      · have jumped : i = car.router.targetPathId.toNat + 1 := by omega
        rw [jumped, absent] at ordered
        cases ordered

/-- The end of an action keeps the orders exactly if the order of the target was performed
and the condition on the planner holds. -/
theorem ordersKept_finishes (executes : Executes points car)
    (finishes : Finishes readings car next) :
    (OrdersKept points next ↔
      keepsOrders points readings car.router = true ∧ TargetDone points car) ∧
      (OrdersKept points next → Executes points next) := by
  cases finishes with
  | again target present finished same =>
      subst same
      refine ⟨⟨fun _ => ⟨by simp [keepsOrders, present, finished], ?_⟩, fun _ => executes.kept⟩,
        fun _ => executes⟩
      intro other isTarget
      cases present.symm.trans isTarget
      exact .inl finished
  | last target present unfinished last keeps =>
      have finished : Executes points
          { car with router := car.router.finishStation, currentPathAction := 0 } :=
        { length := by simpa [finishStation, updateTarget] using executes.length
          nonneg := executes.nonneg
          behind := executes.behind
          kept := fun i within action ordered => by
            rw [actionAt_finishStation]
            exact executes.kept i within action ordered }
      have executesNext : Executes points next := finished.congr keeps.route keeps.performed
      refine ⟨⟨fun _ => ⟨?_, fun _ _ => .inr (.inl last)⟩, fun _ => executesNext.kept⟩,
        fun _ => executesNext⟩
      rcases goOn_absent readings present last with ⟨cursor, absent⟩
      simp [keepsOrders, keepsOrder, present, cursor, absent]
  | goes target path present unfinished chosen departs =>
      have cursor := departs.rewrites.targetPathId
      have performed := departs.performed
      rcases goOn_spec readings car.router with ⟨-, length, moved⟩
      have nonneg := executes.nonneg
      -- everything before the new target was performed, the old target included
      have before : OrdersKept points next → ∀ i action, action ∈ orderAt points i →
          (i : Int) < (car.router.goOn readings).targetPathId →
          ((i : Int), action) ∈ car.performed := by
        intro kept i action ordered passed
        rw [← performed]
        exact (kept i (lt_of_mem_orderAt ordered) action ordered).2 (by rw [cursor]; exact passed)
      have skips : OrdersKept points next → SkipsNone points readings car.router :=
        fun kept => skipsNone_of_performed executes (before kept)
      have done : OrdersKept points next → TargetDone points car := by
        intro kept _ _
        refine .inr (.inr fun action ordered => ?_)
        have atTarget := before kept _ action ordered (by omega)
        rwa [Int.toNat_of_nonneg nonneg] at atTarget
      have equal : keepsOrders points readings car.router = true ↔
          SkipsNone points readings car.router ∧
            keepsOrder points (car.router.goOn readings) = true := by
        simp [keepsOrders, present, unfinished, SkipsNone]
      have agree : SkipsNone points readings car.router → TargetDone points car →
          (OrdersKept points next ↔ keepsOrder points (car.router.goOn readings) = true) := by
        intro skips targetDone
        have follows := nextStation_ne_none present chosen
        have performedThere := (targetDone target present).resolve_left (by simp [unfinished])
        exact ordersKept_departs
          (ordersKept_goOn executes (performedThere.resolve_left follows) skips) chosen departs
      rw [equal]
      refine ⟨⟨fun kept => ?_, fun both => (agree both.1.1 both.2).mpr both.1.2⟩, fun kept => ?_⟩
      · exact ⟨⟨skips kept, (agree (skips kept) (done kept)).mp kept⟩, done kept⟩
      refine ⟨?_, ?_, ?_, kept⟩
      · rw [departs.rewrites.pathList, List.length_set]
        exact length.trans executes.length
      · rw [cursor]
        simp only
        omega
      · intro entry member
        rw [performed] at member
        have bound := executes.behind entry member
        rw [cursor]
        simp only
        omega

theorem keepsOrders_congr {router other : RoutePlanner} (points : List WayPoint)
    (readings : Readings) (same : SameRoute router other) :
    keepsOrders points readings other = keepsOrders points readings router := by
  have on := same.goOn readings
  simp only [keepsOrders, keepsOrder]
  rw [same.getTargetStation, same.targetPathId, on.getTargetStation, on.targetPathId,
    on.nextStation]

/-- An arrival performs the action of the target, and keeps the orders exactly under the
condition on the planner. -/
theorem ordersKept_onArrivedStation (executes : Executes points car)
    (handled : car.onArrivedStation readings = some next) :
    (OrdersKept points next ↔ ∀ target ∈ car.router.getTargetStation,
      car.completes target = true → keepsOrders points readings car.router = true) ∧
      (OrdersKept points next → Executes points next) := by
  rcases onArrivedStation_eq_some handled with ⟨target, present, finished⟩
  have performs := performs_doPathPointAction target car
  have done : ∀ action ∈ orderAt points car.router.targetPathId.toNat,
      (car.router.targetPathId, action) ∈ (car.doPathPointAction target).1.performed := by
    intro action ordered
    have inMemory := (executes.kept _ (lt_of_mem_orderAt ordered) action ordered).1
    rw [actionAt_target present, Option.some.injEq] at inMemory
    rw [performs.performed, inMemory]
    simp
  have executesThere : Executes points (car.doPathPointAction target).1 :=
    { length := by rw [performs.route.pathList, executes.length]
      nonneg := by
        rw [performs.route.targetPathId]
        exact executes.nonneg
      behind := by
        rw [performs.route.targetPathId, performs.performed]
        intro entry member
        rcases List.mem_append.mp member with before | now
        · exact executes.behind entry before
        · exact Int.le_of_eq (congrArg Prod.fst (List.mem_singleton.mp now))
      kept := fun i within action ordered => by
        rcases executes.kept i within action ordered with ⟨inMemory, performed⟩
        rw [performs.route.actionAt, performs.route.targetPathId, performs.performed]
        exact ⟨inMemory, fun before => List.mem_append_left _ (performed before)⟩ }
  have exact_ : (∀ target ∈ car.router.getTargetStation, car.completes target = true →
      keepsOrders points readings car.router = true) ↔
      (car.completes target = true → keepsOrders points readings car.router = true) := by
    simp [present]
  rw [exact_]
  rcases finished with ⟨completes, finishes⟩ | ⟨open_, same⟩
  · have result := ordersKept_finishes executesThere finishes
    have targetDone : TargetDone points (car.doPathPointAction target).1 := by
      intro _ _
      rw [performs.route.targetPathId]
      exact .inr (.inr done)
    rw [keepsOrders_congr points readings performs.route] at result
    simpa [completes, targetDone] using result
  · rw [same]
    exact ⟨⟨fun _ => by simp [open_], fun _ => executesThere.kept⟩, fun _ => executesThere⟩

/-- A start keeps the orders exactly if the first way point keeps its own. -/
theorem ordersKept_starts (executes : Executes points car)
    (starts : Starts readings car next) :
    (OrdersKept points next ↔
      (car.router.targetPathId = 0 → keepsOrder points car.router = true)) ∧
      (OrdersKept points next → Executes points next) := by
  cases starts with
  | empty nothing same =>
      have absent : car.router.getTargetStation = none := by simp [getTargetStation, nothing]
      subst same
      exact ⟨⟨fun _ _ => by simp [keepsOrder, absent], fun _ => executes.kept⟩,
        fun _ => executes⟩
  | first path cursor present departs =>
      simp only [cursor, true_implies]
      refine ⟨ordersKept_departs executes.kept present departs, fun kept => ?_⟩
      have same := departs.rewrites.targetPathId
      refine ⟨?_, ?_, ?_, kept⟩
      · rw [departs.rewrites.pathList, List.length_set, executes.length]
      · rw [same]
        exact executes.nonneg
      · rw [same, departs.performed]
        exact executes.behind
  | resumes nonempty cursor resends status =>
      have there := executes.congr resends.route resends.performed
      exact ⟨⟨fun _ first => absurd first cursor, fun _ => there.kept⟩, fun _ => there⟩

end Executes

/-! ## Runs -/

theorem keepsOrders_barrier {points : List WayPoint} {readings : Readings} {evt : AgvEvent}
    {car next : AgvCar} (kind : AgvCar.IsBarrier evt.event) :
    KeepsOrders points car (.handle evt readings) next := by
  rcases kind with kind | kind | kind | kind | kind <;> simp [KeepsOrders, kind]

/-- A step that keeps the place on the path and performs nothing keeps the orders. -/
theorem Executes.agrees {points : List WayPoint} {next : AgvCar} {condition : Prop}
    (executes : Executes points next) (holds : condition) :
    (OrdersKept points next ↔ condition) ∧ (OrdersKept points next → Executes points next) :=
  ⟨⟨fun _ => holds, fun _ => executes.kept⟩, fun _ => executes⟩

theorem ordersKept_handleEvent {points : List WayPoint} {readings : Readings} {evt : AgvEvent}
    {car next : AgvCar} (executes : Executes points car)
    (stays : AgvCar.loadsPath evt.event = false)
    (handled : car.handleEvent readings evt = some next) :
    (OrdersKept points next ↔ KeepsOrders points car (.handle evt readings) next) ∧
      (OrdersKept points next → Executes points next) := by
  by_cases sending : AgvCar.sendsTarget evt.event = true
  · cases AgvCar.handlesTarget_of_sendsTarget sending handled with
    | start kind automatic started =>
        have agrees := executes.ordersKept_starts (AgvCar.starts_startRun automatic started)
        rcases kind with kind | kind
        · simpa [KeepsOrders, kind, automatic] using agrees
        · simpa [KeepsOrders, kind, automatic] using agrees
    | startIgnored kind manual same =>
        subst same
        rcases kind with kind | kind
        · exact executes.agrees (by simp [KeepsOrders, kind, manual])
        · exact executes.agrees (by simp [KeepsOrders, kind, manual])
    | arrival kind arrived =>
        simpa only [KeepsOrders, kind] using executes.ordersKept_onArrivedStation arrived
    | lift kind lifting finished =>
        simpa [KeepsOrders, kind, lifting] using executes.ordersKept_finishes
          (AgvCar.finishes_onStationActionFinished finished)
    | liftIgnored kind other same =>
        subst same
        exact executes.agrees (by simp [KeepsOrders, kind, other])
    | barrier kind automatic same =>
        have resends := AgvCar.resends_onBarrierMessage readings evt.event evt.param car
        rw [← same] at resends
        exact (executes.congr resends.route resends.performed).agrees (keepsOrders_barrier kind)
    | barrierIgnored kind manual same =>
        subst same
        exact executes.agrees (keepsOrders_barrier kind)
  · have keeps := AgvCar.keeps_of_quiet (Bool.eq_false_iff.mpr sending) stays handled
    have holds : KeepsOrders points car (.handle evt readings) next := by
      unfold KeepsOrders
      cases named : evt.event with
      | evKeyStart | evApplyPath | evNextPathPoint | evLiftArrived =>
          simp [named, AgvCar.sendsTarget] at sending
      | _ => simp only [named]
    exact (executes.congr keeps.route keeps.performed).agrees holds

/-- One step of an undisturbed run. -/
theorem performsOrders_iff_keepsOrders {points : List WayPoint} (car : AgvCar)
    (label : CarStep) (next : AgvCar) (executes : Executes points car)
    (stepped : undisturbedStep label car = some next) :
    (PerformsOrders points car label next ↔ KeepsOrders points car label next) ∧
      (PerformsOrders points car label next → Executes points next) := by
  rw [PerformsOrders]
  cases label with
  | handle evt readings =>
      simp only [undisturbedStep] at stepped
      split at stepped
      · cases stepped
      next stays => exact ordersKept_handleEvent executes (Bool.eq_false_iff.mpr stays) stepped
  | _ =>
      simp only [undisturbedStep] at stepped
      have background := AgvCar.background_carStep rfl stepped
      refine Executes.agrees ?_ trivial
      exact executes.congr (background.router ▸ .refl _) background.performed

/-- The car as `OnGetNewPath` leaves it, where the history of performed actions begins. -/
def AgvCar.withPath (readings : Readings) (stations : List StationInfo) (car : AgvCar) :
    AgvCar :=
  { car.onGetNewPath { readings with stationList := stations } with performed := [] }

theorem executes_withPath (readings : Readings) (stations : List StationInfo)
    (car : AgvCar) :
    Executes (stations.map WayPoint.ofStation) (car.withPath readings stations) := by
  have route := AgvCar.route_onGetNewPath { readings with stationList := stations } car
  have points : (car.withPath readings stations).router.pathList =
      stations.map WayPoint.ofStation := route.pathList.trans (by simp)
  have cursor : (car.withPath readings stations).router.targetPathId = 0 :=
    route.targetPathId.trans (by simp)
  refine ⟨by rw [points], Int.le_of_eq cursor.symm, fun _ member => ?_, ?_⟩
  · cases member
  intro i within action ordered
  refine ⟨?_, fun before => ?_⟩
  · rw [orderAt] at ordered
    rw [Option.mem_def, Option.filter_eq_some_iff] at ordered
    rw [RoutePlanner.actionAt, points]
    exact ordered.1
  · rw [cursor] at before
    omega

/-- In every undisturbed run of a path, all orders are kept exactly when every step that
sends a way point keeps its order and jumps no other, and no lift that arrives finishes an
order that was not performed. -/
theorem along_performsOrders_iff (readings : Readings) (stations : List StationInfo)
    (car : AgvCar) (labels : List CarStep) :
    Along undisturbedStep (PerformsOrders (stations.map WayPoint.ofStation)) labels
        (car.withPath readings stations) ↔
      Along undisturbedStep (KeepsOrders (stations.map WayPoint.ofStation)) labels
        (car.withPath readings stations) :=
  along_iff_of_guard
    (fun state label next executes stepped keeps =>
      have result := performsOrders_iff_keepsOrders state label next executes stepped
      result.2 (result.1.mpr keeps))
    (fun state label next executes stepped =>
      (performsOrders_iff_keepsOrders state label next executes stepped).1)
    (executes_withPath readings stations car)

/-- A stop before a charge is rewritten to a slow-down, and the car goes on without a
stop when it arrives. -/
theorem stop_before_charge_lost :
    ¬ Along undisturbedStep
      (PerformsOrders ([stationAhead 1 1, stationAhead 2 5].map WayPoint.ofStation))
      [.handle { event := .evApplyPath } {}, .loop 1, .arrive,
        .handle { event := .evNextPathPoint, param := 1 } {}]
      ((AgvCar.init.onKeyAutoMode {}).withPath {} [stationAhead 1 1, stationAhead 2 5]) := by
  decide

end DrivingControl.Controler

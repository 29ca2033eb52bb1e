import DrivingControl.Controler.CarRoute

/-!
# What `GoToNextPoint` does to the path

The looks ahead move the planner's cursor on and back and rewrite way points behind
pointers.  Here the effect on the path and the cursor is stated without the moves: at
most one way point is jumped, its lift height may pass to the next one, and only the
action of the way point that becomes the target is rewritten.
-/

namespace DrivingControl.Controler

/-! ## The rewritten action -/

/-- The action behind the test for a turn or the end of the path. -/
def turnAction (path : WayPoint) (next : Option WayPoint) : Int :=
  if path.action = actionRun then
    match next with
    | none => actionStop
    | some next => if next.runMode ≠ path.runMode then actionStop else path.action
  else path.action

/-- The action behind the rule for lift heights. -/
def liftAction (path : WayPoint) : Int :=
  if path.action ≠ actionLiftUpDown ∧ path.liftHeight ≥ 0 then actionLiftUpDown
  else path.action

/-- The action a way point is sent with. -/
def sentAction (readings : Readings) (path : WayPoint) (next : Option WayPoint) : Int :=
  let turned := { path with action := turnAction path next }
  let lifted := { turned with action := liftAction turned }
  match next with
  | none => lifted.action
  | some next => runAction readings lifted next

namespace RoutePlanner

/-- The path is the same but for the way point at the cursor, which stays. -/
structure RewritesTarget (router other : RoutePlanner) (path : WayPoint) : Prop where
  targetPathId : other.targetPathId = router.targetPathId
  pathList : other.pathList = router.pathList.set router.targetPathId.toNat path

namespace RewritesTarget

variable {router other last : RoutePlanner} {path target : WayPoint}

/-- Without a change of path and cursor, the target is rewritten to itself. -/
theorem unchanged (present : router.getTargetStation = some target)
    (same : SameRoute router other) : RewritesTarget router other target := by
  refine ⟨same.targetPathId, ?_⟩
  rcases List.getElem?_eq_some_iff.mp (getElem?_targetPathId present) with ⟨within, rfl⟩
  rw [same.pathList, List.set_getElem_self]

/-- Rewriting the target to itself changes nothing. -/
theorem sameRoute (rewrites : RewritesTarget router other target)
    (present : router.getTargetStation = some target) : SameRoute router other := by
  refine ⟨?_, rewrites.targetPathId⟩
  rcases List.getElem?_eq_some_iff.mp (getElem?_targetPathId present) with ⟨within, rfl⟩
  rw [rewrites.pathList, List.set_getElem_self]

theorem trans (first : RewritesTarget router other target)
    (second : RewritesTarget other last path) : RewritesTarget router last path := by
  refine ⟨second.targetPathId.trans first.targetPathId, ?_⟩
  rw [second.pathList, first.targetPathId, first.pathList, List.set_set]

/-- The rewritten way point is the target. -/
theorem present (rewrites : RewritesTarget router other path)
    (present : router.getTargetStation = some target) :
    other.getTargetStation = some path := by
  have nonneg := targetPathId_nonneg present
  have within := (List.getElem?_eq_some_iff.mp (getElem?_targetPathId present)).1
  rw [getTargetStation, rewrites.targetPathId, if_pos nonneg, rewrites.pathList,
    List.getElem?_set_self within]

/-- The way point behind the target is the same. -/
theorem nextStation (rewrites : RewritesTarget router other path) :
    other.nextStation = router.nextStation := by
  rw [RoutePlanner.nextStation, RoutePlanner.nextStation, rewrites.targetPathId,
    rewrites.pathList, List.getElem?_set_ne (by omega)]

end RewritesTarget

variable {router : RoutePlanner} {path : WayPoint}

/-- A change behind the pointer to the target rewrites it. -/
theorem rewritesTarget_updateTarget (present : router.getTargetStation = some path)
    (change : WayPoint → WayPoint) :
    RewritesTarget router (router.updateTarget change) (change path) := by
  refine ⟨rfl, ?_⟩
  rcases List.getElem?_eq_some_iff.mp (getElem?_targetPathId present) with ⟨within, rfl⟩
  apply List.ext_getElem?
  intro i
  simp only [updateTarget, List.getElem?_modify, List.getElem?_set]
  by_cases atCursor : router.targetPathId.toNat = i
  · subst atCursor
    simp [within]
  · simp [atCursor]

/-- The look at the next way point rewrites nothing. -/
theorem rewritesTarget_peekNextStation (present : router.getTargetStation = some path) :
    RewritesTarget router router.peekNextStation.1 path :=
  .unchanged present ⟨pathList_peekNextStation router, (peekNextStation_eq present).2⟩

theorem rewritesTarget_stopAtTurn (present : router.getTargetStation = some path) :
    RewritesTarget router (router.stopAtTurn path)
      { path with action := turnAction path router.nextStation } := by
  have peeked := rewritesTarget_peekNextStation present
  have stopped := peeked.trans (rewritesTarget_updateTarget (peeked.present present)
    ({ · with action := actionStop }))
  simp only [stopAtTurn, turnAction]
  simp only [(peekNextStation_eq present).1]
  split
  next runs =>
    cases router.nextStation with
    | none => exact stopped
    | some next =>
        dsimp only
        split
        · exact stopped
        · exact peeked
  next => exact .unchanged present (.refl _)

theorem rewritesTarget_getRunAction (readings : Readings)
    (present : router.getTargetStation = some path) :
    RewritesTarget router (router.getRunAction readings)
      { path with action := match router.nextStation with
        | none => path.action
        | some next => runAction readings path next } := by
  have peeked := rewritesTarget_peekNextStation present
  rw [getRunAction]
  simp only [(peekNextStation_eq present).1]
  cases router.nextStation with
  | none => exact peeked
  | some next =>
      exact peeked.trans (rewritesTarget_updateTarget (peeked.present present)
        fun cur => { cur with action := runAction readings cur next })

/-! ## The jump -/

/-- Whether the target is jumped when it is not the first way point. -/
def jumpsTarget (readings : Readings) (router : RoutePlanner) : Bool :=
  match router.getTargetStation, router.nextStation with
  | some cur, some next => jumps readings cur next && !heightsDiffer cur next
  | _, _ => false

/-- The first way point is never jumped. -/
theorem jumpCurPoint_first (readings : Readings) (present : router.getTargetStation = some path) :
    ∃ other, router.jumpCurPoint readings true = some other ∧
      RewritesTarget router other path := by
  refine ⟨(router.whetherJumpCurPoint readings path).1, ?_, ?_⟩
  · simp [jumpCurPoint, present]
  · unfold whetherJumpCurPoint
    dsimp only
    split <;> exact rewritesTarget_peekNextStation present

/-- What the test for a jump leaves and finds. -/
theorem whetherJumpCurPoint_eq (readings : Readings)
    (present : router.getTargetStation = some path) :
    RewritesTarget router (router.whetherJumpCurPoint readings path).1 path ∧
      (router.whetherJumpCurPoint readings path).2 =
        match router.nextStation with
        | none => false
        | some next => jumps readings path next := by
  have peeked := rewritesTarget_peekNextStation present
  rw [whetherJumpCurPoint]
  simp only [(peekNextStation_eq present).1]
  cases router.nextStation with
  | none => exact ⟨peeked, rfl⟩
  | some next => exact ⟨peeked, rfl⟩

/-- A way point that is not jumped stays the target. -/
theorem jumpCurPoint_stays {readings : Readings} (present : router.getTargetStation = some path)
    (stays : router.jumpsTarget readings = false) :
    ∃ other, router.jumpCurPoint readings false = some other ∧
      RewritesTarget router other path := by
  rcases whetherJumpCurPoint_eq readings present with ⟨tested, found⟩
  cases follows : router.nextStation with
  | none =>
      refine ⟨_, ?_, tested⟩
      simp [jumpCurPoint, present, found, follows]
  | some next =>
      simp only [jumpsTarget, present, follows] at stays
      by_cases jump : jumps readings path next
      · -- The cursor has moved on and moves back.
        have follows' := tested.nextStation.trans follows
        rcases moveToNextStation_some (tested.present present) follows' with ⟨-, cursor, seen⟩
        have differ : heightsDiffer path next = true := by simpa [jump] using stays
        have nonempty : (router.whetherJumpCurPoint readings path).1.moveToNextStation.1.pathList
            ≠ [] := by
          rw [pathList_moveToNextStation]
          exact pathList_ne_nil (tested.present present)
        have nonneg := targetPathId_nonneg (tested.present present)
        have back := targetPathId_moveToLastStation nonempty (by omega)
        refine ⟨(router.whetherJumpCurPoint readings path).1.moveToNextStation.1.moveToLastStation.1,
          ?_, tested.trans (.unchanged (tested.present present) ⟨?_, ?_⟩)⟩
        · simp only [jumpCurPoint, present, found, follows, jump, Bool.not_false, Bool.and_self,
            if_true, seen, differ]
        · simp
        · omega
      · refine ⟨_, ?_, tested⟩
        simp [jumpCurPoint, present, found, follows, jump]

/-- A way point that is jumped leaves its lift height to the next one, which becomes
the target. -/
theorem jumpCurPoint_jumps {readings : Readings} {next : WayPoint}
    (present : router.getTargetStation = some path) (follows : router.nextStation = some next)
    (jump : router.jumpsTarget readings = true) :
    ∃ other, router.jumpCurPoint readings false = some other ∧
      other.targetPathId = router.targetPathId + 1 ∧
      other.pathList = router.pathList.set (router.targetPathId.toNat + 1)
        (takeHeight path next) := by
  rcases whetherJumpCurPoint_eq readings present with ⟨tested, found⟩
  simp only [jumpsTarget, present, follows, Bool.and_eq_true, Bool.not_eq_true'] at jump
  rcases jump with ⟨jump, agree⟩
  have follows' := tested.nextStation.trans follows
  have samePoints := (tested.sameRoute present).pathList
  rcases moveToNextStation_some (tested.present present) follows' with ⟨-, cursor, seen⟩
  have rewritten := rewritesTarget_updateTarget seen (takeHeight path)
  have nonneg := targetPathId_nonneg present
  refine ⟨(router.whetherJumpCurPoint readings path).1.moveToNextStation.1.updateTarget
    (takeHeight path), ?_, ?_, ?_⟩
  · simp [jumpCurPoint, present, found, follows, jump, seen, agree]
  · rw [rewritten.targetPathId, cursor, tested.targetPathId]
  · rw [rewritten.pathList, cursor, pathList_moveToNextStation, samePoints,
      tested.targetPathId, show (router.targetPathId + 1).toNat =
        router.targetPathId.toNat + 1 by omega]

end RoutePlanner

/-! ## The target that is sent -/

namespace AgvCar

open RoutePlanner

variable {car : AgvCar} {path : WayPoint}

theorem rewritesTarget_liftOnTheWay (present : car.router.getTargetStation = some path) :
    RewritesTarget car.router (car.liftOnTheWay path).router
      { path with action := liftAction path } := by
  rw [liftOnTheWay, liftAction]
  simp only [CarControler.compareSourcePathMag, Bool.false_eq_true, or_false]
  split
  · exact rewritesTarget_updateTarget present _
  · exact .unchanged present (.refl _)

/-- The target is rewritten to the action it is sent with. -/
theorem rewritesTarget_preparePoint (readings : Readings)
    (present : car.router.getTargetStation = some path) :
    RewritesTarget car.router (car.preparePoint readings path).router
      { path with action := sentAction readings path car.router.nextStation } := by
  let stopped : AgvCar := { car with
    currentPathId := path.id
    carRunMode := path.runMode
    router := car.router.stopAtTurn path
    controler := car.controler.setTargetHeight path.liftHeight }
  let turned := { path with action := turnAction path car.router.nextStation }
  have atTurn : RewritesTarget car.router stopped.router turned :=
    rewritesTarget_stopAtTurn present
  have seen : (car.router.stopAtTurn path).getTargetStation = some turned :=
    atTurn.present present
  have onTheWay : RewritesTarget stopped.router (stopped.liftOnTheWay turned).router _ :=
    rewritesTarget_liftOnTheWay seen
  have lifted := atTurn.trans onTheWay
  have rewritten := rewritesTarget_getRunAction readings (lifted.present present)
  rw [lifted.nextStation] at rewritten
  have result := lifted.trans rewritten
  rw [preparePoint]
  simp only [seen]
  exact result

end AgvCar

/-! ## The choice of the next way point -/

namespace RoutePlanner

/-- The planner behind the choice of the next way point. -/
def chooseNext (readings : Readings) (router : RoutePlanner) : RoutePlanner :=
  let moved := { router with targetPathId := router.targetPathId + 1 }
  match moved.getTargetStation, moved.nextStation with
  | some cur, some next =>
      if moved.jumpsTarget readings then
        { moved with
          targetPathId := moved.targetPathId + 1
          pathList := moved.pathList.set (moved.targetPathId.toNat + 1) (takeHeight cur next) }
      else moved
  | _, _ => moved

/-- The target as `GoToNextPoint` rewrites it. -/
def asSent (readings : Readings) (path : WayPoint) (router : RoutePlanner) : WayPoint :=
  { path with action := sentAction readings path router.nextStation }

/-- The target as `GoToNextPoint` sends it, if it does. -/
def sentPoint (readings : Readings) (router : RoutePlanner) : Option WayPoint :=
  match router.getTargetStation with
  | none => none
  | some path => if isDrivable path then some (router.asSent readings path) else none

/-- The planner with the action of the target finished. -/
def finishStation (router : RoutePlanner) : RoutePlanner :=
  router.updateTarget ({ · with actionFinish := true })

/-- The planner behind the end of an action and the choice of the next way point. -/
def goOn (readings : Readings) (router : RoutePlanner) : RoutePlanner :=
  router.finishStation.chooseNext readings

/-- The way point that is sent when the action of the target is finished. -/
def pointBehind (readings : Readings) (router : RoutePlanner) : Option WayPoint :=
  match router.getTargetStation with
  | none => none
  | some target =>
      if target.actionFinish then none else (router.goOn readings).sentPoint readings

variable {router other : RoutePlanner}

theorem SameRoute.sentPoint (same : SameRoute router other) (readings : Readings) :
    other.sentPoint readings = router.sentPoint readings := by
  simp only [RoutePlanner.sentPoint, asSent]
  rw [same.getTargetStation, same.nextStation]

/-- What is made of the target that is sent. -/
theorem map_sentPoint {β : Type} {readings : Readings} {path : WayPoint}
    (present : router.getTargetStation = some path) (record : WayPoint → β) :
    (router.sentPoint readings).map record =
      if isDrivable path then some (record (router.asSent readings path)) else none := by
  simp only [RoutePlanner.sentPoint, present]
  split <;> rfl

theorem SameRoute.jumpsTarget (same : SameRoute router other) (readings : Readings) :
    other.jumpsTarget readings = router.jumpsTarget readings := by
  simp only [RoutePlanner.jumpsTarget]
  rw [same.getTargetStation, same.nextStation]

theorem SameRoute.chooseNext (same : SameRoute router other) (readings : Readings) :
    SameRoute (router.chooseNext readings) (other.chooseNext readings) := by
  have moved : SameRoute { router with targetPathId := router.targetPathId + 1 }
      { other with targetPathId := other.targetPathId + 1 } :=
    ⟨same.pathList, congrArg (· + 1) same.targetPathId⟩
  unfold RoutePlanner.chooseNext
  dsimp only
  rw [moved.getTargetStation, moved.nextStation, moved.jumpsTarget readings]
  split
  · split
    · exact ⟨by simp only [same.pathList, same.targetPathId], by simp only [same.targetPathId]⟩
    · exact moved
  · exact moved

theorem SameRoute.goOn (same : SameRoute router other) (readings : Readings) :
    SameRoute (router.goOn readings) (other.goOn readings) := by
  have finished : SameRoute router.finishStation other.finishStation :=
    ⟨by simp only [finishStation, updateTarget, same.pathList, same.targetPathId],
      same.targetPathId⟩
  exact finished.chooseNext readings

/-- The move to the next way point and the jump make the choice. -/
theorem jumpCurPoint_moveToNextStation (readings : Readings) {target next : WayPoint}
    (present : router.getTargetStation = some target)
    (follows : router.nextStation = some next) :
    ∃ chosen, router.moveToNextStation.1.jumpCurPoint readings false = some chosen ∧
      SameRoute (router.chooseNext readings) chosen := by
  rcases moveToNextStation_some present follows with ⟨-, cursor, seen⟩
  have moved : SameRoute { router with targetPathId := router.targetPathId + 1 }
      router.moveToNextStation.1 := ⟨pathList_moveToNextStation router, cursor⟩
  have jumpsSame : router.moveToNextStation.1.jumpsTarget readings =
      jumpsTarget readings { router with targetPathId := router.targetPathId + 1 } := by
    simp only [jumpsTarget]
    rw [moved.getTargetStation, moved.nextStation]
  unfold chooseNext
  dsimp only
  rw [← moved.getTargetStation, ← moved.nextStation, ← jumpsSame, seen]
  cases further : router.moveToNextStation.1.nextStation with
  | none =>
      have stays : router.moveToNextStation.1.jumpsTarget readings = false := by
        simp [jumpsTarget, seen, further]
      rcases jumpCurPoint_stays seen stays with ⟨chosen, found, rewrites⟩
      exact ⟨chosen, found, moved.trans (rewrites.sameRoute seen)⟩
  | some last =>
      dsimp only
      split
      next jump =>
        rcases jumpCurPoint_jumps seen further jump with ⟨chosen, found, cursor', points⟩
        refine ⟨chosen, found, ?_, ?_⟩
        · rw [points, moved.pathList, moved.targetPathId]
        · rw [cursor', moved.targetPathId]
      next stays =>
        rcases jumpCurPoint_stays seen (Bool.eq_false_iff.mpr stays) with
          ⟨chosen, found, rewrites⟩
        exact ⟨chosen, found, moved.trans (rewrites.sameRoute seen)⟩

/-- A path that is begun has a target. -/
theorem getTargetStation_first (cursor : router.targetPathId = 0)
    (nonempty : router.pathList ≠ []) : ∃ path, router.getTargetStation = some path := by
  rcases List.exists_cons_of_ne_nil nonempty with ⟨path, rest, points⟩
  exact ⟨path, by simp [getTargetStation, cursor, points]⟩

/-- The way point behind the target is the target of the cursor behind it. -/
theorem getTargetStation_succ (nonneg : 0 ≤ router.targetPathId) :
    getTargetStation { router with targetPathId := router.targetPathId + 1 } =
      router.nextStation := by
  rw [getTargetStation, nextStation, if_pos nonneg,
    if_pos (show 0 ≤ router.targetPathId + 1 by omega),
    show (router.targetPathId + 1).toNat = router.targetPathId.toNat + 1 by omega]

/-- If there is a way point behind the target, one is chosen. -/
theorem chooseNext_present (readings : Readings) {next : WayPoint}
    (follows : router.nextStation = some next) :
    ∃ path, (router.chooseNext readings).getTargetStation = some path := by
  have nonneg : 0 ≤ router.targetPathId := by
    rw [nextStation] at follows
    split at follows
    next valid => exact valid
    next => cases follows
  have seen := (getTargetStation_succ nonneg).trans follows
  rw [chooseNext]
  dsimp only
  split
  next cur last here further =>
    split
    · have within : router.targetPathId.toNat + 1 + 1 < router.pathList.length := by
        rw [nextStation, if_pos (show 0 ≤ router.targetPathId + 1 by omega),
          List.getElem?_eq_some_iff] at further
        have bound := further.1
        simp only at bound
        omega
      refine ⟨takeHeight cur last, ?_⟩
      rw [getTargetStation, if_pos (show 0 ≤ router.targetPathId + 1 + 1 by omega)]
      simp only
      rw [show (router.targetPathId + 1 + 1).toNat = (router.targetPathId + 1).toNat + 1 by omega,
        List.getElem?_set_self (by omega)]
    · exact ⟨next, seen⟩
  next => exact ⟨next, seen⟩

/-- Behind the last way point none is chosen. -/
theorem chooseNext_absent (readings : Readings) (nonneg : 0 ≤ router.targetPathId)
    (last : router.nextStation = none) :
    router.chooseNext readings = { router with targetPathId := router.targetPathId + 1 } ∧
      (router.chooseNext readings).getTargetStation = none := by
  have absent := (getTargetStation_succ nonneg).trans last
  have moved : router.chooseNext readings =
      { router with targetPathId := router.targetPathId + 1 } := by
    rw [chooseNext]
    simp only [absent]
  exact ⟨moved, by rw [moved, absent]⟩

theorem rewritesTarget_finishStation {target : WayPoint}
    (present : router.getTargetStation = some target) :
    RewritesTarget router router.finishStation { target with actionFinish := true } :=
  rewritesTarget_updateTarget present ({ · with actionFinish := true })

/-- When the action of the last way point is finished, there is no target. -/
theorem goOn_absent (readings : Readings) {target : WayPoint}
    (present : router.getTargetStation = some target) (last : router.nextStation = none) :
    (router.goOn readings).targetPathId = router.targetPathId + 1 ∧
      (router.goOn readings).getTargetStation = none := by
  have marked := rewritesTarget_finishStation present
  rcases chooseNext_absent readings (targetPathId_nonneg (marked.present present))
    (marked.nextStation.trans last) with ⟨moved, absent⟩
  refine ⟨?_, absent⟩
  rw [goOn, moved]
  rfl

/-- A way point is only chosen when there is one behind the target. -/
theorem nextStation_ne_none {readings : Readings} {target path : WayPoint}
    (present : router.getTargetStation = some target)
    (chosen : (router.goOn readings).getTargetStation = some path) :
    router.nextStation ≠ none := by
  intro last
  rw [(goOn_absent readings present last).2] at chosen
  cases chosen

end RoutePlanner

end DrivingControl.Controler

import DrivingControl.Controler.CarFrame
import DrivingControl.Controler.PathRewriting

/-!
# Departures

What is sent to the move helper and what happens to the path when `GoToNextPoint`
goes to a way point, and when an action is finished, a target is reached or a run is
started.  Each function has one theorem that says all it can do; the properties of
runs are derived from these.
-/

namespace DrivingControl.Controler

open DrivingControl.Comm DrivingControl.Event

/-! ## What was sent -/

namespace CarControler

/-- `lastPathMag` after a target was sent. -/
def savedAfter : Option Issued → PathMag → PathMag
  | none, saved => saved
  | some entry, saved => if entry.resumed then saved else entry.target

/-- The move helper took the accepted target, and drives to no other one. -/
def DrivesAfter : Option Issued → MoveHelper → MoveHelper → Prop
  | some ⟨target, _, _, true⟩, _, next => next.targetPoint = target
  | _, helper, next => helper.Rests next

/-- What the move helper was sent between two states of the controller. -/
structure Sends (sent : Option Issued) (controler next : CarControler) : Prop where
  issued : next.issued = controler.issued ++ sent.toList
  lastPathMag : next.lastPathMag = savedAfter sent controler.lastPathMag
  moveHelper : DrivesAfter sent controler.moveHelper next.moveHelper

variable {controler next last : CarControler} {sent : Option Issued}

/-- Sending after a rest. -/
theorem Sends.after (rests : Sends none controler next) (sends : Sends sent next last) :
    Sends sent controler last where
  issued := by
    rw [sends.issued, rests.issued]
    simp
  lastPathMag := by rw [sends.lastPathMag, rests.lastPathMag, savedAfter]
  moveHelper := by
    have same : controler.moveHelper.Rests next.moveHelper := rests.moveHelper
    have follows := sends.moveHelper
    rcases sent with _ | ⟨target, charging, resumed, _ | _⟩
    · exact same.trans follows
    · exact same.trans follows
    · exact follows

/-- A rest after sending. -/
theorem Sends.before (sends : Sends sent controler next) (rests : Sends none next last) :
    Sends sent controler last where
  issued := by
    rw [rests.issued, sends.issued]
    simp
  lastPathMag := by rw [rests.lastPathMag, savedAfter, sends.lastPathMag]
  moveHelper := by
    have same : next.moveHelper.Rests last.moveHelper := rests.moveHelper
    have first := sends.moveHelper
    rcases sent with _ | ⟨target, charging, resumed, _ | _⟩
    · exact first.trans same
    · exact first.trans same
    · exact same.targetPoint.trans first

/-- The record of a target that is sent. -/
def entry (split : PathMag → Split) (target : PathMag) (resumed : Bool)
    (controler : CarControler) : Issued :=
  ⟨target, controler.chargeSwitch, resumed, decide (MoveHelper.Accepts split target)⟩

theorem issue_snd_eq_none (split : PathMag → Split) (target : PathMag) (resumed : Bool)
    (controler : CarControler) :
    (controler.issue split target resumed).2 = none ↔ MoveHelper.Accepts split target :=
  MoveHelper.setTarget_snd_eq_none split target controler.moveHelper

theorem issued_issue (split : PathMag → Split) (target : PathMag) (resumed : Bool)
    (controler : CarControler) :
    (controler.issue split target resumed).1.issued =
      controler.issued ++ [controler.entry split target resumed] := by
  have isNone : (controler.moveHelper.setTarget split target).2.isNone =
      decide (MoveHelper.Accepts split target) := by
    rw [Bool.eq_iff_iff, Option.isNone_iff_eq_none, MoveHelper.setTarget_snd_eq_none,
      decide_eq_true_iff]
  simp [issue, entry, isNone]

theorem drivesAfter_issue (split : PathMag → Split) (target : PathMag) (resumed : Bool)
    (controler : CarControler) :
    DrivesAfter (some (controler.entry split target resumed)) controler.moveHelper
      (controler.issue split target resumed).1.moveHelper := by
  by_cases accepts : MoveHelper.Accepts split target
  · simp only [entry, accepts, decide_true]
    exact (MoveHelper.setTarget_accepted split target controler.moveHelper accepts).2
  · simp only [entry, accepts, decide_false]
    exact MoveHelper.rests_setTarget accepts

/-- `SetTargetStation` sends its target and saves it. -/
theorem sends_setTargetStation (split : PathMag → Split) (target : PathMag)
    (controler : CarControler) :
    Sends (some (controler.entry split target false)) controler
      (controler.setTargetStation split target).1 where
  issued := issued_issue split target false { controler with lastPathMag := target }
  lastPathMag := rfl
  moveHelper := drivesAfter_issue split target false { controler with lastPathMag := target }

/-- The target that `ResetLastTargetStation` sends. -/
def resumedEntry (split : PathMag → Split) (controler : CarControler) : Option Issued :=
  if controler.lastPathMag.station = 0 then none
  else
    some (controler.entry split
      { controler.lastPathMag with liftHeight := controler.lastPathMag.action } true)

/-- `ResetLastTargetStation` sends the saved target again. -/
theorem sends_resetLastTargetStation (split : PathMag → Split) (controler : CarControler) :
    Sends (controler.resumedEntry split) controler
      (controler.resetLastTargetStation split).1 := by
  rw [resumedEntry, resetLastTargetStation]
  split
  · exact ⟨by simp, rfl, .refl _⟩
  · exact ⟨issued_issue _ _ _ _, rfl, drivesAfter_issue _ _ _ _⟩

end CarControler

/-! ## Going to a way point -/

namespace AgvCar

open RoutePlanner CarControler

variable {readings : Readings} {car next : AgvCar} {path target : WayPoint}

theorem Calm.sends (calm : Calm car next) : Sends none car.controler next.controler where
  issued := by simpa using calm.issued
  lastPathMag := calm.lastPathMag
  moveHelper := by
    rcases calm.moveHelper with kept | cleared
    · rw [kept]
      exact MoveHelper.Rests.refl _
    · rw [cleared]
      exact MoveHelper.rests_clearTarget _

/-- The record of a way point that is sent. -/
def pointEntry (readings : Readings) (charging : Bool) (car : AgvCar) (path : WayPoint) :
    Issued where
  target := car.pathMag readings path
  charging
  resumed := false
  accepted := decide (MoveHelper.Accepts readings.split (car.pathMag readings path))

/-- What `GoToNextPoint` does behind the choice of the way point. -/
structure GoesTo (readings : Readings) (path : WayPoint) (car : AgvCar)
    (result : AgvCar × Int) : Prop where
  rewrites : RewritesTarget car.router result.1.router path
  sends : Sends (if isDrivable path then
      some (car.pointEntry readings car.controler.chargeSwitch path) else none)
    car.controler result.1.controler
  accepted : result.2 = 0 ↔ isDrivable path = true ∧
    MoveHelper.Accepts readings.split (car.pathMag readings path)
  ret : result.2 = 0 ∨ result.2 = -1
  arrivals : car.events.SameArrivals result.1.events
  performed : result.1.performed = car.performed
  currentPathAction : result.1.currentPathAction = car.currentPathAction
  carInfo : result.1.carInfo = car.carInfo
  lastCarInfo : result.1.lastCarInfo = car.lastCarInfo

/-- When the result is not 0, the move helper drives to nothing new. -/
theorem GoesTo.rests {result : AgvCar × Int} (goes : GoesTo readings path car result)
    (failed : result.2 ≠ 0) :
    car.controler.moveHelper.Rests result.1.controler.moveHelper := by
  have drives := goes.sends.moveHelper
  by_cases drivable : isDrivable path = true
  · have rejects : ¬ MoveHelper.Accepts readings.split (car.pathMag readings path) :=
      fun accepts => failed (goes.accepted.mpr ⟨drivable, accepts⟩)
    simpa [drivable, pointEntry, entry, rejects, DrivesAfter] using drives
  · simpa [drivable, DrivesAfter] using drives

/-- Besides the path, `preparePoint` changes the lifter and the fields that show the way
point. -/
theorem preparePoint_eq (readings : Readings) (path : WayPoint) (car : AgvCar) :
    ∃ router lifter, car.preparePoint readings path =
      { car with
        currentPathId := path.id
        carRunMode := path.runMode
        router
        controler := { car.controler with lifter } } := by
  rw [preparePoint]
  dsimp only
  split
  · exact ⟨_, _, rfl⟩
  · rw [liftOnTheWay]
    split
    · exact ⟨_, _, rfl⟩
    · exact ⟨_, _, rfl⟩

theorem goesTo_sendPoint (path : WayPoint) (router : RoutePlanner)
    (rewrites : RewritesTarget car.router router path) (lifter : Lifter) (id mode : Int) :
    GoesTo readings path car (sendPoint readings path
      { car with
        currentPathId := id
        carRunMode := mode
        router
        controler := { car.controler with lifter } }) := by
  let prepared : AgvCar := { car with
    currentPathId := id
    carRunMode := mode
    router
    controler := { car.controler with lifter } }
  change GoesTo readings path car (prepared.sendPoint readings path)
  rw [sendPoint]
  split
  next drivable =>
    let target := prepared.pathMag readings path
    have called := sends_setTargetStation readings.split target prepared.controler
    have sends : Sends (if isDrivable path then
        some (car.pointEntry readings car.controler.chargeSwitch path) else none)
        car.controler (prepared.controler.setTargetStation readings.split target).1 := by
      rw [if_pos drivable]
      exact ⟨called.issued, called.lastPathMag, called.moveHelper⟩
    have answers : (prepared.controler.setTargetStation readings.split target).2 = none ↔
        MoveHelper.Accepts readings.split target := issue_snd_eq_none _ _ _ _
    rw [afterIssue]
    cases answer : (prepared.controler.setTargetStation readings.split target).2 with
    | none =>
        exact ⟨rewrites, sends, ⟨fun _ => ⟨drivable, answers.mp answer⟩, fun _ => rfl⟩,
          .inl rfl, .refl _, rfl, rfl, rfl, rfl⟩
    | some errorCode =>
        have rejects : ¬ MoveHelper.Accepts readings.split target := by
          intro accepts
          simp [answers.mpr accepts] at answer
        have queued := keeps_sendImportantEvent car .evPathMagError errorCode (by decide)
        exact ⟨rewrites, sends, ⟨(nomatch ·), fun both => absurd both.2 rejects⟩,
          .inr rfl, queued.arrivals, rfl, rfl, rfl, rfl⟩
  next stays =>
    refine ⟨rewrites, ?_, by simp [stays], .inr rfl, .refl _, rfl, rfl, rfl, rfl⟩
    rw [if_neg stays]
    exact ⟨by simp [prepared], rfl, .refl _⟩

theorem goesTo_goToPoint (readings : Readings) (car : AgvCar)
    (present : car.router.getTargetStation = some path) :
    ∃ result, car.goToPoint readings = some result ∧
      GoesTo readings (car.router.asSent readings path) car result := by
  have rewrites := rewritesTarget_preparePoint readings present
  have seen := rewrites.present present
  let sent := car.router.asSent readings path
  refine ⟨(car.preparePoint readings path).sendPoint readings sent, ?_, ?_⟩
  · rw [goToPoint]
    simp only [present, seen, sent, asSent]
  · rcases preparePoint_eq readings path car with ⟨router, lifter, prepared⟩
    rw [prepared] at rewrites ⊢
    exact goesTo_sendPoint _ router rewrites lifter path.id path.runMode

/-! ## Going to the next way point -/

/-- Behind the last way point there is nothing to go to. -/
theorem goToNextPoint_last (readings : Readings)
    (present : car.router.getTargetStation = some target)
    (last : car.router.nextStation = none) :
    ∃ router, SameRoute car.router router ∧
      car.goToNextPoint readings false = some ({ car with router }, 1) := by
  rcases moveToNextStation_none present last with ⟨stays, cursor⟩
  refine ⟨car.router.moveToNextStation.1, ⟨pathList_moveToNextStation _, cursor⟩, ?_⟩
  simp [goToNextPoint, stays]

/-- Before the last way point the car goes to the chosen one. -/
theorem goToNextPoint_next (readings : Readings) {following : WayPoint}
    (present : car.router.getTargetStation = some target)
    (follows : car.router.nextStation = some following) :
    ∃ router, SameRoute (car.router.chooseNext readings) router ∧
      car.goToNextPoint readings false = goToPoint readings { car with router } := by
  rcases moveToNextStation_some present follows with ⟨moves, -, -⟩
  rcases jumpCurPoint_moveToNextStation readings present follows with
    ⟨chosen, found, same⟩
  refine ⟨chosen, same, ?_⟩
  simp [goToNextPoint, moves, found]

section Finished

variable {finishing : AgvCar} {following : WayPoint}
  (route : SameRoute car.router.finishStation finishing.router)
  (present : car.router.getTargetStation = some target)

include route present

/-- With the last way point finished there is nothing to go to. -/
theorem goToNextPoint_finished (readings : Readings) (last : car.router.nextStation = none) :
    ∃ router, SameRoute car.router.finishStation router ∧
      finishing.goToNextPoint readings false = some ({ finishing with router }, 1) := by
  have marked := rewritesTarget_finishStation present
  rcases goToNextPoint_last readings (route.getTargetStation.trans (marked.present present))
    ((route.nextStation.trans marked.nextStation).trans last) with ⟨router, same, went⟩
  exact ⟨router, route.trans same, went⟩

/-- With another one finished the car goes to the way point that is chosen. -/
theorem goToNextPoint_goOn (readings : Readings)
    (follows : car.router.nextStation = some following) :
    ∃ router path, SameRoute (car.router.goOn readings) router ∧
      (car.router.goOn readings).getTargetStation = some path ∧
      finishing.goToNextPoint readings false = goToPoint readings { finishing with router } := by
  have marked := rewritesTarget_finishStation present
  rcases goToNextPoint_next readings (route.getTargetStation.trans (marked.present present))
    ((route.nextStation.trans marked.nextStation).trans follows) with ⟨router, same, went⟩
  rcases chooseNext_present readings (marked.nextStation.trans follows) with ⟨path, found⟩
  exact ⟨router, path, (route.chooseNext readings).trans same, found, went⟩

end Finished

/-- The first way point is gone to where it is. -/
theorem goToNextPoint_first (readings : Readings)
    (present : car.router.getTargetStation = some target) :
    ∃ router, SameRoute car.router router ∧
      car.goToNextPoint readings true = goToPoint readings { car with router } := by
  rcases jumpCurPoint_first readings present with ⟨router, found, rewrites⟩
  refine ⟨router, rewrites.sameRoute present, ?_⟩
  simp [goToNextPoint, found]

/-! ## Departures -/

/-- What the car has done when it has gone to a way point, or failed to. -/
structure Departs (readings : Readings) (path : WayPoint) (car next : AgvCar) : Prop where
  rewrites : RewritesTarget car.router next.router path
  sends : Sends (if isDrivable path then
      some (car.pointEntry readings car.controler.chargeSwitch path) else none)
    car.controler next.controler
  arrivals : car.events.SameArrivals next.events
  performed : next.performed = car.performed
  currentPathAction : next.currentPathAction = car.currentPathAction
  status : next.carInfo.status = .running ∨
    next.carInfo = car.carInfo ∧ next.lastCarInfo = car.lastCarInfo ∧
      car.controler.moveHelper.Rests next.controler.moveHelper

/-- A departure needs no more of the result than that it is kept, and that the status is
`StatusRunning` or the event for a failure was queued. -/
theorem GoesTo.departs {result : AgvCar × Int} (goes : GoesTo readings path car result)
    (keeps : Keeps result.1 next)
    (status : next.carInfo.status = .running ∨ result.2 ≠ 0 ∧ next.carInfo = result.1.carInfo ∧
      next.lastCarInfo = result.1.lastCarInfo ∧ next.controler = result.1.controler) :
    Departs readings path car next where
  rewrites :=
    ⟨keeps.route.targetPathId.trans goes.rewrites.targetPathId,
      keeps.route.pathList.trans goes.rewrites.pathList⟩
  sends := goes.sends.before keeps.sends
  arrivals := goes.arrivals.trans keeps.arrivals
  performed := keeps.performed.trans goes.performed
  currentPathAction := keeps.currentPathAction.trans goes.currentPathAction
  status := by
    rcases status with running | ⟨failed, info, lastInfo, same⟩
    · exact .inl running
    · refine .inr ⟨info.trans goes.carInfo, lastInfo.trans goes.lastCarInfo, ?_⟩
      rw [same]
      exact goes.rests failed

/-- The path and the cursor are all a departure takes from the planner. -/
theorem Departs.of_sameRoute (car : AgvCar) {router other : RoutePlanner}
    (same : SameRoute router other)
    (departs : Departs readings path { car with router := other } next) :
    Departs readings path { car with router } next where
  rewrites :=
    ⟨departs.rewrites.targetPathId.trans same.targetPathId, by
      rw [departs.rewrites.pathList, same.pathList, same.targetPathId]⟩
  sends := departs.sends
  arrivals := departs.arrivals
  performed := departs.performed
  currentPathAction := departs.currentPathAction
  status := departs.status

/-- A departure keeps a stopped car idle. -/
theorem Departs.idle (departs : Departs readings path car next) (idle : car.Idle) :
    next.Idle := by
  intro stopped
  rcases departs.status with running | ⟨info, lastInfo, rests⟩
  · exact absurd (running.symm.trans stopped) (by decide)
  · rw [info] at stopped
    rcases idle stopped with ⟨resting, kept⟩
    rw [lastInfo]
    exact ⟨Bool.eq_false_iff.mpr fun running => by simp [rests.isRunning running] at resting,
      kept⟩

theorem status_requeueBarriers (car : AgvCar) :
    car.requeueBarriers.carInfo.status = car.carInfo.status := by
  have statusIf : ∀ (present : Bool) (event : EventList) (car : AgvCar),
      (if present then car.sendUrgentEvent event 0 else car).carInfo.status =
        car.carInfo.status := by
    intro present event car
    split <;> rfl
  simp only [requeueBarriers, statusIf]

/-- The end of `OnStationActionFinished` when a way point was gone to. -/
theorem GoesTo.departs_afterNextPoint {result : AgvCar × Int}
    (goes : GoesTo readings path car result) :
    Departs readings path car (result.1.afterNextPoint result.2) := by
  rcases goes.ret with sent | failed
  · have released : Keeps result.1 { result.1 with stopButton := false } :=
      .of_relevant rfl
    refine goes.departs ?_ (.inl ?_)
    · rw [afterNextPoint, if_pos sent]
      exact (released.trans (keeps_setCarStatus _ _ _)).trans (keeps_requeueBarriers _)
    · rw [afterNextPoint, if_pos sent, status_requeueBarriers]
      rfl
  · rw [failed]
    refine goes.departs ?_ (.inr ⟨by omega, rfl, rfl, rfl⟩)
    exact keeps_sendImportantEvent result.1 .evPathMagError 0 (by decide)

/-! ## The end of an action -/

/-- What `OnStationActionFinished` does: nothing when the action was finished before,
otherwise the car goes to the way point that is chosen, if there is one. -/
inductive Finishes (readings : Readings) (car next : AgvCar) : Prop
  | again (target : WayPoint) (present : car.router.getTargetStation = some target)
      (finished : target.actionFinish = true) (same : next = car)
  | last (target : WayPoint) (present : car.router.getTargetStation = some target)
      (unfinished : target.actionFinish = false) (last : car.router.nextStation = none)
      (keeps : Keeps { car with router := car.router.finishStation, currentPathAction := 0 } next)
  | goes (target path : WayPoint) (present : car.router.getTargetStation = some target)
      (unfinished : target.actionFinish = false)
      (chosen : (car.router.goOn readings).getTargetStation = some path)
      (departs : Departs readings ((car.router.goOn readings).asSent readings path)
        { car with router := car.router.goOn readings, currentPathAction := 0 } next)

/-- The planner when an action is finished, before the cursor moves. -/
def finishing (target : WayPoint) (car : AgvCar) : RoutePlanner :=
  { car.router.finishStation with
    taskReports := car.router.taskReports ++ taskReport car.controler.lastLiftHeight target }

/-- While the target is not finished, its end goes to the next way point. -/
theorem onStationActionFinished_next (readings : Readings)
    (present : car.router.getTargetStation = some target)
    (unfinished : target.actionFinish = false) :
    car.onStationActionFinished readings =
      (goToNextPoint readings false
        { car with router := car.finishing target, currentPathAction := 0 }).map fun pair =>
          pair.1.afterNextPoint pair.2 := by
  rw [onStationActionFinished, onActionFinished]
  simp only [present, unfinished, Bool.false_eq_true, if_false]
  rw [if_neg (by simp)]
  split
  next nothing => exact (congrArg (Option.map _) nothing).symm
  next went =>
      exact (congrArg
        (Option.map fun pair : AgvCar × Int => pair.1.afterNextPoint pair.2) went).symm

/-- The end of an action finds its target finished, or finishes it and goes on. -/
inductive EndsAction (readings : Readings) (car next : AgvCar) : Prop
  | again (target : WayPoint) (present : car.router.getTargetStation = some target)
      (finished : target.actionFinish = true) (same : next = car)
  | goesOn (target : WayPoint) (present : car.router.getTargetStation = some target)
      (unfinished : target.actionFinish = false) (result : AgvCar × Int)
      (went : goToNextPoint readings false
        { car with router := car.finishing target, currentPathAction := 0 } = some result)
      (same : next = result.1.afterNextPoint result.2)

theorem endsAction_onStationActionFinished
    (handled : car.onStationActionFinished readings = some next) :
    EndsAction readings car next := by
  cases present : car.router.getTargetStation with
  | none => simp [onStationActionFinished, onActionFinished, present] at handled
  | some target =>
      cases finished : target.actionFinish with
      | true =>
          simp only [onStationActionFinished, onActionFinished, present, finished, if_true]
            at handled
          cases handled
          exact .again target present finished rfl
      | false =>
          rw [onStationActionFinished_next readings present finished] at handled
          obtain ⟨result, went, equal⟩ := Option.map_eq_some_iff.mp handled
          exact .goesOn target present finished result went equal.symm

/-- With a target, the end of its action always finds a way point to go to or ends the
path. -/
theorem onStationActionFinished_eq_some (readings : Readings)
    (present : car.router.getTargetStation = some target) :
    ∃ next, car.onStationActionFinished readings = some next ∧ Finishes readings car next := by
  cases finished : target.actionFinish with
  | true =>
      refine ⟨car, ?_, .again target present finished rfl⟩
      simp [onStationActionFinished, onActionFinished, present, finished]
  | false =>
      have going := onStationActionFinished_next readings present finished
      let finishing : AgvCar :=
        { car with router := car.finishing target, currentPathAction := 0 }
      have route : SameRoute car.router.finishStation finishing.router := ⟨rfl, rfl⟩
      cases follows : car.router.nextStation with
      | none =>
          rcases goToNextPoint_finished route present readings follows with ⟨router, same, went⟩
          rw [went] at going
          have queued := keeps_sendImportantEvent { finishing with router } .evPathFinished 0
            (by decide)
          have moved : Keeps
              { car with router := car.router.finishStation, currentPathAction := 0 }
              { finishing with router } :=
            ⟨⟨rfl, rfl, .inl rfl, rfl, rfl, .refl _, id⟩, same⟩
          exact ⟨_, going, .last target present finished follows (moved.trans queued)⟩
      | some following =>
          rcases goToNextPoint_goOn route present readings follows with
            ⟨router, path, chosen, found, went⟩
          rcases goesTo_goToPoint readings { finishing with router }
            (chosen.getTargetStation.trans found) with ⟨result, sent, goes⟩
          rw [went, sent] at going
          have departs := goes.departs_afterNextPoint
          have samePoint : router.asSent readings path =
              (car.router.goOn readings).asSent readings path := by
            rw [asSent, asSent, chosen.nextStation]
          rw [samePoint] at departs
          have reported : Departs readings _ { car with router, currentPathAction := 0 } _ :=
            ⟨departs.rewrites, departs.sends, departs.arrivals, departs.performed,
              departs.currentPathAction, departs.status⟩
          exact ⟨_, going, .goes target path present finished found
            (.of_sameRoute { car with currentPathAction := 0 } chosen reported)⟩

theorem finishes_onStationActionFinished
    (handled : car.onStationActionFinished readings = some next) :
    Finishes readings car next := by
  cases present : car.router.getTargetStation with
  | none => simp [onStationActionFinished, onActionFinished, present] at handled
  | some target =>
      rcases onStationActionFinished_eq_some readings present with ⟨result, finished, finishes⟩
      cases handled.symm.trans finished
      exact finishes

/-! ## Arrivals -/

/-- Whether an action is finished when it is performed. -/
def completes (path : WayPoint) (car : AgvCar) : Bool :=
  path.action == actionRun || path.action == actionSpeedDown ||
    path.action == actionResumeSpeed || path.action == actionStop ||
    path.action == actionCharge ||
    (path.action == actionLiftUpDown && car.controler.lifter.isArrived path.liftHeight)

theorem completes_lift (lift : path.action = actionLiftUpDown) (car : AgvCar) :
    car.completes path = car.controler.lifter.isArrived path.liftHeight := by
  simp [completes, lift, actionRun, actionSpeedDown, actionResumeSpeed, actionStop,
    actionCharge, actionLiftUpDown]

/-- The charge switch behind an action. -/
def switchBehind (path : WayPoint) (car : AgvCar) : Bool :=
  car.controler.chargeSwitch || path.action == actionCharge

/-- What `DoPathPointAction` does for the target. -/
structure Performs (path : WayPoint) (car : AgvCar) (result : AgvCar × Int) : Prop where
  ret : result.2 = 0 ↔ car.completes path = true
  route : SameRoute car.router result.1.router
  sends : Sends none car.controler result.1.controler
  arrivals : car.events.SameArrivals result.1.events
  performed : result.1.performed = car.performed ++ [(car.router.targetPathId, path.action)]
  currentPathAction : result.1.currentPathAction = path.action
  chargeSwitch : result.1.controler.chargeSwitch = car.switchBehind path
  speedFormServer : result.1.speedFormServer = car.speedFormServer
  idle : car.Idle → result.1.Idle

theorem performs_doPathPointAction (path : WayPoint) (car : AgvCar) :
    Performs path car (car.doPathPointAction path) := by
  let noted : AgvCar := { car with
    currentPathAction := path.action
    performed := car.performed ++ [(car.router.targetPathId, path.action)] }
  have stops := keeps_stopCar noted
  have switch : noted.stopCar.controler.chargeSwitch = car.controler.chargeSwitch :=
    chargeSwitch_setCarStatus .stopped mp3Mute { noted with stopButton := true }
  have lifter : noted.stopCar.controler.lifter = car.controler.lifter :=
    lifter_setCarStatus .stopped mp3Mute { noted with stopButton := true }
  have rests := stops.sends
  rw [doPathPointAction]
  dsimp only
  split
  next running =>
    refine ⟨?_, .refl _, (Calm.refl car).sends, .refl _, rfl, rfl, ?_, rfl, id⟩
    · rcases running with action | action | action <;> simp [completes, action]
    · rcases running with action | action | action <;>
        simp [switchBehind, action, actionRun, actionSpeedDown, actionResumeSpeed, actionCharge]
  next =>
    split
    next action =>
      refine ⟨by simp [completes, action], stops.route, rests, stops.arrivals,
        stops.performed, stops.currentPathAction, ?_, rfl, stops.idle⟩
      rw [switch]
      simp [switchBehind, action, actionStop, actionCharge]
    next =>
      split
      next action =>
        have arrived : (noted.stopCar.controler.lifter.liftIsArrived path.liftHeight).2 =
            car.completes path := by
          rw [completes_lift action, lifter]
          rfl
        have unchanged : noted.stopCar.controler.chargeSwitch = car.switchBehind path := by
          rw [switch]
          simp [switchBehind, action, actionLiftUpDown, actionCharge]
        split
        next done =>
          exact ⟨iff_of_true rfl (arrived.symm.trans done), stops.route,
            ⟨rests.issued, rests.lastPathMag, rests.moveHelper⟩, stops.arrivals,
            stops.performed, stops.currentPathAction, unchanged, rfl, stops.idle⟩
        next moving =>
          exact ⟨iff_of_false (nomatch ·) fun done => moving (arrived.trans done), stops.route,
            ⟨rests.issued, rests.lastPathMag, rests.moveHelper⟩, stops.arrivals,
            stops.performed, stops.currentPathAction, unchanged, rfl, stops.idle⟩
      next =>
        split
        next action =>
          exact ⟨by simp [completes, action], stops.route,
            ⟨rests.issued, rests.lastPathMag, rests.moveHelper⟩, stops.arrivals,
            stops.performed, stops.currentPathAction,
            by simp [switchBehind, action, CarControler.setChargeSwitch], rfl, stops.idle⟩
        next notRun notStop notLift notCharge =>
          refine ⟨?_, .refl _, (Calm.refl car).sends, .refl _, rfl, rfl, ?_, rfl, id⟩
          · simp_all [completes]
          · simp [switchBehind, notCharge]

/-- The record that the end of an action sends. -/
def finishEntry (readings : Readings) (charging : Bool) (car : AgvCar) : Option Issued :=
  (car.router.pointBehind readings).map (car.pointEntry readings charging)

/-- `OnStationActionFinished` sends the way point behind. -/
theorem Finishes.sends (finishes : Finishes readings car next) :
    Sends (car.finishEntry readings car.controler.chargeSwitch) car.controler next.controler ∧
      car.events.SameArrivals next.events := by
  cases finishes with
  | again target present finished same =>
      have stays : car.router.pointBehind readings = none := by
        simp [pointBehind, present, finished]
      rw [same, finishEntry, stays]
      exact ⟨(Calm.refl car).sends, .refl _⟩
  | last target present unfinished last keeps =>
      have stays : car.router.pointBehind readings = none := by
        simp only [pointBehind, present, unfinished, Bool.false_eq_true, if_false, sentPoint]
        rw [(goOn_absent readings present last).2]
      rw [finishEntry, stays]
      exact ⟨⟨keeps.sends.issued, keeps.sends.lastPathMag, keeps.sends.moveHelper⟩,
        keeps.arrivals⟩
  | goes target path present unfinished chosen departs =>
      have behind : car.router.pointBehind readings =
          (car.router.goOn readings).sentPoint readings := by
        simp [pointBehind, present, unfinished]
      rw [finishEntry, behind, map_sentPoint chosen]
      exact ⟨departs.sends, departs.arrivals⟩

/-- The end of an action keeps a stopped car idle. -/
theorem Finishes.idle (finishes : Finishes readings car next) (idle : car.Idle) :
    next.Idle := by
  cases finishes with
  | again target present finished same => exact same ▸ idle
  | last target present unfinished last keeps => exact keeps.idle idle
  | goes target path present unfinished chosen departs => exact departs.idle idle

/-! ## Start and barriers -/

/-- The car has sent a target and kept its place on the path. -/
structure Resends (sent : Option Issued) (car next : AgvCar) : Prop where
  sends : Sends sent car.controler next.controler
  route : SameRoute car.router next.router
  arrivals : car.events.SameArrivals next.events
  performed : next.performed = car.performed
  currentPathAction : next.currentPathAction = car.currentPathAction

variable {last : AgvCar} {sent : Option Issued}

theorem Keeps.resends (keeps : Keeps car next) : Resends none car next :=
  ⟨keeps.sends, keeps.route, keeps.arrivals, keeps.performed, keeps.currentPathAction⟩

theorem Resends.after (keeps : Keeps car next) (resends : Resends sent next last) :
    Resends sent car last where
  sends := keeps.sends.after resends.sends
  route := keeps.route.trans resends.route
  arrivals := keeps.arrivals.trans resends.arrivals
  performed := resends.performed.trans keeps.performed
  currentPathAction := resends.currentPathAction.trans keeps.currentPathAction

theorem Resends.before (resends : Resends sent car next) (keeps : Keeps next last) :
    Resends sent car last where
  sends := resends.sends.before keeps.sends
  route := resends.route.trans keeps.route
  arrivals := resends.arrivals.trans keeps.arrivals
  performed := keeps.performed.trans resends.performed
  currentPathAction := keeps.currentPathAction.trans resends.currentPathAction

/-- Sending the saved target again keeps everything else. -/
theorem resends_resetLastTargetStation (readings : Readings) (car : AgvCar) :
    Resends (car.controler.resumedEntry readings.split) car
        (car.resetLastTargetStation readings) ∧
      (car.resetLastTargetStation readings).carInfo = car.carInfo ∧
      (car.resetLastTargetStation readings).lastCarInfo = car.lastCarInfo := by
  have sends := sends_resetLastTargetStation readings.split car.controler
  rw [resetLastTargetStation, afterIssue]
  split
  · exact ⟨⟨sends, .refl _, .refl _, rfl, rfl⟩, rfl, rfl⟩
  next errorCode answer =>
    have queued := keeps_sendImportantEvent car .evPathMagError errorCode (by decide)
    exact ⟨⟨sends, .refl _, queued.arrivals, rfl, rfl⟩, rfl, rfl⟩

theorem status_afterStart (readings : Readings) (car : AgvCar) :
    (car.afterStart readings).carInfo.status = car.carInfo.status := by
  rw [afterStart]
  split
  · rfl
  · exact status_requeueBarriers car

/-- What `StartRun` does in automatic mode. -/
inductive Starts (readings : Readings) (car next : AgvCar) : Prop
  | empty (nothing : car.router.pathList = []) (same : next = car)
  | first (path : WayPoint) (cursor : car.router.targetPathId = 0)
      (present : car.router.getTargetStation = some path)
      (departs : Departs readings (car.router.asSent readings path) car next)
  | resumes (nonempty : car.router.pathList ≠ []) (cursor : car.router.targetPathId ≠ 0)
      (resends : Resends (car.controler.resumedEntry readings.split) car next)
      (status : next.carInfo.status = .running)

/-- A start keeps a stopped car idle. -/
theorem Starts.idle (starts : Starts readings car next) (idle : car.Idle) : next.Idle := by
  cases starts with
  | empty nothing same => exact same ▸ idle
  | first path cursor present departs => exact departs.idle idle
  | resumes nonempty cursor resends status =>
      intro stopped
      exact absurd (status.symm.trans stopped) (by decide)

/-- A start looks at the list first, and always returns. -/
theorem startRun_eq_some (readings : Readings) (automatic : car.operateMode = .autoMode) :
    ∃ next, car.startRun readings = some next ∧ Starts readings car next := by
  rw [startRun]
  rw [if_pos automatic]
  by_cases nothing : car.router.pathList = []
  · rw [if_pos nothing]
    exact ⟨car, rfl, .empty nothing rfl⟩
  · rw [if_neg nothing]
    by_cases cursor : car.router.targetPathId = 0
    · rw [if_pos cursor]
      rcases getTargetStation_first cursor nothing with ⟨path, present⟩
      rcases goToNextPoint_first readings present with ⟨router, same, went⟩
      rcases goesTo_goToPoint readings { car with router }
        (same.getTargetStation.trans present) with ⟨result, sent, goes⟩
      have first : ∀ {next : AgvCar},
          Departs readings (router.asSent readings path) { car with router } next →
            Starts readings car next := by
        intro next departs
        rw [asSent, same.nextStation] at departs
        exact .first path cursor present (.of_sameRoute car same departs)
      rw [went, sent]
      dsimp only
      split
      next failed =>
        have queued := keeps_sendImportantEvent result.1 .evPathMagError 0 (by decide)
        exact ⟨_, rfl, first (goes.departs queued (.inr ⟨failed, rfl, rfl, rfl⟩))⟩
      next =>
        have released : Keeps result.1 { result.1 with stopButton := false } := .of_relevant rfl
        refine ⟨_, rfl, first (goes.departs ((released.trans (keeps_setCarStatus _ _ _)).trans
          (keeps_afterStart readings _)) (.inl ?_))⟩
        rw [status_afterStart]
        rfl
    · rw [if_neg cursor]
      refine ⟨_, rfl, .resumes nothing cursor ?_ ?_⟩
      · have released : Keeps (car.resetLastTargetStation readings)
            { car.resetLastTargetStation readings with stopButton := false } :=
          .of_relevant rfl
        exact (resends_resetLastTargetStation readings car).1.before
          ((released.trans (keeps_setCarStatus _ _ _)).trans (keeps_afterStart readings _))
      · rw [status_afterStart]
        rfl

theorem starts_startRun (automatic : car.operateMode = .autoMode)
    (handled : car.startRun readings = some next) : Starts readings car next := by
  rcases startRun_eq_some readings automatic with ⟨result, started, starts⟩
  cases handled.symm.trans started
  exact starts

end AgvCar

end DrivingControl.Controler

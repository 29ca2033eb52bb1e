import DrivingControl.Controler.Car

/-!
# The way points of the car

The parts of `CAgvCar` that execute a path: `GoToNextPoint` chooses the next way
point, rewrites its action and lift height in place and gives it to the move helper;
`DoPathPointAction` performs the action of the target that was reached.
-/

namespace DrivingControl.Controler

open DrivingControl.Comm DrivingControl.Event

/-! ## The choice of the next way point -/

/-- The test of `WhetherJumpCurPoint` for a way point and the one behind it. -/
def jumps (readings : Readings) (cur next : WayPoint) : Bool :=
  if next.action = actionCharge ∨ cur.runMode ≠ next.runMode ∨
      (next.action = actionLiftUpDown ∧ next.runMode = goBackwardMode) then false
  else readings.sameStraightLine cur next && cur.action != actionLiftUpDown

/-- Whether two lift heights forbid the jump from one way point to the next. -/
def heightsDiffer (cur next : WayPoint) : Bool :=
  decide (cur.liftHeight ≥ 0 ∧ next.liftHeight ≥ 0 ∧ cur.liftHeight ≠ next.liftHeight)

/-- The lift height that the next way point takes over from a way point that is
jumped. -/
def takeHeight (cur next : WayPoint) : WayPoint :=
  if cur.liftHeight ≥ 0 ∧ next.liftHeight < 0 then { next with liftHeight := cur.liftHeight }
  else next

/-- The action that `GetRunAction` gives a way point before another one. -/
def runAction (readings : Readings) (cur next : WayPoint) : Int :=
  let sameLine := readings.nearlySameLine cur next && cur.runMode == next.runMode
  if next.action = actionLiftUpDown then actionStop
  else if (cur.action = actionRun ∧ sameLine = false) ∨ next.action = actionCharge then
    actionSpeedDown
  else cur.action

namespace RoutePlanner

/-- `WhetherJumpCurPoint`. -/
def whetherJumpCurPoint (readings : Readings) (cur : WayPoint) (router : RoutePlanner) :
    RoutePlanner × Bool :=
  let peeked := router.peekNextStation
  match peeked.2 with
  | none => (peeked.1, false)
  | some next => (peeked.1, jumps readings cur next)

/-- The first block of `GoToNextPoint`: the way point is jumped, unless it is the first
one or the lift heights forbid it. -/
def jumpCurPoint (readings : Readings) (isfirst : Bool) (router : RoutePlanner) :
    Option RoutePlanner :=
  match router.getTargetStation with
  | none => none
  | some cur =>
      let tested := router.whetherJumpCurPoint readings cur
      if tested.2 && !isfirst then
        let moved := tested.1.moveToNextStation.1
        match moved.getTargetStation with
        | none => none
        | some next =>
            if heightsDiffer cur next then some moved.moveToLastStation.1
            else some (moved.updateTarget (takeHeight cur))
      else some tested.1

/-- The way point stops the car when the next one has another run mode or there is
none. -/
def stopAtTurn (path : WayPoint) (router : RoutePlanner) : RoutePlanner :=
  if path.action = actionRun then
    let peeked := router.peekNextStation
    match peeked.2 with
    | none => peeked.1.updateTarget ({ · with action := actionStop })
    | some next =>
        if next.runMode ≠ path.runMode then
          peeked.1.updateTarget ({ · with action := actionStop })
        else peeked.1
  else router

/-- `GetRunAction` with the assignment of its result. -/
def getRunAction (readings : Readings) (router : RoutePlanner) : RoutePlanner :=
  let peeked := router.peekNextStation
  match peeked.2 with
  | none => peeked.1
  | some next =>
      peeked.1.updateTarget fun cur => { cur with action := runAction readings cur next }

end RoutePlanner

/-- Whether `GoToNextPoint` sends a way point to the move helper. -/
def isDrivable (path : WayPoint) : Bool :=
  decide (((1 ≤ path.runMode ∧ path.runMode ≤ 2) ∨ (5 ≤ path.runMode ∧ path.runMode ≤ 6)) ∧
    ¬((path.runMode = 5 ∨ path.runMode = 6) ∧ path.angle < 0))

namespace AgvCar

/-- A call of `SetTarget`, with the event and the result of a rejected target. -/
def afterIssue (result : CarControler × Option Int) (car : AgvCar) : AgvCar × Int :=
  match result.2 with
  | none => ({ car with controler := result.1 }, 0)
  | some errorCode =>
      ({ car with controler := result.1 }.sendImportantEvent .evPathMagError errorCode, -1)

/-- The speed of `GoToNextPoint` for a run mode. -/
def pathSpeed (readings : Readings) (runMode : Int) (car : AgvCar) : Int :=
  if runMode = goForwardMode then
    if car.speedFormServer = 0 then readings.forwardSpeed else car.speedFormServer
  else if runMode = goBackwardMode then readings.backwardSpeed
  else 0

/-- The rule that turns a way point with a lift height into a lift. -/
def liftOnTheWay (path : WayPoint) (car : AgvCar) : AgvCar :=
  if (path.action ≠ actionLiftUpDown ∧ path.liftHeight ≥ 0) ∨
      car.controler.compareSourcePathMag path.id path.action path.liftHeight then
    let checked := car.controler.lifter.liftIsArrived path.liftHeight
    let lifter := if checked.2 then checked.1 else checked.1.setLiftHeight path.liftHeight
    { car with
      controler := { car.controler with lifter }
      router := car.router.updateTarget ({ · with action := actionLiftUpDown }) }
  else car

/-- The middle of `GoToNextPoint`: the action of the target is rewritten. -/
def preparePoint (readings : Readings) (path : WayPoint) (car : AgvCar) : AgvCar :=
  let car := { car with
    currentPathId := path.id
    carRunMode := path.runMode
    router := car.router.stopAtTurn path
    controler := car.controler.setTargetHeight path.liftHeight }
  let car := match car.router.getTargetStation with
    | none => car
    | some path => car.liftOnTheWay path
  { car with router := car.router.getRunAction readings }

/-- The target that `GoToNextPoint` makes of a way point. -/
def pathMag (readings : Readings) (path : WayPoint) (car : AgvCar) : PathMag where
  station := path.id
  mode := path.runMode
  speed := car.pathSpeed readings path.runMode
  xPos := path.xPos
  yPos := path.yPos
  angle := if path.runMode = 5 then -path.angle else path.angle
  radius := path.radius
  action := path.action
  liftHeight := path.liftHeight

/-- The end of `GoToNextPoint`: the target is sent to the move helper. -/
def sendPoint (readings : Readings) (path : WayPoint) (car : AgvCar) : AgvCar × Int :=
  if isDrivable path then
    car.afterIssue
      (car.controler.setTargetStation readings.split (car.pathMag readings path))
  else (car, -1)

/-- `GoToNextPoint` behind the choice of the way point. -/
def goToPoint (readings : Readings) (car : AgvCar) : Option (AgvCar × Int) :=
  match car.router.getTargetStation with
  | none => none
  | some path =>
      let prepared := car.preparePoint readings path
      match prepared.router.getTargetStation with
      | none => none
      | some path => some (prepared.sendPoint readings path)

/-- `GoToNextPoint`. -/
def goToNextPoint (readings : Readings) (isfirst : Bool) (car : AgvCar) :
    Option (AgvCar × Int) :=
  let moved := car.router.moveToNextStation
  if !isfirst && !moved.2 then some ({ car with router := moved.1 }, 1)
  else
    match (if isfirst then car.router else moved.1).jumpCurPoint readings isfirst with
    | none => none
    | some router => goToPoint readings { car with router }

/-! ## Arrivals -/

/-- `DoPathPointAction` for the target, and the value it returns. -/
def doPathPointAction (path : WayPoint) (car : AgvCar) : AgvCar × Int :=
  let car := { car with
    currentPathAction := path.action
    performed := car.performed ++ [(car.router.targetPathId, path.action)] }
  if path.action = actionRun ∨ path.action = actionSpeedDown ∨
      path.action = actionResumeSpeed then (car, 0)
  else if path.action = actionStop then (car.stopCar, 0)
  else if path.action = actionLiftUpDown then
    let car := car.stopCar
    let checked := car.controler.lifter.liftIsArrived path.liftHeight
    if checked.2 then
      ({ car with controler := { car.controler with lifter := checked.1 } }, 0)
    else
      ({ car with controler := { car.controler with
          lifter := checked.1.setLiftHeight path.liftHeight } }, -1)
  else if path.action = actionCharge then
    let car := car.stopCar
    ({ car with controler := car.controler.setChargeSwitch true }, 0)
  else (car, -1)

/-- The barriers that are still there are queued again. -/
def requeueBarriers (car : AgvCar) : AgvCar :=
  let car := if car.isHaveError errorIrNear then car.sendUrgentEvent .evNearBarrier 0 else car
  let car := if car.isHaveError errorIrMid then car.sendUrgentEvent .evMidBarrier 0 else car
  if car.isHaveError errorIrFar then car.sendUrgentEvent .evFarBarrier 0 else car

/-- The end of `OnStationActionFinished`, with what `GoToNextPoint` returned. -/
def afterNextPoint (car : AgvCar) (ret : Int) : AgvCar :=
  if ret = 0 then
    requeueBarriers
      ({ car with stopButton := false }.setCarStatus .running car.carRunMode)
  else if ret = 1 then car.sendImportantEvent .evPathFinished 0
  else if ret = -1 then car.sendImportantEvent .evPathMagError 0
  else car

/-- `OnStationActionFinished`. -/
def onStationActionFinished (readings : Readings) (car : AgvCar) : Option AgvCar :=
  match car.router.onActionFinished car.controler.lastLiftHeight with
  | none => none
  | some (router, ret) =>
      if ret ≠ 0 then some { car with router }
      else
        match goToNextPoint readings false { car with router, currentPathAction := 0 } with
        | none => none
        | some (car, ret) => some (car.afterNextPoint ret)

/-- `OnArrivedStation`, which only logs the id it is passed. -/
def onArrivedStation (readings : Readings) (car : AgvCar) : Option AgvCar :=
  match car.router.getTargetStation with
  | none => none
  | some path =>
      let performed := car.doPathPointAction path
      if performed.2 = 0 then performed.1.onStationActionFinished readings
      else some performed.1

/-- `OnLiftArrivedHeight`, which only logs the height it is passed. -/
def onLiftArrivedHeight (readings : Readings) (car : AgvCar) : Option AgvCar :=
  if car.currentPathAction = actionLiftUpDown then car.onStationActionFinished readings
  else some car

/-! ## Start and barriers -/

/-- The end of `StartRun`: a clear laser clears the flags, otherwise the barriers that
are still there are queued again. -/
def afterStart (readings : Readings) (car : AgvCar) : AgvCar :=
  if readings.laserStuta = 0 then
    ((car.clearErrorFlag errorIrMid).clearErrorFlag errorIrFar).clearErrorFlag errorIrNear
  else car.requeueBarriers

theorem afterStart_clear {readings : Readings} (clear : readings.laserStuta = 0) :
    afterStart readings = fun car =>
      ((car.clearErrorFlag errorIrMid).clearErrorFlag errorIrFar).clearErrorFlag errorIrNear := by
  funext car
  rw [afterStart, if_pos clear]

theorem afterStart_barrier {readings : Readings} (present : readings.laserStuta ≠ 0) :
    afterStart readings = requeueBarriers := by
  funext car
  rw [afterStart, if_neg present]

/-- `ResetLastTargetStation`, with the event of a rejected target. -/
def resetLastTargetStation (readings : Readings) (car : AgvCar) : AgvCar :=
  (car.afterIssue (car.controler.resetLastTargetStation readings.split)).1

/-- `StartRun`.  A request for a path only sends a message to the server. -/
def startRun (readings : Readings) (car : AgvCar) : Option AgvCar :=
  if car.operateMode = .autoMode then
    if car.router.pathList = [] then some car
    else if car.router.targetPathId = 0 then
      match goToNextPoint readings true car with
      | none => none
      | some (car, ret) =>
          if ret ≠ 0 then some (car.sendImportantEvent .evPathMagError 0)
          else
            some (afterStart readings
              ({ car with stopButton := false }.setCarStatus .running car.carRunMode))
    else
      let car := car.resetLastTargetStation readings
      some (afterStart readings
        ({ car with stopButton := false }.setCarStatus .running car.carRunMode))
  else some (afterStart readings car)

/-- The side a barrier event comes from. -/
def barrierPos (dev : Int) : Int := dev / 256 % 256

/-- Whether a barrier on a side matters in the present running mode. -/
def ignoresBarrier (dev : Int) (car : AgvCar) : Bool :=
  let pos := barrierPos dev
  let mode := car.controler.moveHelper.getRunningMode
  decide (pos > 0 ∧ ((mode = goForwardMode ∧ pos ≠ 1) ∨ (mode = goBackwardMode ∧ pos ≠ 2) ∨
    mode = rotateLeftMode ∨ mode = rotateRightMode))

/-- Whether a nearer barrier hides the event. -/
def hidesBarrier (event : EventList) (car : AgvCar) : Bool :=
  match event with
  | .evMidBarrier => car.isHaveError errorIrNear
  | .evFarBarrier => car.isHaveError errorIrNear || car.isHaveError errorIrMid
  | _ => false

/-- The error flags of a barrier event. -/
def barrierFlags (event : EventList) (car : AgvCar) : AgvCar :=
  match event with
  | .evBarrierOk =>
      (List.range 4).foldl (fun car i => car.clearErrorFlag (errorTouch1 + i))
        (((car.clearErrorFlag errorIrFar).clearErrorFlag errorIrMid).clearErrorFlag errorIrNear)
  | .evBarrierTouched => car.setErrorFlag errorTouch1
  | .evNearBarrier =>
      ((car.setErrorFlag errorIrNear).clearErrorFlag errorIrMid).clearErrorFlag errorIrFar
  | .evMidBarrier =>
      ((car.setErrorFlag errorIrMid).clearErrorFlag errorIrFar).clearErrorFlag errorIrNear
  | .evFarBarrier =>
      ((car.setErrorFlag errorIrFar).clearErrorFlag errorIrMid).clearErrorFlag errorIrNear
  | _ => car

/-- A barrier event sets some flags and then clears others, none of them the network's. -/
theorem barrierFlags_eq (event : EventList) :
    ∃ sets clears : List Nat, (∀ flag ∈ sets ++ clears, flag ≠ errorNetWork) ∧
      barrierFlags event = fun car =>
        clears.foldl (fun car flag => car.clearErrorFlag flag)
          (sets.foldl (fun car flag => car.setErrorFlag flag) car) := by
  cases event with
  | evBarrierOk =>
      exact ⟨[], [errorIrFar, errorIrMid, errorIrNear, errorTouch1 + 0, errorTouch1 + 1,
        errorTouch1 + 2, errorTouch1 + 3], by decide, rfl⟩
  | evBarrierTouched => exact ⟨[errorTouch1], [], by decide, rfl⟩
  | evNearBarrier => exact ⟨[errorIrNear], [errorIrMid, errorIrFar], by decide, rfl⟩
  | evMidBarrier => exact ⟨[errorIrMid], [errorIrFar, errorIrNear], by decide, rfl⟩
  | evFarBarrier => exact ⟨[errorIrFar], [errorIrMid, errorIrNear], by decide, rfl⟩
  | _ => exact ⟨[], [], by decide, rfl⟩

/-- The status of a barrier event. -/
def barrierStatus (event : EventList) (car : AgvCar) : AgvCar :=
  match event with
  | .evBarrierOk => car.setCarStatus car.lastCarInfo.status car.lastCarInfo.voice
  | .evNearBarrier => car.setCarStatus .error mp3Near
  | .evMidBarrier => car.setCarStatus .warning mp3Mid
  | .evFarBarrier => car.setCarStatus .warning mp3Far
  | .evBarrierTouched => car.setCarStatus .error mp3Touch
  | _ => car

/-- Whether an event is one of the two that stop the car. -/
def isStopping (event : EventList) : Bool :=
  event == .evNearBarrier || event == .evBarrierTouched

/-- The end of `OnBarrierMessage`: while the car is stopped the event is only noted. -/
def actOnBarrier (readings : Readings) (event : EventList) (car : AgvCar) : AgvCar :=
  if car.stopButton then { car with lastEvent := event }
  else
    let car := if isStopping car.lastEvent && !isStopping event then
        car.resetLastTargetStation readings
      else car
    { car with lastEvent := event }.barrierStatus event

/-- `OnBarrierMessage`. -/
def onBarrierMessage (readings : Readings) (event : EventList) (dev : Int) (car : AgvCar) :
    AgvCar :=
  if car.ignoresBarrier dev || car.hidesBarrier event then car
  else (car.barrierFlags event).actOnBarrier readings event

end AgvCar

end DrivingControl.Controler

import DrivingControl.Controler.PlannerMoves

/-!
# The operations of the handlers

Every handler is made of a few operations on the car: it enters a status, sets or clears a
flag, queues an event of its own, moves the planner, reports a task, commands the devices,
or notes something for itself.  What each operation keeps is kept by every event but four:
the two that switch the mode, and the two that tell of the sensors.
-/

namespace DrivingControl.Controler

open DrivingControl.Comm DrivingControl.Event

namespace RoutePlanner

/-! ## What the planner reports -/

/-- Two planners that report the same status and have reported the same tasks. -/
structure SameReports (router other : RoutePlanner) : Prop where
  curStatus : other.curStatus = router.curStatus
  taskReports : other.taskReports = router.taskReports

namespace SameReports

variable {readings : Readings} {router other last : RoutePlanner}

theorem refl (router : RoutePlanner) : SameReports router router := ⟨rfl, rfl⟩

theorem trans (first : SameReports router other) (second : SameReports other last) :
    SameReports router last :=
  ⟨second.curStatus.trans first.curStatus, second.taskReports.trans first.taskReports⟩

end SameReports

variable {readings : Readings} {router next : RoutePlanner}

theorem sameReports_clearPathList (router : RoutePlanner) :
    router.SameReports router.clearPathList := ⟨rfl, rfl⟩

theorem sameReports_savePathInfo (fileOpens all : Bool) (router : RoutePlanner) :
    router.SameReports (router.savePathInfo fileOpens all) := by
  rw [savePathInfo]
  dsimp only
  split <;> exact ⟨rfl, rfl⟩

theorem sameReports_loadPathInfo (fileOpens : Bool) (router : RoutePlanner) :
    router.SameReports (router.loadPathInfo fileOpens) := by
  rw [loadPathInfo]
  split
  · exact sameReports_clearPathList router
  · split
    · exact ⟨rfl, rfl⟩
    · exact sameReports_clearPathList router

theorem sameReports_reloadPathList (fileOpens : Bool) (router : RoutePlanner) :
    router.SameReports (router.reloadPathList fileOpens) :=
  ((sameReports_clearPathList router).trans (sameReports_savePathInfo true false _)).trans
    (sameReports_loadPathInfo fileOpens _)

theorem sameReports_onGetNewPath (fileOpens : Bool) (list : List StationInfo)
    (router : RoutePlanner) : router.SameReports (router.onGetNewPath fileOpens list).1 := by
  have saved := sameReports_savePathInfo fileOpens true
    { router.clearPathList with pathList := list.map WayPoint.ofStation }
  exact ⟨saved.curStatus, saved.taskReports⟩

theorem sameReports_updateTarget (change : WayPoint → WayPoint) (router : RoutePlanner) :
    router.SameReports (router.updateTarget change) := ⟨rfl, rfl⟩

theorem sameReports_noteLastStation (router : RoutePlanner) :
    router.SameReports router.noteLastStation := by
  rw [noteLastStation_eq]
  exact ⟨rfl, rfl⟩

theorem sameReports_moveToNextStation (router : RoutePlanner) :
    router.SameReports router.moveToNextStation.1 := by
  rw [moveToNextStation]
  split
  · exact .refl router
  · split
    · rw [noteLastStation_eq]
      exact ⟨rfl, rfl⟩
    · exact sameReports_noteLastStation router

theorem sameReports_moveToLastStation (router : RoutePlanner) :
    router.SameReports router.moveToLastStation.1 := by
  rw [moveToLastStation]
  split
  · exact .refl router
  · split
    · rw [noteLastStation_eq]
      exact ⟨rfl, rfl⟩
    · exact sameReports_noteLastStation router

theorem sameReports_peekNextStation (router : RoutePlanner) :
    router.SameReports router.peekNextStation.1 := by
  have moved := sameReports_moveToNextStation router
  unfold peekNextStation
  dsimp only
  split
  · exact moved.trans (sameReports_moveToLastStation _)
  · exact moved

theorem sameReports_whetherJumpCurPoint (readings : Readings) (cur : WayPoint)
    (router : RoutePlanner) :
    router.SameReports (router.whetherJumpCurPoint readings cur).1 := by
  unfold whetherJumpCurPoint
  dsimp only
  split <;> exact sameReports_peekNextStation router

theorem sameReports_jumpCurPoint {isfirst : Bool}
    (found : router.jumpCurPoint readings isfirst = some next) : router.SameReports next := by
  rw [jumpCurPoint] at found
  split at found
  · cases found
  next cur present =>
    have tested := sameReports_whetherJumpCurPoint readings cur router
    dsimp only at found
    split at found
    · have moved := tested.trans (sameReports_moveToNextStation _)
      split at found
      · cases found
      · split at found
        · cases found
          exact moved.trans (sameReports_moveToLastStation _)
        · cases found
          exact moved.trans (sameReports_updateTarget _ _)
    · cases found
      exact tested

theorem sameReports_stopAtTurn (path : WayPoint) (router : RoutePlanner) :
    router.SameReports (router.stopAtTurn path) := by
  have peeked := sameReports_peekNextStation router
  rw [stopAtTurn]
  dsimp only
  split
  · split
    · exact peeked.trans (sameReports_updateTarget _ _)
    · split
      · exact peeked.trans (sameReports_updateTarget _ _)
      · exact peeked
  · exact .refl router

theorem sameReports_getRunAction (readings : Readings) (router : RoutePlanner) :
    router.SameReports (router.getRunAction readings) := by
  have peeked := sameReports_peekNextStation router
  unfold getRunAction
  dsimp only
  split
  · exact peeked
  · exact peeked.trans (sameReports_updateTarget _ _)

end RoutePlanner

namespace AgvCar

open RoutePlanner

/-! ## Operations -/

/-- The events that the handlers queue. -/
def ownEvent : EventList → Bool
  | .evLostPosition | .evSysReady | .evApplyPath | .evKeyStart | .evPathFinished
  | .evPathMagError | .evNearBarrier | .evMidBarrier | .evFarBarrier => true
  | _ => false

/-- What the car only notes for itself differs. -/
def Noted (car next : AgvCar) : Prop :=
  next = { car with
    batteryVoltage := next.batteryVoltage
    batteryCapacity := next.batteryCapacity
    carElectricity := next.carElectricity
    speedFormServer := next.speedFormServer
    currentPathAction := next.currentPathAction
    currentPathId := next.currentPathId
    carRunMode := next.carRunMode
    stopButton := next.stopButton
    lastEvent := next.lastEvent
    isInitComplete := next.isInitComplete
    isLifterInit := next.isLifterInit
    lowBatteryAlarmTimes := next.lowBatteryAlarmTimes
    performed := next.performed }

/-- One operation of a handler. -/
inductive Act (car : AgvCar) : AgvCar → Prop
  | setCarStatus (status : CarStatus) (para : Int) : Act car (car.setCarStatus status para)
  | onStationMessage (readings : Readings) (x y angle : Int) :
      Act car (car.onStationMessage readings x y angle)
  | setErrorFlag (flag : Nat) (other : flag ≠ errorSensorLost) :
      Act car (car.setErrorFlag flag)
  | clearErrorFlag (flag : Nat) (other : flag ≠ errorSensorLost) :
      Act car (car.clearErrorFlag flag)
  | queue (event : AgvEvent) (own : ownEvent event.event = true) :
      Act car { car with events := car.events.pushEvent event }
  | route {router : RoutePlanner} (same : car.router.SameReports router) :
      Act car { car with router }
  | report (taskReports : List (Int × Int)) :
      Act car { car with router := { car.router with taskReports } }
  | command (controler : CarControler) : Act car { car with controler }
  | note {next : AgvCar} (noted : Noted car next) : Act car next

/-- Any number of operations. -/
def Acts : AgvCar → AgvCar → Prop := Relation.ReflTransGen Act

variable {readings : Readings} {car next last : AgvCar} {evt : AgvEvent}

theorem Acts.refl (car : AgvCar) : Acts car car := Relation.ReflTransGen.refl

theorem Acts.trans (first : Acts car next) (second : Acts next last) : Acts car last :=
  Relation.ReflTransGen.trans first second

theorem Act.acts (act : Act car next) : Acts car next := .single act

/-- A relation that holds for every operation holds for any number of them. -/
theorem Acts.relates {relates : AgvCar → AgvCar → Prop} (refl : ∀ car, relates car car)
    (trans : ∀ {car next last}, relates car next → relates next last → relates car last)
    (acted : ∀ {car next}, Act car next → relates car next) (acts : Acts car next) :
    relates car next := by
  induction acts with
  | refl => exact refl car
  | tail _ act ih => exact trans ih (acted act)

/-! ## The functions of the car -/

theorem acts_noted (noted : Noted car next) : Acts car next := (Act.note noted).acts

theorem acts_setCarStatus (status : CarStatus) (para : Int) (car : AgvCar) :
    Acts car (car.setCarStatus status para) := (Act.setCarStatus status para).acts

theorem acts_stopCar (car : AgvCar) : Acts car car.stopCar := by
  have pressed : Acts car { car with stopButton := true } := acts_noted rfl
  exact pressed.trans (acts_setCarStatus .stopped mp3Mute _)

theorem acts_running (car : AgvCar) :
    Acts car ({ car with stopButton := false }.setCarStatus .running car.carRunMode) := by
  have released : Acts car { car with stopButton := false } := acts_noted rfl
  exact released.trans (acts_setCarStatus .running car.carRunMode _)

theorem acts_requeueBarriers (car : AgvCar) : Acts car car.requeueBarriers := by
  have queuesIf : ∀ (present : Bool) (event : EventList) (car : AgvCar),
      ownEvent event = true →
      Acts car (if present then car.sendUrgentEvent event 0 else car) := by
    intro present event car own
    split
    · exact (Act.queue { event, param := 0, priority := urgent } own).acts
    · exact .refl car
  exact ((queuesIf _ .evNearBarrier car rfl).trans (queuesIf _ .evMidBarrier _ rfl)).trans
    (queuesIf _ .evFarBarrier _ rfl)

theorem acts_afterStart (readings : Readings) (car : AgvCar) :
    Acts car (car.afterStart readings) := by
  have clears : ∀ (flag : Nat) (car : AgvCar), flag ≠ errorSensorLost →
      Acts car (car.clearErrorFlag flag) :=
    fun flag car other => (Act.clearErrorFlag flag other).acts
  rw [afterStart]
  split
  · exact ((clears errorIrMid car (by decide)).trans (clears errorIrFar _ (by decide))).trans
      (clears errorIrNear _ (by decide))
  · exact acts_requeueBarriers car

theorem acts_afterIssue (result : CarControler × Option Int) (car : AgvCar) :
    Acts car (car.afterIssue result).1 := by
  have commanded : Acts car { car with controler := result.1 } := (Act.command _).acts
  rw [afterIssue]
  split
  · exact commanded
  next errorCode failed =>
    exact commanded.trans
      (Act.queue { event := .evPathMagError, param := errorCode, priority := important } rfl).acts

theorem acts_sendPoint (readings : Readings) (path : WayPoint) (car : AgvCar) :
    Acts car (car.sendPoint readings path).1 := by
  rw [sendPoint]
  split
  · exact acts_afterIssue _ car
  · exact .refl car

theorem acts_updateTarget (change : WayPoint → WayPoint) (car : AgvCar) :
    Acts car { car with router := car.router.updateTarget change } :=
  (Act.route (sameReports_updateTarget change car.router)).acts

theorem acts_liftOnTheWay (path : WayPoint) (car : AgvCar) :
    Acts car (car.liftOnTheWay path) := by
  rw [liftOnTheWay]
  dsimp only
  split
  · exact (acts_updateTarget _ car).trans (Act.command _).acts
  · exact .refl car

theorem acts_preparePoint (readings : Readings) (path : WayPoint) (car : AgvCar) :
    Acts car (car.preparePoint readings path) := by
  let turned : AgvCar := { car with
    currentPathId := path.id
    carRunMode := path.runMode
    router := car.router.stopAtTurn path
    controler := car.controler.setTargetHeight path.liftHeight }
  have routed : Acts car { car with router := car.router.stopAtTurn path } :=
    (Act.route (sameReports_stopAtTurn path car.router)).acts
  have commanded := routed.trans (Act.command (car.controler.setTargetHeight path.liftHeight)).acts
  have turns : Acts car turned := commanded.trans (acts_noted rfl)
  have rewrites : ∀ car : AgvCar, Acts car { car with
      router := car.router.getRunAction readings } :=
    fun car => (Act.route (sameReports_getRunAction readings car.router)).acts
  rw [preparePoint]
  dsimp only
  split
  · exact turns.trans (rewrites turned)
  next target present => exact (turns.trans (acts_liftOnTheWay target turned)).trans (rewrites _)

theorem acts_goToPoint {result : AgvCar × Int} (went : car.goToPoint readings = some result) :
    Acts car result.1 := by
  rw [goToPoint] at went
  split at went
  · cases went
  next path present =>
    dsimp only at went
    split at went
    · cases went
    · cases went
      exact (acts_preparePoint readings path car).trans (acts_sendPoint readings _ _)

theorem acts_goToNextPoint {isfirst : Bool} {result : AgvCar × Int}
    (went : car.goToNextPoint readings isfirst = some result) : Acts car result.1 := by
  have moved := sameReports_moveToNextStation car.router
  unfold goToNextPoint at went
  dsimp only at went
  split at went
  · cases went
    exact (Act.route moved).acts
  · split at went
    · cases went
    next router found =>
      have jumped := sameReports_jumpCurPoint found
      refine .trans (Act.route ?_).acts (acts_goToPoint went)
      cases isfirst with
      | true => exact jumped
      | false => exact moved.trans jumped

theorem acts_afterNextPoint (ret : Int) (car : AgvCar) : Acts car (car.afterNextPoint ret) := by
  rw [afterNextPoint]
  split
  · exact (acts_running car).trans (acts_requeueBarriers _)
  · split
    · exact (Act.queue { event := .evPathFinished, priority := important } rfl).acts
    · split
      · exact (Act.queue { event := .evPathMagError, priority := important } rfl).acts
      · exact .refl car

theorem acts_onStationActionFinished
    (handled : car.onStationActionFinished readings = some next) : Acts car next := by
  cases endsAction_onStationActionFinished handled with
  | again target present finished same =>
      subst same
      exact .refl _
  | goesOn target present unfinished result went same =>
      subst same
      have marked : Acts car { car with router := car.router.finishStation } :=
        acts_updateTarget _ car
      have reported := marked.trans (Act.report (car.router.taskReports ++
        taskReport car.controler.lastLiftHeight target)).acts
      have reset : Acts car { car with
          router := car.finishing target
          currentPathAction := 0 } := reported.trans (acts_noted rfl)
      exact (reset.trans (acts_goToNextPoint went)).trans
        (acts_afterNextPoint result.2 result.1)

theorem acts_doPathPointAction (path : WayPoint) (car : AgvCar) :
    Acts car (car.doPathPointAction path).1 := by
  have noted : Acts car { car with
      currentPathAction := path.action
      performed := car.performed ++ [(car.router.targetPathId, path.action)] } :=
    acts_noted rfl
  have stopped := noted.trans (acts_stopCar _)
  rw [doPathPointAction]
  dsimp only
  split
  · exact noted
  · split
    · exact stopped
    · split
      · split <;> exact stopped.trans (Act.command _).acts
      · split
        · exact stopped.trans (Act.command _).acts
        · exact noted

theorem acts_onArrivedStation (handled : car.onArrivedStation readings = some next) :
    Acts car next := by
  rw [onArrivedStation] at handled
  split at handled
  · cases handled
  next path present =>
    have performs := acts_doPathPointAction path car
    dsimp only at handled
    split at handled
    · exact performs.trans (acts_onStationActionFinished handled)
    · cases handled
      exact performs

theorem acts_resetLastTargetStation (readings : Readings) (car : AgvCar) :
    Acts car (car.resetLastTargetStation readings) := acts_afterIssue _ car

theorem acts_startRun (handled : car.startRun readings = some next) : Acts car next := by
  rw [startRun] at handled
  split at handled
  · split at handled
    · cases handled
      exact .refl car
    · split at handled
      · split at handled
        · cases handled
        next result code went =>
          have goes := acts_goToNextPoint went
          split at handled
          · cases handled
            exact goes.trans
              (Act.queue { event := .evPathMagError, priority := important } rfl).acts
          · cases handled
            exact (goes.trans (acts_running result)).trans (acts_afterStart readings _)
      · cases handled
        exact ((acts_resetLastTargetStation readings car).trans (acts_running _)).trans
          (acts_afterStart readings _)
  · cases handled
    exact acts_afterStart readings car

/-! ## Barriers -/

theorem acts_barrierFlags (event : EventList) (car : AgvCar) :
    Acts car (car.barrierFlags event) := by
  have sets : ∀ (flag : Nat) (car : AgvCar), flag ≠ errorSensorLost →
      Acts car (car.setErrorFlag flag) := fun flag car other => (Act.setErrorFlag flag other).acts
  have clears : ∀ (flag : Nat) (car : AgvCar), flag ≠ errorSensorLost →
      Acts car (car.clearErrorFlag flag) :=
    fun flag car other => (Act.clearErrorFlag flag other).acts
  have touches : ∀ (flags : List Nat) (car : AgvCar),
      (∀ i ∈ flags, errorTouch1 + i ≠ errorSensorLost) →
      Acts car (flags.foldl (fun car i => car.clearErrorFlag (errorTouch1 + i)) car) := by
    intro flags
    induction flags with
    | nil => exact fun car _ => .refl car
    | cons flag flags ih =>
        intro car others
        exact (clears _ car (others flag List.mem_cons_self)).trans
          (ih _ fun i member => others i (List.mem_cons_of_mem flag member))
  simp only [barrierFlags]
  split
  · exact (((clears _ car (by decide)).trans (clears _ _ (by decide))).trans
      (clears _ _ (by decide))).trans (touches _ _ (by decide))
  · exact sets _ car (by decide)
  · exact ((sets _ car (by decide)).trans (clears _ _ (by decide))).trans
      (clears _ _ (by decide))
  · exact ((sets _ car (by decide)).trans (clears _ _ (by decide))).trans
      (clears _ _ (by decide))
  · exact ((sets _ car (by decide)).trans (clears _ _ (by decide))).trans
      (clears _ _ (by decide))
  · exact .refl car

theorem acts_barrierStatus (event : EventList) (car : AgvCar) :
    Acts car (car.barrierStatus event) := by
  simp only [barrierStatus]
  split
  · exact acts_setCarStatus _ _ car
  · exact acts_setCarStatus _ _ car
  · exact acts_setCarStatus _ _ car
  · exact acts_setCarStatus _ _ car
  · exact acts_setCarStatus _ _ car
  · exact .refl car

theorem acts_onBarrierMessage (readings : Readings) (event : EventList) (dev : Int)
    (car : AgvCar) : Acts car (car.onBarrierMessage readings event dev) := by
  have noted : ∀ car : AgvCar, Acts car { car with lastEvent := event } :=
    fun car => acts_noted rfl
  rw [onBarrierMessage]
  split
  · exact .refl car
  · refine (acts_barrierFlags event car).trans ?_
    rw [actOnBarrier]
    split
    · exact noted _
    · dsimp only
      refine .trans ?_ (acts_barrierStatus event _)
      split
      · exact (acts_resetLastTargetStation readings _).trans (noted _)
      · exact noted _

/-! ## Events -/

theorem acts_checkBattery (readings : Readings) (car : AgvCar) :
    Acts car (car.checkBattery readings) := by
  have counted : Acts car { car with lowBatteryAlarmTimes := 0 } := acts_noted rfl
  rw [checkBattery]
  split
  · split
    · exact counted.trans (acts_setCarStatus .lowPower mp3BatteryLow _)
    · exact acts_noted rfl
  · exact counted

theorem acts_checkInit (car : AgvCar) : Acts car car.checkInit := by
  have completed : Acts car { car with isInitComplete := true } := acts_noted rfl
  rw [checkInit]
  split
  · exact completed.trans (Act.queue { event := .evSysReady } rfl).acts
  · exact .refl car

theorem acts_on10msTimer (readings : Readings) (car : AgvCar) :
    Acts car (car.on10msTimer readings) := by
  have stopped : Acts car { car with controler := car.controler.stopCar } :=
    (Act.command _).acts
  rw [on10msTimer]
  split
  · exact stopped.trans (Act.queue { event := .evLostPosition, priority := urgent } rfl).acts
  · exact .refl car

theorem acts_onTurnCharge (on : Bool) (param : Int) (car : AgvCar) :
    Acts car (car.onTurnCharge on param) := by
  rw [onTurnCharge]
  split
  · exact (acts_stopCar car).trans (Act.command _).acts
  · exact .refl car

theorem acts_onGetNewPath (readings : Readings) (car : AgvCar) :
    Acts car (car.onGetNewPath readings) := by
  have installed : Acts car { car with
      router := (car.router.onGetNewPath readings.fileOpens readings.stationList).1 } :=
    (Act.route (sameReports_onGetNewPath _ _ car.router)).acts
  unfold onGetNewPath
  dsimp only
  split
  · exact (installed.trans (Act.queue { event := .evApplyPath } rfl).acts).trans
      (acts_setCarStatus .stopped mp3Mute _)
  · exact installed

theorem acts_onPathFinished (readings : Readings) (car : AgvCar) :
    Acts car (car.onPathFinished readings) := by
  have reloads : ∀ car : AgvCar, Acts car { car with
      router := car.router.reloadPathList readings.fileOpens } :=
    fun car => (Act.route (sameReports_reloadPathList _ car.router)).acts
  have stopped := (acts_stopCar car).trans (acts_setCarStatus .normal mp3Normal _)
  unfold onPathFinished
  dsimp only
  split
  · exact (stopped.trans (reloads _)).trans (Act.queue { event := .evKeyStart } rfl).acts
  · exact stopped.trans (reloads _)

theorem acts_onPathMagError (param : Int) (car : AgvCar) :
    Acts car (car.onPathMagError param) := by
  rw [onPathMagError]
  split
  · exact acts_stopCar car
  · exact (acts_stopCar car).trans (acts_setCarStatus _ _ _)

/-- The events that do more than the operations: they switch the mode, tell of the sensors,
or queue an event in the scheduler's name. -/
def exceptional : EventList → Bool
  | .evKeyAutoMode | .evKeyManualMode | .evSensorOnline | .evSensorOffline
  | .evNetworkError => true
  | _ => false

/-- What those events do. -/
inductive HandlesExceptional (readings : Readings) (evt : AgvEvent) (car : AgvCar) :
    AgvCar → Prop where
  | autoMode (kind : evt.event = .evKeyAutoMode) :
      HandlesExceptional readings evt car (car.onKeyAutoMode readings)
  | manualMode (kind : evt.event = .evKeyManualMode) :
      HandlesExceptional readings evt car car.onKeyManualMode
  | sensorOnline (kind : evt.event = .evSensorOnline) :
      HandlesExceptional readings evt car (car.clearErrorFlag errorSensorLost)
  | sensorOffline (kind : evt.event = .evSensorOffline) :
      HandlesExceptional readings evt car (car.setErrorFlag errorSensorLost)
  | networkError (kind : evt.event = .evNetworkError) :
      HandlesExceptional readings evt car (car.onNetworkError readings)

theorem handlesExceptional_of_exceptional (special : exceptional evt.event = true)
    (handled : car.handleEvent readings evt = some next) :
    HandlesExceptional readings evt car next := by
  rw [handleEvent] at handled
  cases named : evt.event with
  | evKeyAutoMode =>
      simp only [named, Option.some.injEq] at handled
      exact handled ▸ .autoMode named
  | evKeyManualMode =>
      simp only [named, Option.some.injEq] at handled
      exact handled ▸ .manualMode named
  | evSensorOnline =>
      simp only [named, Option.some.injEq] at handled
      exact handled ▸ .sensorOnline named
  | evSensorOffline =>
      simp only [named, Option.some.injEq] at handled
      exact handled ▸ .sensorOffline named
  | evNetworkError =>
      simp only [named, Option.some.injEq] at handled
      exact handled ▸ .networkError named
  | _ => simp [named, exceptional] at special

theorem acts_of_quiet (ordinary : exceptional evt.event = false)
    (handles : HandlesQuiet readings evt car next) : Acts car next := by
  have cleared : Acts car (car.clearErrorFlag errorPosition) :=
    (Act.clearErrorFlag errorPosition (by decide)).acts
  have lost : Acts car (car.setErrorFlag errorPosition) :=
    (Act.setErrorFlag errorPosition (by decide)).acts
  cases handles with
  | tick => exact acts_on10msTimer readings car
  | second => exact (acts_checkBattery readings car).trans (acts_checkInit _)
  | status status mp3 => exact acts_setCarStatus status mp3 car
  | stop => exact acts_stopCar car
  | position x y angle => exact cleared.trans (Act.onStationMessage readings _ _ _).acts
  | noPosition => exact cleared
  | lostPosition => exact lost.trans (acts_setCarStatus _ _ _)
  | turnCharge on => exact acts_onTurnCharge on evt.param car
  | pathMagError => exact acts_onPathMagError evt.param car
  | sensorOnline kind | sensorOffline kind | manualMode kind | networkError kind =>
      simp [kind, exceptional] at ordinary
  | battery vol cap ele => exact acts_noted rfl
  | lifterInit => exact acts_noted rfl
  | setSpeed => exact acts_noted rfl
  | ignored => exact .refl car

/-- Every other event only performs operations. -/
theorem acts_handleEvent (ordinary : exceptional evt.event = false)
    (handled : car.handleEvent readings evt = some next) : Acts car next := by
  cases sending : sendsTarget evt.event with
  | true =>
      cases handlesTarget_of_sendsTarget sending handled with
      | start kind automatic started => exact acts_startRun started
      | arrival kind arrived => exact acts_onArrivedStation arrived
      | lift kind lifting finished => exact acts_onStationActionFinished finished
      | barrier kind automatic same =>
          exact same ▸ acts_onBarrierMessage readings _ evt.param car
      | startIgnored kind manual same => exact same ▸ .refl car
      | liftIgnored kind other same => exact same ▸ .refl car
      | barrierIgnored kind manual same => exact same ▸ .refl car
  | false =>
      cases loads : loadsPath evt.event with
      | true =>
          cases handlesPath_of_loadsPath loads handled with
          | newPath kind present => exact acts_onGetNewPath readings car
          | nullPath kind null => exact .refl car
          | pathFinished kind => exact acts_onPathFinished readings car
          | autoMode kind => simp [kind, exceptional] at ordinary
          | networkOK kind =>
              have cleared : Acts car (car.clearErrorFlag errorNetWork) :=
                (Act.clearErrorFlag errorNetWork (by decide)).acts
              exact cleared.trans (Act.route (sameReports_loadPathInfo _ _)).acts
      | false => exact acts_of_quiet ordinary (handlesQuiet_of_quiet sending loads handled)

/-! ## What the operations queue -/

/-- The operations leave the events of a kind that no handler queues. -/
theorem Acts.ofKind {kind : EventList → Bool}
    (foreign : ∀ event, kind event = true → ownEvent event = false) (acts : Acts car next)
    (priority : Nat) : next.events.ofKind kind priority = car.events.ofKind kind priority := by
  induction acts with
  | refl => rfl
  | @tail car next _ act ih =>
      rw [← ih]
      cases act with
      | queue event own =>
          have other : kind event.event = false := by
            cases named : kind event.event with
            | false => rfl
            | true => simp [foreign _ named] at own
          exact EventHelper.ofKind_pushEvent_of_not other car.events priority
      | note noted =>
          rw [Noted] at noted
          rw [noted]
      | _ => rfl

/-- A lost network leaves the waiting events of other kinds than the scheduler's. -/
theorem ofKind_onNetworkError {kind : EventList → Bool}
    (foreign : kind .evSchedulerOffline = false) (readings : Readings) (car : AgvCar)
    (priority : Nat) :
    (car.onNetworkError readings).events.ofKind kind priority =
      car.events.ofKind kind priority := by
  rw [onNetworkError]
  split
  · exact EventHelper.ofKind_pushEvent_of_not foreign _ priority
  · rfl

/-- Every event leaves the waiting events of a kind that no handler queues. -/
theorem ofKind_handleEvent {kind : EventList → Bool}
    (foreign : ∀ event, kind event = true → ownEvent event = false)
    (scheduler : evt.event = .evNetworkError → kind .evSchedulerOffline = false)
    (handled : car.handleEvent readings evt = some next) (priority : Nat) :
    next.events.ofKind kind priority = car.events.ofKind kind priority := by
  cases ordinary : exceptional evt.event with
  | false => exact (acts_handleEvent ordinary handled).ofKind foreign priority
  | true =>
      cases handlesExceptional_of_exceptional ordinary handled with
      | autoMode named =>
          rw [onKeyAutoMode]
          split <;> rfl
      | manualMode named =>
          rw [onKeyManualMode]
          split <;> rfl
      | sensorOnline named | sensorOffline named => rfl
      | networkError named => exact ofKind_onNetworkError (scheduler named) readings car priority

end AgvCar

end DrivingControl.Controler

import DrivingControl.Controler.CarRoute
import DrivingControl.Library.Run

/-!
# The events of the car

`HandleEvent`, and the steps of the program around it: the main loop handles events,
the motion thread drives to the target, the lifter reports its height.
-/

namespace DrivingControl.Controler

open DrivingControl.Comm DrivingControl.Event DrivingControl.Library

namespace AgvCar

/-- `Init`, as far as it concerns the car's own data. -/
def init : AgvCar where
  carInfo := { status := .init, error := (1#32 <<< errorNetWork) ||| (1#32 <<< errorPosition) }

/-! ## Handlers -/

/-- `ev10msTimer`: a lost position stops the drive. -/
def on10msTimer (readings : Readings) (car : AgvCar) : AgvCar :=
  if car.isInitComplete && readings.lostPosition < 0 then
    { car with controler := car.controler.stopCar }.sendUrgentEvent .evLostPosition 0
  else car

/-- The battery alarm of `ev1sTimer`. -/
def checkBattery (readings : Readings) (car : AgvCar) : AgvCar :=
  if (car.batteryVoltage ≤ readings.alarmVoltage ∨ car.batteryCapacity ≤ 15) ∧
      car.batteryVoltage > 0 then
    if car.lowBatteryAlarmTimes + 1 > 20 then
      { car with lowBatteryAlarmTimes := 0 }.setCarStatus .lowPower mp3BatteryLow
    else { car with lowBatteryAlarmTimes := car.lowBatteryAlarmTimes + 1 }
  else { car with lowBatteryAlarmTimes := 0 }

/-- The completion of the start-up in `ev1sTimer`. -/
def checkInit (car : AgvCar) : AgvCar :=
  if !car.isInitComplete && !car.isHaveError errorNetWork && !car.isHaveError errorPosition &&
      car.isLifterInit && car.operateMode != .noKownMode then
    { car with isInitComplete := true }.sendEvent .evSysReady 0
  else car

/-- `evNetworkError`, with the event of a connection that `StopSchedule` takes down. -/
def onNetworkError (readings : Readings) (car : AgvCar) : AgvCar :=
  let car := car.setErrorFlag errorNetWork
  if readings.isConnected then car.sendImportantEvent .evSchedulerOffline 0 else car

/-- `evPosition` with a position. -/
def onStationMessage (readings : Readings) (x y angle : Int) (car : AgvCar) : AgvCar :=
  { car with
    carInfo := { car.carInfo with xPos := x, yPos := y, angle, speed := readings.carSpeed }
    router := car.router.updateCarInfo x y angle readings.carSpeed car.batteryCapacity
      car.reportStatus.value }

/-- `evKeyAutoMode`. -/
def onKeyAutoMode (readings : Readings) (car : AgvCar) : AgvCar :=
  if car.operateMode ≠ .autoMode then
    let car := { car with
      operateMode := .autoMode
      controler := { car.controler with operateMode := .autoMode } }.setCarStatus .normal mp3Mute
    let controler := car.controler.stopCar.setChargeSwitch false
    { car with
      controler := if car.isLifterInit then controler
        else { controler with lifter := controler.lifter.send .init }
      router := car.router.reloadPathList readings.fileOpens }
  else car

/-- `evKeyManualMode`. -/
def onKeyManualMode (car : AgvCar) : AgvCar :=
  if car.operateMode ≠ .manualMode then
    { car with
      stopButton := true
      operateMode := .manualMode
      controler := { car.controler with
        operateMode := .manualMode
        chargeSwitch := false }
      router := car.router.cleanLastStationPoint }.setCarStatus .stopped mp3Mute
  else car

/-- `evTurnOnCharge` and `evTurnOffCharge`. -/
def onTurnCharge (on : Bool) (param : Int) (car : AgvCar) : AgvCar :=
  if car.operateMode = .manualMode ∨ param = 1 then
    let car := car.stopCar
    { car with controler := car.controler.setChargeSwitch on }
  else car

/-- `evGetNewPath` with a list.  The event to apply the path is queued while it is
installed. -/
def onGetNewPath (readings : Readings) (car : AgvCar) : AgvCar :=
  let installed := car.router.onGetNewPath readings.fileOpens readings.stationList
  if installed.2 > 0 then
    ({ car with router := installed.1 }.sendEvent .evApplyPath 0).setCarStatus .stopped mp3Mute
  else { car with router := installed.1 }

/-- `evPathMagError`. -/
def onPathMagError (param : Int) (car : AgvCar) : AgvCar :=
  if param = -5 then car.stopCar
  else car.stopCar.setCarStatus .error mp3PathMagFault

/-- `evPathFinished`. -/
def onPathFinished (readings : Readings) (car : AgvCar) : AgvCar :=
  let car := car.stopCar.setCarStatus .normal mp3Normal
  let car := { car with router := car.router.reloadPathList readings.fileOpens }
  if readings.isAutoLoop then car.sendEvent .evKeyStart 0 else car

/-- `HandleEvent`.  Events without a case, and those that only reach devices that are
not modelled, change nothing. -/
def handleEvent (readings : Readings) (evt : AgvEvent) (car : AgvCar) : Option AgvCar :=
  match evt.event with
  | .ev10msTimer => some (car.on10msTimer readings)
  | .ev1sTimer => some (car.checkBattery readings).checkInit
  | .evSysReady => some (car.setCarStatus .init 0)
  | .evBattery =>
      match evt.data with
      | .batteryMag vol cap ele =>
          some { car with batteryVoltage := vol, batteryCapacity := cap, carElectricity := ele }
      | _ => none
  | .evNetworkOK =>
      let car := car.clearErrorFlag errorNetWork
      some { car with router := car.router.start readings.fileOpens }
  | .evNetworkError => some (car.onNetworkError readings)
  | .evSchedulerOffline =>
      some (if readings.isStopCarForScheOffLine then car.stopCar else car)
  | .evPosition =>
      let car := car.clearErrorFlag errorPosition
      match evt.data with
      | .position x y angle => some (car.onStationMessage readings x y angle)
      | _ => some car
  | .evLostPosition =>
      some (if car.isInitComplete then
          (car.setErrorFlag errorPosition).setCarStatus .error mp3NavigatorFault
        else car)
  | .evSensorOnline => some (car.clearErrorFlag errorSensorLost)
  | .evSensorOffline => some (car.setErrorFlag errorSensorLost)
  | .evLifterInit => some { car with isLifterInit := true }
  | .evKeyAutoMode => some (car.onKeyAutoMode readings)
  | .evKeyManualMode => some car.onKeyManualMode
  | .evKeyStart | .evApplyPath =>
      if car.operateMode = .autoMode then car.startRun readings else some car
  | .evKeyStop => some (if car.operateMode = .autoMode then car.stopCar else car)
  | .evTurnOnCharge => some (car.onTurnCharge true evt.param)
  | .evTurnOffCharge => some (car.onTurnCharge false evt.param)
  | .evGetNewPath => some (if evt.data = .null then car else car.onGetNewPath readings)
  | .evNextPathPoint => car.onArrivedStation readings
  | .evPathMagError => some (car.onPathMagError evt.param)
  | .evPathFinished => some (car.onPathFinished readings)
  | .evLiftArrived => car.onLiftArrivedHeight readings
  | .evNearBarrier | .evMidBarrier | .evFarBarrier | .evBarrierTouched | .evBarrierOk =>
      some (if car.operateMode = .autoMode then
          car.onBarrierMessage readings evt.event evt.param
        else car)
  | .evUrgentStop => some (car.setCarStatus .error mp3Urgent)
  | .evSetSpeed => some { car with speedFormServer := evt.param }
  | _ => some car

/-! ## The other threads -/

/-- One turn of `CAgvCarControler::Run` up to the end of `LoopRunning` or to the wait
before an arrival is queued. -/
def loop (ret : Int) (car : AgvCar) : AgvCar :=
  if car.controler.operateMode = .autoMode then
    let looped := car.controler.moveHelper.loopRunning ret
    let car := { car with controler := { car.controler with moveHelper := looped.1 } }
    match looped.2 with
    | none => car
    | some errorCode => car.sendImportantEvent .evPathMagError errorCode
  else car

/-- The arrival is queued. -/
def finishTarget (car : AgvCar) : AgvCar :=
  let finished := car.controler.moveHelper.finishTarget
  { car with controler := { car.controler with moveHelper := finished.1 } }.sendImportantEvent
    .evNextPathPoint finished.2

/-- A status frame of the lifter. -/
def onLifterStatus (height : UInt16) (lstatus : UInt8) (car : AgvCar) : AgvCar :=
  let parsed := car.controler.lifter.parseStatus height lstatus car.events
  { car with controler := { car.controler with lifter := parsed.1 }, events := parsed.2 }

end AgvCar

/-! ## Steps -/

/-- What happens next in the program. -/
inductive CarStep where
  /-- `HandleEvent` is called. -/
  | handle (evt : AgvEvent) (readings : Readings)
  /-- Another thread queues an event. -/
  | post (evt : AgvEvent)
  /-- The motion thread takes a turn with what the motion returns. -/
  | loop (ret : Int)
  /-- The motion thread queues the arrival it is waiting to queue. -/
  | arrive
  /-- The motion thread stops a car that rolls without a target. -/
  | halt
  /-- The lifter reports. -/
  | lifter (height : UInt16) (lstatus : UInt8)

/-- Whether a step is one of the main loop. -/
def CarStep.isHandle : CarStep → Bool
  | .handle _ _ => true
  | _ => false

/-- The events that another thread may queue in its step. -/
def CarStep.queues (event : EventList) : CarStep → Bool
  | .handle _ _ => false
  | .post evt => evt.event == event
  | .loop _ => event == .evPathMagError
  | .arrive => event == .evNextPathPoint
  | .halt => false
  | .lifter _ _ => event == .evLiftArrived || event == .evLiftAtBottom

/-- One step of the program.  `HandleEvent` is called with any event here: which
events are queued when is left open. -/
def carStep : StepFn AgvCar CarStep
  | .handle evt readings, car => car.handleEvent readings evt
  | .post evt, car => some { car with events := car.events.pushEvent evt }
  | .loop ret, car =>
      if car.controler.moveHelper.arriving then none else some (car.loop ret)
  | .arrive, car =>
      if car.controler.moveHelper.arriving then some car.finishTarget else none
  | .halt, car =>
      if car.controler.moveHelper.getRunningMode = stopMode ∧
          !car.controler.moveHelper.arriving then
        some { car with controler := car.controler.stopCar }
      else none
  | .lifter height lstatus, car => some (car.onLifterStatus height lstatus)

/-! ## Sample runs -/

/-- A station that is driven to forward, without a lift height. -/
def stationAhead (id : UInt16) (action : UInt8) : StationInfo where
  id
  xPos := 0
  yPos := 0
  pathAngle := 0
  turnRadius := 0
  mode := 1
  action
  liftHeight := 0xFFFF

/-- The car enters automatic mode, and a path is received and started. -/
def departure (stations : List StationInfo) : List CarStep :=
  [.handle { event := .evKeyAutoMode } {},
    .handle { event := .evGetNewPath, data := .stationList } { stationList := stations },
    .handle { event := .evApplyPath } {}]

end DrivingControl.Controler

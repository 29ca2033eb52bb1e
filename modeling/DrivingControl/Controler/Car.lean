import DrivingControl.Controler.CarControler

/-!
# The car

`CAgvCar` is the listener of the main loop: `HandleEvent` changes its status, gives
targets to the move helper and performs the actions of the way points.

A handler is a function of the car and of what it reads elsewhere, which is one
record for each event.  Dereferencing the null pointer of a missing target ends the
program and is `none`.  Commands to voice, lights, display, barrier sensor and the
drive's enable are not kept, nor is what is only logged.
-/

namespace DrivingControl.Controler

open DrivingControl.Comm DrivingControl.Event

/-! ## Data -/

/-- `CarStatus`. -/
inductive CarStatus where
  | init | normal | running | stopped | turningLeft | turningRight | error | warning
  | updateFirmware | lowPower
  deriving DecidableEq, Repr

/-- The flags of `CarError` that are used. -/
def errorNetWork : Nat := 2
def errorIrNear : Nat := 8
def errorIrMid : Nat := 9
def errorIrFar : Nat := 10
def errorTouch1 : Nat := 14
def errorSensorLost : Nat := 18
def errorPosition : Nat := 21

/-- The statuses of `CAgvScheduler` that the car reports. -/
inductive ReportedStatus where
  | running | stopped | breakDown | obstacle | derailed | manualMode | lowPower | starting
  | idle
  deriving DecidableEq, Repr

/-- The value that is sent to the server. -/
def ReportedStatus.value : ReportedStatus → Int
  | running => 0x00
  | stopped => 0x01
  | breakDown => 0x02
  | obstacle => 0x03
  | derailed => 0x04
  | manualMode => 0x08
  | lowPower => 0x09
  | starting => 0x0A
  | idle => 0x0B

/-- The voices that are passed to `SetCarStatus`. -/
def mp3Mute : Int := 0
def mp3Normal : Int := 3
def mp3BatteryLow : Int := 4
def mp3Near : Int := 5
def mp3Far : Int := 6
def mp3Mid : Int := 7
def mp3Urgent : Int := 8
def mp3NavigatorFault : Int := 18
def mp3Touch : Int := 24
def mp3PathMagFault : Int := 27

/-- `CarInfo`. -/
structure CarInfo where
  xPos : Int := 0
  yPos : Int := 0
  angle : Int := 0
  speed : Int := 0
  status : CarStatus := .normal
  error : BitVec 32 := 0
  voice : Int := 0
  deriving DecidableEq, Repr

/-- `CAgvCar`, with the queue it sends events to and the static variables of its
methods. -/
structure AgvCar where
  carInfo : CarInfo := {}
  lastCarInfo : CarInfo := {}
  controler : CarControler := {}
  router : RoutePlanner := {}
  events : EventHelper := {}
  batteryVoltage : Int := 0
  batteryCapacity : Int := 0
  carElectricity : Int := 0
  speedFormServer : Int := 0
  operateMode : OperateMode := .noKownMode
  reportStatus : ReportedStatus := .starting
  currentPathAction : Int := 0
  currentPathId : Int := 0
  carRunMode : Int := 0
  stopButton : Bool := true
  /-- `lastEvent` of `OnBarrierMessage`. -/
  lastEvent : EventList := .evBarrierOk
  /-- `fristSetStatus` of `SetCarStatus`. -/
  fristSetStatus : Bool := true
  isInitComplete : Bool := false
  isLifterInit : Bool := false
  lowBatteryAlarmTimes : Int := 0
  /-- The actions performed so far with the index of their way point, oldest first.
  Nothing reads them. -/
  performed : List (Int × Int) := []

/-- What a handler reads that is not part of the car: settings, sensors, the
scheduler's station list, and what computations on poses give. -/
structure Readings where
  /-- `GetLaserStuta`; 0 is no barrier. -/
  laserStuta : Int := 0
  /-- The comparison of two poses in `GetRunAction`. -/
  nearlySameLine : WayPoint → WayPoint → Bool := fun _ _ => false
  /-- The comparison of two poses in `WhetherJumpCurPoint`. -/
  sameStraightLine : WayPoint → WayPoint → Bool := fun _ _ => false
  /-- How a target is split from the present pose. -/
  split : PathMag → Split := fun target => ⟨0, [target.mode]⟩
  fileOpens : Bool := true
  stationList : List StationInfo := []
  alarmVoltage : Int := 0
  forwardSpeed : Int := 0
  backwardSpeed : Int := 0
  isStopCarForScheOffLine : Bool := false
  /-- The scheduler runs and is connected. -/
  isConnected : Bool := false
  isAutoLoop : Bool := false
  /-- The result of `IsLostPosition`. -/
  lostPosition : Int := 0
  /-- The speed that `OnStationMessage` computes from the drive. -/
  carSpeed : Int := 0

namespace AgvCar

/-! ## Events and flags -/

def sendEvent (event : EventList) (param : Int) (car : AgvCar) : AgvCar :=
  { car with events := car.events.sendEvent event param }

def sendImportantEvent (event : EventList) (param : Int) (car : AgvCar) : AgvCar :=
  { car with events := car.events.sendImportantEvent event param }

def sendUrgentEvent (event : EventList) (param : Int) (car : AgvCar) : AgvCar :=
  { car with events := car.events.sendUrgentEvent event param }

/-- `IsHaveError`. -/
def isHaveError (flag : Nat) (car : AgvCar) : Bool :=
  car.carInfo.error &&& (1#32 <<< flag) != 0

/-- `SetErrorFlag`. -/
def setErrorFlag (flag : Nat) (car : AgvCar) : AgvCar :=
  { car with carInfo := { car.carInfo with error := car.carInfo.error ||| (1#32 <<< flag) } }

/-- `ClearErrorFlag`. -/
def clearErrorFlag (flag : Nat) (car : AgvCar) : AgvCar :=
  { car with
    carInfo := { car.carInfo with error := car.carInfo.error &&& ~~~(1#32 <<< flag) } }

/-! ## Status -/

/-- Whether `SetCarStatus` acts on a status, which it does not if it is the present
one and not one of four. -/
def actsOn (status : CarStatus) (car : AgvCar) : Bool :=
  status == .init || status == .error || status == .lowPower ||
    status != car.carInfo.status || status == .running

/-- What entering a status does to the devices. -/
def statusControler (status : CarStatus) (controler : CarControler) : CarControler :=
  match status with
  | .stopped => controler.stopCar
  | .error => controler.stopCar
  | _ => controler

/-- The report of `StatusError`. -/
def errorReport (para : Int) (car : AgvCar) : ReportedStatus :=
  if car.isHaveError errorPosition then .breakDown
  else if para = mp3PathMagFault then .derailed
  else if car.isHaveError errorIrNear || (List.range 4).any (fun i =>
      car.isHaveError (errorTouch1 + i)) then .obstacle
  else if para > 0 then .breakDown
  else car.reportStatus

/-- What entering a status reports. -/
def statusReport (status : CarStatus) (para : Int) (car : AgvCar) : ReportedStatus :=
  match status with
  | .init => .idle
  | .normal => .idle
  | .running => .running
  | .stopped => .stopped
  | .updateFirmware => .stopped
  | .error => car.errorReport para
  | .lowPower =>
      if car.reportStatus = .obstacle ∨ car.reportStatus = .breakDown then car.reportStatus
      else .lowPower
  | _ => car.reportStatus

/-- The report that `SetCarStatus` ends with. -/
def finalReport (status : CarStatus) (para : Int) (car : AgvCar) : ReportedStatus :=
  if car.operateMode = .manualMode then .manualMode
  else if car.fristSetStatus && !(status == .init) then .starting
  else if car.actsOn status then car.statusReport status para
  else car.reportStatus

/-- Whether `SetCarStatus` keeps a status for the end of a barrier. -/
def isKept : CarStatus → Bool
  | .error | .warning | .init => false
  | _ => true

/-- `SetCarStatus`. -/
def setCarStatus (status : CarStatus) (para : Int) (car : AgvCar) : AgvCar :=
  let report := car.finalReport status para
  { car with
    controler := if car.actsOn status then statusControler status car.controler
      else car.controler
    fristSetStatus := car.fristSetStatus && !(status == .init)
    lastCarInfo := if isKept status then
        { car.lastCarInfo with status := status, voice := para }
      else car.lastCarInfo
    carInfo := { car.carInfo with status := status }
    reportStatus := report
    router := car.router.updateCarInfo car.carInfo.xPos car.carInfo.yPos car.carInfo.angle
      car.carInfo.speed car.batteryCapacity report.value }

/-- `StopCar`. -/
def stopCar (car : AgvCar) : AgvCar :=
  { car with stopButton := true }.setCarStatus .stopped mp3Mute

end AgvCar

end DrivingControl.Controler

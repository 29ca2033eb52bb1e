import DrivingControl.Controler.MoveHelper
import DrivingControl.Event.EventHelper

/-!
# The car's devices

`CAgvCarControler` stands between the car and its devices.  Of the devices the model
keeps the move helper, the lifter and the charge switch; voice, lights and display
only receive what the car sends them.
-/

namespace DrivingControl.Controler

open DrivingControl.Event

/-- The operating modes. -/
inductive OperateMode where
  | noKownMode | autoMode | manualMode
  deriving DecidableEq, Repr

/-! ## The lifter -/

/-- A command to the lifter. -/
inductive LiftCommand where
  | up (height : Int)
  | down
  | init
  deriving DecidableEq, Repr

/-- `CAgvLifter` and the commands it was sent, oldest first. -/
structure Lifter where
  /-- `LiftStatus`: -1 unknown, 0 moving, 1 at the bottom, 2 at the top. -/
  liftStatus : Int := -1
  currentHeight : Int := 0
  targetHeight : Int := -1
  commands : List LiftCommand := []
  deriving DecidableEq, Repr

namespace Lifter

/-- The height that `LiftIsArrived` compares with. -/
def plausibleHeight (lifter : Lifter) : Int :=
  if lifter.currentHeight > 60000 then 0 else lifter.currentHeight

/-- The result of `LiftIsArrived`. -/
def isArrived (height : Int) (lifter : Lifter) : Bool :=
  (height - lifter.plausibleHeight).natAbs < 50

/-- `LiftIsArrived`, which also corrects the height. -/
def liftIsArrived (height : Int) (lifter : Lifter) : Lifter × Bool :=
  ({ lifter with currentHeight := lifter.plausibleHeight }, lifter.isArrived height)

/-- Send a command. -/
def send (command : LiftCommand) (lifter : Lifter) : Lifter :=
  { lifter with commands := lifter.commands ++ [command] }

/-- `CAgvCar::SetLiftHeight`: other heights send nothing. -/
def setLiftHeight (height : Int) (lifter : Lifter) : Lifter :=
  if 0 < height ∧ height < 3000 then lifter.send (.up height)
  else if height = 0 then lifter.send .down
  else lifter

/-- The height of a status frame: a new height near the target is an arrival. -/
def noteHeight (height : Int) (lifter : Lifter) (events : EventHelper) : Lifter × EventHelper :=
  if height = lifter.currentHeight then (lifter, events)
  else
    let lifter := { lifter with currentHeight := height }
    if lifter.targetHeight ≥ 0 then
      let checked := lifter.liftIsArrived lifter.targetHeight
      (checked.1,
        if checked.2 then events.sendEvent .evLiftArrived lifter.targetHeight else events)
    else (lifter, events)

/-- The limit switches of a status frame. -/
def noteStatus (lstatus : Int) (lifter : Lifter) (events : EventHelper) : Lifter × EventHelper :=
  if lstatus = 1 ∧ lifter.liftStatus ≠ 1 then
    ({ lifter with liftStatus := 1 }, events.sendEvent .evLiftAtBottom lifter.targetHeight)
  else if lstatus = 2 ∧ lifter.liftStatus ≠ 2 then
    ({ lifter with liftStatus := 2 }, events.sendEvent .evLiftArrived lifter.targetHeight)
  else if lstatus ≠ 1 ∧ lstatus ≠ 2 then ({ lifter with liftStatus := 0 }, events)
  else (lifter, events)

/-- `CAgvLifter::ParseCanData` for a status frame of sufficient length. -/
def parseStatus (height : UInt16) (lstatus : UInt8) (lifter : Lifter) (events : EventHelper) :
    Lifter × EventHelper :=
  let noted := lifter.noteHeight height.toNat events
  noted.1.noteStatus lstatus.toNat noted.2

end Lifter

/-! ## The controller -/

/-- One call of `SetTarget`. -/
structure Issued where
  target : PathMag
  /-- Whether the charge switch was on. -/
  charging : Bool
  /-- Whether it was sent from `lastPathMag`. -/
  resumed : Bool
  accepted : Bool
  deriving DecidableEq, Repr

/-- `CAgvCarControler`. -/
structure CarControler where
  moveHelper : MoveHelper := {}
  lifter : Lifter := {}
  operateMode : OperateMode := .noKownMode
  lastLiftHeight : Int := 0
  lastPathMag : PathMag := {}
  /-- The argument of the last `SetChargeSwitch`. -/
  chargeSwitch : Bool := false
  /-- The calls of `SetTarget` so far, oldest first.  Nothing reads them. -/
  issued : List Issued := []
  deriving DecidableEq, Repr

namespace CarControler

/-- `StopCar`.  The drive commands it sends are those of the base controller. -/
def stopCar (controler : CarControler) : CarControler :=
  { controler with
    lastLiftHeight := controler.lifter.currentHeight
    moveHelper := controler.moveHelper.clearTarget }

/-- `SetTargetHeight`. -/
def setTargetHeight (height : Int) (controler : CarControler) : CarControler :=
  { controler with lifter := { controler.lifter with targetHeight := height } }

/-- `SetChargeSwitch`. -/
def setChargeSwitch (on : Bool) (controler : CarControler) : CarControler :=
  { controler with chargeSwitch := on }

/-- `CompareSourcePathMag`, whose body `UpAndRunFlag` leaves out. -/
def compareSourcePathMag (_id _action _high : Int) (_controler : CarControler) : Bool := false

/-- A call of the move helper's `SetTarget` and the error code of a rejected one. -/
def issue (split : PathMag → Split) (target : PathMag) (resumed : Bool)
    (controler : CarControler) : CarControler × Option Int :=
  let result := controler.moveHelper.setTarget split target
  ({ controler with
      moveHelper := result.1
      issued := controler.issued ++
        [⟨target, controler.chargeSwitch, resumed, result.2.isNone⟩] }, result.2)

/-- `SetTargetStation`. -/
def setTargetStation (split : PathMag → Split) (target : PathMag) (controler : CarControler) :
    CarControler × Option Int :=
  issue split target false { controler with lastPathMag := target }

/-- `ResetLastTargetStation`, which passes the action for the lift height too.  Without
a saved station it sends nothing. -/
def resetLastTargetStation (split : PathMag → Split) (controler : CarControler) :
    CarControler × Option Int :=
  if controler.lastPathMag.station = 0 then (controler, none)
  else
    issue split { controler.lastPathMag with liftHeight := controler.lastPathMag.action } true
      controler

end CarControler

end DrivingControl.Controler

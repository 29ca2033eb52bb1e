import DrivingControl.Controler.Rotation
import DrivingControl.Controler.WheelControl

/-!
# Driving along lines and arcs

The four functions that drive the car to the end of a segment.  Each has static variables of
its own, of the same kind, and all use the members that `LineDrive` lists, the angular speed
of the segment and the last output of `wheelControl`.

`ForwardToArc` and `BackwardToArc` are one function with five parameters.  The pose is that of
the tail of the car in the coordinates of the target.  An iteration has no result when it
computes no number: a division by zero, or zero times infinity.
-/

namespace DrivingControl.Controler

open DrivingControl.Library DrivingControl.Utils

/-- What the functions keep. -/
structure Drive extends LineDrive where
  baseAngularSpeed : ℚ := 0
  /-- `lastoutput`. -/
  lastOutput : ℚ := 0
  circle : Circle := {}
  pathDirection : PathDirection := .anticlockwise
  deriving DecidableEq, Repr

/-- The settings that an iteration reads. -/
structure DriveSettings extends LineSettings where
  /-- `DELAY_ARC_DISTANCE_OFFSET`. -/
  delayArcDistanceOffset : Int
  wheelBase : Int
  /-- `STANDARD_RADIUS`. -/
  standardRadius : Int
  deriving DecidableEq, Repr

/-- What an iteration reads from outside. -/
structure DriveInput where
  pose : Pose
  /-- `s_Controler->speed`, the two bytes of a report. -/
  speed : UInt16
  /-- `SetDirection`, `SetBreak` and `SetCarSpeed` return 0. -/
  ready : Bool := true
  deriving DecidableEq, Repr

/-- What the motion sends to its controllers. -/
inductive MotionCommand where
  | setDirection (direction : Int)
  | setBreak (applied : Bool)
  | setCarSpeed (linearSpeed : Int) (angularSpeed : ℚ)
  | stopCar (enbraker : Bool)
  | rotate (command : RotateCommand)
  deriving DecidableEq, Repr

/-- An iteration: what it leaves, what it returns, and what it sends. -/
structure DriveIteration where
  drive : Drive
  ret : Int := 0
  sent : List MotionCommand := []
  deriving DecidableEq, Repr

/-- The input of a line drive for an angular speed. -/
def DriveInput.toLineInput (input : DriveInput) (angularSpeed : ℚ) : LineInput where
  pose := input.pose
  speed := input.speed.toNat
  angularSpeed
  ready := input.ready

/-- The commands of a first iteration. -/
def startCommands (direction speed : Int) (angularSpeed : ℚ) : List MotionCommand :=
  [.setDirection direction, .setBreak false, .setCarSpeed speed angularSpeed]

namespace Direction

/-- The argument of `SetDirection`. -/
def code : Direction → Int
  | forward => 0
  | backward => 1

end Direction

namespace Drive

variable (settings : DriveSettings) (library : MathLibrary) (input : DriveInput) (drive : Drive)

/-! ## Speed and steering -/

/-- `ManageWheelSpeed`, with the angular speed of the segment. -/
def manageWheelSpeed : Option Drive :=
  if drive.SameDirection then
    if drive.currentLinearSpeed = 0 then none
    else some { drive with
      toLineDrive := drive.toLineDrive.manageWheelSpeed
      baseAngularSpeed :=
        drive.baseAngularSpeed * ((drive.managedSpeed : ℚ) / drive.currentLinearSpeed) }
  else some drive

/-- The part of `wheelControl` that steers. -/
def steer (distance : Int) (carAngle : ℚ) : Option Drive :=
  if DeadZone distance carAngle then
    some { drive with currentAngularSpeed := drive.baseAngularSpeed }
  else if drive.currentLinearSpeed = 0 then none
  else
    let output := wheelOutput library drive.currentLinearSpeed distance carAngle
    some { drive with
      lastOutput := output
      currentAngularSpeed := correctedSpeed (gains drive.runningMode drive.action)
        drive.currentLinearSpeed drive.baseAngularSpeed drive.lastOutput output }

/-- `wheelControl`. -/
def wheelControl (distance : Int) (carAngle : ℚ) : Option DriveIteration :=
  (drive.steer library distance carAngle).map fun steered =>
    let controlled := steered.toLineDrive.wheelControl steered.currentAngularSpeed
    { drive := { steered with toLineDrive := controlled.drive }
      sent := controlled.sent.toList.map (MotionCommand.setCarSpeed · steered.currentAngularSpeed) }

/-- The two wheels are controlled. -/
def control (distance : Int) (carAngle : ℚ) : Option DriveIteration :=
  drive.manageWheelSpeed.bind fun managed =>
    (managed.wheelControl library distance carAngle).map fun controlled =>
      { controlled with drive := { controlled.drive with lastPose := input.pose } }

/-- The two wheels are controlled when the control period has come. -/
def controlWhen (due : Prop) [Decidable due] (distance : Int) (carAngle : ℚ) :
    Option DriveIteration :=
  if due then drive.control library input distance carAngle else some { drive }

/-- The end of a first iteration.  If a command fails, the next iteration is the first one. -/
def started (next : Drive) : Drive :=
  if input.ready then next else { drive with initParaFlag := false }

/-! ## `ForwardToLine` -/

/-- Its first iteration. -/
def startForwardLine : DriveIteration :=
  let first := drive.toLineDrive.start (input.toLineInput 0)
  { drive := { drive with
      toLineDrive := first.drive
      baseAngularSpeed := if first.sent.isSome then 0 else drive.baseAngularSpeed }
    ret := first.ret
    sent := first.sent.toList.flatMap (startCommands 0 · 0) }

/-- `ForwardToLine`. -/
def forwardToLine : Option DriveIteration :=
  if drive.initParaFlag = false then some (drive.startForwardLine input)
  else if input.pose.xPos ≥ -drive.finalDelayDistance settings.toLineSettings input.speed.toNat then
    some { drive := { drive with toLineDrive := drive.arrive }, ret := 1 }
  else
    ((drive.approach settings.toLineSettings input.pose.xPos).adjust
        (input.toLineInput 0)).bind fun adjusted =>
      { drive with toLineDrive := adjusted }.controlWhen library input
        (distanceBetweenPose input.pose adjusted.lastPose >
          ((10 * adjusted.currentLinearSpeed).tdiv 100).tdiv 2)
        input.pose.yPos (getAngleDiff input.pose.angle 0)

/-! ## `BackwardToLine` -/

/-- Its first iteration.  The target must lie behind. -/
def startBackwardLine : DriveIteration :=
  if input.pose.xPos ≤ 0 then { drive, ret := -1 }
  else
    let prepared := { drive with
      currentLinearSpeed := -150
      targetSpeed := -450
      aspeed := 50
      dspeed := 50
      mode := .lowSpeedMode
      baseAngularSpeed := 0
      currentAngularSpeed := 0 }
    { drive := prepared.started input { prepared with
        lastAngularSpeed := 0
        lastLinearSpeed := -150
        arrivingFlag := false
        initParaFlag := true }
      sent := startCommands 1 (-150) 0 }

/-- The distance at which the target counts as reached. -/
def backwardDelayDistance (speed : Int) : Int :=
  if drive.action = actionLiftUpDown then
    if |drive.currentLinearSpeed| < 65 then (absSpeed speed * settings.kDistance).tdiv 100
    else 40
  else
    let delay := |settings.delayDistanceOffset * absSpeed speed| / 100
    if delay > 2 * settings.delayDistanceOffset then 2 * settings.delayDistanceOffset else delay

/-- The branch just before the target. -/
def approachBackward (xPos : Int) : Drive :=
  if xPos ≤ 500 ∧ drive.action = actionLiftUpDown then
    { drive with toLineDrive := drive.crawl (-(|xPos| / 5 + settings.speedFinalFinal)) }
  else drive

/-- The target speed near the target. -/
def slowBackward (xPos : Int) : Drive :=
  if drive.arrivingFlag = false ∧ xPos ≤ 2200 then
    { drive with
      targetSpeed := -200
      aspeed := 15
      dspeed := 15
      arrivingFlag := true
      mode := .lowSpeedMode }
  else drive

/-- `BackwardToLine`. -/
def backwardToLine : Option DriveIteration :=
  if drive.initParaFlag = false then some (drive.startBackwardLine input)
  else if input.pose.xPos ≤ drive.backwardDelayDistance settings input.speed.toNat then
    some {
      drive := { drive with toLineDrive := drive.arrive }
      ret := 1
      sent := if drive.action = actionLiftUpDown then [.stopCar true] else [] }
  else
    let slowed := (drive.approachBackward settings input.pose.xPos).slowBackward input.pose.xPos
    slowed.controlWhen library input
      (distanceBetweenPose input.pose slowed.lastPose >
        ((10 * |slowed.currentLinearSpeed|).tdiv 100).tdiv 2)
      (-input.pose.yPos) (getAngleDiff input.pose.angle 0)

end Drive

/-! ## `ForwardToArc` and `BackwardToArc` -/

/-- What the functions for arcs differ in. -/
structure ArcFunction where
  direction : Direction
  /-- The factor of `calAspeed`. -/
  times : Int
  /-- The car is almost near the station. -/
  near : DriveSettings → LineDrive → Int → Bool
  /-- The deceleration from there on. -/
  dspeed : LineDrive → Int
  /-- The control period, in millimetres. -/
  period : LineDrive → Int

def forwardArc : ArcFunction where
  direction := .forward
  times := 2
  near settings drive xPos :=
    xPos > -((settings.standardRadius.tdiv 200 * drive.currentLinearSpeed).tdiv 100 * 30) &&
      xPos > -600
  dspeed drive := (drive.calDspeed * 14).tdiv 10
  period drive := (10 * drive.currentLinearSpeed).tdiv 100

def backwardArc : ArcFunction where
  direction := .backward
  times := 1
  near settings drive xPos :=
    xPos < (settings.standardRadius.tdiv 200 * |drive.currentLinearSpeed|).tdiv 100 * 30
  dspeed drive :=
    if drive.action = actionCharge ∨ drive.action = actionLiftUpDown then drive.calDspeed
    else drive.calDspeed.tdiv 2
  period drive := (10 * |drive.currentLinearSpeed|).tdiv 100

/-- The way around a circle on which the target is reached in a direction. -/
def arcPathDirection (direction : Direction) (circle : Circle) (pose : Pose) : PathDirection :=
  let side := direction.way.sign * circle.center.y
  if (circle.center.x > pose.xPos ∧ side < 0) ∨ (circle.center.x < pose.xPos ∧ side > 0) then
    .clockwise
  else .anticlockwise

/-- The radius on which the steered wheel runs. -/
def wheelRadius (settings : DriveSettings) (library : MathLibrary) (circle : Circle) : Int :=
  truncate (library.sqrt (circle.radius * circle.radius + settings.wheelBase * settings.wheelBase))

/-- An angular speed that is positive to the left, for a speed that is positive forward. -/
def PathDirection.turn : PathDirection → ℚ
  | clockwise => -1
  | anticlockwise => 1

namespace Drive

variable (settings : DriveSettings) (library : MathLibrary) (function : ArcFunction)
  (input : DriveInput) (drive : Drive)

/-- The circle of a segment, and the way around it. -/
def takeCircle : Drive :=
  let circle := getCircleCenter library input.pose ⟨0, 0, 0⟩
  { drive with circle, pathDirection := arcPathDirection function.direction circle input.pose }

/-- The speeds at the start of an arc. -/
def arcSpeeds (radius : Int) : Drive :=
  let sign := function.direction.way.sign
  let moved := { drive with currentLinearSpeed := sign * 150, targetSpeed := sign * 500 }
  let baseAngularSpeed := drive.pathDirection.turn * (((sign * 150 : Int) : ℚ) / radius)
  { moved with
    aspeed := moved.calAspeed * function.times
    baseAngularSpeed
    currentAngularSpeed := baseAngularSpeed }

/-- The first iteration.  The target must lie ahead in the direction of the drive. -/
def startArc : Option DriveIteration :=
  if function.direction.way.sign * input.pose.xPos ≥ 0 then some { drive, ret := -1 }
  else
    let taken := drive.takeCircle library function input
    let radius := wheelRadius settings library taken.circle
    if radius = 0 then none
    else
      let prepared := taken.arcSpeeds function radius
      some {
        drive := prepared.started input { prepared with
          lastAngularSpeed := prepared.baseAngularSpeed
          lastPose := input.pose
          arrivingFlag := false
          initParaFlag := true }
        sent := startCommands function.direction.code prepared.currentLinearSpeed
          prepared.currentAngularSpeed }

/-- The slowing down before the end of the arc. -/
def slowArc : Drive :=
  if drive.arrivingFlag = false ∧ function.near settings drive.toLineDrive input.pose.xPos then
    let slowed := { drive with targetSpeed := function.direction.way.sign * 150 }
    { slowed with
      dspeed := function.dspeed slowed.toLineDrive
      arrivingFlag := true
      mode := .lowSpeedMode }
  else drive

/-- How far the car is off the circle, to the left of the drive. -/
def arcDistance : Int :=
  let away := truncate (distanceBetweenPoints library input.pose.point drive.circle.center)
  function.direction.way.sign *
    match drive.pathDirection with
    | .clockwise => truncate ((away : ℚ) - drive.circle.radius)
    | .anticlockwise => truncate (drive.circle.radius - away)

/-- The distance at which the end of an arc counts as reached. -/
def arcDelayDistance (speed : Int) : Int :=
  let delay := |settings.delayDistanceOffset * absSpeed speed| / 100
  if delay > 2 * settings.delayArcDistanceOffset then 2 * settings.delayDistanceOffset else delay

/-- The end of an arc. -/
def arriveArc : Drive :=
  { drive with
    lastPose := ⟨0, 0, 0⟩
    circle := {}
    arrivingFlag := false
    runningMode := stopMode
    mode := .lowSpeedMode
    initParaFlag := false }

/-- The other iterations.  The end is looked for behind the control. -/
def followArc : Option DriveIteration :=
  let slowed := drive.slowArc settings function input
  (slowed.controlWhen library input
      (distanceBetweenPose input.pose slowed.lastPose > function.period slowed.toLineDrive ∨
        |input.pose.angle - slowed.lastPose.angle| > 1)
      (slowed.arcDistance library function input)
      (getRotateAngle library input.pose slowed.circle.center slowed.pathDirection)).map
    fun controlled =>
      if function.direction.way.sign * input.pose.xPos ≥
          -arcDelayDistance settings input.speed.toNat then
        { controlled with drive := controlled.drive.arriveArc, ret := 1 }
      else controlled

/-- The body that both functions share. -/
def runArc : Option DriveIteration :=
  if drive.initParaFlag = false then drive.startArc settings library function input
  else drive.followArc settings library function input

/-- `ForwardToArc`. -/
def forwardToArc : Option DriveIteration := drive.runArc settings library forwardArc input

/-- `BackwardToArc`. -/
def backwardToArc : Option DriveIteration := drive.runArc settings library backwardArc input

end Drive

end DrivingControl.Controler

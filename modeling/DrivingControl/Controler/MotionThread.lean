import DrivingControl.Controler.DriveSpeeds
import DrivingControl.Controler.ForkliftTargets

/-!
# The motion thread

`LoopRunning` with all that it drives: the four drives, the two rotations, the next segment
and the arrival.  The functions share the members of `CAgvMoveHelperForklift`, and each keeps
static variables of its own; a call reads the members and its variables and writes them back.

A turn of the loop reads the pose of the car twice, the second time behind the end of a
segment.  The pose of the tail in the coordinates of the target is an input of the turn.
-/

namespace DrivingControl.Controler

open DrivingControl.Library

/-- The functions that drive. -/
inductive DriveFunction where
  | forwardToLine
  | backwardToLine
  | forwardToArc
  | backwardToArc
  deriving DecidableEq, Repr

/-- The static variables of such a function. -/
structure DriveStatics where
  mode : RunMode := .lowSpeedMode
  lastPose : Pose := ⟨0, 0, 0⟩
  arrivingFlag : Bool := false
  savedTargetSpeed : Int := 0
  circle : Circle := {}
  pathDirection : PathDirection := .anticlockwise
  deriving DecidableEq, Repr

/-- The members for the wheels. -/
structure WheelMembers where
  currentLinearSpeed : Int := 0
  currentAngularSpeed : ℚ := 0
  baseAngularSpeed : ℚ := 0
  aspeed : Int := 0
  dspeed : Int := 0
  lastLinearSpeed : Int := 0
  lastAngularSpeed : ℚ := 0
  barrierStatus : Int := 0
  /-- `lastStaus` of `SetBarrierStatus`. -/
  lastStatus : Int := 0
  /-- `lastoutput` of `wheelControl`. -/
  lastOutput : ℚ := 0
  deriving DecidableEq, Repr

/-- The members and static variables of the rotations. -/
structure RotationMembers where
  turningSpeed : Int := 0
  turningArriveSpeed : Int := 0
  left : Integration := {}
  right : Integration := {}
  /-- `lastAngle` of `ChangeRotateSpeedByAngle`. -/
  lastAngle : ℚ := 0
  /-- `deltaSpeed` of `ChangeRotateSpeedByAngle`. -/
  deltaSpeed : Int := 0
  deriving DecidableEq, Repr

/-- `CAgvMoveHelperForklift`. -/
structure MotionThread where
  helper : ForkliftHelper
  wheels : WheelMembers := {}
  statics : DriveFunction → DriveStatics := fun _ => {}
  rotations : RotationMembers := {}

/-- The settings that the motion reads; `STANDARD_RADIUS` is a member. -/
structure MotionSettings extends LineSettings where
  /-- `DELAY_ARC_DISTANCE_OFFSET`. -/
  delayArcDistanceOffset : Int
  wheelBase : Int
  /-- `DELAY_ANGLE_OFFSET`. -/
  delayAngleOffset : ℚ
  deriving DecidableEq, Repr

/-- What a turn of the loop reads from outside. -/
structure TurnInput where
  /-- `GetCurrentPose`. -/
  pose : Pose
  /-- The pose of the tail in the coordinates of the target. -/
  relative : Pose
  /-- `s_Controler->speed`. -/
  speed : UInt16
  /-- The first commands of a segment pass. -/
  ready : Bool := true
  /-- `GetCurrentPose` behind the end of a segment. -/
  poseAfter : Pose := pose
  deriving DecidableEq, Repr

/-- What the motion queues with `SendImportantEvent`. -/
inductive MotionEvent where
  | evNextPathPoint (station : Int)
  | evPathMagError (errorCode : Int)
  deriving DecidableEq, Repr

/-- What a motion leaves, what it returns, and what it sends. -/
structure MotionResult where
  thread : MotionThread
  ret : Int := 0
  sent : List MotionCommand := []

/-- A turn: what it leaves, what it sends, and what it queues. -/
structure Turn where
  thread : MotionThread
  sent : List MotionCommand := []
  events : List MotionEvent := []

def TurnInput.toDriveInput (input : TurnInput) : DriveInput :=
  ⟨input.relative, input.speed, input.ready⟩

def TurnInput.toRotateInput (input : TurnInput) : RotateInput := ⟨input.pose.angle, input.ready⟩

namespace DriveFunction

/-- The function for a run mode. -/
def ofMode (runningMode : Int) : Option DriveFunction :=
  if runningMode = goForwardMode then some forwardToLine
  else if runningMode = goBackwardMode then some backwardToLine
  else if runningMode = forwardToArcMode then some forwardToArc
  else if runningMode = backwardToArcMode then some backwardToArc
  else none

def iterate (settings : DriveSettings) (library : MathLibrary) (input : DriveInput)
    (drive : Drive) : DriveFunction → Option DriveIteration
  | forwardToLine => drive.forwardToLine settings library input
  | backwardToLine => drive.backwardToLine settings library input
  | forwardToArc => drive.forwardToArc settings library input
  | backwardToArc => drive.backwardToArc settings library input

end DriveFunction

namespace MotionThread

variable (settings : MotionSettings) (library : MathLibrary) (input : TurnInput)
  (function : DriveFunction) (thread : MotionThread)

def driveSettings : DriveSettings where
  toLineSettings := settings.toLineSettings
  delayArcDistanceOffset := settings.delayArcDistanceOffset
  wheelBase := settings.wheelBase
  standardRadius := thread.helper.standardRadius

/-! ## The functions on the members -/

/-- What a driving function sees. -/
def toDrive : Drive where
  initParaFlag := thread.helper.initParaFlag
  isChangeSpeedInit := thread.helper.isChangeSpeedInit
  runningMode := thread.helper.runningMode
  action := thread.helper.targetPoint.action
  targetSpeed := thread.helper.targetSpeed
  currentLinearSpeed := thread.wheels.currentLinearSpeed
  currentAngularSpeed := thread.wheels.currentAngularSpeed
  baseAngularSpeed := thread.wheels.baseAngularSpeed
  aspeed := thread.wheels.aspeed
  dspeed := thread.wheels.dspeed
  lastLinearSpeed := thread.wheels.lastLinearSpeed
  lastAngularSpeed := thread.wheels.lastAngularSpeed
  barrierStatus := thread.wheels.barrierStatus
  lastStatus := thread.wheels.lastStatus
  lastOutput := thread.wheels.lastOutput
  mode := (thread.statics function).mode
  lastPose := (thread.statics function).lastPose
  arrivingFlag := (thread.statics function).arrivingFlag
  savedTargetSpeed := (thread.statics function).savedTargetSpeed
  circle := (thread.statics function).circle
  pathDirection := (thread.statics function).pathDirection

/-- What a driving function leaves. -/
def ofDrive (drive : Drive) : MotionThread where
  helper := { thread.helper with
    initParaFlag := drive.initParaFlag
    isChangeSpeedInit := drive.isChangeSpeedInit
    runningMode := drive.runningMode
    targetSpeed := drive.targetSpeed }
  wheels := {
    currentLinearSpeed := drive.currentLinearSpeed
    currentAngularSpeed := drive.currentAngularSpeed
    baseAngularSpeed := drive.baseAngularSpeed
    aspeed := drive.aspeed
    dspeed := drive.dspeed
    lastLinearSpeed := drive.lastLinearSpeed
    lastAngularSpeed := drive.lastAngularSpeed
    barrierStatus := drive.barrierStatus
    lastStatus := drive.lastStatus
    lastOutput := drive.lastOutput }
  statics := Function.update thread.statics function {
    mode := drive.mode
    lastPose := drive.lastPose
    arrivingFlag := drive.arrivingFlag
    savedTargetSpeed := drive.savedTargetSpeed
    circle := drive.circle
    pathDirection := drive.pathDirection }
  rotations := thread.rotations

/-- What a rotation sees. -/
def toRotation : Rotation where
  initParaFlag := thread.helper.initParaFlag
  isChangeSpeedInit := thread.helper.isChangeSpeedInit
  runningMode := thread.helper.runningMode
  action := thread.helper.targetPoint.action
  needStop := thread.helper.needStop
  turningSpeed := thread.rotations.turningSpeed
  turningArriveSpeed := thread.rotations.turningArriveSpeed
  targetSpeed := thread.helper.targetSpeed
  currentLinearSpeed := thread.wheels.currentLinearSpeed
  left := thread.rotations.left
  right := thread.rotations.right
  lastAngle := thread.rotations.lastAngle
  deltaSpeed := thread.rotations.deltaSpeed

/-- What a rotation leaves. -/
def ofRotation (rotation : Rotation) : MotionThread where
  helper := { thread.helper with
    initParaFlag := rotation.initParaFlag
    isChangeSpeedInit := rotation.isChangeSpeedInit
    runningMode := rotation.runningMode
    targetSpeed := rotation.targetSpeed }
  wheels := { thread.wheels with currentLinearSpeed := rotation.currentLinearSpeed }
  statics := thread.statics
  rotations := {
    turningSpeed := rotation.turningSpeed
    turningArriveSpeed := rotation.turningArriveSpeed
    left := rotation.left
    right := rotation.right
    lastAngle := rotation.lastAngle
    deltaSpeed := rotation.deltaSpeed }

def drive : Option MotionResult :=
  (function.iterate (thread.driveSettings settings) library input.toDriveInput
      (thread.toDrive function)).map fun iteration =>
    { thread := thread.ofDrive function iteration.drive
      ret := iteration.ret
      sent := iteration.sent }

/-- `Rotate`.  The sign of the angle gives the direction, whatever the run mode is. -/
def rotate (angle : ℚ) : MotionResult :=
  if angle = 0 then { thread, ret := 1 }
  else
    let rotated :=
      if angle < 0 then
        thread.toRotation.rotateLeft settings.delayAngleOffset (-angle) input.toRotateInput
      else thread.toRotation.rotateRight settings.delayAngleOffset angle input.toRotateInput
    { thread := thread.ofRotation rotated.rotation
      ret := rotated.ret
      sent := rotated.sent.map .rotate }

/-- The `switch` of `LoopRunning`. -/
def runMotion : Option MotionResult :=
  match DriveFunction.ofMode thread.helper.runningMode with
  | some function => thread.drive settings library input function
  | none =>
      if thread.helper.runningMode = rotateLeftMode ∨
          thread.helper.runningMode = rotateRightMode then
        some (thread.rotate settings input thread.helper.targetPose.angle)
      else some { thread }

/-! ## The loop -/

/-- The next segment. -/
def nextSegment (sub : SubPath) : MotionThread :=
  { thread with
    helper := { thread.helper with
      pathIndex := thread.helper.pathIndex + 1
      targetPose :=
        if thread.helper.rotateMode = .absolute ∧ sub.rotates then
          { sub.target with
              angle :=
                Utils.transformAngle (input.poseAfter.angle - sub.target.angle) (-360) 360 180 }
        else sub.target
      runningMode := sub.runmode
      targetSpeed := sub.speed } }

/-- What stops the car at its target. -/
def stopCommands : List MotionCommand :=
  let target := thread.helper.targetPoint
  if (target.action = actionLiftUpDown ∧ thread.helper.runningMode = goBackwardMode) ∨
      target.action = actionCharge then [.stopCar true]
  else if target.action = actionStop ∧
      ¬(target.mode = rotateLeftMode ∨ target.mode = rotateRightMode) then
    [.stopCar false, .setBreak true]
  else []

/-- The target is reached. -/
def finishTarget : Turn where
  thread := { thread with
    helper := { thread.helper with runningMode := stopMode, pathIndex := 0, subpath := {} } }
  sent := thread.stopCommands
  events := [.evNextPathPoint thread.helper.targetPoint.station]

/-- The end of a segment.  There is no result behind the end of the array. -/
def endSegment : Option Turn :=
  let index := thread.helper.pathIndex + 1
  if index < thread.helper.subpath.size then
    thread.helper.subpath.entries[index]?.map fun entry =>
      { thread := thread.nextSegment input (entry.getD {}) }
  else some thread.finishTarget

/-- `LoopRunning`. -/
def loopRunning : Option Turn :=
  if thread.helper.isRunning = false then some { thread }
  else
    (thread.runMotion settings library input).bind fun motion =>
      if motion.ret = 1 then
        (motion.thread.endSegment input).map fun turn =>
          { turn with sent := motion.sent ++ turn.sent }
      else some {
        thread := motion.thread
        sent := motion.sent
        events := if motion.ret < 0 then [.evPathMagError motion.ret] else [] }

/-- `SetBarrierStatus`. -/
def setBarrierStatus (status : Int) : MotionThread :=
  if thread.wheels.lastStatus ≠ status then
    { thread with wheels := { thread.wheels with lastStatus := status, barrierStatus := status } }
  else thread

/-- `ClearTarget`. -/
def clearTarget : MotionThread :=
  { thread with
    helper := { thread.helper with
      isRunning := false
      runningMode := stopMode
      initParaFlag := false
      isChangeSpeedInit := false
      carRunningMode := stopMode } }

end MotionThread

/-- What happens to the motion thread.  The calls come from other threads, between two turns. -/
inductive MotionLabel where
  | loopRunning (input : TurnInput)
  | setTarget (call : SetTargetCall)
  | clearTarget
  | setBarrierStatus (status : Int)
  | setRunning (run : Bool)

/-- A label: what it leaves, what it sends, and what it queues. -/
def motionTurn (settings : MotionSettings) (library : MathLibrary) (thread : MotionThread) :
    MotionLabel → Option Turn
  | .loopRunning input => thread.loopRunning settings library input
  | .setTarget call =>
      (thread.helper.setTarget call).map fun (result : ForkliftHelper × Int) =>
        { thread := { thread with helper := result.1 }
          events := if result.2 < 0 then [.evPathMagError result.2] else [] }
  | .clearTarget => some { thread := thread.clearTarget }
  | .setBarrierStatus status => some { thread := thread.setBarrierStatus status }
  | .setRunning run =>
      some { thread := { thread with helper := { thread.helper with isRunning := run } } }

def threadStep (settings : MotionSettings) (library : MathLibrary) :
    StepFn MotionThread MotionLabel :=
  fun label thread => (motionTurn settings library thread label).map Turn.thread

end DrivingControl.Controler

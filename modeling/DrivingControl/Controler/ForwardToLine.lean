import DrivingControl.Controler.ForkliftTargets
import DrivingControl.Library.Run

/-!
# Driving forward along a line

`ForwardToLine` is called again and again while the car drives to its target.  Its first
iteration starts the car; every other one looks at how far the target is, adjusts the
target speed and the acceleration, and, when the car has gone far enough since the last
time, moves the speed towards the target speed and steers.

The pose of the car is that of its tail in the coordinates of the target, and the
angular speed is what `wheelControl` computes from it.  Both are inputs of an iteration,
as is the speed that the controller reports; it is read once.
-/

namespace DrivingControl.Controler

open DrivingControl.Library

/-- `runMode`. -/
inductive RunMode where
  | highSpeedMode
  | lowSpeedMode
  deriving DecidableEq, Repr

/-- What `ForwardToLine` keeps: members of `CAgvMoveHelperForklift`, its own static variables
from `mode` on, and that of `SetBarrierStatus`. -/
structure LineDrive where
  initParaFlag : Bool := false
  isChangeSpeedInit : Bool := false
  runningMode : Int := stopMode
  /-- `targetPoint.action`. -/
  action : Int := actionRun
  currentLinearSpeed : Int := 0
  currentAngularSpeed : ℚ := 0
  targetSpeed : Int := 0
  aspeed : Int := 0
  dspeed : Int := 0
  lastLinearSpeed : Int := 0
  lastAngularSpeed : ℚ := 0
  barrierStatus : Int := 0
  /-- `lastStaus`. -/
  lastStatus : Int := 0
  mode : RunMode := .lowSpeedMode
  lastPose : Pose := ⟨0, 0, 0⟩
  arrivingFlag : Bool := false
  savedTargetSpeed : Int := 0
  deriving DecidableEq, Repr

/-- The settings that an iteration reads. -/
structure LineSettings where
  carID : Int
  /-- `DELAY_DISTANCE_OFFSET`. -/
  delayDistanceOffset : Int
  deriving DecidableEq, Repr

namespace LineSettings

/-- `SpeedFinalFinal`. -/
def speedFinalFinal (settings : LineSettings) : Int := if settings.carID = 1001 then 45 else 35

/-- `Kdistance`, in hundredths. -/
def kDistance (settings : LineSettings) : Int := if settings.carID = 1001 then 65 else 75

end LineSettings

/-- What an iteration reads from outside. -/
structure LineInput where
  pose : Pose
  /-- `s_Controler->speed`. -/
  speed : Int
  angularSpeed : ℚ := 0
  /-- `SetDirection`, `SetBreak` and `SetCarSpeed` return 0. -/
  ready : Bool := true
  deriving DecidableEq, Repr

/-- An iteration: what it leaves, what it returns, and the speed it passes to `SetCarSpeed`. -/
structure Iteration where
  drive : LineDrive
  ret : Int := 0
  sent : Option Int := none
  deriving DecidableEq, Repr

/-- Both bytes of the reported speed as a magnitude. -/
def absSpeed (speed : Int) : Int := if speed > 32768 then 65536 - speed else speed

namespace LineDrive

variable (settings : LineSettings) (input : LineInput) (drive : LineDrive)

/-! ## The first iteration -/

/-- The speed and the mode that the present speed of the car calls for. -/
def startSpeed (speed : Int) : Int × RunMode :=
  if speed > drive.targetSpeed ∧ speed < 32768 then (drive.targetSpeed, .highSpeedMode)
  else if speed > 300 ∧ speed < 32768 then (speed, .lowSpeedMode)
  else (300, .lowSpeedMode)

/-- The speed of the first command, with the mode and `savedTargetSpeed`. -/
def prepare (speed : Int) : LineDrive :=
  if drive.action = actionCharge then
    { drive with
      currentLinearSpeed := 100
      savedTargetSpeed := 100
      mode := .lowSpeedMode
      currentAngularSpeed := 0 }
  else
    { drive with
      currentLinearSpeed := (drive.startSpeed speed).1
      savedTargetSpeed := drive.targetSpeed
      mode := (drive.startSpeed speed).2
      currentAngularSpeed := 0 }

/-- The first iteration.  The target must lie ahead. -/
def start : Iteration :=
  if input.pose.xPos ≥ 0 then { drive, ret := -1 }
  else
    let prepared := drive.prepare input.speed
    if input.ready then
      { drive := { prepared with
          lastAngularSpeed := prepared.currentAngularSpeed
          lastLinearSpeed := prepared.currentLinearSpeed
          targetSpeed := prepared.currentLinearSpeed
          aspeed := 0
          lastPose := input.pose
          arrivingFlag := false
          initParaFlag := true }
        sent := some prepared.currentLinearSpeed }
    else
      { drive := { prepared with initParaFlag := false }
        sent := some prepared.currentLinearSpeed }

/-! ## The approach -/

/-- The distance at which the target counts as reached. -/
def finalDelayDistance (speed : Int) : Int :=
  if drive.action = actionCharge then
    if |drive.currentLinearSpeed| < 65 then (absSpeed speed * settings.kDistance).tdiv 100
    else 40
  else
    let delay := |settings.delayDistanceOffset * absSpeed speed| / 100
    if delay > 2 * settings.delayDistanceOffset then 2 * settings.delayDistanceOffset else delay

/-- The target is reached. -/
def arrive : LineDrive :=
  { drive with
    lastPose := ⟨0, 0, 0⟩
    mode := .lowSpeedMode
    runningMode := stopMode
    arrivingFlag := false
    initParaFlag := false
    isChangeSpeedInit := false }

/-- From here on the speed is set by the distance alone. -/
def crawl (speed : Int) : LineDrive :=
  { drive with
    targetSpeed := speed
    currentLinearSpeed := speed
    arrivingFlag := true
    mode := .lowSpeedMode }

/-- The branches just before the target. -/
def approach (xPos : Int) : LineDrive :=
  if xPos ≥ -500 ∧ drive.action = actionCharge then
    drive.crawl (|xPos| / 5 + settings.speedFinalFinal)
  else if xPos ≥ -800 ∧ drive.action = actionStop then drive.crawl (|xPos| / 5 + 140)
  else if xPos ≥ -2200 ∧ drive.action = actionCharge then drive.crawl 100
  else drive

def calAspeed : Int :=
  let aspeed := |drive.targetSpeed - drive.currentLinearSpeed| / 60
  if aspeed < 15 then 15 else aspeed

def calDspeed : Int :=
  let dspeed := |drive.currentLinearSpeed - drive.targetSpeed| / 60
  if dspeed < 15 then 15 else dspeed

/-- `refereceDistance`: the target is near. -/
def referenceDistance : Int := |(10 * drive.currentLinearSpeed).tdiv 100 * 26|

/-- The action requires the car to slow down. -/
def SlowsDown : Prop :=
  drive.action = actionCharge ∨ drive.action = actionLiftUpDown ∨ drive.action = actionStop ∨
    drive.action = actionSpeedDown

instance : Decidable drive.SlowsDown := inferInstanceAs (Decidable (_ ∨ _ ∨ _ ∨ _))

/-- The uniformly retarded motion.  There is no result when the distance is zero, which is
divided by. -/
def slowDown (xPos : Int) : Option LineDrive :=
  if 2 * xPos = 0 then none
  else some { drive with
    targetSpeed := 200
    dspeed := ((drive.currentLinearSpeed * drive.currentLinearSpeed - 200 * 200).tdiv
      |2 * xPos| * 9).tdiv 100 }

/-- The target speed and the acceleration, until the car is near the target. -/
def adjust : Option LineDrive :=
  if drive.arrivingFlag then some drive
  else if input.pose.xPos > -drive.referenceDistance then
    (if drive.SlowsDown then drive.slowDown input.pose.xPos else some drive).map fun slowed =>
      { slowed with arrivingFlag := true, mode := .lowSpeedMode }
  else if drive.mode = .lowSpeedMode ∧ |input.pose.angle| ≤ 4 ∧ |input.pose.yPos| ≤ 150 then
    let faster := { drive with targetSpeed := drive.savedTargetSpeed }
    some { faster with aspeed := faster.calAspeed * 2, mode := .highSpeedMode }
  else if drive.mode = .highSpeedMode ∧ |input.pose.yPos| ≥ 200 then
    let slower := { drive with targetSpeed := 200 }
    some { slower with dspeed := slower.calDspeed, mode := .lowSpeedMode }
  else some drive

/-! ## Speed and steering -/

/-- `1 == BarrierStatus || 2 == BarrierStatus`: far or middle. -/
def BarrierAhead : Prop := drive.barrierStatus = 1 ∨ drive.barrierStatus = 2

instance : Decidable drive.BarrierAhead := inferInstanceAs (Decidable (_ ∨ _))

/-- The speed that `ManageWheelSpeed` leaves. -/
def managedSpeed : Int :=
  let current := drive.currentLinearSpeed
  let target := drive.targetSpeed
  if target ≥ 0 ∧ current ≥ 0 then
    if drive.BarrierAhead then if current > 300 then 300 else current
    else if current > target then
      if current - drive.dspeed < target then target else current - drive.dspeed
    else if current < target then
      if current + drive.aspeed > target then target else current + drive.aspeed
    else current
  else if target ≤ 0 ∧ current ≤ 0 then
    if current < target then
      if current + drive.dspeed > target then target else current + drive.dspeed
    else if current > target then
      if current - drive.aspeed < target then target else current - drive.aspeed
    else current
  else current

def manageWheelSpeed : LineDrive := { drive with currentLinearSpeed := drive.managedSpeed }

/-- `wheelControl`.  Speeds are sent only when they differ from those sent last. -/
def wheelControl (angularSpeed : ℚ) : Iteration :=
  let steered := { drive with currentAngularSpeed := angularSpeed }
  if drive.lastAngularSpeed ≠ angularSpeed ∨ drive.lastLinearSpeed ≠ drive.currentLinearSpeed then
    { drive := { steered with
        lastLinearSpeed := drive.currentLinearSpeed
        lastAngularSpeed := angularSpeed }
      sent := some drive.currentLinearSpeed }
  else { drive := steered }

/-- The two wheels are controlled when the control period has come. -/
def control : Iteration :=
  if distanceBetweenPose input.pose drive.lastPose >
      ((10 * drive.currentLinearSpeed).tdiv 100).tdiv 2 then
    let controlled := drive.manageWheelSpeed.wheelControl input.angularSpeed
    { controlled with drive := { controlled.drive with lastPose := input.pose } }
  else { drive }

/-- One iteration.  There is no result when it divides by zero. -/
def forwardToLine : Option Iteration :=
  if drive.initParaFlag = false then some (drive.start input)
  else if input.pose.xPos ≥ -drive.finalDelayDistance settings input.speed then
    some { drive := drive.arrive, ret := 1 }
  else ((drive.approach settings input.pose.xPos).adjust input).map (control input)

/-! ## Runs -/

def setBarrierStatus (status : Int) : LineDrive :=
  if drive.lastStatus ≠ status then { drive with lastStatus := status, barrierStatus := status }
  else drive

/-- A new target, or its next segment. -/
def newTarget (targetSpeed runningMode action : Int) : LineDrive :=
  { drive with
    targetSpeed
    runningMode
    action
    initParaFlag := false
    isChangeSpeedInit := false }

end LineDrive

/-- What happens to a line drive. -/
inductive LineEvent where
  | iterate (input : LineInput)
  | setBarrierStatus (status : Int)
  | newTarget (targetSpeed runningMode action : Int)
  deriving DecidableEq, Repr

namespace LineDrive

def step (settings : LineSettings) : StepFn LineDrive LineEvent
  | .iterate input, drive => (drive.forwardToLine settings input).map Iteration.drive
  | .setBarrierStatus status, drive => some (drive.setBarrierStatus status)
  | .newTarget targetSpeed runningMode action, drive =>
      some (drive.newTarget targetSpeed runningMode action)

variable {settings : LineSettings} {input : LineInput} {drive : LineDrive}

theorem forwardToLine_start (first : drive.initParaFlag = false) :
    drive.forwardToLine settings input = some (drive.start input) := if_pos first

/-- An iteration behind the first one either ends the drive or goes through all its parts. -/
theorem forwardToLine_cases {iteration : Iteration} (going : drive.initParaFlag = true)
    (iterated : drive.forwardToLine settings input = some iteration) :
    iteration = { drive := drive.arrive, ret := 1 } ∨
      ∃ adjusted, (drive.approach settings input.pose.xPos).adjust input = some adjusted ∧
        iteration = adjusted.control input := by
  rw [forwardToLine, if_neg (by rw [going]; decide)] at iterated
  split at iterated
  · exact .inl (Option.some.inj iterated).symm
  · rcases Option.map_eq_some_iff.mp iterated with ⟨adjusted, through, equal⟩
    exact .inr ⟨adjusted, through, equal.symm⟩

/-- `MIN_ASPEED`. -/
theorem calAspeed_ge (drive : LineDrive) : 15 ≤ drive.calAspeed := by
  rw [calAspeed]
  split
  · exact Int.le_refl 15
  · omega

/-- `MIN_DSPEED`. -/
theorem calDspeed_ge (drive : LineDrive) : 15 ≤ drive.calDspeed := by
  rw [calDspeed]
  split
  · exact Int.le_refl 15
  · omega

/-- The branches just before the target make the car crawl forward. -/
theorem approach_cases (settings : LineSettings) (drive : LineDrive) (xPos : Int) :
    drive.approach settings xPos = drive ∨
      ∃ speed, 0 ≤ speed ∧ drive.approach settings xPos = drive.crawl speed := by
  have distance : 0 ≤ |xPos| / 5 := Int.ediv_nonneg (abs_nonneg xPos) (by decide)
  have final : 0 ≤ settings.speedFinalFinal := by
    rw [LineSettings.speedFinalFinal]
    split <;> decide
  rw [approach]
  split
  · exact .inr ⟨_, by omega, rfl⟩
  · split
    · exact .inr ⟨_, by omega, rfl⟩
    · split
      · exact .inr ⟨100, by decide, rfl⟩
      · exact .inl rfl

theorem slowDown_eq_some {xPos : Int} {slowed : LineDrive}
    (through : drive.slowDown xPos = some slowed) :
    2 * xPos ≠ 0 ∧ slowed = { drive with
      targetSpeed := 200
      dspeed := ((drive.currentLinearSpeed * drive.currentLinearSpeed - 200 * 200).tdiv
        |2 * xPos| * 9).tdiv 100 } := by
  rw [slowDown, Option.ite_none_left_eq_some, Option.some.injEq] at through
  exact ⟨through.1, through.2.symm⟩

/-- What the adjustment does: nothing, the near branch with or without slowing down, or a
change of the mode. -/
theorem adjust_cases {next : LineDrive} (adjusted : drive.adjust input = some next) :
    next = drive ∨
      (∃ slowed, (slowed = drive ∨ drive.slowDown input.pose.xPos = some slowed) ∧
        next = { slowed with arrivingFlag := true, mode := .lowSpeedMode }) ∨
      drive.arrivingFlag = false ∧
        (∃ aspeed, 0 ≤ aspeed ∧ next = { drive with
          targetSpeed := drive.savedTargetSpeed, aspeed, mode := .highSpeedMode }) ∨
      ∃ dspeed, 0 ≤ dspeed ∧
        next = { drive with targetSpeed := 200, dspeed, mode := .lowSpeedMode } := by
  rw [adjust] at adjusted
  split at adjusted
  case isTrue => exact .inl (Option.some.inj adjusted).symm
  case isFalse going =>
    split at adjusted
    · rcases Option.map_eq_some_iff.mp adjusted with ⟨slowed, through, equal⟩
      refine .inr (.inl ⟨slowed, ?_, equal.symm⟩)
      split at through
      · exact .inr through
      · exact .inl (Option.some.inj through).symm
    · split at adjusted
      · refine .inr (.inr (.inl ⟨Bool.eq_false_iff.mpr going, _, ?_,
          (Option.some.inj adjusted).symm⟩))
        have least := calAspeed_ge { drive with targetSpeed := drive.savedTargetSpeed }
        omega
      · split at adjusted
        · refine .inr (.inr (.inr ⟨_, ?_, (Option.some.inj adjusted).symm⟩))
          have least := calDspeed_ge { drive with targetSpeed := 200 }
          omega
        · exact .inl (Option.some.inj adjusted).symm

/-! ## The target of the move helper -/

/-- The members that a target sets are those of the move helper. -/
structure Follows (drive : LineDrive) (helper : ForkliftHelper) : Prop where
  initParaFlag : drive.initParaFlag = helper.initParaFlag
  isChangeSpeedInit : drive.isChangeSpeedInit = helper.isChangeSpeedInit
  runningMode : drive.runningMode = helper.runningMode
  targetSpeed : drive.targetSpeed = helper.targetSpeed
  action : drive.action = helper.targetPoint.action

/-- An accepted target is a new target of the line drive. -/
theorem follows_newTarget {helper next : ForkliftHelper} {call : SetTargetCall}
    (accepted : helper.setTarget call = some (next, 0)) :
    (drive.newTarget next.targetSpeed next.runningMode next.targetPoint.action).Follows next := by
  rcases ForkliftHelper.eq_of_accepted accepted with ⟨split, needStop, rotateMode, rfl⟩
  constructor <;> rfl

end LineDrive

end DrivingControl.Controler

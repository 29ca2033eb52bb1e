import DrivingControl.Library.Run
import DrivingControl.Library.Truncation
import DrivingControl.Utils.Utils

/-!
# The lidar

A frame of eight bytes brings the position of the lidar, from which `ParseCanData` computes
that of the car.  It keeps the result where it has put the lidar's position, and computes
again at every frame of another length.

Floating point numbers are rational here; sine and cosine are arbitrary functions.
-/

namespace DrivingControl.Devices

open DrivingControl.Library DrivingControl.Utils

/-- What `CAgvLidarSensor` takes from the settings and from the mathematical library. -/
structure LidarSetting where
  /-- `LIDAR_LEFT_RIGHT_OFFSET_MM`. -/
  lidarLeftRightOffsetMM : Int
  /-- `ANGLE_OFFSET`. -/
  angleOffset : ℚ
  /-- `sin(PI * a / ANGLE_180_DEGREE)`. -/
  sine : ℚ → ℚ
  /-- `cos(PI * a / ANGLE_180_DEGREE)`. -/
  cosine : ℚ → ℚ

/-- A `POSITION`. -/
structure LidarPosition where
  xPos : Int := 0
  yPos : Int := 0
  angle : ℚ := 0
  deriving DecidableEq, Repr

/-- `CAgvLidarSensor`, with the static variables of `ParseCanData`. -/
structure LidarSensor where
  /-- `x`, `y` and `a`. -/
  computed : LidarPosition := {}
  m : Int32 := 0
  err : Int32 := 0
  /-- `xPos`, `yPos` and `angle`. -/
  pose : LidarPosition := {}
  mode : Int32 := 0
  errorCode : Int32 := 0
  /-- The data of the `evPosition` events that were queued, oldest first. -/
  positions : List LidarPosition := []
  deriving DecidableEq, Repr

namespace LidarSensor

/-- The position that a frame of eight bytes brings. -/
def readPosition (buf : List UInt8) : LidarPosition :=
  let a : ℚ := (buffer2Bin ((buf.drop 6).take 2)).toInt / 100
  { xPos := (buffer2Bin (buf.take 3)).toInt
    yPos := (buffer2Bin ((buf.drop 3).take 3)).toInt
    angle := if a < 0 then a + 360 else a }

variable (setting : LidarSetting)

/-- The offset of the lidar is applied to a position. -/
def applyOffset (position : LidarPosition) : LidarPosition where
  xPos := truncate (position.xPos - setting.lidarLeftRightOffsetMM * setting.sine position.angle)
  yPos := truncate (position.yPos + setting.lidarLeftRightOffsetMM * setting.cosine position.angle)
  angle := wrapOnce 360 (position.angle + setting.angleOffset)

/-- The position is noted, with an event if it has changed. -/
def notePosition (position : LidarPosition) (sensor : LidarSensor) : LidarSensor :=
  if position ≠ sensor.pose then
    { sensor with
      computed := position
      pose := position
      positions := sensor.positions ++ [position] }
  else { sensor with computed := position }

/-- The mode and the error that a frame of three bytes brings. -/
def noteMode (buf : List UInt8) (sensor : LidarSensor) : LidarSensor :=
  if buf.getD 0 0 = 0x02 ∧ buf.length = 3 then
    let m := buffer2Bin [buf.getD 1 0]
    let err := buffer2Bin [buf.getD 2 0]
    { sensor with m, err, mode := m, errorCode := err }
  else { sensor with mode := sensor.m, errorCode := sensor.err }

/-- `CAgvLidarSensor::ParseCanData`. -/
def parseCanData (buf : List UInt8) (sensor : LidarSensor) : LidarSensor :=
  let position := if buf.length = 8 then readPosition buf else sensor.computed
  noteMode buf (notePosition (applyOffset setting position) sensor)

/-- The bytes that `ParseCanData` says to have read. -/
def parsedBytes (buf : List UInt8) : Nat :=
  if buf.length = 8 then 8 else if buf.getD 0 0 = 0x02 ∧ buf.length = 3 then 3 else 0

/-- One frame. -/
def frame : StepFn LidarSensor (List UInt8) := fun buf sensor =>
  some (sensor.parseCanData setting buf)

/-! ## The latest position -/

/-- The latest frame of eight bytes is remembered. -/
def observePosition (_ : LidarSensor) (buf : List UInt8) (_ : LidarSensor)
    (latest : Option (List UInt8)) : Option (List UInt8) :=
  if buf.length = 8 then some buf else latest

/-- The pose that a frame of eight bytes alone determines, with the offset applied once; it is
zero without one. -/
def poseOf (latest : Option (List UInt8)) : LidarPosition :=
  match latest with
  | none => {}
  | some buf => applyOffset setting (readPosition buf)

/-- The pose is that of the latest position, and a frame of another length leaves it and
queues no event. -/
def OnlyPositions (paired : LidarSensor × Option (List UInt8)) (buf : List UInt8)
    (next : LidarSensor × Option (List UInt8)) : Prop :=
  next.1.pose = poseOf setting next.2 ∧
    (buf.length ≠ 8 →
      next.1.pose = paired.1.pose ∧ next.1.positions = paired.1.positions)

instance (paired : LidarSensor × Option (List UInt8)) (buf : List UInt8)
    (next : LidarSensor × Option (List UInt8)) :
    Decidable (OnlyPositions setting paired buf next) :=
  inferInstanceAs (Decidable (_ ∧ (_ → _ ∧ _)))

/-- The offset of the lidar is lost in the truncation, and that of the angle is a turn or
nothing. -/
def OffsetAbsorbed (pose : LidarPosition) : Prop :=
  Absorbed pose.xPos (-(setting.lidarLeftRightOffsetMM * setting.sine pose.angle)) ∧
    Absorbed pose.yPos (setting.lidarLeftRightOffsetMM * setting.cosine pose.angle) ∧
    Returned 360 pose.angle setting.angleOffset

/-- A frame of another length finds a pose that the offset does not move. -/
def FindsAbsorbed (paired : LidarSensor × Option (List UInt8)) (buf : List UInt8)
    (_ : LidarSensor × Option (List UInt8)) : Prop :=
  buf.length = 8 ∨ OffsetAbsorbed setting paired.1.pose

/-! ## One frame -/

variable {setting} {sensor : LidarSensor} {buf : List UInt8}

@[simp] theorem pose_noteMode (buf : List UInt8) (sensor : LidarSensor) :
    (sensor.noteMode buf).pose = sensor.pose := by
  rw [noteMode]
  split <;> rfl

@[simp] theorem computed_noteMode (buf : List UInt8) (sensor : LidarSensor) :
    (sensor.noteMode buf).computed = sensor.computed := by
  rw [noteMode]
  split <;> rfl

@[simp] theorem positions_noteMode (buf : List UInt8) (sensor : LidarSensor) :
    (sensor.noteMode buf).positions = sensor.positions := by
  rw [noteMode]
  split <;> rfl

@[simp] theorem pose_notePosition (position : LidarPosition) (sensor : LidarSensor) :
    (sensor.notePosition position).pose = position := by
  rw [notePosition]
  split
  next => rfl
  next same => exact (not_not.mp same).symm

@[simp] theorem computed_notePosition (position : LidarPosition) (sensor : LidarSensor) :
    (sensor.notePosition position).computed = position := by
  rw [notePosition]
  split <;> rfl

/-- The pose itself is noted without an event. -/
theorem positions_notePosition_pose (sensor : LidarSensor) :
    (sensor.notePosition sensor.pose).positions = sensor.positions := by
  rw [notePosition, if_neg (by simp)]

/-- The offset is applied to the position of the frame, or to what was computed before. -/
theorem pose_parseCanData (setting : LidarSetting) (buf : List UInt8) (sensor : LidarSensor) :
    (sensor.parseCanData setting buf).pose =
      applyOffset setting (if buf.length = 8 then readPosition buf else sensor.computed) := by
  simp only [parseCanData, pose_noteMode, pose_notePosition]

theorem computed_parseCanData (setting : LidarSetting) (buf : List UInt8)
    (sensor : LidarSensor) :
    (sensor.parseCanData setting buf).computed = (sensor.parseCanData setting buf).pose := by
  simp only [parseCanData, computed_noteMode, pose_noteMode, computed_notePosition,
    pose_notePosition]

/-- The poses that the offset does not move. -/
theorem applyOffset_eq_self_iff (setting : LidarSetting) (pose : LidarPosition) :
    applyOffset setting pose = pose ↔ OffsetAbsorbed setting pose := by
  rcases pose with ⟨xPos, yPos, angle⟩
  simp only [applyOffset, OffsetAbsorbed, LidarPosition.mk.injEq, sub_eq_add_neg,
    truncate_add_eq_self_iff, wrapOnce_add_eq_self_iff (by norm_num : (0 : ℚ) < 360)]

/-! ## Runs -/

/-- What was computed last is the pose, which is that of the latest position. -/
structure Current (setting : LidarSetting) (paired : LidarSensor × Option (List UInt8)) : Prop where
  computed : paired.1.computed = paired.1.pose
  pose : paired.1.pose = poseOf setting paired.2

theorem Current.step {paired next : LidarSensor × Option (List UInt8)}
    (current : Current setting paired)
    (stepped : monitored (frame setting) observePosition buf paired = some next) :
    next.1.computed = next.1.pose ∧
      (OnlyPositions setting paired buf next ↔ FindsAbsorbed setting paired buf next) := by
  obtain ⟨moved, observed⟩ := monitored_eq_some stepped
  have parsed : next.1 = paired.1.parseCanData setting buf := (Option.some.inj moved).symm
  have pose := pose_parseCanData setting buf paired.1
  rw [← parsed] at pose
  refine ⟨by rw [parsed, computed_parseCanData], ?_⟩
  by_cases eight : buf.length = 8
  · rw [observePosition, if_pos eight] at observed
    rw [if_pos eight] at pose
    constructor
    · exact fun _ => .inl eight
    · intro _
      exact ⟨by rw [pose, observed]; rfl, fun other => absurd eight other⟩
  · rw [observePosition, if_neg eight] at observed
    rw [if_neg eight, current.computed] at pose
    constructor
    · rintro ⟨-, unchanged⟩
      right
      rw [← applyOffset_eq_self_iff, ← pose]
      exact (unchanged eight).1
    · rintro (long | absorbed)
      · exact absurd long eight
      · have same : next.1.pose = paired.1.pose := by
          rw [pose, applyOffset_eq_self_iff]
          exact absorbed
        refine ⟨by rw [same, observed, current.pose], fun _ => ⟨same, ?_⟩⟩
        have unmoved : applyOffset setting paired.1.computed = paired.1.pose := by
          rw [current.computed, applyOffset_eq_self_iff]
          exact absorbed
        rw [parsed, parseCanData, if_neg eight, unmoved, positions_noteMode,
          positions_notePosition_pose]

end LidarSensor

/-- In every run of frames the pose is that of the latest frame of eight bytes, with the
offset applied once, and other frames leave it and queue no event, exactly if no frame of
another length finds a pose that the offset moves. -/
theorem onlyPositions_iff_findsAbsorbed (setting : LidarSetting) (frames : List (List UInt8)) :
    Along (monitored (LidarSensor.frame setting) LidarSensor.observePosition)
        (LidarSensor.OnlyPositions setting) frames ({}, none) ↔
      Along (monitored (LidarSensor.frame setting) LidarSensor.observePosition)
        (LidarSensor.FindsAbsorbed setting) frames ({}, none) := by
  have start : LidarSensor.Current setting ({}, none) := ⟨rfl, rfl⟩
  apply along_iff_of_guard _ _ start
  · intro paired buf next current stepped absorbed
    obtain ⟨computed, agree⟩ := current.step stepped
    exact ⟨computed, (agree.mpr absorbed).1⟩
  · intro paired buf next current stepped
    exact (current.step stepped).2

/-- The lidar of the default settings, with a cosine of a standing car. -/
def defaultLidar : LidarSetting where
  lidarLeftRightOffsetMM := 10
  angleOffset := 0
  sine _ := 0
  cosine _ := 1

/-- A mode frame moves the car by the offset once more. -/
theorem onlyPositions_fails :
    ¬ ∀ (setting : LidarSetting) (frames : List (List UInt8)),
      Along (monitored (LidarSensor.frame setting) LidarSensor.observePosition)
        (LidarSensor.OnlyPositions setting) frames ({}, none) := by
  intro all
  have moved := all defaultLidar [[0, 0, 100, 0, 0, 100, 0, 0], [2, 1, 0]]
  exact absurd moved (by decide +kernel)

end DrivingControl.Devices

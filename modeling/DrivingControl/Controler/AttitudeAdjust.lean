import DrivingControl.Controler.MotionTurns

/-!
# Adjusting the attitude to a load

`AttitudeAdjustToFork` makes the segments that bring the forklift in front of a load.  If the
car stands straight before it, it backs up.  If the line of the load crosses that of the car
ahead, the car drives to the crossing, rotates there and backs up; else it rotates twice.

`PosePackage` takes its pose by value, and what it writes gets lost.  So all segments of an
adjustment have the target of the first one.
-/

namespace DrivingControl.Controler

open DrivingControl.Library

/-- The functions of the C library, with the cosine. -/
structure ForkLibrary extends MathLibrary where
  cos : ℚ → ℚ

/-- `transformPose`: a pose moved along its heading. -/
def transformPose (library : ForkLibrary) (basepose : Pose) (offset : Int) : Pose where
  xPos := truncate (basepose.xPos + offset * library.cos basepose.angle)
  yPos := truncate (basepose.yPos + offset * library.sin basepose.angle)
  angle := basepose.angle

/-- `PosePackage`.  The pose of the caller stays as it is. -/
def posePackage (pose : Pose) (_x _y : Int) (_angle : ℚ) : Pose := pose

/-- `Relative2WorldCoordinate`.  It does not set the heading. -/
def relative2WorldCoordinate (library : ForkLibrary) (uninitialized : ℚ)
    (relativePos forkliftPoseInWorld : Pose) : Pose :=
  let heading := forkliftPoseInWorld.angle
  let rotateAngle := if 90 + heading > 360 then 90 + heading - 360 else 90 + heading
  let sinBeta := library.sin rotateAngle
  let cosBeta := library.cos rotateAngle
  let originX := truncate (forkliftPoseInWorld.xPos - 150 * library.cos heading)
  let originY := truncate (forkliftPoseInWorld.yPos - 150 * library.sin heading)
  { xPos := truncate (relativePos.xPos * cosBeta - relativePos.yPos * sinBeta + originX)
    yPos := truncate (relativePos.xPos * sinBeta + relativePos.yPos * cosBeta + originY)
    angle := uninitialized }

/-- `Calculate2PointCrossYaxis`.  Of a line that does not cross the axis it returns `DBL_MAX`,
which is no integer. -/
def calculate2PointCrossYaxis (pointA pointB : Pose) : Option Int :=
  if pointA.xPos = pointB.xPos then none
  else some (pointB.yPos -
    (pointB.yPos - pointA.yPos).tdiv (pointB.xPos - pointA.xPos) * pointB.xPos)

/-- The side of the car on which the load is. -/
inductive LoadSide where
  | right
  | left
  deriving DecidableEq, Repr

namespace LoadSide

/-- The first rotation. -/
def turn : LoadSide → Int
  | right => rotateRightMode
  | left => rotateLeftMode

/-- The second rotation. -/
def turnBack : LoadSide → Int
  | right => rotateLeftMode
  | left => rotateRightMode

end LoadSide

/-- The load is refused. -/
def Refused (library : ForkLibrary) (loadCarPos : Pose) : Prop :=
  loadCarPos.angle < 0 ∨ (45 < loadCarPos.angle ∧ loadCarPos.angle < 135) ∨
    loadCarPos.angle > 180 ∨ loadCarPos.yPos ≤ 0 ∨
    library.sqrt (loadCarPos.xPos * loadCarPos.xPos + loadCarPos.yPos * loadCarPos.yPos) < 2200

instance (library : ForkLibrary) (loadCarPos : Pose) : Decidable (Refused library loadCarPos) :=
  inferInstanceAs (Decidable (_ ∨ _ ∧ _ ∨ _ ∨ _ ∨ _))

section Adjustment

variable (library : ForkLibrary) (uninitialized : ℚ) (forkliftCurrentPos loadCarPos : Pose)

/-- `positionBeforeFork`, in the coordinates of the car: 300 mm in front of the load. -/
def positionBeforeFork : Pose :=
  let alongX := 300 * library.sin loadCarPos.angle
  let alongY := 300 * library.cos loadCarPos.angle
  if 0 ≤ loadCarPos.angle ∧ loadCarPos.angle ≤ 90 then
    ⟨truncate (loadCarPos.xPos + alongX), truncate (loadCarPos.yPos - alongY), 0⟩
  else if 90 < loadCarPos.angle ∧ loadCarPos.angle ≤ 180 then
    ⟨truncate (loadCarPos.xPos - alongX), truncate (loadCarPos.yPos + alongY), 0⟩
  else ⟨0, 0, 0⟩

/-- `positionBeforeForkInWorld`. -/
def positionBeforeForkInWorld : Pose :=
  relative2WorldCoordinate library uninitialized (positionBeforeFork library loadCarPos)
    forkliftCurrentPos

/-- `loadCarPosInWorld`, as it is left: where the car forks. -/
def loadCarPosInWorld : Pose :=
  let before := positionBeforeForkInWorld library uninitialized forkliftCurrentPos loadCarPos
  let load := relative2WorldCoordinate library uninitialized loadCarPos forkliftCurrentPos
  let angleCBX := library.atan2 (load.yPos - before.yPos) (load.xPos - before.xPos)
  let angle := 180 + if angleCBX < 0 then 360 + angleCBX else angleCBX
  transformPose library { load with angle := if angle ≥ 360 then angle - 360 else angle } (-500)

/-- `angle_BD_X`. -/
def angleBDX : ℚ :=
  let before := positionBeforeFork library loadCarPos
  library.atan2 (before.yPos - 1960) before.xPos

/-- `angle_CB_X_rela`. -/
def angleCBXRela : ℚ :=
  let before := positionBeforeFork library loadCarPos
  library.atan2 (loadCarPos.yPos - before.yPos) (loadCarPos.xPos - before.xPos)

/-- The car stands straight before the load. -/
def Straight : Prop := |angleBDX library loadCarPos - 90| ≤ 1 ∧ |loadCarPos.xPos| < 10

instance : Decidable (Straight library loadCarPos) := inferInstanceAs (Decidable (_ ∧ _))

/-- The line of the load crosses that of the car. -/
def Crosses : LoadSide → Prop
  | .right => loadCarPos.xPos > 0 ∧ 0 < angleCBXRela library loadCarPos ∧
      angleCBXRela library loadCarPos < 90
  | .left => loadCarPos.xPos < 0 ∧ 90 < angleCBXRela library loadCarPos ∧
      angleCBXRela library loadCarPos < 180

instance (side : LoadSide) : Decidable (Crosses library loadCarPos side) :=
  match side with
  | .right => inferInstanceAs (Decidable (_ ∧ _ ∧ _))
  | .left => inferInstanceAs (Decidable (_ ∧ _ ∧ _))

/-- `targetBeforeRotateInWorld` for a crossing. -/
def targetBeforeRotateInWorld (crossing : Int) : Pose :=
  { relative2WorldCoordinate library uninitialized ⟨0, crossing, 0⟩ forkliftCurrentPos with
    angle := forkliftCurrentPos.angle }

/-- The heading of `positionBeforeForkInWorld`, brought back by one turn. -/
def headingBefore (angle : ℚ) : ℚ :=
  if angle < 0 then angle + 360 else if angle > 360 then angle - 360 else angle

/-! ## The situations -/

/-- Situation 0. -/
def backStraight : List (Pose × Int) :=
  let fork := loadCarPosInWorld library uninitialized forkliftCurrentPos loadCarPos
  [(posePackage ⟨0, 0, 0⟩ fork.xPos fork.yPos fork.angle, goBackwardMode)]

/-- Situation 1. -/
def rotateOnce (side : LoadSide) : List (Pose × Int) :=
  let fork := loadCarPosInWorld library uninitialized forkliftCurrentPos loadCarPos
  let rotated := transformPose library
    (posePackage ⟨0, 0, 0⟩ forkliftCurrentPos.xPos forkliftCurrentPos.yPos fork.angle) (-2110)
  let backed := posePackage rotated fork.xPos fork.yPos fork.angle
  [(rotated, side.turn), (backed, goBackwardMode)]

/-- The situations 2 and 3, where the car drives to the crossing in a mode. -/
def driveToCrossing (mode : Int) (side : LoadSide) (crossing : Int) : List (Pose × Int) :=
  let fork := loadCarPosInWorld library uninitialized forkliftCurrentPos loadCarPos
  let reached := targetBeforeRotateInWorld library uninitialized forkliftCurrentPos crossing
  let rotated := posePackage reached reached.xPos reached.yPos fork.angle
  let backed := posePackage rotated fork.xPos fork.yPos fork.angle
  [(reached, mode), (rotated, side.turn), (backed, goBackwardMode)]

/-- The situations 4 and 5, with the heading before the load and that of the first rotation. -/
def rotateTwice (side : LoadSide) (heading firstHeading : ℚ) : List (Pose × Int) :=
  let fork := loadCarPosInWorld library uninitialized forkliftCurrentPos loadCarPos
  let before := positionBeforeForkInWorld library uninitialized forkliftCurrentPos loadCarPos
  let rotated := transformPose library
    (posePackage ⟨0, 0, 0⟩ forkliftCurrentPos.xPos forkliftCurrentPos.yPos firstHeading) (-2110)
  let reached := posePackage rotated before.xPos before.yPos heading
  let rotatedBack := posePackage reached before.xPos before.yPos fork.angle
  let backed := posePackage rotatedBack fork.xPos fork.yPos fork.angle
  [(rotated, side.turn), (reached, goBackwardMode), (rotatedBack, side.turnBack),
    (backed, goBackwardMode)]

/-- The heading before the load in situation 5, which is the same on both sides. -/
def headingBeforeFork : ℚ :=
  headingBefore (forkliftCurrentPos.angle - |angleBDX library loadCarPos - 90|)

/-- The heading of the first rotation in situation 5. -/
def firstHeading : LoadSide → ℚ
  | .right => (loadCarPosInWorld library uninitialized forkliftCurrentPos loadCarPos).angle
  | .left => headingBeforeFork library forkliftCurrentPos loadCarPos

/-- The situations in which the two lines cross. -/
def crossingSegments (side : LoadSide) (crossing : Int) : List (Pose × Int) :=
  if |crossing - 1960| < 10 then
    rotateOnce library uninitialized forkliftCurrentPos loadCarPos side
  else if crossing > 1970 ∧ crossing < loadCarPos.yPos then
    driveToCrossing library uninitialized forkliftCurrentPos loadCarPos goBackwardMode side crossing
  else if crossing < 1950 ∧ crossing > 100 then
    driveToCrossing library uninitialized forkliftCurrentPos loadCarPos goForwardMode side crossing
  else
    rotateTwice library uninitialized forkliftCurrentPos loadCarPos side
      (headingBeforeFork library forkliftCurrentPos loadCarPos)
      (firstHeading library uninitialized forkliftCurrentPos loadCarPos side)

/-- The segments as the branches set them. -/
def attitudeSegments : Option (List (Pose × Int)) :=
  let angleDiff := |angleBDX library loadCarPos - 90|
  let crossing := calculate2PointCrossYaxis loadCarPos (positionBeforeFork library loadCarPos)
  let segments := crossingSegments library uninitialized forkliftCurrentPos loadCarPos
  if Straight library loadCarPos then
    some (backStraight library uninitialized forkliftCurrentPos loadCarPos)
  else if Crosses library loadCarPos .right then crossing.map (segments .right)
  else if Crosses library loadCarPos .left then crossing.map (segments .left)
  else if angleBDX library loadCarPos < 90 then
    let heading := headingBefore (forkliftCurrentPos.angle - angleDiff)
    some (rotateTwice library uninitialized forkliftCurrentPos loadCarPos .right heading heading)
  else if angleBDX library loadCarPos > 90 then
    let heading := headingBefore (forkliftCurrentPos.angle + angleDiff)
    some (rotateTwice library uninitialized forkliftCurrentPos loadCarPos .left heading heading)
  else some []

/-- `AttitudeAdjustToFork`, with its return value. -/
def attitudeAdjustToFork (paths : SubPaths) : Option (SubPaths × Int) :=
  if Refused library loadCarPos then some (paths, -1)
  else
    (attitudeSegments library uninitialized forkliftCurrentPos loadCarPos).bind fun segments =>
      (SubPaths.setSubpaths segments { size := segments.length }).bind fun filled =>
        (filled.changeAll fun entry =>
          { entry with
            target := transformPose library entry.target 2110
            speed := -100 }).map fun adjusted => (adjusted, 0)

end Adjustment

/-- What the C library computes exactly: the direction of the x-axis, and of what is straight
above, below or nowhere. -/
structure ForkLibrary.Exact (library : ForkLibrary) : Prop where
  cos_zero : library.cos 0 = 1
  sin_zero : library.sin 0 = 0
  upright : ∀ y, library.atan2 y 0 = 90 ∨ library.atan2 y 0 = 0 ∨ library.atan2 y 0 = -90

/-- What the true functions have besides: bounds of the cosine at the headings of a load that is
taken, and the quadrants of the directions above the x-axis. -/
structure ForkLibrary.Trigonometric (library : ForkLibrary) : Prop where
  cos_toward : ∀ angle, 0 ≤ angle → angle ≤ 45 → 1 / 2 ≤ library.cos angle
  cos_away : ∀ angle, 135 ≤ angle → angle ≤ 180 → library.cos angle ≤ -(1 / 2)
  right : ∀ x y, 0 < x → 0 < y → 0 < library.atan2 y x ∧ library.atan2 y x < 90
  left : ∀ x y, x < 0 → 0 < y → 90 < library.atan2 y x ∧ library.atan2 y x < 180
  upright : ∀ x y, library.atan2 y x = 90 → x = 0

/-! ## The segments of an adjustment -/

/-- The load is beside the car, and `angle_BD_X` says that it is not. -/
def Undecided (library : ForkLibrary) (loadCarPos : Pose) : Prop :=
  ¬ Straight library loadCarPos ∧ (∀ side, ¬ Crosses library loadCarPos side) ∧
    angleBDX library loadCarPos = 90

/-- Segments with one target. -/
def leadTo (target : Pose) (modes : List Int) : List SubPath :=
  modes.map fun runmode => { target, runmode, speed := -100 }

/-- The modes in which the car drives to a crossing: forward to one before its wheels, backward
to one between them and the load. -/
inductive DrivesTo (loadCarPos : Pose) (crossing : Int) : Int → Prop where
  | forward : 100 < crossing → crossing < 1950 → DrivesTo loadCarPos crossing goForwardMode
  | backward : 1970 < crossing → crossing < loadCarPos.yPos →
      DrivesTo loadCarPos crossing goBackwardMode

/-- What an adjustment can be. -/
inductive Adjustment (library : ForkLibrary) (uninitialized : ℚ)
    (forkliftCurrentPos loadCarPos : Pose) : List SubPath → Prop where
  | none : Adjustment library uninitialized forkliftCurrentPos loadCarPos []
  | straight :
      Adjustment library uninitialized forkliftCurrentPos loadCarPos
        (leadTo ⟨2110, 0, 0⟩ [goBackwardMode])
  | once (side : LoadSide) :
      Adjustment library uninitialized forkliftCurrentPos loadCarPos
        (leadTo ⟨0, 0, 0⟩ [side.turn, goBackwardMode])
  | crossing (side : LoadSide) (mode crossing : Int)
      (crosses : Crosses library loadCarPos side)
      (meets : calculate2PointCrossYaxis loadCarPos (positionBeforeFork library loadCarPos) =
        some crossing)
      (drives : DrivesTo loadCarPos crossing mode) :
      -- The target is not the crossing, but 2110 mm ahead of it.
      Adjustment library uninitialized forkliftCurrentPos loadCarPos
        (leadTo
          (transformPose library
            (targetBeforeRotateInWorld library uninitialized forkliftCurrentPos crossing) 2110)
          [mode, side.turn, goBackwardMode])
  | twice (side : LoadSide) :
      Adjustment library uninitialized forkliftCurrentPos loadCarPos
        (leadTo ⟨0, 0, 0⟩ [side.turn, goBackwardMode, side.turnBack, goBackwardMode])

/-- The end of `AttitudeAdjustToFork`, for one segment. -/
def retransformed (library : ForkLibrary) (segment : Pose × Int) : SubPath where
  target := transformPose library segment.1 2110
  runmode := segment.2
  speed := -100

section Spec

variable {library : ForkLibrary} {uninitialized : ℚ} {forkliftCurrentPos loadCarPos : Pose}

/-- The place before a load that is taken is nearer than the load. -/
theorem positionBeforeFork_nearer (trigonometric : library.Trigonometric)
    (taken : ¬ Refused library loadCarPos) :
    (positionBeforeFork library loadCarPos).yPos < loadCarPos.yPos := by
  simp only [Refused, not_or, not_and, not_lt, not_le] at taken
  rcases taken with ⟨low, across, high, above, -⟩
  rw [positionBeforeFork]
  split
  next toward =>
    have ahead : loadCarPos.angle ≤ 45 := by
      by_contra steep
      linarith [across (not_le.mp steep)]
    have far := trigonometric.cos_toward _ low ahead
    exact truncate_lt above (by linarith)
  next other =>
    have behind : 135 ≤ loadCarPos.angle := by
      apply across
      by_contra flat
      exact other ⟨low, by linarith⟩
    have far := trigonometric.cos_away _ behind high
    rw [if_pos ⟨by linarith, high⟩]
    exact truncate_lt above (by linarith)

/-- If the place before the load is straight behind the car and the load is not, the load is on
the side on which the two lines cross. -/
theorem not_undecided (trigonometric : library.Trigonometric)
    (taken : ¬ Refused library loadCarPos) : ¬ Undecided library loadCarPos := by
  rintro ⟨bent, apart, upright⟩
  have gap : (0 : ℚ) < loadCarPos.yPos - (positionBeforeFork library loadCarPos).yPos := by
    rw [sub_pos]
    exact_mod_cast positionBeforeFork_nearer trigonometric taken
  have centred : ((positionBeforeFork library loadCarPos).xPos : ℚ) = 0 :=
    trigonometric.upright _ _ upright
  have off : loadCarPos.xPos ≠ 0 := by
    intro level
    refine bent ⟨?_, ?_⟩
    · rw [upright, sub_self, abs_zero]
      exact zero_le_one
    · rw [level]
      decide
  rcases lt_or_gt_of_ne off with left | right
  · have quadrant := trigonometric.left loadCarPos.xPos _ (by exact_mod_cast left) gap
    apply apart .left
    rw [Crosses, angleCBXRela, centred, sub_zero]
    exact ⟨left, quadrant⟩
  · have quadrant := trigonometric.right loadCarPos.xPos _ (by exact_mod_cast right) gap
    apply apart .right
    rw [Crosses, angleCBXRela, centred, sub_zero]
    exact ⟨right, quadrant⟩

/-- The array has room for every adjustment. -/
theorem Adjustment.length_le {segments : List SubPath}
    (adjustment : Adjustment library uninitialized forkliftCurrentPos loadCarPos segments) :
    segments.length ≤ 5 := by
  cases adjustment <;> simp [leadTo]

theorem Adjustment.one_target {segments : List SubPath}
    (adjustment : Adjustment library uninitialized forkliftCurrentPos loadCarPos segments) :
    ∃ target, ∀ segment ∈ segments, segment.target = target ∧ segment.speed = -100 := by
  have led (target : Pose) (modes : List Int) :
      ∃ target', ∀ segment ∈ leadTo target modes,
        segment.target = target' ∧ segment.speed = -100 := by
    refine ⟨target, fun segment mem => ?_⟩
    rcases List.mem_map.mp mem with ⟨mode, -, rfl⟩
    exact ⟨rfl, rfl⟩
  cases adjustment with
  | none => exact ⟨⟨0, 0, 0⟩, nofun⟩
  | straight => exact led _ _
  | once side => exact led _ _
  | crossing side mode crossing crosses meets drives => exact led _ _
  | twice side => exact led _ _

theorem transformPose_origin (exact : library.Exact) (offset : Int) :
    transformPose library ⟨0, 0, 0⟩ offset = ⟨offset, 0, 0⟩ := by
  simp only [transformPose, exact.cos_zero, exact.sin_zero, Int.cast_zero, mul_one, mul_zero,
    zero_add, truncate_intCast, truncate_zero]

/-- Back to the tail and forth again. -/
theorem transformPose_there_and_back (exact : library.Exact) :
    transformPose library (transformPose library ⟨0, 0, 0⟩ (-2110)) 2110 = ⟨0, 0, 0⟩ := by
  rw [transformPose_origin exact, transformPose, exact.cos_zero, exact.sin_zero, mul_one,
    mul_zero, Int.cast_zero, add_zero, truncate_zero, ← Int.cast_add, truncate_intCast]
  rfl

theorem adjustment_rotateTwice (exact : library.Exact) (side : LoadSide) (heading first : ℚ) :
    Adjustment library uninitialized forkliftCurrentPos loadCarPos
      ((rotateTwice library uninitialized forkliftCurrentPos loadCarPos side heading first).map
        (retransformed library)) := by
  have segments : (rotateTwice library uninitialized forkliftCurrentPos loadCarPos side heading
      first).map (retransformed library) =
        leadTo ⟨0, 0, 0⟩ [side.turn, goBackwardMode, side.turnBack, goBackwardMode] := by
    simp only [rotateTwice, posePackage, List.map_cons, List.map_nil, retransformed,
      transformPose_there_and_back exact]
    rfl
  rw [segments]
  exact .twice side

theorem adjustment_crossingSegments (exact : library.Exact) {side : LoadSide} {crossing : Int}
    (crosses : Crosses library loadCarPos side)
    (meets : calculate2PointCrossYaxis loadCarPos (positionBeforeFork library loadCarPos) =
      some crossing) :
    Adjustment library uninitialized forkliftCurrentPos loadCarPos
        ((crossingSegments library uninitialized forkliftCurrentPos loadCarPos side crossing).map
          (retransformed library)) ∧
      crossingSegments library uninitialized forkliftCurrentPos loadCarPos side crossing ≠ [] := by
  rw [crossingSegments]
  split
  · have segments : (rotateOnce library uninitialized forkliftCurrentPos loadCarPos side).map
        (retransformed library) = leadTo ⟨0, 0, 0⟩ [side.turn, goBackwardMode] := by
      simp only [rotateOnce, posePackage, List.map_cons, List.map_nil, retransformed,
        transformPose_there_and_back exact]
      rfl
    rw [segments]
    exact ⟨.once side, nofun⟩
  · split
    next between =>
      exact ⟨.crossing side _ crossing crosses meets (.backward between.1 between.2), nofun⟩
    next =>
      split
      next ahead =>
        exact ⟨.crossing side _ crossing crosses meets (.forward ahead.2 ahead.1), nofun⟩
      next => exact ⟨adjustment_rotateTwice exact side _ _, nofun⟩

/-- A line that crosses the car's has a crossing. -/
theorem exists_crossing (exact : library.Exact) {side : LoadSide}
    (crosses : Crosses library loadCarPos side) :
    ∃ crossing, calculate2PointCrossYaxis loadCarPos (positionBeforeFork library loadCarPos) =
      some crossing := by
  have apart : loadCarPos.xPos ≠ (positionBeforeFork library loadCarPos).xPos := by
    intro same
    have level : (loadCarPos.xPos : ℚ) - (positionBeforeFork library loadCarPos).xPos = 0 := by
      rw [← same, sub_self]
    have upright := exact.upright
      (loadCarPos.yPos - (positionBeforeFork library loadCarPos).yPos)
    cases side with
    | right | left =>
        rcases crosses with ⟨-, low, high⟩
        rw [angleCBXRela, level] at low high
        rcases upright with angle | angle | angle <;> rw [angle] at low high <;> linarith
  exact ⟨_, if_neg apart⟩

/-- The branches have a result, and set a segment unless none of them is taken. -/
theorem attitudeSegments_spec (exact : library.Exact) :
    ∃ segments, attitudeSegments library uninitialized forkliftCurrentPos loadCarPos =
        some segments ∧
      Adjustment library uninitialized forkliftCurrentPos loadCarPos
        (segments.map (retransformed library)) ∧
      (segments = [] ↔ Undecided library loadCarPos) := by
  have crossed {side : LoadSide} (crosses : Crosses library loadCarPos side) :
      ∃ segments,
        (calculate2PointCrossYaxis loadCarPos (positionBeforeFork library loadCarPos)).map
            (crossingSegments library uninitialized forkliftCurrentPos loadCarPos side) =
          some segments ∧
        Adjustment library uninitialized forkliftCurrentPos loadCarPos
          (segments.map (retransformed library)) ∧
        (segments = [] ↔ Undecided library loadCarPos) := by
    rcases exists_crossing exact crosses with ⟨crossing, meets⟩
    have adjusts : Adjustment library uninitialized forkliftCurrentPos loadCarPos
        ((crossingSegments library uninitialized forkliftCurrentPos loadCarPos side crossing).map
          (retransformed library)) ∧ _ := adjustment_crossingSegments exact crosses meets
    rw [meets, Option.map_some]
    refine ⟨_, rfl, adjusts.1, ?_⟩
    exact iff_of_false adjusts.2 fun undecided => undecided.2.1 side crosses
  simp only [attitudeSegments]
  split
  next straight =>
    refine ⟨_, rfl, ?_, iff_of_false nofun fun undecided => undecided.1 straight⟩
    have segments : (backStraight library uninitialized forkliftCurrentPos loadCarPos).map
        (retransformed library) = leadTo ⟨2110, 0, 0⟩ [goBackwardMode] := by
      simp only [backStraight, posePackage, List.map_cons, List.map_nil, retransformed,
        transformPose_origin exact]
      rfl
    rw [segments]
    exact .straight
  next beside =>
    split
    next crosses => exact crossed crosses
    next right =>
      split
      next crosses => exact crossed crosses
      next left =>
        split
        next below =>
          exact ⟨_, rfl, adjustment_rotateTwice exact .right _ _,
            iff_of_false nofun fun undecided => absurd undecided.2.2 below.ne⟩
        next =>
          split
          next above =>
            exact ⟨_, rfl, adjustment_rotateTwice exact .left _ _,
              iff_of_false nofun fun undecided => absurd undecided.2.2 above.ne'⟩
          next =>
            refine ⟨_, rfl, .none, iff_of_true rfl ⟨beside, ?_, by linarith⟩⟩
            intro side
            cases side with
            | right => exact right
            | left => exact left

/-- An array without segments stays as `clearSubpath` leaves it. -/
theorem changeAll_empty (change : SubPath → SubPath) :
    SubPaths.changeAll change {} = some {} := by
  rw [SubPaths.changeAll, if_pos (Nat.zero_le 5)]
  congr 1

/-- What `AttitudeAdjustToFork` leaves of the segments that its branches set. -/
theorem attitudeAdjustToFork_of_segments {parts : List (Pose × Int)} (paths : SubPaths)
    (taken : ¬ Refused library loadCarPos)
    (set : attitudeSegments library uninitialized forkliftCurrentPos loadCarPos = some parts)
    (fits : parts.length ≤ 5) :
    ∃ adjusted,
      attitudeAdjustToFork library uninitialized forkliftCurrentPos loadCarPos paths =
        some (adjusted, 0) ∧
      adjusted.Holds (parts.map (retransformed library)) ∧ (parts = [] → adjusted = {}) := by
  rcases SubPaths.holds_setSubpaths parts fits with ⟨filled, fills, holds⟩
  rcases holds.changeAll (fun entry => { entry with
      target := transformPose library entry.target 2110, speed := -100 }) with
    ⟨adjusted, changes, adjusts⟩
  rw [List.map_map] at adjusts
  refine ⟨adjusted, ?_, adjusts, ?_⟩
  · rw [attitudeAdjustToFork, if_neg taken, set, Option.bind_some, fills, Option.bind_some,
      changes, Option.map_some]
  · rintro rfl
    cases fills
    exact Option.some.inj (changes.symm.trans (changeAll_empty _))

/-- What `AttitudeAdjustToFork` leaves of a load that it does not refuse. -/
theorem attitudeAdjustToFork_spec (exact : library.Exact) (paths : SubPaths)
    (taken : ¬ Refused library loadCarPos) :
    ∃ adjusted segments,
      attitudeAdjustToFork library uninitialized forkliftCurrentPos loadCarPos paths =
        some (adjusted, 0) ∧
      adjusted.Holds segments ∧
      Adjustment library uninitialized forkliftCurrentPos loadCarPos segments ∧
      (segments = [] ↔ Undecided library loadCarPos) ∧ (segments = [] → adjusted = {}) := by
  have branches : ∃ parts,
      attitudeSegments library uninitialized forkliftCurrentPos loadCarPos = some parts ∧
      Adjustment library uninitialized forkliftCurrentPos loadCarPos
        (parts.map (retransformed library)) ∧
      (parts = [] ↔ Undecided library loadCarPos) := attitudeSegments_spec exact
  rcases branches with ⟨parts, set, adjustment, undecided⟩
  have fits : parts.length ≤ 5 := by
    rw [← List.length_map (retransformed library)]
    exact adjustment.length_le
  rcases attitudeAdjustToFork_of_segments paths taken set fits with
    ⟨adjusted, adjusts, holds, empty⟩
  rw [← List.map_eq_nil_iff (f := retransformed library)] at undecided empty
  exact ⟨adjusted, _, adjusts, holds, adjustment, undecided, empty⟩

/-- `AttitudeAdjustToFork` either refuses the load and leaves the segments alone, or makes an
adjustment, of which all segments have one target and the speed -100. -/
theorem adjustments_lead_to_one_target (exact : library.Exact) (paths : SubPaths) :
    (Refused library loadCarPos →
      attitudeAdjustToFork library uninitialized forkliftCurrentPos loadCarPos paths =
        some (paths, -1)) ∧
    (¬ Refused library loadCarPos → ∃ adjusted segments,
      attitudeAdjustToFork library uninitialized forkliftCurrentPos loadCarPos paths =
        some (adjusted, 0) ∧
      adjusted.Holds segments ∧
      Adjustment library uninitialized forkliftCurrentPos loadCarPos segments ∧
      (segments = [] ↔ Undecided library loadCarPos) ∧
      ∃ target, ∀ segment ∈ segments, segment.target = target ∧ segment.speed = -100) := by
  constructor
  · exact fun refused => if_pos refused
  · intro taken
    rcases attitudeAdjustToFork_spec exact paths taken with
      ⟨adjusted, segments, adjusts, holds, adjustment, undecided, -⟩
    exact ⟨adjusted, segments, adjusts, holds, adjustment, undecided, adjustment.one_target⟩

/-- The segments of a load are such as the move helper needs them. -/
theorem isAdjusted_of_attitudeAdjustToFork (exact : library.Exact) {call : SetTargetCall}
    {ret : Int}
    (adjusts : attitudeAdjustToFork library uninitialized call.current call.target.pose {} =
      some (call.adjusted, ret)) : call.IsAdjusted := by
  by_cases refused : Refused library call.target.pose
  · rw [attitudeAdjustToFork, if_pos refused] at adjusts
    exact .inl (congrArg Prod.fst (Option.some.inj adjusts)).symm
  · rcases attitudeAdjustToFork_spec exact {} refused with
      ⟨adjusted, segments, made, holds, -, -, empty⟩
    have same := congrArg Prod.fst (Option.some.inj (made.symm.trans adjusts))
    dsimp only at same
    rw [same] at holds empty
    by_cases none : segments = []
    · exact .inl (empty none)
    · exact .inr ⟨segments, holds, none⟩

end Spec

/-- The functions at whole eighths of a turn, with one value for all directions between two. -/
def eighths : ForkLibrary where
  sin angle :=
    if angle = 0 ∨ angle = 180 then 0 else if angle = 90 then 1
    else if angle < 180 then 7071 / 10000 else -7071 / 10000
  cos angle :=
    if angle = 0 then 1 else if angle = 90 then 0 else if angle = 180 then -1
    else if angle < 90 ∨ angle > 270 then 7071 / 10000 else -7071 / 10000
  tan _ := 0
  atan2 y x :=
    if x = 0 then if y > 0 then 90 else if y < 0 then -90 else 0
    else if y = 0 then if x > 0 then 0 else 180
    else if x > 0 then if y = x then 45 else if y > 0 then 2483 / 100 else -45
    else if y > 0 then 135 else -135
  sqrt := wholeRoot

theorem exact_eighths : eighths.Exact where
  cos_zero := rfl
  sin_zero := rfl
  upright y := by
    have zero : eighths.atan2 y 0 = if y > 0 then 90 else if y < 0 then -90 else 0 := rfl
    rw [zero]
    split
    · exact .inl rfl
    · split
      · exact .inr (.inr rfl)
      · exact .inr (.inl rfl)

theorem trigonometric_eighths : eighths.Trigonometric where
  cos_toward angle low high := by
    dsimp only [eighths]
    grind
  cos_away angle low high := by
    dsimp only [eighths]
    grind
  right x y ahead above := by
    dsimp only [eighths]
    grind
  left x y behind above := by
    dsimp only [eighths]
    grind
  upright x y straight := by
    dsimp only [eighths] at straight
    grind

/-- A load 3 m straight behind the car, and one that it stands across to. -/
theorem adjustments_lead_to_one_target_straight :
    (∃ adjusted segments,
      attitudeAdjustToFork eighths 0 ⟨0, 0, 0⟩ ⟨0, 3000, 0⟩ {} = some (adjusted, 0) ∧
      adjusted.Holds segments ∧ segments ≠ [] ∧
      ∃ target, ∀ segment ∈ segments, segment.target = target ∧ segment.speed = -100) ∧
    attitudeAdjustToFork eighths 0 ⟨0, 0, 0⟩ ⟨0, 3000, 90⟩ {} = some ({}, -1) := by
  constructor
  · have taken : ¬ Refused eighths ⟨0, 3000, 0⟩ := by decide +kernel
    have straight : Straight eighths ⟨0, 3000, 0⟩ := by decide +kernel
    rcases (adjustments_lead_to_one_target exact_eighths {}).2 taken with
      ⟨adjusted, segments, adjusts, holds, -, undecided, target⟩
    exact ⟨adjusted, segments, adjusts, holds,
      fun none => (undecided.mp none).1 straight, target⟩
  · have refused : Refused eighths ⟨0, 3000, 90⟩ := by decide +kernel
    exact (adjustments_lead_to_one_target exact_eighths {}).1 refused

/-! ## Driving to a load -/

def MotionLabel.SetsTarget : MotionLabel → Prop
  | .setTarget _ => True
  | _ => False

/-- A turn of a car that stands where its target is. -/
def TurnInput.still : TurnInput := { pose := ⟨0, 0, 0⟩, relative := ⟨0, 0, 0⟩, speed := 0 }

namespace MotionThread

/-- Until the next target is set nothing is sent and nothing is queued. -/
def Silent (settings : MotionSettings) (library : MathLibrary) (thread : MotionThread) : Prop :=
  ∀ labels : List MotionLabel, (∀ label ∈ labels, ¬ label.SetsTarget) →
    Before (threadStep settings library)
      (fun thread label => ∀ turn ∈ motionTurn settings library thread label,
        turn.sent = [] ∧ turn.events = [])
      labels thread

variable {settings : MotionSettings} {library : MathLibrary} {thread : MotionThread}

/-- In stop mode nothing happens, and the next target alone ends it. -/
theorem stopped_turn {label : MotionLabel} {turn : Turn}
    (stopped : thread.helper.runningMode = stopMode) (other : ¬ label.SetsTarget)
    (turns : motionTurn settings library thread label = some turn) :
    turn.thread.helper.runningMode = stopMode ∧ turn.sent = [] ∧ turn.events = [] := by
  cases label with
  | setTarget call => exact absurd trivial other
  | loopRunning input =>
      have motion : thread.runMotion settings library input = some { thread } := by
        rw [runMotion, stopped]
        rfl
      rw [motionTurn, loopRunning] at turns
      split at turns
      · cases turns
        exact ⟨stopped, rfl, rfl⟩
      · rw [motion] at turns
        cases turns
        exact ⟨stopped, rfl, rfl⟩
  | clearTarget =>
      cases turns
      exact ⟨rfl, rfl, rfl⟩
  | setBarrierStatus status =>
      cases turns
      refine ⟨?_, rfl, rfl⟩
      dsimp only
      rw [setBarrierStatus]
      split
      · exact stopped
      · exact stopped
  | setRunning run =>
      cases turns
      exact ⟨stopped, rfl, rfl⟩

theorem silent_of_stopped (stopped : thread.helper.runningMode = stopMode) :
    thread.Silent settings library := by
  intro labels others
  have kept (thread : MotionThread) (label : MotionLabel) (next : MotionThread)
      (stopped : thread.helper.runningMode = stopMode) (other : ¬ label.SetsTarget)
      (stepped : threadStep settings library label thread = some next) :
      next.helper.runningMode = stopMode := by
    rcases Option.map_eq_some_iff.mp stepped with ⟨turn, turns, rfl⟩
    exact (stopped_turn stopped other turns).1
  apply before_of_invariant kept _ others stopped
  intro thread label stopped other turn turns
  exact (stopped_turn stopped other turns).2

/-- A line to a target that the car stands at is refused. -/
theorem refuses_line (runs : thread.helper.isRunning = true)
    (first : thread.helper.initParaFlag = false)
    (line : thread.helper.runningMode = goForwardMode ∨
      thread.helper.runningMode = goBackwardMode) :
    ∃ turn, motionTurn settings library thread (.loopRunning .still) = some turn ∧
      turn.events = [.evPathMagError (-1)] := by
  have going : ¬ thread.helper.isRunning = false := by
    rw [runs]
    decide
  have refused : ∃ motion, thread.runMotion settings library .still = some motion ∧
      motion.ret = -1 := by
    rcases line with forward | backward
    · have iterated : DriveFunction.iterate (thread.driveSettings settings) library
          TurnInput.still.toDriveInput (thread.toDrive .forwardToLine) .forwardToLine =
            some ((thread.toDrive .forwardToLine).startForwardLine
              TurnInput.still.toDriveInput) := if_pos first
      have is : DriveFunction.ofMode thread.helper.runningMode = some .forwardToLine := by
        rw [forward]
        rfl
      rw [runMotion, is]
      dsimp only
      rw [drive, iterated]
      exact ⟨_, rfl, rfl⟩
    · have iterated : DriveFunction.iterate (thread.driveSettings settings) library
          TurnInput.still.toDriveInput (thread.toDrive .backwardToLine) .backwardToLine =
            some ((thread.toDrive .backwardToLine).startBackwardLine
              TurnInput.still.toDriveInput) := if_pos first
      have is : DriveFunction.ofMode thread.helper.runningMode = some .backwardToLine := by
        rw [backward]
        rfl
      rw [runMotion, is]
      dsimp only
      rw [drive, iterated]
      exact ⟨_, rfl, rfl⟩
  rcases refused with ⟨motion, through, ret⟩
  rw [motionTurn, loopRunning, if_neg going, through, Option.bind_some, ret]
  exact ⟨_, rfl, rfl⟩

/-- A rotation begins with a command, and does not end at once. -/
theorem rotate_first {rotation : Rotation} (side : RotateDirection) {delayAngleOffset angle : ℚ}
    (input : RotateInput) (fresh : rotation.initParaFlag = false) (positive : 0 < angle) :
    (rotation.rotate side delayAngleOffset angle input).ret = 0 ∧
      (rotation.rotate side delayAngleOffset angle input).sent ≠ [] := by
  have start : (rotation.advance side angle input).1.integration side = ⟨input.heading, 0⟩ := by
    rw [Rotation.advance, if_pos fresh, Rotation.initRotate]
    cases side <;> rfl
  have command : (rotation.advance side angle input).2 ≠ [] := by
    rw [Rotation.advance, if_pos fresh]
    exact List.cons_ne_nil _ _
  have short : ¬ (0 : ℚ) ≥ needRotateAngle delayAngleOffset angle :=
    not_le.mpr (Rotation.needRotateAngle_pos positive)
  rw [Rotation.rotate, if_neg (not_le.mpr positive)]
  dsimp only
  rw [start, if_neg short]
  split
  · exact ⟨rfl, fun none => command (List.append_eq_nil_iff.mp none).1⟩
  · exact ⟨rfl, command⟩

/-- The first turn of a rotation sends a command, or passes over to the segment behind it. -/
theorem turns_or_passes {first next : SubPath} {rest : List SubPath}
    (runs : thread.helper.isRunning = true) (fresh : thread.helper.initParaFlag = false)
    (index : thread.helper.pathIndex = 0)
    (holds : thread.helper.subpath.Holds (first :: next :: rest))
    (rotates : thread.helper.runningMode = rotateLeftMode ∨
      thread.helper.runningMode = rotateRightMode) :
    ∃ turn, motionTurn settings library thread (.loopRunning .still) = some turn ∧
      (turn.sent ≠ [] ∨ turn.thread.helper.isRunning = true ∧
        turn.thread.helper.initParaFlag = false ∧
        turn.thread.helper.runningMode = next.runmode) := by
  have going : ¬ thread.helper.isRunning = false := by
    rw [runs]
    decide
  have motion : thread.runMotion settings library .still =
      some (thread.rotate settings .still thread.helper.targetPose.angle) := by
    have none : DriveFunction.ofMode thread.helper.runningMode = none := by
      rcases rotates with left | right
      · rw [left]
        rfl
      · rw [right]
        rfl
    rw [runMotion, none]
    exact if_pos rotates
  rw [motionTurn, loopRunning, if_neg going, motion, Option.bind_some, rotate]
  split
  next =>
    have entry : thread.helper.subpath.entries[1]? = some (some next) := holds.filled 1 (by simp)
    have inside : 0 + 1 < thread.helper.subpath.size := by
      rw [holds.size, List.length_cons, List.length_cons]
      omega
    rw [if_pos rfl, endSegment, index, if_pos inside, entry]
    exact ⟨_, rfl, .inr ⟨runs, fresh, rfl⟩⟩
  next turns =>
    have goes (ret : Int) (zero : ret = 0) : ¬ ret = 1 := by
      rw [zero]
      decide
    dsimp only
    split
    next negative =>
      have first : (thread.toRotation.rotateLeft settings.delayAngleOffset
          (-thread.helper.targetPose.angle) TurnInput.still.toRotateInput).ret = 0 ∧ _ :=
        rotate_first .left _ fresh (neg_pos.mpr negative)
      exact ⟨_, if_neg (goes _ first.1), .inl fun none => first.2 (List.map_eq_nil_iff.mp none)⟩
    next nonneg =>
      have positive := lt_of_le_of_ne (not_lt.mp nonneg) (Ne.symm turns)
      have first : (thread.toRotation.rotateRight settings.delayAngleOffset
          thread.helper.targetPose.angle TurnInput.still.toRotateInput).ret = 0 ∧ _ :=
        rotate_first .right _ fresh positive
      exact ⟨_, if_neg (goes _ first.1), .inl fun none => first.2 (List.map_eq_nil_iff.mp none)⟩

/-- A load as the target is always accepted. -/
theorem accepts_load {call : SetTargetCall} (carries : call.target.mode = carryGoods) :
    ∃ turn, motionTurn settings library thread (.setTarget call) = some turn ∧
      turn.events = [] ∧ turn.thread.helper.isRunning = true ∧
      turn.thread.helper.initParaFlag = false ∧ turn.thread.helper.pathIndex = 0 ∧
      turn.thread.helper.subpath = call.adjusted ∧
      turn.thread.helper.runningMode = call.adjusted.first.runmode ∧
      turn.thread.helper.targetSpeed = call.adjusted.first.speed ∧
      turn.thread.helper.targetPoint = call.target := by
  have whole : ¬ call.target.IsSplit := by
    rw [RunContext.IsSplit, carries]
    decide
  rw [motionTurn, ForkliftHelper.setTarget, if_neg whole, if_pos carries]
  exact ⟨_, rfl, rfl, rfl, rfl, rfl, rfl, rfl, rfl, rfl⟩

/-- An adjustment with a segment does something in one of its first two turns. -/
theorem not_silent_of_adjustment {library : MathLibrary} {forkLibrary : ForkLibrary}
    {uninitialized : ℚ} {forkliftCurrentPos loadCarPos : Pose} {segments : List SubPath}
    (runs : thread.helper.isRunning = true) (fresh : thread.helper.initParaFlag = false)
    (index : thread.helper.pathIndex = 0) (holds : thread.helper.subpath.Holds segments)
    (mode : thread.helper.runningMode = thread.helper.subpath.first.runmode)
    (adjustment : Adjustment forkLibrary uninitialized forkliftCurrentPos loadCarPos segments)
    (present : segments ≠ []) : ¬ thread.Silent settings library := by
  intro silent
  have others : ∀ label ∈ [MotionLabel.loopRunning .still, .loopRunning .still],
      ¬ label.SetsTarget := by
    simp only [List.forall_mem_cons, List.not_mem_nil, false_imp_iff, implies_true,
      MotionLabel.SetsTarget, not_false_eq_true, and_true]
  have both := silent _ others
  -- The first segment is a line, or a rotation before a line.
  have drives (line : thread.helper.runningMode = goForwardMode ∨
      thread.helper.runningMode = goBackwardMode) : False := by
    rcases refuses_line runs fresh line with ⟨turn, turns, events⟩
    have none := (both.1 turn turns).2
    rw [events] at none
    cases none
  have rotates {first next : SubPath} {rest : List SubPath}
      (segments : thread.helper.subpath.Holds (first :: next :: rest))
      (turns : first.runmode = rotateLeftMode ∨ first.runmode = rotateRightMode)
      (line : next.runmode = goBackwardMode) : False := by
    rw [← segments.first, ← mode] at turns
    rcases turns_or_passes runs fresh index segments turns with
      ⟨turn, through, sends | ⟨stillRuns, stillFresh, nextMode⟩⟩
    · exact sends (both.1 turn through).1
    · rcases refuses_line stillRuns stillFresh (.inr (nextMode.trans line)) with
        ⟨last, turns, events⟩
      have stepped : threadStep settings library (.loopRunning .still) thread =
          some turn.thread := by
        rw [threadStep, through]
        rfl
      have none := ((both.2 turn.thread stepped).1 last turns).2
      rw [events] at none
      cases none
  have side (side : LoadSide) : side.turn = rotateLeftMode ∨ side.turn = rotateRightMode := by
    cases side with
    | right => exact .inr rfl
    | left => exact .inl rfl
  cases adjustment with
  | none => exact present rfl
  | straight =>
      rw [holds.first] at mode
      exact drives (.inr mode)
  | once beside => exact rotates holds (side beside) rfl
  | crossing beside driven crossing crosses meets driving =>
      rw [holds.first] at mode
      cases driving with
      | forward low high => exact drives (.inl mode)
      | backward low high => exact drives (.inr mode)
  | twice beside => exact rotates holds (side beside) rfl

end MotionThread

/-- A load as the target leaves the car standing until the next target, without any message,
exactly if it is refused or none of the branches is taken.  One of them is taken if the functions
of the C library are the true ones. -/
theorem load_leaves_standing_iff (settings : MotionSettings) {library : ForkLibrary}
    (exact : library.Exact) (uninitialized : ℚ) (thread : MotionThread) {call : SetTargetCall}
    (carries : call.target.mode = carryGoods) {ret : Int}
    (adjusts : attitudeAdjustToFork library uninitialized call.current call.target.pose {} =
      some (call.adjusted, ret)) :
    ∃ turn, motionTurn settings library.toMathLibrary thread (.setTarget call) = some turn ∧
      turn.events = [] ∧ turn.thread.helper.isRunning = true ∧
      (turn.thread.Silent settings library.toMathLibrary ↔
        Refused library call.target.pose ∨ Undecided library call.target.pose) ∧
      (library.Trigonometric →
        (turn.thread.Silent settings library.toMathLibrary ↔
          Refused library call.target.pose)) := by
  have accepted : ∃ turn,
      motionTurn settings library.toMathLibrary thread (.setTarget call) = some turn ∧ _ :=
    MotionThread.accepts_load carries
  rcases accepted with ⟨turn, turns, events, runs, fresh, index, subpath, mode, -⟩
  suffices standing : turn.thread.Silent settings library.toMathLibrary ↔
      Refused library call.target.pose ∨ Undecided library call.target.pose by
    refine ⟨turn, turns, events, runs, standing, fun trigonometric => standing.trans ?_⟩
    constructor
    · rintro (refused | undecided)
      · exact refused
      · by_contra taken
        exact not_undecided trigonometric taken undecided
    · exact .inl
  have stopped (empty : call.adjusted = {}) :
      turn.thread.Silent settings library.toMathLibrary := by
    apply MotionThread.silent_of_stopped
    rw [mode, empty]
    rfl
  by_cases refused : Refused library call.target.pose
  · rw [attitudeAdjustToFork, if_pos refused] at adjusts
    have empty := (congrArg Prod.fst (Option.some.inj adjusts)).symm
    exact iff_of_true (stopped empty) (.inl refused)
  · rcases attitudeAdjustToFork_spec exact {} refused with
      ⟨adjusted, segments, made, holds, adjustment, undecided, empty⟩
    have same := congrArg Prod.fst (Option.some.inj (made.symm.trans adjusts))
    dsimp only at same
    by_cases none : segments = []
    · exact iff_of_true (stopped (same.symm.trans (empty none))) (.inr (undecided.mp none))
    · rw [same, ← subpath] at holds
      rw [← subpath] at mode
      apply iff_of_false
      · exact MotionThread.not_silent_of_adjustment runs fresh index holds mode adjustment none
      · rintro (refuses | standing)
        · exact refused refuses
        · exact none (undecided.mpr standing)

/-- The car stands across to one load, and straight before the other. -/
theorem load_leaves_standing_iff_across :
    let settings : MotionSettings :=
      { carID := 1001, delayDistanceOffset := 20, delayArcDistanceOffset := 20,
        wheelBase := 1500, delayAngleOffset := 2 }
    let call (angle : ℚ) (adjusted : SubPaths) : SetTargetCall :=
      { target := { station := 7, mode := carryGoods, yPos := 3000, angle, speed := 100 }
        current := ⟨0, 0, 0⟩
        geometry := { xPos := 0, yPos := 0 }
        adjusted }
    (∃ turn,
      motionTurn settings eighths.toMathLibrary (.initial 1000) (.setTarget (call 90 {})) =
        some turn ∧
      turn.events = [] ∧ turn.thread.Silent settings eighths.toMathLibrary) ∧
    ∃ adjusted turn,
      motionTurn settings eighths.toMathLibrary (.initial 1000) (.setTarget (call 0 adjusted)) =
        some turn ∧
      ¬ turn.thread.Silent settings eighths.toMathLibrary := by
  intro settings call
  constructor
  · have refused : Refused eighths (call 90 {}).target.pose := by decide +kernel
    have adjusts : attitudeAdjustToFork eighths 0 (call 90 {}).current (call 90 {}).target.pose {} =
        some ((call 90 {}).adjusted, -1) := if_pos refused
    rcases load_leaves_standing_iff settings exact_eighths 0 (.initial 1000) rfl adjusts with
      ⟨turn, turns, events, -, standing, -⟩
    exact ⟨turn, turns, events, standing.mpr (.inl refused)⟩
  · have taken : ¬ Refused eighths ⟨0, 3000, 0⟩ := by decide +kernel
    rcases attitudeAdjustToFork_spec exact_eighths {} taken with ⟨adjusted, -, adjusts, -⟩
    have made : attitudeAdjustToFork eighths 0 (call 0 adjusted).current
        (call 0 adjusted).target.pose {} = some ((call 0 adjusted).adjusted, 0) := adjusts
    rcases load_leaves_standing_iff settings exact_eighths 0 (.initial 1000) rfl made with
      ⟨turn, turns, -, -, -, standing⟩
    exact ⟨adjusted, turn, turns,
      fun silent => taken ((standing trigonometric_eighths).mp silent)⟩

/-- Situation 3: the line of the load crosses that of the car ahead of its wheels. -/
def CrossesAhead (library : ForkLibrary) (loadCarPos : Pose) : Prop :=
  ¬ Straight library loadCarPos ∧ ∃ side crossing, Crosses library loadCarPos side ∧
    calculate2PointCrossYaxis loadCarPos (positionBeforeFork library loadCarPos) =
      some crossing ∧ 100 < crossing ∧ crossing < 1950

theorem attitudeSegments_of_crossesAhead {library : ForkLibrary} (uninitialized : ℚ)
    (forkliftCurrentPos : Pose) {loadCarPos : Pose} (ahead : CrossesAhead library loadCarPos) :
    ∃ side crossing, attitudeSegments library uninitialized forkliftCurrentPos loadCarPos =
      some (driveToCrossing library uninitialized forkliftCurrentPos loadCarPos goForwardMode
        side crossing) := by
  rcases ahead with ⟨beside, side, crossing, crosses, crossed, low, high⟩
  have segments (side : LoadSide) :
      crossingSegments library uninitialized forkliftCurrentPos loadCarPos side crossing =
        driveToCrossing library uninitialized forkliftCurrentPos loadCarPos goForwardMode side
          crossing := by
    have far : ¬ |crossing - 1960| < 10 := by
      rw [abs_lt]
      omega
    have behind : ¬ (crossing > 1970 ∧ crossing < loadCarPos.yPos) := by omega
    rw [crossingSegments, if_neg far, if_neg behind, if_pos ⟨high, low⟩]
  refine ⟨side, crossing, ?_⟩
  simp only [attitudeSegments, if_neg beside, crossed, Option.map_some, segments]
  cases side with
  | right => exact if_pos crosses
  | left =>
      have other : ¬ Crosses library loadCarPos .right :=
        fun right => absurd right.1 (not_lt.mpr crosses.1.le)
      rw [if_neg other, if_pos crosses]

/-- The first iteration of a forward segment that is to be driven backward. -/
theorem startForwardLine_backward {drive : Drive} {input : DriveInput}
    (slow : input.speed < 32768) (ahead : input.pose.xPos < 0)
    (backward : drive.targetSpeed = -100) (uncharged : drive.action ≠ actionCharge) :
    (drive.startForwardLine input).sent = startCommands 0 (-100) 0 ∧
      (drive.startForwardLine input).ret = 0 := by
  have reported : (input.toLineInput 0).speed > drive.targetSpeed ∧
      (input.toLineInput 0).speed < 32768 := by
    have low : input.speed.toNat < 32768 := slow
    have same : (input.toLineInput 0).speed = input.speed.toNat := rfl
    rw [same, backward]
    omega
  have prepared : (drive.toLineDrive.prepare (input.toLineInput 0).speed).currentLinearSpeed =
      -100 := by
    rw [LineDrive.prepare, if_neg uncharged, LineDrive.startSpeed, if_pos reported]
    exact backward
  have behind : ¬ (input.toLineInput 0).pose.xPos ≥ 0 := not_le.mpr ahead
  have started : (drive.toLineDrive.start (input.toLineInput 0)).sent = some (-100) ∧
      (drive.toLineDrive.start (input.toLineInput 0)).ret = 0 := by
    rw [LineDrive.start, if_neg behind]
    dsimp only
    split
    · exact ⟨congrArg some prepared, rfl⟩
    · exact ⟨congrArg some prepared, rfl⟩
  rw [Drive.startForwardLine]
  dsimp only
  rw [started.1]
  exact ⟨rfl, started.2⟩

/-- If the crossing is ahead, the car is set to drive forward with a speed below zero. -/
theorem crossing_ahead_starts_backward (settings : MotionSettings) {library : ForkLibrary}
    (uninitialized : ℚ) (thread : MotionThread) {call : SetTargetCall} {ret : Int}
    (carries : call.target.mode = carryGoods)
    (adjusts : attitudeAdjustToFork library uninitialized call.current call.target.pose {} =
      some (call.adjusted, ret))
    (taken : ¬ Refused library call.target.pose) (ahead : CrossesAhead library call.target.pose)
    (uncharged : call.target.action ≠ actionCharge) :
    ∃ turn, motionTurn settings library.toMathLibrary thread (.setTarget call) = some turn ∧
      ∀ input : TurnInput, input.speed < 32768 → input.relative.xPos < 0 →
        ∃ first, motionTurn settings library.toMathLibrary turn.thread (.loopRunning input) =
            some first ∧ first.sent = startCommands 0 (-100) 0 := by
  have accepted : ∃ turn,
      motionTurn settings library.toMathLibrary thread (.setTarget call) = some turn ∧ _ :=
    MotionThread.accepts_load carries
  rcases accepted with ⟨turn, turns, -, runs, fresh, -, -, mode, speed, target⟩
  refine ⟨turn, turns, fun input slow before => ?_⟩
  rcases attitudeSegments_of_crossesAhead uninitialized call.current ahead with
    ⟨side, crossing, set⟩
  rcases attitudeAdjustToFork_of_segments {} taken set (by simp [driveToCrossing]) with
    ⟨adjusted, made, holds, -⟩
  have same := congrArg Prod.fst (Option.some.inj (made.symm.trans adjusts))
  dsimp only at same
  rw [same] at holds
  have forward : turn.thread.helper.runningMode = goForwardMode := by
    rw [mode, holds.first]
    rfl
  have backward : turn.thread.helper.targetSpeed = -100 := by
    rw [speed, holds.first]
    rfl
  have action : ((turn.thread.toDrive .forwardToLine).action) ≠ actionCharge := by
    rw [← target] at uncharged
    exact uncharged
  have started : ((turn.thread.toDrive .forwardToLine).startForwardLine input.toDriveInput).sent =
      startCommands 0 (-100) 0 ∧ _ := startForwardLine_backward slow before backward action
  rcases started with ⟨sent, zero⟩
  have going : ¬ turn.thread.helper.isRunning = false := by
    rw [runs]
    decide
  have is : DriveFunction.ofMode turn.thread.helper.runningMode = some .forwardToLine := by
    rw [forward]
    rfl
  have iterated : DriveFunction.iterate (turn.thread.driveSettings settings)
      library.toMathLibrary input.toDriveInput (turn.thread.toDrive .forwardToLine)
      .forwardToLine =
        some ((turn.thread.toDrive .forwardToLine).startForwardLine input.toDriveInput) :=
    if_pos fresh
  rw [motionTurn, MotionThread.loopRunning, if_neg going, MotionThread.runMotion, is]
  dsimp only
  rw [MotionThread.drive, iterated, Option.map_some, Option.bind_some]
  dsimp only
  rw [zero]
  exact ⟨_, rfl, sent⟩

/-- A load at 2 m to the right, with a crossing 1 m away and the target 2110 mm ahead of it. -/
theorem crossing_ahead_starts_backward_right :
    let settings : MotionSettings :=
      { carID := 1001, delayDistanceOffset := 20, delayArcDistanceOffset := 20,
        wheelBase := 1500, delayAngleOffset := 2 }
    ∃ call : SetTargetCall, call.target.pose = ⟨2000, 3000, 135⟩ ∧
      call.current = ⟨0, 0, 0⟩ ∧ call.adjusted.first.target = ⟨960, 0, 0⟩ ∧ ∃ turn,
      motionTurn settings eighths.toMathLibrary (.initial 1000) (.setTarget call) = some turn ∧
      ∃ first, motionTurn settings eighths.toMathLibrary turn.thread
          (.loopRunning { pose := ⟨0, 0, 0⟩, relative := ⟨-960, 0, 0⟩, speed := 0 }) =
            some first ∧ first.sent = startCommands 0 (-100) 0 := by
  intro settings
  let target : RunContext :=
    { station := 7, mode := carryGoods, xPos := 2000, yPos := 3000, angle := 135, speed := 100 }
  have taken : ¬ Refused eighths target.pose := by decide +kernel
  have ahead : CrossesAhead eighths target.pose :=
    ⟨by decide +kernel, .right, 1000, by decide +kernel, by decide +kernel, by decide, by decide⟩
  have set : attitudeSegments eighths 0 ⟨0, 0, 0⟩ target.pose =
      some (driveToCrossing eighths 0 ⟨0, 0, 0⟩ target.pose goForwardMode .right 1000) := by
    decide +kernel
  rcases attitudeAdjustToFork_of_segments {} taken set (by simp [driveToCrossing]) with
    ⟨adjusted, adjusts, holds, -⟩
  have reached : adjusted.first.target = ⟨960, 0, 0⟩ := by
    rw [holds.first]
    decide +kernel
  let call : SetTargetCall :=
    { target, current := ⟨0, 0, 0⟩, geometry := { xPos := 0, yPos := 0 }, adjusted }
  have carries : call.target.mode = carryGoods := rfl
  have uncharged : target.action ≠ actionCharge := by decide
  rcases crossing_ahead_starts_backward settings 0 (.initial 1000) carries adjusts taken ahead
    uncharged with ⟨turn, turns, starts⟩
  exact ⟨call, rfl, rfl, reached, turn, turns, starts _ (by decide) (by decide)⟩

end DrivingControl.Controler

import DrivingControl.Controler.SubPaths
import Mathlib.Algebra.Order.Ring.Int
import Mathlib.Data.Nat.Sqrt

/-!
# The decomposition of a path

`SplitToSubTarget` looks at the car in the coordinates of the target, mirrors it to the
side of positive `yPos`, and puts together rotations, lines and arcs, depending on the
distance to the line of the target and on the quadrant of the heading.  The segments
are mirrored back, those behind the target are refused, and short ones are dropped.

What is computed with trigonometric functions and square roots is taken from outside:
positions in the coordinates of the target, radii, angle differences and the offsets of
arcs.  Headings and distances are exact.
-/

namespace DrivingControl.Controler

/-- `DIRECTION`. -/
inductive Direction where
  | forward
  | backward
  deriving DecidableEq, Repr

/-- What the two directions differ in: where the segments go to, the heading across the line
of the target, and the run modes. -/
structure Way where
  sign : Int
  across : ℚ
  line : Int
  arc : Int

def Direction.way : Direction → Way
  | .forward => ⟨1, 270, goForwardMode, forwardToArcMode⟩
  | .backward => ⟨-1, 90, goBackwardMode, backwardToArcMode⟩

/-- What the helper functions compute for one call, and the memory of the copy. -/
structure Geometry where
  /-- The position of the car in the coordinates of the target. -/
  xPos : Int
  yPos : Int
  /-- The radius of the circle through the car that touches the line of the target. -/
  circleRadius : Int := 0
  /-- What `getAngleDiff` or `getRotateAngle` returns. -/
  angleDiff : ℚ := 0
  /-- `x`, the offset of the centre of the arc. -/
  x : Int := 0
  lengthAE : Int := 0
  lengthBE : Int := 0
  /-- From the coordinates of the target to those of the lidar in the world. -/
  toWorld : Pose → Pose := id
  /-- The speed that stands in `copyOfSubPath` before it is set. -/
  uninitialized : Int := 0

/-- The members that a call reads. -/
structure SplitSettings where
  needStop : Bool
  maxSpeedAllowed : Int
  savedStandardRadius : Int
  deriving DecidableEq, Repr

/-- What a call returns, and the members that it writes. -/
structure Decomposition where
  ret : Int
  standardRadius : Int
  subpath : SubPaths
  deriving DecidableEq, Repr

/-- The heading of the car relative to that of the target. -/
def relativeHeading (current target : Pose) : ℚ :=
  let angle := current.angle - target.angle
  if angle < 0 then angle + 360 else angle

/-- Headings outside `[0, 360)` are refused. -/
def Pose.Invalid (pose : Pose) : Prop := pose.angle ≥ 360 ∨ pose.angle < 0

instance (pose : Pose) : Decidable pose.Invalid := inferInstanceAs (Decidable (_ ∨ _))

/-- The mirror image at the line of the target. -/
def Pose.mirror (pose : Pose) : Pose :=
  { pose with
    yPos := -pose.yPos
    angle := if pose.angle = 0 then pose.angle else 360 - pose.angle }

/-- The pose on the side of positive `yPos`. -/
def Pose.side (pose : Pose) : Pose := if pose.yPos < 0 then pose.mirror else pose

/-- `getDistanceBetweenPose`, truncated. -/
def distanceBetweenPose (start stop : Pose) : Int :=
  Nat.sqrt ((start.xPos - stop.xPos) ^ 2 + (start.yPos - stop.yPos) ^ 2).toNat

/-- `STANDARD_RADIUS`, from the radius of the circle. -/
def turningRadius (direction : Direction) (circleRadius savedStandardRadius : Int)
    (pose : Pose) : Int :=
  let special :=
    if circleRadius ≥ |pose.xPos| - 400 ∧ |pose.yPos| > |pose.xPos| - 400 then 2800
    else circleRadius
  let radius :=
    if |pose.angle - 90| ≤ 20 ∨ |pose.angle - 270| ≤ 20 then savedStandardRadius
    else if special > 4000 then 4000
    else special
  if direction = .backward ∨ radius < 1000 then 1000 else radius

/-! ## The segments -/

/-- The value that a branch gives to `subpathSize`, and its calls of `setSubpath`. -/
structure SubTargets where
  size : Nat
  targets : List (Pose × Int)

/-- A rotation on the spot. -/
def rotation (angleDiff : ℚ) : Pose × Int := (⟨0, 0, angleDiff⟩, rotateLeftMode)

namespace Way

variable (way : Way) (geometry : Geometry) (radius : Int) (pose : Pose)

/-- The line that ends at the target. -/
def goal : Pose × Int := (⟨0, 0, 0⟩, way.line)

/-- Follow the line. -/
def alongLine : SubTargets :=
  if |geometry.angleDiff| > 20 then ⟨2, [rotation geometry.angleDiff, way.goal]⟩
  else ⟨1, [way.goal]⟩

/-- First follow the arc, then follow the line. -/
def overArc : SubTargets :=
  let arc := (⟨pose.xPos + way.sign * geometry.x, 0, 0⟩, way.arc)
  if |geometry.angleDiff| > 20 then ⟨3, [rotation geometry.angleDiff, arc, way.goal]⟩
  else ⟨2, [arc, way.goal]⟩

/-- Follow a line across that of the target, an arc, and the line. -/
def overLineAcross : SubTargets :=
  let across := (⟨pose.xPos, radius, way.across⟩, way.line)
  let arc := (⟨pose.xPos + way.sign * radius, 0, 0⟩, way.arc)
  if |geometry.angleDiff| > 20 then ⟨4, [rotation geometry.angleDiff, across, arc, way.goal]⟩
  else ⟨3, [across, arc, way.goal]⟩

/-- The distance to the line of the target is greater than two radii. -/
def overDistantArcs : SubTargets :=
  let first := (⟨pose.xPos + way.sign * radius, pose.yPos - radius, way.across⟩, way.arc)
  let across := (⟨pose.xPos + way.sign * radius, radius, way.across⟩, way.line)
  let second := (⟨pose.xPos + way.sign * (2 * radius), 0, 0⟩, way.arc)
  if |geometry.angleDiff| > 20 then
    ⟨5, [rotation geometry.angleDiff, first, across, second, way.goal]⟩
  else ⟨4, [first, across, second, way.goal]⟩

/-- Two arcs without a line between them.  `length_BE` is what `x` leaves of the radius. -/
def overAdjacentArcs : SubTargets :=
  let lengthBE := radius - geometry.x
  let first := (⟨pose.xPos + way.sign * lengthBE, radius, way.across⟩, way.arc)
  let second := (⟨pose.xPos + way.sign * lengthBE + way.sign * radius, 0, 0⟩, way.arc)
  if |geometry.angleDiff| > 20 then
    ⟨4, [rotation geometry.angleDiff, first, second, way.goal]⟩
  else ⟨3, [first, second, way.goal]⟩

/-- The heading already points to the line of the target, and no rotation is needed. -/
def overInclinedArcs : SubTargets :=
  let first :=
    (⟨pose.xPos + way.sign * geometry.lengthBE, pose.yPos - geometry.lengthAE, way.across⟩,
      way.arc)
  let across := (⟨pose.xPos + way.sign * geometry.lengthBE, radius, way.across⟩, way.line)
  let second :=
    (⟨pose.xPos + way.sign * geometry.lengthBE + way.sign * radius, 0, 0⟩, way.arc)
  ⟨4, [first, across, second, way.goal]⟩

/-- The heading points away from the line of the target. -/
def headingAway : SubTargets :=
  if pose.yPos > 2 * radius then way.overDistantArcs geometry radius pose
  else way.overAdjacentArcs geometry radius pose

/-- The heading points to the line of the target. -/
def headingTowards : SubTargets :=
  if pose.yPos > radius + geometry.lengthAE then way.overInclinedArcs geometry radius pose
  else way.overAdjacentArcs geometry radius pose

end Way

/-- The branches for a car on the side of positive `yPos`. -/
def forwardSubTargets (geometry : Geometry) (radius : Int) (pose : Pose) : SubTargets :=
  let way := Direction.forward.way
  if pose.yPos ≤ 200 ∧ pose.yPos ≥ 0 then way.alongLine geometry
  else if pose.yPos ≤ radius ∧ pose.yPos > 200 then way.overArc geometry pose
  else if pose.yPos > radius then
    if pose.angle ≥ 90 ∧ pose.angle ≤ 270 then way.overLineAcross geometry radius pose
    else if pose.angle ≥ 0 ∧ pose.angle < 90 then way.headingAway geometry radius pose
    else if pose.angle > 270 ∧ pose.angle < 360 then way.headingTowards geometry radius pose
    else ⟨0, []⟩
  else ⟨0, []⟩

def backwardSubTargets (geometry : Geometry) (radius : Int) (pose : Pose) : SubTargets :=
  let way := Direction.backward.way
  if pose.yPos ≤ 200 ∧ pose.yPos ≥ 0 then way.alongLine geometry
  else if pose.yPos ≤ radius ∧ pose.yPos > 200 then way.overArc geometry pose
  else if pose.yPos > radius then
    if pose.angle ≥ 90 ∧ pose.angle ≤ 270 then way.overLineAcross geometry radius pose
    else if pose.angle > 270 ∧ pose.angle < 360 then way.headingAway geometry radius pose
    else if pose.angle ≥ 0 ∧ pose.angle < 90 then way.headingTowards geometry radius pose
    else ⟨0, []⟩
  else ⟨0, []⟩

def Direction.subTargets : Direction → Geometry → Int → Pose → SubTargets
  | .forward => forwardSubTargets
  | .backward => backwardSubTargets

/-- The position lies on the wrong side of the target. -/
def Direction.Passes : Direction → Int → Prop
  | .forward, xPos => xPos > 0
  | .backward, xPos => xPos < 0

instance (direction : Direction) (xPos : Int) : Decidable (direction.Passes xPos) := by
  cases direction
  · exact inferInstanceAs (Decidable (_ > _))
  · exact inferInstanceAs (Decidable (_ < _))

/-! ## The call -/

namespace SubPath

/-- On the other side a rotation turns the other way. -/
def turnOpposite (sub : SubPath) : SubPath :=
  if sub.rotates then
    { sub with target := { sub.target with
        angle := if -sub.target.angle = -180 then 180 else -sub.target.angle } }
  else sub

/-- Mirror a segment that is not a rotation. -/
def mirror (sub : SubPath) : SubPath :=
  if sub.rotates then sub else { sub with target := sub.target.mirror }

/-- Half a turn goes one way. -/
def halfTurn (sub : SubPath) : SubPath :=
  if sub.rotates ∧ sub.target.angle = -180 then
    { sub with target := { sub.target with angle := 180 } }
  else sub

/-- A segment that is not dropped: rotations stay, and what is longer than 200 mm. -/
def isLong (sub : SubPath) : Bool := sub.rotates || sub.distance > 200

end SubPath

/-- The copy of a segment with its length.  Its speed is not set. -/
def SubPath.measured (distance uninitialized : Int) (sub : SubPath) : SubPath :=
  { sub with distance, speed := uninitialized }

/-- The copies of segments with their lengths, from a pose on. -/
def measureFrom (uninitialized : Int) : Pose → List SubPath → List SubPath
  | _, [] => []
  | start, sub :: subs =>
      sub.measured (distanceBetweenPose start sub.target) uninitialized ::
        measureFrom uninitialized sub.target subs

/-- A rotation at the beginning has no length, and the next segment begins at the car. -/
def measure (uninitialized : Int) (savedCurrentPose : Pose) : List SubPath → List SubPath
  | [] => []
  | first :: rest =>
      if first.rotates then
        first.measured 0 uninitialized :: measureFrom uninitialized savedCurrentPose rest
      else measureFrom uninitialized savedCurrentPose (first :: rest)

/-- The segments that are copied.  The last one also stays for a precise stop. -/
def kept (needStop : Bool) (subs : List SubPath) : List SubPath :=
  subs.dropLast.filter SubPath.isLong ++
    subs.getLast?.toList.filter fun last => needStop || last.isLong

/-- `calTargetSpeedByPathDistance`. -/
def calTargetSpeedByPathDistance (maxSpeedAllowed distance : Int) : Int :=
  let speed :=
    if distance > 7000 then 1500
    else if distance > 5000 then 1300
    else if distance > 3000 then 1000
    else if distance > 2000 then 500
    else if distance > 500 then 300
    else 150
  if speed > maxSpeedAllowed then maxSpeedAllowed else speed

/-- The speed of a segment.  A rotation has `BASE_LINEAR_SPEED`. -/
def SubPath.setSpeed (maxSpeedAllowed : Int) (sub : SubPath) : SubPath :=
  { sub with
    speed :=
      if sub.runmode = goForwardMode ∨ sub.runmode = forwardToArcMode then
        calTargetSpeedByPathDistance maxSpeedAllowed sub.distance
      else if sub.runmode = goBackwardMode ∨ sub.runmode = backwardToArcMode then
        -calTargetSpeedByPathDistance maxSpeedAllowed sub.distance
      else 100 }

/-- A rotation stays relative. -/
def SubPath.toWorld (geometry : Geometry) (sub : SubPath) : SubPath :=
  if sub.rotates then sub else { sub with target := geometry.toWorld sub.target }

/-- `subpathSize = n`, and the calls of `setSubpath`. -/
def SubTargets.fill (parts : SubTargets) : Option SubPaths :=
  SubPaths.setSubpaths parts.targets { size := parts.size }

/-- The removal of short segments.  A single segment is not removed. -/
def simplify (settings : SplitSettings) (geometry : Geometry) (savedCurrentPose side : Pose)
    (paths : SubPaths) : Option SubPaths := do
  let subs ← paths.read
  if paths.size > 1 then
    let copies := kept settings.needStop (measure geometry.uninitialized savedCurrentPose subs)
    SubPaths.copyFrom copies { size := copies.length }
  else
    some (paths.changeFirst fun first =>
      { first with distance := distanceBetweenPose side first.target })

/-- The mirrored segments. -/
def SubPaths.mirror (mirrorFlag : Bool) (paths : SubPaths) : Option SubPaths :=
  if mirrorFlag then (paths.changeFirst SubPath.turnOpposite).changeAll SubPath.mirror
  else some paths

/-- The segments of a branch, mirrored back to the side of the car. -/
def SubTargets.mirrorBack (parts : SubTargets) (mirrorFlag : Bool) : Option SubPaths := do
  let paths ← parts.fill
  let mirrored ← paths.mirror mirrorFlag
  some (mirrored.changeFirst SubPath.halfTurn)

/-- The end of a call that does not fail: the short segments, the speeds, and the
coordinates. -/
def finish (settings : SplitSettings) (geometry : Geometry) (pose : Pose) (paths : SubPaths) :
    Option SubPaths := do
  let simple ← simplify settings geometry pose pose.side paths
  let driven ← simple.changeAll (SubPath.setSpeed settings.maxSpeedAllowed)
  driven.changeAll (SubPath.toWorld geometry)

/-- The pose of the car in the coordinates of the target. -/
def Geometry.relative (geometry : Geometry) (current target : Pose) : Pose :=
  ⟨geometry.xPos, geometry.yPos, relativeHeading current target⟩

/-- `SplitToSubTarget`.  There is no result when an entry behind the end of `subpath` is
written or read. -/
def splitToSubTarget (settings : SplitSettings) (geometry : Geometry) (current target : Pose)
    (direction : Direction) (standardRadius : Int) : Option Decomposition :=
  if current.Invalid ∨ target.Invalid then some ⟨-1, standardRadius, {}⟩
  else
    let pose := geometry.relative current target
    let radius :=
      turningRadius direction geometry.circleRadius settings.savedStandardRadius pose
    if direction.Passes pose.xPos then some ⟨-1, radius, {}⟩
    else do
      let turned ← (direction.subTargets geometry radius pose.side).mirrorBack (pose.yPos < 0)
      let subs ← turned.read
      if ∃ sub ∈ subs, direction.Passes sub.target.xPos then some ⟨-1, radius, {}⟩
      else
        let driven ← finish settings geometry pose turned
        some ⟨0, radius, driven⟩

end DrivingControl.Controler

import DrivingControl.Controler.SubPaths
import DrivingControl.Library.Plane
import DrivingControl.Utils.MathUtils

/-!
# The circle of an arc

`getCircleCenter` finds the circle that goes through the car and touches the heading of the
target there: its centre is where the normal at the target meets the line that stands on the
middle of the chord.  There is such a circle exactly if the car is not on the line of the
heading already.  If it is, the two lines are parallel, and the centre is the origin.

Coordinates are rational numbers.  What the C library computes from them is a parameter.
-/

namespace DrivingControl.Controler

open DrivingControl.Library

/-- The functions of the C library, for angles in degrees. -/
structure MathLibrary where
  sin : ℚ → ℚ
  tan : ℚ → ℚ
  atan2 : ℚ → ℚ → ℚ
  sqrt : ℚ → ℚ

/-- `POINT`. -/
abbrev Point := PlanePoint ℚ

/-- `LINE1`; its members `L1` to `L3` are the coefficients of the equation. -/
abbrev Line1 := PlaneLine ℚ

/-- `CIRCLE`. -/
structure Circle where
  center : Point := ⟨0, 0⟩
  radius : ℚ := 0
  deriving DecidableEq, Repr

/-- `PATHDIRECTION`. -/
inductive PathDirection where
  | clockwise
  | anticlockwise
  deriving DecidableEq, Repr

/-- `getPointFromPose`. -/
def Pose.point (pose : Pose) : Point := ⟨pose.xPos, pose.yPos⟩

namespace Line1

/-- `getLineFromAngleAndPoint`. -/
def fromAngleAndPoint (library : MathLibrary) (angle : ℚ) (point : Point) : Line1 :=
  let k := library.tan angle
  if k ≥ 1000 ∨ k < -1000 then ⟨1, 0, -point.x⟩ else ⟨k, -1, point.y - k * point.x⟩

/-- `getLineFromPoint`. -/
def fromPoint (startPoint endPoint : Point) : Line1 :=
  if startPoint.x = endPoint.x ∧ startPoint.y = endPoint.y then ⟨0, 0, 0⟩
  else if startPoint.x = endPoint.x then ⟨1, 0, -startPoint.x⟩
  else if startPoint.y = endPoint.y then ⟨0, -1, startPoint.y⟩
  else
    let slope := (startPoint.y - endPoint.y) / (startPoint.x - endPoint.x)
    ⟨slope, -1, -slope * startPoint.x + startPoint.y⟩

/-- `getVerticalLine`. -/
def vertical (line : Line1) (point : Point) : Line1 :=
  if line.a = 0 ∧ line.b = 0 then ⟨0, 0, 0⟩
  else if line.a = 0 then ⟨-1, 0, point.x⟩
  else if line.b = 0 then ⟨0, -1, point.y⟩
  else ⟨-1 / line.a, line.b, -(-1 / line.a * point.x + line.b * point.y)⟩

/-- `getIntersection`. -/
def intersection (first second : Line1) : Point :=
  if first.a = 0 ∧ first.b = 0 then ⟨0, 0⟩
  else if second.a = 0 ∧ second.b = 0 then ⟨0, 0⟩
  else if first.a * second.b = first.b * second.a then ⟨0, 0⟩
  else
    let x := (-first.c * second.b + first.b * second.c) /
      (first.a * second.b - first.b * second.a)
    if first.b = 0 then ⟨x, -(second.a * x + second.c) / second.b⟩
    else ⟨x, -(first.a * x + first.c) / first.b⟩

end Line1

/-- `getDistanceBetweenPoints`. -/
def distanceBetweenPoints (library : MathLibrary) (startPoint endPoint : Point) : ℚ :=
  library.sqrt (startPoint.sqDist endPoint)

/-- The line of the heading, through the target. -/
def tangentLine (library : MathLibrary) (targetpose : Pose) : Line1 :=
  Line1.fromAngleAndPoint library targetpose.angle targetpose.point

/-- The line that stands on it there. -/
def normalLine (library : MathLibrary) (targetpose : Pose) : Line1 :=
  (tangentLine library targetpose).vertical targetpose.point

/-- The line that stands on the middle of the chord. -/
def bisectorLine (startpose targetpose : Pose) : Line1 :=
  (Line1.fromPoint startpose.point targetpose.point).vertical
    (startpose.point.midpoint targetpose.point)

/-- The center of `getCircleCenter`. -/
def circleCenter (library : MathLibrary) (startpose targetpose : Pose) : Point :=
  (normalLine library targetpose).intersection (bisectorLine startpose targetpose)

/-- `getCircleCenter`. -/
def getCircleCenter (library : MathLibrary) (startpose targetpose : Pose) : Circle :=
  let center := circleCenter library startpose targetpose
  ⟨center, distanceBetweenPoints library center targetpose.point⟩

/-- `getLineAngleFromPoint`. -/
def lineAngleFromPoint (library : MathLibrary) (startPoint endPoint : Point) : ℚ :=
  library.atan2 (endPoint.y - startPoint.y) (endPoint.x - startPoint.x)

/-- `getRotateAngle` with a path direction; it does not use the other direction. -/
def getRotateAngle (library : MathLibrary) (currentpose : Pose) (center : Point)
    (pathDirection : PathDirection) : ℚ :=
  let lineAngle := lineAngleFromPoint library currentpose.point center
  let rotateAngle :=
    match pathDirection with
    | .anticlockwise => if lineAngle - 90 < 0 then lineAngle - 90 + 360 else lineAngle - 90
    | .clockwise =>
        if lineAngle + 90 < 0 then lineAngle + 90 + 360
        else if lineAngle + 90 ≥ 360 then lineAngle + 90 - 360
        else lineAngle + 90
  Utils.transformAngle (currentpose.angle - rotateAngle) (-360) 360 180

/-! ## Lines as the functions make them -/

namespace Line1

/-- The lines that the functions make, and make their results from. -/
def Normalised (line : Line1) : Prop := line.b = -1 ∨ line.b = 0 ∧ (line.a = 1 ∨ line.a = -1)

variable {line first second : Line1} {point other : Point}

theorem Normalised.proper (normalised : line.Normalised) : line.Proper := by
  rcases normalised with level | ⟨-, upright | upright⟩
  · exact .inr (by rw [level]; decide)
  · exact .inl (by rw [upright]; decide)
  · exact .inl (by rw [upright]; decide)

theorem fromAngleAndPoint_spec (library : MathLibrary) (angle : ℚ) (point : Point) :
    (fromAngleAndPoint library angle point).Normalised ∧
      (fromAngleAndPoint library angle point).Passes point := by
  simp only [fromAngleAndPoint, PlaneLine.Passes]
  split
  · exact ⟨.inr ⟨rfl, .inl rfl⟩, by ring⟩
  · exact ⟨.inl rfl, by ring⟩

theorem fromPoint_spec (different : point ≠ other) :
    (fromPoint point other).Normalised ∧ (fromPoint point other).Passes point ∧
      (fromPoint point other).Passes other := by
  have apart : ¬ (point.x = other.x ∧ point.y = other.y) :=
    fun same => different (PlanePoint.ext same.1 same.2)
  simp only [fromPoint, if_neg apart, PlaneLine.Passes]
  split
  next upright => exact ⟨.inr ⟨rfl, .inl rfl⟩, by ring, by linear_combination -upright⟩
  next sloped =>
    split
    next level => exact ⟨.inl rfl, by ring, by linear_combination level⟩
    next =>
      have run : point.x - other.x ≠ 0 := sub_ne_zero.mpr sloped
      refine ⟨.inl rfl, by ring, ?_⟩
      field_simp
      ring

/-- The function for any line would need a division by the second coefficient too. -/
theorem vertical_spec (normalised : line.Normalised) (point : Point) :
    (line.vertical point).Normalised ∧ line.Perpendicular (line.vertical point) ∧
      (line.vertical point).Passes point := by
  have proper := normalised.proper
  have some : ¬ (line.a = 0 ∧ line.b = 0) := by
    rintro ⟨a, b⟩
    exact proper.elim (absurd a) (absurd b)
  simp only [vertical, if_neg some, PlaneLine.Perpendicular, PlaneLine.Passes]
  split
  next level => exact ⟨.inr ⟨rfl, .inr rfl⟩, by rw [level]; ring, by ring⟩
  next sloped =>
    split
    next upright => exact ⟨.inl rfl, by rw [upright]; ring, by ring⟩
    next tilted =>
      have unit : line.b = -1 := normalised.resolve_right fun upright => tilted upright.1
      refine ⟨.inl unit, ?_, by ring⟩
      rw [unit]
      field_simp
      ring

/-- The intersection of lines that are not parallel is on both. -/
theorem intersection_spec (crossing : ¬ first.Parallel second) :
    first.Passes (first.intersection second) ∧ second.Passes (first.intersection second) := by
  rw [PlaneLine.Parallel] at crossing
  have firstProper : ¬ (first.a = 0 ∧ first.b = 0) := by
    rintro ⟨a, b⟩
    exact crossing (by rw [a, b, zero_mul, zero_mul])
  have secondProper : ¬ (second.a = 0 ∧ second.b = 0) := by
    rintro ⟨a, b⟩
    exact crossing (by rw [a, b, mul_zero, mul_zero])
  have determinant : first.a * second.b - first.b * second.a ≠ 0 := sub_ne_zero.mpr crossing
  have solved := div_mul_cancel₀ (-first.c * second.b + first.b * second.c) determinant
  simp only [intersection, if_neg firstProper, if_neg secondProper, if_neg crossing,
    PlaneLine.Passes]
  generalize (-first.c * second.b + first.b * second.c) /
    (first.a * second.b - first.b * second.a) = x at solved
  split
  next upright =>
    rw [upright, zero_mul, sub_zero] at determinant
    have firstA := left_ne_zero_of_mul determinant
    have secondB := right_ne_zero_of_mul determinant
    rw [upright] at solved ⊢
    constructor
    · apply mul_right_cancel₀ secondB
      linear_combination solved
    · field_simp
      ring
  next sloped =>
    constructor
    · field_simp
      ring
    · field_simp
      linear_combination -solved

/-- Of parallel lines it is the origin. -/
theorem intersection_parallel (parallel : first.Parallel second) :
    first.intersection second = ⟨0, 0⟩ := by
  rw [PlaneLine.Parallel] at parallel
  simp only [intersection, if_pos parallel, ite_self]

end Line1

/-! ## The circle -/

section Circle

variable (library : MathLibrary) {startpose targetpose : Pose}

theorem tangentLine_spec (targetpose : Pose) :
    (tangentLine library targetpose).Normalised ∧
      (tangentLine library targetpose).Passes targetpose.point :=
  Line1.fromAngleAndPoint_spec library targetpose.angle targetpose.point

theorem normalLine_spec (targetpose : Pose) :
    (normalLine library targetpose).Normalised ∧
      (tangentLine library targetpose).Perpendicular (normalLine library targetpose) ∧
      (normalLine library targetpose).Passes targetpose.point :=
  Line1.vertical_spec (tangentLine_spec library targetpose).1 targetpose.point

/-- The two lines that should meet are parallel if the car is on the line of the heading. -/
theorem parallel_iff_passes_tangentLine (different : startpose.point ≠ targetpose.point) :
    (normalLine library targetpose).Parallel (bisectorLine startpose targetpose) ↔
      (tangentLine library targetpose).Passes startpose.point := by
  have tangent := tangentLine_spec library targetpose
  have normal := normalLine_spec library targetpose
  have chord := Line1.fromPoint_spec different
  have bisector := Line1.vertical_spec chord.1 (startpose.point.midpoint targetpose.point)
  have standing := PlaneLine.parallel_iff_of_perpendicular tangent.1.proper chord.1.proper
    normal.1.proper bisector.1.proper normal.2.1 bisector.2.1
  exact standing.trans
    (PlaneLine.parallel_iff_passes different chord.1.proper chord.2.1 chord.2.2 tangent.2)

/-- What both lines pass is the center of a circle through both points that touches the line of
the heading. -/
theorem touches_of_meets {center : Point} (different : startpose.point ≠ targetpose.point)
    (onNormal : (normalLine library targetpose).Passes center)
    (onBisector : (bisectorLine startpose targetpose).Passes center) :
    (tangentLine library targetpose).Touches targetpose.point startpose.point center := by
  have normal := normalLine_spec library targetpose
  have chord := Line1.fromPoint_spec different
  have bisector := Line1.vertical_spec chord.1 (startpose.point.midpoint targetpose.point)
  constructor
  · exact (PlaneLine.passes_normal_iff (tangentLine_spec library targetpose).1.proper
      normal.1.proper normal.2.1 normal.2.2).mp onNormal
  · exact (PlaneLine.passes_bisector_iff chord.1.proper bisector.1.proper chord.2.1 chord.2.2
      different bisector.2.1 bisector.2.2).mp onBisector

/-- From a car on the line the center is the origin. -/
theorem circleCenter_of_passes (different : startpose.point ≠ targetpose.point)
    (on : (tangentLine library targetpose).Passes startpose.point) :
    circleCenter library startpose targetpose = ⟨0, 0⟩ :=
  Line1.intersection_parallel ((parallel_iff_passes_tangentLine library different).mpr on)

end Circle

end DrivingControl.Controler

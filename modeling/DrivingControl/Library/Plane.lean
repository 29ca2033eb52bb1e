import Mathlib.Algebra.Order.Field.Basic
import Mathlib.Tactic.FieldSimp
import Mathlib.Tactic.LinearCombination
import Mathlib.Tactic.Ring

/-!
# Lines and circles in the plane

A line is given by the coefficients of its equation, of which the first two are the normal
vector.  A circle that touches a line at a point of it has its centre on the normal there, and
through any point that is not on the line there is exactly one.
-/

namespace DrivingControl.Library

universe u

/-- A point by its coordinates. -/
@[ext] structure PlanePoint (Value : Type u) where
  x : Value
  y : Value
  deriving DecidableEq, Repr

/-- The line `a * x + b * y + c = 0`. -/
structure PlaneLine (Value : Type u) where
  a : Value
  b : Value
  c : Value
  deriving DecidableEq, Repr

variable {Value : Type u} [Field Value]

/-- The square of the distance. -/
def PlanePoint.sqDist (first second : PlanePoint Value) : Value :=
  (first.x - second.x) * (first.x - second.x) + (first.y - second.y) * (first.y - second.y)

/-- The point halfway between two. -/
def PlanePoint.midpoint (first second : PlanePoint Value) : PlanePoint Value :=
  ⟨(first.x + second.x) / (2 : ℕ), (first.y + second.y) / (2 : ℕ)⟩

namespace PlaneLine

variable (line other : PlaneLine Value) (point : PlanePoint Value)

/-- The line goes through a point. -/
def Passes : Prop := line.a * point.x + line.b * point.y + line.c = 0

/-- The equation has a normal vector, so that it is one of a line. -/
def Proper : Prop := line.a ≠ 0 ∨ line.b ≠ 0

def Perpendicular : Prop := line.a * other.a + line.b * other.b = 0

def Parallel : Prop := line.a * other.b = line.b * other.a

instance [DecidableEq Value] : Decidable (line.Passes point) :=
  inferInstanceAs (Decidable (_ = _))

instance [DecidableEq Value] : Decidable (line.Parallel other) :=
  inferInstanceAs (Decidable (_ = _))

variable {line other point}

/-- A perpendicular line has the normal vector turned by a right angle, and stretched. -/
theorem Perpendicular.exists_turned (proper : line.Proper)
    (perpendicular : line.Perpendicular other) :
    ∃ stretch, other.a = -stretch * line.b ∧ other.b = stretch * line.a ∧
      (other.Proper → stretch ≠ 0) := by
  have stretched {stretch : Value} (turnedA : other.a = -stretch * line.b)
      (turnedB : other.b = stretch * line.a) : other.Proper → stretch ≠ 0 := by
    rintro otherProper rfl
    rw [neg_zero, zero_mul] at turnedA
    rw [zero_mul] at turnedB
    exact otherProper.elim (absurd turnedA) (absurd turnedB)
  rw [Perpendicular] at perpendicular
  rcases proper with horizontal | vertical
  · have turnedA : other.a = -(other.b / line.a) * line.b := by
      field_simp
      linear_combination perpendicular
    have turnedB : other.b = other.b / line.a * line.a := by field_simp
    exact ⟨other.b / line.a, turnedA, turnedB, stretched turnedA turnedB⟩
  · have turnedA : other.a = -(-other.a / line.b) * line.b := by field_simp
    have turnedB : other.b = -other.a / line.b * line.a := by
      field_simp
      linear_combination perpendicular
    exact ⟨-other.a / line.b, turnedA, turnedB, stretched turnedA turnedB⟩

/-- Two lines are as parallel as the lines that stand on them. -/
theorem parallel_iff_of_perpendicular {standing otherStanding : PlaneLine Value}
    (proper : line.Proper) (otherProper : other.Proper) (standingProper : standing.Proper)
    (otherStandingProper : otherStanding.Proper) (stands : line.Perpendicular standing)
    (otherStands : other.Perpendicular otherStanding) :
    standing.Parallel otherStanding ↔ line.Parallel other := by
  rcases stands.exists_turned proper with ⟨stretch, turnedA, turnedB, stretched⟩
  rcases otherStands.exists_turned otherProper with
    ⟨otherStretch, otherA, otherB, otherStretched⟩
  have both : stretch * otherStretch ≠ 0 :=
    mul_ne_zero (stretched standingProper) (otherStretched otherStandingProper)
  rw [Parallel, Parallel, turnedA, turnedB, otherA, otherB]
  constructor
  · intro parallel
    apply mul_left_cancel₀ both
    linear_combination parallel
  · intro parallel
    linear_combination stretch * otherStretch * parallel

/-- A line through two points is parallel to another through the one of them exactly if that
goes through both. -/
theorem parallel_iff_passes {first second : PlanePoint Value} (different : first ≠ second)
    (proper : other.Proper) (passesFirst : other.Passes first) (passesSecond : other.Passes second)
    (passes : line.Passes second) : line.Parallel other ↔ line.Passes first := by
  rw [Passes] at passesFirst passesSecond passes
  rw [Parallel, Passes]
  have chord : other.a * (first.x - second.x) + other.b * (first.y - second.y) = 0 := by
    linear_combination passesFirst - passesSecond
  constructor
  · intro parallel
    rcases proper with horizontal | vertical
    · apply mul_left_cancel₀ horizontal
      linear_combination line.a * chord - (first.y - second.y) * parallel + other.a * passes
    · apply mul_left_cancel₀ vertical
      linear_combination line.b * chord + (first.x - second.x) * parallel + other.b * passes
  · intro through
    have along : line.a * (first.x - second.x) + line.b * (first.y - second.y) = 0 := by
      linear_combination through - passes
    by_cases level : first.x - second.x = 0
    · have apart : first.y - second.y ≠ 0 := by
        intro same
        exact different (PlanePoint.ext (sub_eq_zero.mp level) (sub_eq_zero.mp same))
      rw [level, mul_zero, zero_add] at chord along
      rw [(mul_eq_zero.mp chord).resolve_right apart, (mul_eq_zero.mp along).resolve_right apart]
      ring
    · apply mul_left_cancel₀ level
      linear_combination other.b * along - line.b * chord

/-- The points as far from the one end of a chord as from the other are those of the line that
stands on its middle. -/
theorem passes_bisector_iff [NeZero (2 : Value)] {chord bisector : PlaneLine Value}
    {first second : PlanePoint Value} (chordProper : chord.Proper)
    (bisectorProper : bisector.Proper) (passesFirst : chord.Passes first)
    (passesSecond : chord.Passes second) (different : first ≠ second)
    (stands : chord.Perpendicular bisector) (halves : bisector.Passes (first.midpoint second)) :
    bisector.Passes point ↔ point.sqDist first = point.sqDist second := by
  have two : (2 : Value) ≠ 0 := NeZero.ne 2
  rcases stands.exists_turned chordProper with ⟨stretch, turnedA, turnedB, stretched⟩
  rw [Passes] at passesFirst passesSecond
  -- The chord as a vector stands on its normal.
  have across : chord.Perpendicular ⟨first.x - second.x, first.y - second.y, 0⟩ := by
    rw [Perpendicular]
    linear_combination passesFirst - passesSecond
  rcases across.exists_turned chordProper with ⟨length, acrossX, acrossY, long⟩
  replace long : length ≠ 0 := by
    apply long
    by_contra improper
    rw [Proper, not_or, not_not, not_not] at improper
    exact different (PlanePoint.ext (sub_eq_zero.mp improper.1) (sub_eq_zero.mp improper.2))
  rw [Passes, turnedA, turnedB, PlanePoint.midpoint, Nat.cast_ofNat] at halves
  rw [Passes, turnedA, turnedB, PlanePoint.sqDist, PlanePoint.sqDist]
  have middle : 2 * bisector.c = stretch * (chord.b * (first.x + second.x) -
      chord.a * (first.y + second.y)) := by
    field_simp at halves
    linear_combination halves
  constructor
  · intro on
    apply mul_left_cancel₀ (mul_ne_zero (stretched bisectorProper) two)
    linear_combination -4 * length * on +
      2 * stretch * (first.x + second.x - 2 * point.x) * acrossX +
      2 * stretch * (first.y + second.y - 2 * point.y) * acrossY + 2 * length * middle
  · intro equal
    apply mul_left_cancel₀ (mul_ne_zero long two)
    linear_combination -stretch * equal +
      stretch * (first.x + second.x - 2 * point.x) * acrossX +
      stretch * (first.y + second.y - 2 * point.y) * acrossY + length * middle

/-- The circle around a centre that touches a line at a point of it goes through another
point. -/
structure Touches (tangent : PlaneLine Value) (target start centre : PlanePoint Value) : Prop where
  /-- The radius to the point of contact stands on the line. -/
  stands : (centre.x - target.x) * tangent.b = (centre.y - target.y) * tangent.a
  equidistant : centre.sqDist start = centre.sqDist target

variable {tangent : PlaneLine Value} {target start centre : PlanePoint Value}

/-- The points of the normal are those with a radius that stands on the line. -/
theorem passes_normal_iff {normal : PlaneLine Value} (proper : tangent.Proper)
    (normalProper : normal.Proper) (perpendicular : tangent.Perpendicular normal)
    (passes : normal.Passes target) :
    normal.Passes centre ↔
      (centre.x - target.x) * tangent.b = (centre.y - target.y) * tangent.a := by
  rcases perpendicular.exists_turned proper with ⟨stretch, turnedA, turnedB, stretched⟩
  rw [Passes, turnedA, turnedB] at passes
  rw [Passes, turnedA, turnedB]
  constructor
  · intro on
    apply mul_left_cancel₀ (stretched normalProper)
    linear_combination passes - on
  · intro stands
    linear_combination passes - stretch * stands

/-- How far the points of a circle are from the line it touches. -/
theorem Touches.sqDist_eq (touches : tangent.Touches target start centre)
    (proper : tangent.Proper) (passes : tangent.Passes target) :
    ∃ stretch, centre.x - target.x = stretch * tangent.a ∧
      centre.y - target.y = stretch * tangent.b ∧
      start.sqDist target =
        2 * stretch * (tangent.a * start.x + tangent.b * start.y + tangent.c) := by
  rcases touches with ⟨stands, equidistant⟩
  have turned : Perpendicular ⟨-tangent.b, tangent.a, 0⟩
      ⟨centre.x - target.x, centre.y - target.y, 0⟩ := by
    rw [Perpendicular]
    linear_combination -stands
  rcases turned.exists_turned (proper.symm.imp neg_ne_zero.mpr id) with
    ⟨stretch, acrossX, acrossY, -⟩
  dsimp only at acrossX acrossY
  rw [Passes] at passes
  rw [PlanePoint.sqDist, PlanePoint.sqDist] at equidistant
  refine ⟨-stretch, by linear_combination acrossX, by linear_combination acrossY, ?_⟩
  rw [PlanePoint.sqDist]
  linear_combination equidistant + 2 * stretch * passes + 2 * (start.x - target.x) * acrossX +
    2 * (start.y - target.y) * acrossY

/-- Through a point that is not on the line there is no second such circle. -/
theorem Touches.unique [NeZero (2 : Value)] {otherCentre : PlanePoint Value}
    (touches : tangent.Touches target start centre) (proper : tangent.Proper)
    (passes : tangent.Passes target) (off : ¬ tangent.Passes start)
    (otherTouches : tangent.Touches target start otherCentre) : otherCentre = centre := by
  rcases touches.sqDist_eq proper passes with ⟨stretch, acrossX, acrossY, far⟩
  rcases otherTouches.sqDist_eq proper passes with ⟨otherStretch, otherX, otherY, otherFar⟩
  have same : otherStretch = stretch := by
    apply mul_left_cancel₀ (mul_ne_zero (NeZero.ne (2 : Value)) off)
    linear_combination far - otherFar
  rw [same] at otherX otherY
  exact PlanePoint.ext (sub_left_injective (otherX.trans acrossX.symm))
    (sub_left_injective (otherY.trans acrossY.symm))

/-- Through another point of the line there is none. -/
theorem not_touches [LinearOrder Value] [IsStrictOrderedRing Value] (proper : tangent.Proper)
    (passes : tangent.Passes target) (on : tangent.Passes start) (different : start ≠ target) :
    ¬ tangent.Touches target start centre := by
  intro touches
  rcases touches.sqDist_eq proper passes with ⟨stretch, -, -, far⟩
  rw [Passes] at on
  rw [on, mul_zero, PlanePoint.sqDist] at far
  have level : start.x - target.x = 0 := by
    rw [← mul_self_eq_zero]
    exact le_antisymm (far ▸ le_add_of_nonneg_right (mul_self_nonneg _)) (mul_self_nonneg _)
  have upright : start.y - target.y = 0 := by
    rw [← mul_self_eq_zero]
    exact le_antisymm (far ▸ le_add_of_nonneg_left (mul_self_nonneg _)) (mul_self_nonneg _)
  exact different (PlanePoint.ext (sub_eq_zero.mp level) (sub_eq_zero.mp upright))

end PlaneLine

end DrivingControl.Library

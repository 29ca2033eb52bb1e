import Mathlib.Algebra.Order.Field.Basic
import Mathlib.Data.List.Basic
import Mathlib.Data.List.Defs
import Mathlib.Tactic.FieldSimp
import Mathlib.Tactic.Linarith
import Mathlib.Tactic.Ring

/-!
# Piecewise linear curves

A curve is given by its knots, from left to right.  Where it rises it is inverted by a
search for the segment whose values enclose the given one.  The values of the knots may
repeat: a level segment encloses no value, so no search ends in one.
-/

namespace DrivingControl.Library

universe u

/-- A point that a curve goes through. -/
structure Knot (Value : Type u) where
  x : Value
  y : Value
  deriving DecidableEq, Repr

namespace Knot

variable {Value : Type u} [Field Value] [LinearOrder Value]

/-- The line through two knots. -/
def line (p q : Knot Value) (x : Value) : Value := p.y + (q.y - p.y) / (q.x - p.x) * (x - p.x)

/-- Where the line through two knots has a value. -/
def solution (p q : Knot Value) (y : Value) : Value :=
  p.x + (q.x - p.x) / (q.y - p.y) * (y - p.y)

/-- The curve through some knots. -/
def curve : List (Knot Value) → Value → Value
  | [], _ => 0
  | [p], _ => p.y
  | p :: q :: rest, x => if x < q.x then line p q x else curve (q :: rest) x

/-- Where the curve has a value: the first segment that encloses the value is solved. -/
def invert : List (Knot Value) → Value → Option Value
  | p :: q :: rest, y =>
      if p.y ≤ y ∧ y < q.y then some (solution p q y) else invert (q :: rest) y
  | _, _ => none

/-- The knots lie from left to right, and their values do not fall. -/
def Rises (knots : List (Knot Value)) : Prop :=
  knots.IsChain fun p q => p.x < q.x ∧ p.y ≤ q.y

instance (knots : List (Knot Value)) : Decidable (Rises knots) :=
  inferInstanceAs (Decidable (List.IsChain _ _))

/-! ## One segment -/

section Segment

variable [IsStrictOrderedRing Value] {p q : Knot Value} {y : Value} (forward : p.x < q.x)
  (low : p.y ≤ y) (high : y < q.y)

include forward low high

theorem le_solution : p.x ≤ solution p q y := by
  have slope : 0 ≤ (q.x - p.x) / (q.y - p.y) :=
    div_nonneg (sub_nonneg.mpr forward.le) (sub_nonneg.mpr (low.trans high.le))
  exact le_add_of_nonneg_right (mul_nonneg slope (sub_nonneg.mpr low))

theorem solution_lt : solution p q y < q.x := by
  have rise : 0 < q.y - p.y := sub_pos.mpr (low.trans_lt high)
  have run : 0 < q.x - p.x := sub_pos.mpr forward
  have part : (q.x - p.x) / (q.y - p.y) * (y - p.y) < q.x - p.x := by
    rw [div_mul_eq_mul_div, div_lt_iff₀ rise]
    exact mul_lt_mul_of_pos_left (sub_lt_sub_right high p.y) run
  rw [solution]
  linarith

theorem line_solution : line p q (solution p q y) = y := by
  have rise : q.y - p.y ≠ 0 := (sub_pos.mpr (low.trans_lt high)).ne'
  have run : q.x - p.x ≠ 0 := (sub_pos.mpr forward).ne'
  rw [line, solution]
  field_simp
  ring

end Segment

/-! ## The whole curve -/

variable {knots : List (Knot Value)} {y : Value}

/-- A value between those of the first and the last knot is enclosed by a segment. -/
theorem exists_invert {p last : Knot Value} (ends : (p :: knots).getLast? = some last)
    (low : p.y ≤ y) (high : y < last.y) : ∃ x, invert (p :: knots) y = some x := by
  induction knots generalizing p with
  | nil =>
      cases ends
      exact absurd high (not_lt.mpr low)
  | cons q rest ih =>
      rw [invert]
      split
      · exact ⟨_, rfl⟩
      next outside =>
        have later : q.y ≤ y := not_lt.mp fun below => outside ⟨low, below⟩
        rw [List.getLast?_cons_cons] at ends
        exact ih ends later

/-- The curve starts at its first knot. -/
theorem curve_first {p : Knot Value} (rises : Rises (p :: knots)) :
    curve (p :: knots) p.x = p.y := by
  cases knots with
  | nil => rfl
  | cons q rest =>
      rw [curve, if_pos (List.isChain_cons_cons.mp rises).1.1, line, sub_self, mul_zero, add_zero]

/-- The curve ends at its last knot. -/
theorem curve_last {last : Knot Value} (rises : Rises knots)
    (ends : knots.getLast? = some last) : knots.head?.all (·.x ≤ last.x) ∧
      curve knots last.x = last.y := by
  induction knots with
  | nil => cases ends
  | cons p tail ih =>
      cases tail with
      | nil =>
          cases ends
          exact ⟨by simp, rfl⟩
      | cons q rest =>
          rcases List.isChain_cons_cons.mp rises with ⟨⟨forward, -⟩, behind⟩
          rw [List.getLast?_cons_cons] at ends
          rcases ih behind ends with ⟨right, value⟩
          simp only [List.head?_cons, Option.all_some, decide_eq_true_eq] at right ⊢
          exact ⟨forward.le.trans right, by rw [curve, if_neg (not_lt.mpr right), value]⟩

variable [IsStrictOrderedRing Value]

/-- What is found lies right of the first knot, and so does the value. -/
theorem le_of_invert {p : Knot Value} {x : Value} (rises : Rises (p :: knots))
    (found : invert (p :: knots) y = some x) : p.x ≤ x ∧ p.y ≤ y := by
  induction knots generalizing p with
  | nil => cases found
  | cons q rest ih =>
      rcases List.isChain_cons_cons.mp rises with ⟨⟨forward, level⟩, behind⟩
      rw [invert] at found
      split at found
      next enclosed =>
        cases found
        exact ⟨le_solution forward enclosed.1 enclosed.2, enclosed.1⟩
      next =>
        rcases ih behind found with ⟨right, above⟩
        exact ⟨forward.le.trans right, level.trans above⟩

/-- What is found lies left of a bound for the knots. -/
theorem invert_le {x bound : Value} (rises : Rises knots)
    (bounded : ∀ knot ∈ knots, knot.x ≤ bound) (found : invert knots y = some x) :
    x ≤ bound := by
  induction knots with
  | nil => cases found
  | cons p tail ih =>
      cases tail with
      | nil => cases found
      | cons q rest =>
          rcases List.isChain_cons_cons.mp rises with ⟨⟨forward, -⟩, behind⟩
          rw [invert] at found
          split at found
          next enclosed =>
            cases found
            have inside := solution_lt forward enclosed.1 enclosed.2
            exact inside.le.trans (bounded q (by simp))
          next => exact ih behind (fun knot member => bounded knot (by simp [member])) found

/-- The curve has the value where the search finds it. -/
theorem curve_invert {x : Value} (rises : Rises knots) (found : invert knots y = some x) :
    curve knots x = y := by
  induction knots with
  | nil => cases found
  | cons p tail ih =>
      cases tail with
      | nil => cases found
      | cons q rest =>
          rcases List.isChain_cons_cons.mp rises with ⟨⟨forward, -⟩, behind⟩
          rw [invert] at found
          rw [curve]
          split at found
          next enclosed =>
            cases found
            rw [if_pos (solution_lt forward enclosed.1 enclosed.2),
              line_solution forward enclosed.1 enclosed.2]
          next =>
            have right := (le_of_invert behind found).1
            rw [if_neg (not_lt.mpr right)]
            exact ih behind found

/-- A larger value is found further right. -/
theorem invert_mono {y' x x' : Value} (rises : Rises knots) (le : y ≤ y')
    (found : invert knots y = some x) (found' : invert knots y' = some x') : x ≤ x' := by
  induction knots with
  | nil => cases found
  | cons p tail ih =>
      cases tail with
      | nil => cases found
      | cons q rest =>
          rcases List.isChain_cons_cons.mp rises with ⟨⟨forward, level⟩, behind⟩
          rw [invert] at found found'
          split at found
          next enclosed =>
            cases found
            split at found'
            next enclosed' =>
              cases found'
              have slope : 0 ≤ (q.x - p.x) / (q.y - p.y) := div_nonneg
                (sub_nonneg.mpr forward.le) (sub_nonneg.mpr (enclosed.1.trans enclosed.2.le))
              apply add_le_add_right
              exact mul_le_mul_of_nonneg_left (sub_le_sub_right le p.y) slope
            next =>
              have inside := solution_lt forward enclosed.1 enclosed.2
              exact inside.le.trans (le_of_invert behind found').1
          next outside =>
            have later := (le_of_invert behind found).2
            split at found'
            next enclosed' =>
              exact absurd ⟨level.trans later, le.trans_lt enclosed'.2⟩ outside
            next => exact ih behind found found'

end Knot

end DrivingControl.Library

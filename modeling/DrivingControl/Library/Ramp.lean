import Mathlib.Algebra.Order.Group.MinMax
import Mathlib.Logic.Function.Iterate
import Mathlib.Tactic.Abel

/-!
# Ramps

A value that moves towards a target by a fixed step and stops at the target.  A ramp that
is run `n` times has gone `n` steps, or has arrived.  Upward and downward ramps are the
mirror images of each other.
-/

namespace DrivingControl.Library

universe u

variable {Value : Type u} [AddCommGroup Value] [LinearOrder Value]

/-- One step towards a target, and not past it. -/
def ramp (step target value : Value) : Value :=
  if value < target then min target (value + step) else max target (value - step)

variable {step target value : Value}

theorem ramp_up (below : value < target) :
    ramp step target value = min target (value + step) := if_pos below

theorem ramp_down (above : target ≤ value) :
    ramp step target value = max target (value - step) := if_neg (not_lt.mpr above)

variable [IsOrderedAddMonoid Value]

/-- At the target the ramp stays. -/
theorem ramp_self (nonneg : 0 ≤ step) : ramp step target target = target := by
  rw [ramp_down (le_refl target)]
  exact max_eq_left (sub_le_self target nonneg)

/-- The mirror image of a ramp. -/
theorem ramp_neg (nonneg : 0 ≤ step) :
    ramp step (-target) (-value) = -ramp step target value := by
  rcases lt_trichotomy value target with below | same | above
  · rw [ramp_up below, ramp_down (neg_le_neg below.le), ← max_neg_neg, neg_add, sub_eq_add_neg]
  · rw [same, ramp_self nonneg, ramp_self nonneg]
  · rw [ramp_down above.le, ramp_up (neg_lt_neg above), ← min_neg_neg, neg_sub]
    congr 1
    abel

theorem ramp_iterate_neg (nonneg : 0 ≤ step) (n : ℕ) :
    (ramp step (-target))^[n] (-value) = -(ramp step target)^[n] value := by
  induction n with
  | zero => rfl
  | succ n ih =>
      rw [Function.iterate_succ_apply', Function.iterate_succ_apply', ih, ramp_neg nonneg]

/-- An upward ramp has gone `n` steps, or has arrived. -/
theorem ramp_iterate_up (nonneg : 0 ≤ step) (below : value ≤ target) (n : ℕ) :
    (ramp step target)^[n] value = min target (value + n • step) := by
  induction n with
  | zero => rw [Function.iterate_zero_apply, zero_nsmul, add_zero, min_eq_right below]
  | succ n ih =>
      rw [Function.iterate_succ_apply', ih, succ_nsmul, ← add_assoc]
      rcases lt_or_ge (value + n • step) target with going | arrived
      · rw [min_eq_right going.le, ramp_up going]
      · have further : target ≤ value + n • step + step := le_add_of_le_of_nonneg arrived nonneg
        rw [min_eq_left arrived, ramp_self nonneg, min_eq_left further]

/-- A downward ramp. -/
theorem ramp_iterate_down (nonneg : 0 ≤ step) (above : target ≤ value) (n : ℕ) :
    (ramp step target)^[n] value = max target (value - n • step) := by
  have mirrored := ramp_iterate_up nonneg (neg_le_neg above) n
  rw [ramp_iterate_neg nonneg] at mirrored
  have back := congrArg Neg.neg mirrored
  rw [neg_neg, ← max_neg_neg, neg_neg, neg_add, neg_neg, ← sub_eq_add_neg] at back
  exact back

/-- Once the steps cover the distance the target is reached. -/
theorem ramp_iterate_eq_target (nonneg : 0 ≤ step) {n : ℕ}
    (covered : |target - value| ≤ n • step) : (ramp step target)^[n] value = target := by
  rcases le_total value target with below | above
  · rw [abs_of_nonneg (sub_nonneg.mpr below)] at covered
    rw [ramp_iterate_up nonneg below, min_eq_left (sub_le_iff_le_add'.mp covered)]
  · rw [abs_sub_comm, abs_of_nonneg (sub_nonneg.mpr above)] at covered
    rw [ramp_iterate_down nonneg above, max_eq_left (sub_le_comm.mp covered)]

/-- An upward ramp rises from one step to the next and stays below its target. -/
theorem ramp_iterate_rises (nonneg : 0 ≤ step) (below : value ≤ target) (n : ℕ) :
    (ramp step target)^[n] value ≤ (ramp step target)^[n + 1] value ∧
      (ramp step target)^[n + 1] value ≤ target := by
  rw [ramp_iterate_up nonneg below, ramp_iterate_up nonneg below]
  constructor
  · apply min_le_min_left
    rw [succ_nsmul, ← add_assoc]
    exact le_add_of_nonneg_right nonneg
  · exact min_le_left _ _

/-- A downward ramp falls from one step to the next and stays above its target. -/
theorem ramp_iterate_falls (nonneg : 0 ≤ step) (above : target ≤ value) (n : ℕ) :
    target ≤ (ramp step target)^[n + 1] value ∧
      (ramp step target)^[n + 1] value ≤ (ramp step target)^[n] value := by
  rw [ramp_iterate_down nonneg above, ramp_iterate_down nonneg above]
  constructor
  · exact le_max_left _ _
  · apply max_le_max_left
    rw [succ_nsmul, ← sub_sub]
    exact sub_le_self _ nonneg

end DrivingControl.Library

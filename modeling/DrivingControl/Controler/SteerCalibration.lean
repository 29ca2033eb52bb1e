import DrivingControl.Library.PiecewiseLinear
import Mathlib.Algebra.Order.Ring.Rat

/-!
# The calibration of the steering

The steering reports another angle than the one it was set to.  The tables of
`getTransformedAngle` hold the reported angle for some settings, and the function searches
the setting for which the wanted angle is reported, between two of them by a straight line.
-/

namespace DrivingControl.Controler

open DrivingControl.Library

/-- `set_Angle`. -/
def setAngleTable : List ℚ :=
  [-90, -30, -25, -23, -20, -15, -10, -8, -5, -3, -2, -1, 0, 1, 2, 3, 5, 8, 10, 15, 20, 23, 25,
    30, 90]

/-- `feedback_Angle_Num1`. -/
def feedbackAngleNum1 : List ℚ :=
  [-90.00, -30.10, -24.94, -22.79, -19.58, -14.22, -8.88, -6.72, -3.50, -1.36, -0.28, -0.08,
    -0.08, -0.08, 0.12, 1.18, 3.34, 6.56, 8.72, 14.06, 19.42, 22.64, 24.78, 29.88, 90.00]

/-- `feedback_Angle_Num2`. -/
def feedbackAngleNum2 : List ℚ :=
  [-90.00, -29.96, -25.12, -23.10, -20.10, -15.10, -10.10, -8.10, -5.10, -3.10, -2.10, -1.14,
    -0.08, 0.86, 1.90, 2.86, 4.90, 7.90, 9.90, 14.88, 19.92, 22.94, 24.88, 29.88, 90.00]

/-- `feedback_Angle` for a `CAN_ID`. -/
def feedbackAngle (canId : Int) : List ℚ :=
  if canId = 1001 then feedbackAngleNum1
  else if canId = 1002 then feedbackAngleNum2
  else feedbackAngleNum2

/-- The search loop, on the entries of both tables from the present one on.  There is no
result when no interval holds the angle, or when the one that does has the same feedback
value at both ends, by whose difference the slope is divided. -/
def searchInterval (angle : ℚ) : List ℚ → List ℚ → Option ℚ
  | feedback :: feedback' :: feedbacks, set :: set' :: sets =>
      if angle - feedback ≥ 0 ∧ angle - feedback' < 0 then
        if feedback - feedback' = 0 then none
        else some ((set - set') / (feedback - feedback') * (angle - feedback) + set)
      else searchInterval angle (feedback' :: feedbacks) (set' :: sets)
  | _, _ => none

/-- `getTransformedAngle`. -/
def getTransformedAngle (canId : Int) (angle : ℚ) : Option ℚ :=
  if angle ≤ -90 then some (-90)
  else if angle ≥ 90 then some 90
  else searchInterval angle (feedbackAngle canId) setAngleTable

/-- The limits that `SetSteeringAngle` applies before and after the transformation. -/
def limitAngle {Value : Type} [Field Value] [LinearOrder Value] (angle : Value) : Value :=
  if angle < -90 then -90 else if angle > 90 then 90 else angle

/-- The angle that `SetSteeringAngle` passes on, with `STEER_ANGLE_OFFSET`. -/
def steeringAngle (canId : Int) (steerAngleOffset angle : ℚ) : Option ℚ :=
  (getTransformedAngle canId (limitAngle (angle + steerAngleOffset))).map limitAngle

/-! ## The curve -/

/-- The measured points: a setting, and the angle that is reported for it. -/
def calibration (canId : Int) : List (Knot ℚ) :=
  List.zipWith Knot.mk setAngleTable (feedbackAngle canId)

/-- The angle that is reported for a setting. -/
def feedbackCurve (canId : Int) : ℚ → ℚ := Knot.curve (calibration canId)

theorem calibration_cases (canId : Int) :
    calibration canId = List.zipWith Knot.mk setAngleTable feedbackAngleNum1 ∨
      calibration canId = List.zipWith Knot.mk setAngleTable feedbackAngleNum2 := by
  rw [calibration, feedbackAngle]
  split
  · exact .inl rfl
  · split
    · exact .inr rfl
    · exact .inr rfl

/-- Both tables rise, though the first one repeats a value. -/
theorem rises_calibration (canId : Int) : Knot.Rises (calibration canId) := by
  rcases calibration_cases canId with first | second
  · rw [first]
    decide +kernel
  · rw [second]
    decide +kernel

/-! ## The search -/

/-- The search solves the curve.  It never comes to a division by zero. -/
theorem searchInterval_eq_invert (angle : ℚ) (feedbacks sets : List ℚ) :
    searchInterval angle feedbacks sets =
      Knot.invert (List.zipWith Knot.mk sets feedbacks) angle := by
  induction feedbacks generalizing sets with
  | nil => cases sets <;> rfl
  | cons feedback tail ih =>
      cases sets with
      | nil => cases tail <;> rfl
      | cons set sets =>
          cases tail with
          | nil => cases sets <;> rfl
          | cons feedback' feedbacks =>
              cases sets with
              | nil => rfl
              | cons set' sets =>
                  have same : angle - feedback ≥ 0 ∧ angle - feedback' < 0 ↔
                      feedback ≤ angle ∧ angle < feedback' :=
                    and_congr sub_nonneg sub_neg
                  rw [searchInterval, ih]
                  simp only [List.zipWith_cons_cons, Knot.invert, same]
                  split
                  next enclosed =>
                    have rise : feedback - feedback' ≠ 0 :=
                      (sub_neg.mpr (enclosed.1.trans_lt enclosed.2)).ne
                    rw [if_neg rise, Knot.solution, add_comm, ← neg_sub set' set,
                      ← neg_sub feedback' feedback, neg_div_neg_eq]
                  next => rfl

variable {canId : Int} {angle : ℚ}

theorem getTransformedAngle_inside (low : -90 < angle) (high : angle < 90) :
    getTransformedAngle canId angle = Knot.invert (calibration canId) angle := by
  rw [getTransformedAngle, if_neg (not_le.mpr low), if_neg (not_le.mpr high),
    searchInterval_eq_invert, calibration]

/-- The calibration goes from -90 to 90 degrees. -/
theorem calibration_ends (canId : Int) : ∃ knots,
    calibration canId = ⟨-90, -90⟩ :: knots ∧
      (⟨-90, -90⟩ :: knots).getLast? = some (⟨90, 90⟩ : Knot ℚ) ∧
      ∀ knot ∈ (⟨-90, -90⟩ :: knots : List (Knot ℚ)), knot.x ≤ 90 := by
  rcases calibration_cases canId with first | second
  · refine ⟨(List.zipWith Knot.mk setAngleTable feedbackAngleNum1).tail, ?_, ?_, ?_⟩
    · rw [first]
      decide +kernel
    · decide +kernel
    · decide +kernel
  · refine ⟨(List.zipWith Knot.mk setAngleTable feedbackAngleNum2).tail, ?_, ?_, ?_⟩
    · rw [second]
      decide +kernel
    · decide +kernel
    · decide +kernel

/-- For every angle strictly between the limits an interval is found.  The setting lies
within the limits, and the angle is reported for it. -/
theorem exists_getTransformedAngle_inside (low : -90 < angle) (high : angle < 90) :
    ∃ setting, getTransformedAngle canId angle = some setting ∧
      -90 ≤ setting ∧ setting ≤ 90 ∧ feedbackCurve canId setting = angle := by
  have rises := rises_calibration canId
  rcases calibration_ends canId with ⟨knots, starts, ends, bounded⟩
  rw [getTransformedAngle_inside low high, feedbackCurve]
  rw [starts] at rises ⊢
  rcases Knot.exists_invert ends low.le high with ⟨setting, found⟩
  exact ⟨setting, found, (Knot.le_of_invert rises found).1, Knot.invert_le rises bounded found,
    Knot.curve_invert rises found⟩

/-- The limits themselves are reported as they are set. -/
theorem feedbackCurve_limits (canId : Int) :
    feedbackCurve canId (-90) = -90 ∧ feedbackCurve canId 90 = 90 := by
  have rises := rises_calibration canId
  rcases calibration_ends canId with ⟨knots, starts, ends, -⟩
  rw [feedbackCurve]
  rw [starts] at rises ⊢
  exact ⟨Knot.curve_first rises, (Knot.curve_last rises ends).2⟩

/-- Every angle has a setting within the limits, for which the angle is reported, itself
brought within the limits. -/
theorem exists_getTransformedAngle (canId : Int) (angle : ℚ) :
    ∃ setting, getTransformedAngle canId angle = some setting ∧
      -90 ≤ setting ∧ setting ≤ 90 ∧ feedbackCurve canId setting = limitAngle angle := by
  rcases feedbackCurve_limits canId with ⟨lowest, highest⟩
  rcases le_or_gt angle (-90) with under | low
  · refine ⟨-90, if_pos under, le_refl _, by norm_num, ?_⟩
    rw [lowest, limitAngle]
    split
    · rfl
    next within =>
      rw [if_neg (by linarith)]
      linarith
  · rcases le_or_gt 90 angle with beyond | high
    · refine ⟨90, ?_, by norm_num, le_refl _, ?_⟩
      · rw [getTransformedAngle, if_neg (not_le.mpr low), if_pos beyond]
      · rw [highest, limitAngle, if_neg (by linarith)]
        split
        · rfl
        · linarith
    · rw [limitAngle, if_neg (by linarith), if_neg (by linarith)]
      exact exists_getTransformedAngle_inside low high

/-- A larger angle has no smaller setting. -/
theorem getTransformedAngle_mono {angle' setting setting' : ℚ} (le : angle ≤ angle')
    (transformed : getTransformedAngle canId angle = some setting)
    (transformed' : getTransformedAngle canId angle' = some setting') : setting ≤ setting' := by
  rcases exists_getTransformedAngle canId angle with ⟨_, same, low, high, -⟩
  cases transformed.symm.trans same
  rcases exists_getTransformedAngle canId angle' with ⟨_, same', low', high', -⟩
  cases transformed'.symm.trans same'
  rcases le_or_gt angle (-90) with under | above
  · rw [getTransformedAngle, if_pos under] at transformed
    cases transformed
    exact low'
  · rcases le_or_gt 90 angle' with beyond | below
    · rw [getTransformedAngle, if_neg (by linarith), if_pos beyond] at transformed'
      cases transformed'
      exact high
    · rw [getTransformedAngle_inside above (by linarith)] at transformed
      rw [getTransformedAngle_inside (by linarith) below] at transformed'
      exact Knot.invert_mono (rises_calibration canId) le transformed transformed'

/-- The calibration is right.  Strictly between the limits the search ends in an interval
that it can divide by.  For every angle there is a setting within the limits that rises with
the angle and for which the angle is reported, brought within the limits. -/
theorem getTransformedAngle_calibrates (canId : Int) :
    (∀ angle, -90 < angle → angle < 90 →
      (searchInterval angle (feedbackAngle canId) setAngleTable).isSome) ∧
    (∀ angle, ∃ setting, getTransformedAngle canId angle = some setting ∧
      -90 ≤ setting ∧ setting ≤ 90 ∧ feedbackCurve canId setting = limitAngle angle) ∧
    ∀ angle angle' setting setting', angle ≤ angle' →
      getTransformedAngle canId angle = some setting →
      getTransformedAngle canId angle' = some setting' → setting ≤ setting' := by
  refine ⟨?_, exists_getTransformedAngle canId, fun _ _ _ _ => getTransformedAngle_mono⟩
  intro angle low high
  rcases exists_getTransformedAngle_inside low high with ⟨setting, transformed, -⟩
  rw [getTransformedAngle, if_neg (not_le.mpr low), if_neg (not_le.mpr high)] at transformed
  rw [transformed, Option.isSome_some]

/-- Beyond the limits no setting has the angle: 100 degrees are set, and reported, as 90. -/
theorem hundred_degrees_not_reported :
    ¬ ∀ canId angle, ∃ setting, getTransformedAngle canId angle = some setting ∧
      feedbackCurve canId setting = angle := by
  intro calibrated
  rcases calibrated 1001 100 with ⟨setting, transformed, reported⟩
  have limited : getTransformedAngle 1001 100 = some 90 := by decide +kernel
  cases transformed.symm.trans limited
  rw [(feedbackCurve_limits 1001).2] at reported
  exact absurd reported (by norm_num)

/-- `SetSteeringAngle` sends a setting for which the wanted angle is reported, within the
limits. -/
theorem steeringAngle_reported (canId : Int) (steerAngleOffset angle : ℚ) :
    ∃ setting, steeringAngle canId steerAngleOffset angle = some setting ∧
      feedbackCurve canId setting = limitAngle (angle + steerAngleOffset) := by
  rcases exists_getTransformedAngle canId (limitAngle (angle + steerAngleOffset)) with
    ⟨setting, transformed, low, high, reported⟩
  have within : limitAngle setting = setting := by
    rw [limitAngle, if_neg (not_lt.mpr low), if_neg (not_lt.mpr high)]
  have again : ∀ wanted : ℚ, limitAngle (limitAngle wanted) = limitAngle wanted := by
    intro wanted
    simp only [limitAngle]
    grind
  refine ⟨setting, ?_, reported.trans (again _)⟩
  rw [steeringAngle, transformed, Option.map_some, within]

end DrivingControl.Controler

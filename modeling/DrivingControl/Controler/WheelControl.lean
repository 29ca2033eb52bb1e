import DrivingControl.Controler.ArcGeometry
import DrivingControl.Controler.SpeedRamps

/-!
# The steering law

`wheelControl` turns how far the car is off its line, and how far its heading is, into an
angular speed.  The two are weighed into one output, and what is left of it after a gain and
two limits is added to the angular speed that the drive has without any deviation.  In two
run modes, at more than 600 mm/s, the growth of the output since the last time is added as
well.

An output at standstill would be the product of zero and infinity, and there is none.
-/

namespace DrivingControl.Controler

open DrivingControl.Library DrivingControl.Utils

/-- `PI`. -/
def pi : ℚ := 314159265358979 / 100000000000000

/-- `Kp` and `Kd`. -/
structure Gains where
  kp : ℚ
  kd : ℚ
  deriving DecidableEq, Repr

/-- The gains for a run mode and the action of the target. -/
def gains (runningMode action : Int) : Gains :=
  if runningMode = goBackwardMode ∨ runningMode = backwardToArcMode ∨ action = actionCharge then
    ⟨13 / 10, 0⟩
  else if runningMode = forwardToArcMode then ⟨7 / 10, 0⟩
  else ⟨1, 8⟩

/-- `DEAD_ZONE_DISTANCE` and `DEAD_ZONE_ANGLE`: the deviation is not corrected. -/
def DeadZone (distance : Int) (carAngle : ℚ) : Prop := |distance| < 3 ∧ |carAngle| < 3 / 10

instance (distance : Int) (carAngle : ℚ) : Decidable (DeadZone distance carAngle) :=
  inferInstanceAs (Decidable (_ ∧ _))

/-- The two deviations as one, in millimetres. -/
def weighedDeviation (library : MathLibrary) (speed distance : Int) (carAngle : ℚ) : ℚ :=
  let kAlpha := 9 / library.sqrt |(speed : ℚ) / 100|
  limitThrehold distance (-1000) 1000 + kAlpha * |(speed : ℚ)| * library.sin carAngle

/-- `output`, before the gains. -/
def wheelOutput (library : MathLibrary) (speed distance : Int) (carAngle : ℚ) : ℚ :=
  -weighedDeviation library speed distance carAngle / 50

/-- `incrementOutput`, before its limits. -/
def outputIncrement (speed : Int) (lastOutput output : ℚ) : ℚ :=
  if |speed| ≤ 600 then 0 else output - lastOutput

/-- The output behind its gains, in degrees. -/
def gainedOutput (gains : Gains) (increment output : ℚ) : ℚ :=
  output * gains.kp + limitThrehold increment (-|output / 5|) |output / 5| * gains.kd

/-- The angular speed for a gained output; `MAX_ANGULAR_SPEED_FORWARD` is 0.087. -/
def steeredSpeed (baseAngularSpeed gained : ℚ) : ℚ :=
  limitThrehold (baseAngularSpeed + limitThrehold gained (-5) 5 * (pi / 180))
    (baseAngularSpeed - 87 / 1000) (baseAngularSpeed + 87 / 1000)

/-! ## Size and sign of the correction -/

theorem pi_pos : 0 < pi := by norm_num [pi]

theorem steeredSpeed_eq (baseAngularSpeed gained : ℚ) :
    steeredSpeed baseAngularSpeed gained = baseAngularSpeed +
      limitThrehold (limitThrehold gained (-5) 5 * (pi / 180)) (-(87 / 1000)) (87 / 1000) :=
  limitThrehold_around baseAngularSpeed _ _

theorem abs_steeredSpeed_sub_le (baseAngularSpeed gained : ℚ) :
    |steeredSpeed baseAngularSpeed gained - baseAngularSpeed| ≤ 87 / 1000 := by
  rw [steeredSpeed_eq, add_sub_cancel_left]
  exact abs_le.mpr (limitThrehold_mem (by norm_num))

theorem steeredSpeed_sub_pos_iff (baseAngularSpeed gained : ℚ) :
    0 < steeredSpeed baseAngularSpeed gained - baseAngularSpeed ↔ 0 < gained := by
  have turns : 0 < pi / 180 := div_pos pi_pos (by norm_num)
  rw [steeredSpeed_eq, add_sub_cancel_left, limitThrehold_pos_iff (by norm_num),
    mul_pos_iff_of_pos_right turns, limitThrehold_pos_iff (by norm_num)]

/-- Left and right are alike. -/
theorem steeredSpeed_neg (baseAngularSpeed gained : ℚ) :
    steeredSpeed (-baseAngularSpeed) (-gained) = -steeredSpeed baseAngularSpeed gained := by
  rw [steeredSpeed_eq, steeredSpeed_eq, limitThrehold_neg (by norm_num), neg_mul,
    limitThrehold_neg (by norm_num), neg_add]

theorem gainedOutput_neg (gains : Gains) (increment output : ℚ) :
    gainedOutput gains (-increment) (-output) = -gainedOutput gains increment output := by
  rw [gainedOutput, gainedOutput, neg_div, abs_neg, limitThrehold_neg (abs_nonneg _)]
  ring

theorem outputIncrement_neg (speed : Int) (lastOutput output : ℚ) :
    outputIncrement speed (-lastOutput) (-output) = -outputIncrement speed lastOutput output := by
  rw [outputIncrement, outputIncrement]
  split
  · exact neg_zero.symm
  · ring

theorem gainedOutput_eq_mul (gains : Gains) (increment output : ℚ) (still : gains.kd = 0) :
    gainedOutput gains increment output = output * gains.kp := by
  rw [gainedOutput, still, mul_zero, add_zero]

theorem gainedOutput_zero (gains : Gains) (output : ℚ) :
    gainedOutput gains 0 output = output * gains.kp := by
  have inside : (0 : ℚ) ∈ Set.Icc (-|output / 5|) |output / 5| :=
    ⟨neg_nonpos.mpr (abs_nonneg _), abs_nonneg _⟩
  rw [gainedOutput, limitThrehold_of_mem inside, zero_mul, add_zero]

/-- A shrinking output outweighs itself when it has lost an eighth of its size. -/
theorem gainedOutput_pos_iff {output : ℚ} (lastOutput : ℚ) (positive : 0 < output) :
    0 < gainedOutput ⟨1, 8⟩ (output - lastOutput) output ↔ lastOutput < 9 / 8 * output := by
  have fifth : |output / 5| = output / 5 := abs_of_pos (by linarith)
  rw [gainedOutput, fifth, limitThrehold, mul_one]
  split
  next far =>
    constructor
    · intro still
      linarith
    · intro near
      linarith
  next near =>
    split
    next grown =>
      constructor
      · intro
        linarith
      · intro
        linarith
    next =>
      constructor
      · intro still
        linarith
      · intro within
        linarith

/-- The correction of `wheelControl` outside its dead zone. -/
def correctedSpeed (gains : Gains) (speed : Int) (baseAngularSpeed lastOutput output : ℚ) : ℚ :=
  steeredSpeed baseAngularSpeed
    (gainedOutput gains (outputIncrement speed lastOutput output) output)

/-- The growth of the output is added, and outweighs it: the deviation lies on the same side as
the last one and is smaller by a ninth or more. -/
def Overruled (gains : Gains) (speed : Int) (lastOutput output : ℚ) : Prop :=
  gains.kd ≠ 0 ∧ 600 < |speed| ∧ 9 / 8 * (output * output) ≤ lastOutput * output

instance (gains : Gains) (speed : Int) (lastOutput output : ℚ) :
    Decidable (Overruled gains speed lastOutput output) := inferInstanceAs (Decidable (_ ∧ _))

theorem gains_cases (runningMode action : Int) :
    (0 < (gains runningMode action).kp ∧ (gains runningMode action).kd = 0) ∨
      gains runningMode action = ⟨1, 8⟩ := by
  rw [gains]
  split
  · exact .inl ⟨by norm_num, rfl⟩
  · split
    · exact .inl ⟨by norm_num, rfl⟩
    · exact .inr rfl

section Sign

variable {runningMode action speed : Int} {baseAngularSpeed lastOutput output : ℚ}

theorem overruled_neg (gains : Gains) :
    Overruled gains speed (-lastOutput) (-output) ↔ Overruled gains speed lastOutput output := by
  rw [Overruled, Overruled, neg_mul_neg, neg_mul_neg]

theorem correctedSpeed_neg (gains : Gains) :
    correctedSpeed gains speed (-baseAngularSpeed) (-lastOutput) (-output) =
      -correctedSpeed gains speed baseAngularSpeed lastOutput output := by
  rw [correctedSpeed, outputIncrement_neg, gainedOutput_neg, steeredSpeed_neg, correctedSpeed]

theorem correctedSpeed_sub_pos_iff (positive : 0 < output) :
    0 < correctedSpeed (gains runningMode action) speed baseAngularSpeed lastOutput output -
        baseAngularSpeed ↔
      ¬ Overruled (gains runningMode action) speed lastOutput output := by
  rw [correctedSpeed, steeredSpeed_sub_pos_iff]
  rcases gains_cases runningMode action with ⟨kp, kd⟩ | both
  · rw [gainedOutput_eq_mul _ _ _ kd]
    exact iff_of_true (mul_pos positive kp) fun overruled => overruled.1 kd
  · rw [both, Overruled, outputIncrement]
    split
    next slow =>
      rw [gainedOutput_zero, mul_one]
      exact iff_of_true positive fun overruled => not_lt.mpr slow overruled.2.1
    next fast =>
      have outweighed : 9 / 8 * (output * output) ≤ lastOutput * output ↔
          9 / 8 * output ≤ lastOutput := by
        rw [← mul_assoc, mul_le_mul_iff_of_pos_right positive]
      have damps : ((8 : ℚ) ≠ 0) = True := eq_true (by norm_num)
      rw [gainedOutput_pos_iff lastOutput positive, outweighed, damps, true_and,
        and_iff_right (not_le.mp fast), not_le]

/-- The car is steered against its deviation, unless the growth of the output outweighs it. -/
theorem correctedSpeed_opposes_iff (deviates : output ≠ 0) :
    0 < output * (correctedSpeed (gains runningMode action) speed baseAngularSpeed lastOutput
        output - baseAngularSpeed) ↔
      ¬ Overruled (gains runningMode action) speed lastOutput output := by
  rcases lt_or_gt_of_ne deviates with negative | positive
  · have mirrored : 0 < correctedSpeed (gains runningMode action) speed (-baseAngularSpeed)
          (-lastOutput) (-output) - -baseAngularSpeed ↔
        ¬ Overruled (gains runningMode action) speed (-lastOutput) (-output) :=
      correctedSpeed_sub_pos_iff (neg_pos.mpr negative)
    rw [correctedSpeed_neg, overruled_neg, ← neg_sub'] at mirrored
    rw [← neg_mul_neg, mul_pos_iff_of_pos_left (neg_pos.mpr negative)]
    exact mirrored
  · rw [mul_pos_iff_of_pos_left positive]
    exact correctedSpeed_sub_pos_iff positive

end Sign

/-- On a straight line at 1 m/s an output that has gone from 3 to 2 steers the car the wrong
way, and one that has gone from 3 to 2.8 does not. -/
theorem correctedSpeed_opposes_iff_shrinking :
    (¬ 0 < (2 : ℚ) * (correctedSpeed (gains goForwardMode actionRun) 1000 0 3 2 - 0)) ∧
      0 < (28 / 10 : ℚ) *
        (correctedSpeed (gains goForwardMode actionRun) 1000 0 3 (28 / 10) - 0) := by
  constructor
  · rw [correctedSpeed_opposes_iff (by norm_num)]
    decide +kernel
  · rw [correctedSpeed_opposes_iff (by norm_num)]
    decide +kernel

end DrivingControl.Controler

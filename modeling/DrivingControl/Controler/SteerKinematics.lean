import DrivingControl.Controler.SteerCalibration
import DrivingControl.Controler.SteeringBaseControler
import DrivingControl.Library.Truncation
import Mathlib.Analysis.SpecialFunctions.Trigonometric.Bounds
import Mathlib.Analysis.SpecialFunctions.Trigonometric.Inverse

/-!
# The kinematics of the steered wheel

`SetCarSpeed` makes a steering angle and a number of revolutions of a linear and an angular
speed, and the direction is set apart.  Here they are read as a motion of the car, by the
geometry of `CalculateAngularSpeed`: the speed of the wheel, and the rate at which the car turns.

What goes on the bus is not the angle itself, but a setting for it in hundredths of a degree.  So
the motion is compared for every angle at which the wheel may stand.

Numbers are those of an ordered field, with the sine, its inverse and half a turn from the
library of the language; the results are about the real ones.
-/

namespace DrivingControl.Controler

open DrivingControl.Devices DrivingControl.Library

universe u

/-- What is used of the mathematical library. -/
structure SteerLibrary (Value : Type u) where
  sin : Value → Value
  asin : Value → Value
  pi : Value

/-- The settings of `CAgvBaseControler`. -/
structure SteerSettings (Value : Type u) where
  wheelBase : ℤ
  wheelRadius : ℤ
  gearRatio : Value

/-- How the wheel moves. -/
structure WheelMotion (Value : Type u) where
  /-- The direction that is set. -/
  direction : ℤ
  /-- The revolutions per minute. -/
  rpm : ℤ
  /-- The angle in degrees at which the wheel stands. -/
  angle : Value

namespace SteerSettings

variable {Value : Type u} [Field Value] [LinearOrder Value] [IsStrictOrderedRing Value]
  [FloorRing Value] (library : SteerLibrary Value) (settings : SteerSettings Value)

/-! ## The computations -/

/-- `CalculateAngularSpeed`, which only reports an angle out of range. -/
def calculateAngularSpeed (speed : ℤ) (angle : Value) : Value :=
  if settings.wheelBase = 0 then 0
  else
    (speed : Value) * library.sin (angle * library.pi / ((180 : ℕ) : Value)) /
      settings.wheelBase

/-- `CalculateWheelAngle`. -/
def calculateWheelAngle (speed : ℤ) (angularSpeed : Value) : Value :=
  if settings.wheelBase = 0 then 0
  else if speed = 0 then 0
  else if angularSpeed * settings.wheelBase / speed > 1 then ((90 : ℕ) : Value)
  else if angularSpeed * settings.wheelBase / speed < -1 then -((90 : ℕ) : Value)
  else
    library.asin (angularSpeed * settings.wheelBase / speed) * ((180 : ℕ) : Value) / library.pi

/-- `wheelLength`. -/
def wheelLength : Value := ((2 : ℕ) : Value) * library.pi * settings.wheelRadius

/-- The way of one revolution a minute in a second. -/
def step : Value := settings.wheelLength library / (((60 : ℕ) : Value) * settings.gearRatio)

/-- `MM_S_to_RPM`. -/
def mmsToRpm (speed : ℤ) : ℤ :=
  truncate ((speed : Value) * ((60 : ℕ) : Value) * settings.gearRatio /
    settings.wheelLength library)

/-! ## The motion -/

/-- The speed of the wheel: zero is the direction forward. -/
def wheelSpeed (motion : WheelMotion Value) : Value :=
  (if motion.direction = 0 then (motion.rpm : Value) else -motion.rpm) * settings.step library

/-- The rate at which the car turns. -/
def turnRate (motion : WheelMotion Value) : Value :=
  settings.wheelSpeed library motion *
    library.sin (motion.angle * library.pi / ((180 : ℕ) : Value)) / settings.wheelBase

/-- The angular speed nearest to a wanted one at which a steered wheel can turn the car. -/
def attainable (speed : ℤ) (angularSpeed : Value) : Value :=
  max (-(|(speed : Value)| / settings.wheelBase))
    (min (|(speed : Value)| / settings.wheelBase) angularSpeed)

end SteerSettings

/-- The functions as they are meant. -/
noncomputable def realLibrary : SteerLibrary ℝ where
  sin := Real.sin
  asin := Real.arcsin
  pi := Real.pi

namespace SteerSettings

/-- The angle that `SetSteeringAngle` passes on, with `STEER_ANGLE_OFFSET`, whatever
`getTransformedAngle` makes of an angle. -/
noncomputable def steeringSetting (steerAngleOffset : ℝ) (getTransformedAngle : ℝ → ℝ)
    (angle : ℝ) : ℝ :=
  limitAngle (getTransformedAngle (limitAngle (angle + steerAngleOffset)))

/-- The computations of `CAgvSteeringBaseControler` and `CAgvControler` on real numbers. -/
noncomputable def steeringFormat (settings : SteerSettings ℝ) (steerAngleOffset : ℝ)
    (getTransformedAngle : ℝ → ℝ) : SteeringFormat ℝ where
  same angle angle' := decide (angle = angle')
  hundredths angle := Int32.ofInt (truncate (angle * ((100 : ℕ) : ℝ)))
  ofHundredths value := value.toInt / ((100 : ℕ) : ℝ)
  zero := 0
  calculateWheelAngle speed angularSpeed :=
    settings.calculateWheelAngle realLibrary speed.toInt angularSpeed
  steeringAngle := steeringSetting steerAngleOffset getTransformedAngle
  mmsToRpm speed := Int32.ofInt (settings.mmsToRpm realLibrary speed.toInt)

section Attainable

variable {Value : Type u} [Field Value] [LinearOrder Value] [IsStrictOrderedRing Value]
  {settings : SteerSettings Value} {speed : ℤ}

/-- The quotient whose inverse sine is taken measures the wanted angular speed by the highest
one, with the sign turned round while the car goes backward. -/
theorem attainable_mul (wheelBase : 0 < settings.wheelBase) (moves : speed ≠ 0)
    (angularSpeed : Value) :
    settings.attainable speed angularSpeed * settings.wheelBase =
      speed * max (-1) (min 1 (angularSpeed * settings.wheelBase / speed)) := by
  have base : (0 : Value) < settings.wheelBase := by exact_mod_cast wheelBase
  have velocity : (speed : Value) ≠ 0 := by exact_mod_cast moves
  have scaled : settings.attainable speed angularSpeed * settings.wheelBase =
      max (-|(speed : Value)|) (min |(speed : Value)| (angularSpeed * settings.wheelBase)) := by
    rw [attainable, max_mul_of_nonneg _ _ base.le, min_mul_of_nonneg _ _ base.le, neg_mul,
      div_mul_cancel₀ _ base.ne']
  rw [scaled]
  rcases lt_or_gt_of_ne velocity with backward | forward
  · have turned : ∀ number : Value, speed * number = -(-speed * number) := fun number => by ring
    have back : (0 : Value) ≤ -speed := by linarith
    rw [abs_of_neg backward, turned, mul_max_of_nonneg _ _ back, mul_min_of_nonneg _ _ back,
      neg_mul (speed : Value) (_ / _), mul_div_cancel₀ _ velocity, mul_one, mul_neg_one, neg_neg,
      ← min_neg_neg, ← max_neg_neg, neg_neg, neg_neg, max_min_distrib_left,
      max_eq_right (by linarith)]
  · rw [abs_of_pos forward, mul_max_of_nonneg _ _ forward.le, mul_min_of_nonneg _ _ forward.le,
      mul_div_cancel₀ _ velocity, mul_one, mul_neg_one]

end Attainable

variable {settings : SteerSettings ℝ} {speed : ℤ}

/-- The sine of the wheel's angle. -/
theorem sin_calculateWheelAngle (wheelBase : 0 < settings.wheelBase) (moves : speed ≠ 0)
    (angularSpeed : ℝ) :
    Real.sin (settings.calculateWheelAngle realLibrary speed angularSpeed * Real.pi /
        ((180 : ℕ) : ℝ)) =
      max (-1) (min 1 (angularSpeed * settings.wheelBase / speed)) := by
  rw [calculateWheelAngle, if_neg wheelBase.ne', if_neg moves]
  generalize angularSpeed * settings.wheelBase / speed = ratio
  split
  next above =>
    have right : ((90 : ℕ) : ℝ) * Real.pi / ((180 : ℕ) : ℝ) = Real.pi / 2 := by
      push_cast
      ring
    rw [right, Real.sin_pi_div_two, min_eq_left above.le, max_eq_right (by norm_num)]
  next high =>
    split
    next below =>
      have left : -((90 : ℕ) : ℝ) * Real.pi / ((180 : ℕ) : ℝ) = -(Real.pi / 2) := by
        push_cast
        ring
      rw [left, Real.sin_neg, Real.sin_pi_div_two, min_eq_right (by linarith),
        max_eq_left below.le]
    next low =>
      have back : realLibrary.asin ratio * ((180 : ℕ) : ℝ) / realLibrary.pi * Real.pi /
          ((180 : ℕ) : ℝ) = Real.arcsin ratio := by
        have whole : ((180 : ℕ) : ℝ) ≠ 0 := by norm_num
        change Real.arcsin ratio * ((180 : ℕ) : ℝ) / Real.pi * Real.pi / ((180 : ℕ) : ℝ) = _
        rw [div_mul_cancel₀ _ Real.pi_ne_zero, mul_div_cancel_right₀ _ whole]
      rw [back, Real.sin_arcsin (not_lt.mp low) (not_lt.mp high), min_eq_right (not_lt.mp high),
        max_eq_right (not_lt.mp low)]

/-- `CalculateAngularSpeed` gives back what `CalculateWheelAngle` could make of the wanted
angular speed. -/
theorem calculateAngularSpeed_calculateWheelAngle (wheelBase : 0 < settings.wheelBase)
    (speed : ℤ) (angularSpeed : ℝ) :
    settings.calculateAngularSpeed realLibrary speed
        (settings.calculateWheelAngle realLibrary speed angularSpeed) =
      settings.attainable speed angularSpeed := by
  have base : (settings.wheelBase : ℝ) ≠ 0 := by exact_mod_cast wheelBase.ne'
  rw [calculateAngularSpeed, if_neg wheelBase.ne']
  rcases eq_or_ne speed 0 with rests | moves
  · have nothing : settings.attainable speed angularSpeed = 0 := by
      rw [attainable, rests, Int.cast_zero, abs_zero, zero_div, neg_zero]
      exact max_eq_left (min_le_left _ _)
    rw [nothing, rests, Int.cast_zero, zero_mul, zero_div]
  · have part := attainable_mul wheelBase moves angularSpeed
    rw [← sin_calculateWheelAngle wheelBase moves] at part
    exact (eq_div_of_mul_eq base part).symm

theorem step_pos (wheelRadius : 0 < settings.wheelRadius) (gearRatio : 0 < settings.gearRatio) :
    0 < settings.step realLibrary := by
  have radius : (0 : ℝ) < settings.wheelRadius := by exact_mod_cast wheelRadius
  have pi : 0 < realLibrary.pi := Real.pi_pos
  rw [step, wheelLength]
  positivity

/-- The revolutions that are sent fall short of the speed by less than one. -/
theorem mmsToRpm_bounds (wheelRadius : 0 < settings.wheelRadius)
    (gearRatio : 0 < settings.gearRatio) (speed : ℤ) :
    |(settings.mmsToRpm realLibrary speed : ℝ)| * settings.step realLibrary ≤ |(speed : ℝ)| ∧
      |(speed : ℝ)| <
        (|(settings.mmsToRpm realLibrary speed : ℝ)| + 1) * settings.step realLibrary := by
  have positive := step_pos wheelRadius gearRatio
  have radius : (0 : ℝ) < settings.wheelRadius := by exact_mod_cast wheelRadius
  have pi : 0 < realLibrary.pi := Real.pi_pos
  have wanted : (speed : ℝ) * ((60 : ℕ) : ℝ) * settings.gearRatio /
      settings.wheelLength realLibrary = speed / settings.step realLibrary := by
    rw [step, div_div_eq_mul_div, mul_assoc]
  obtain ⟨low, high⟩ := abs_truncate ((speed : ℝ) / settings.step realLibrary)
  rw [abs_div, abs_of_pos positive] at low high
  rw [mmsToRpm, wanted]
  exact ⟨(le_div_iff₀ positive).mp low, (div_lt_iff₀ positive).mp high⟩

/-- In its size the wheel's speed is what the revolutions give. -/
theorem abs_wheelSpeed (wheelRadius : 0 < settings.wheelRadius)
    (gearRatio : 0 < settings.gearRatio) (motion : WheelMotion ℝ) :
    |settings.wheelSpeed realLibrary motion| =
      |(motion.rpm : ℝ)| * settings.step realLibrary := by
  have positive := step_pos wheelRadius gearRatio
  rw [wheelSpeed, abs_mul, abs_of_pos positive]
  split
  · rfl
  · rw [abs_neg]

/-- The wheel turns the car forward or backward as the direction says. -/
theorem wheelSpeed_direction (wheelRadius : 0 < settings.wheelRadius)
    (gearRatio : 0 < settings.gearRatio) {motion : WheelMotion ℝ} (turns : 0 < motion.rpm) :
    (motion.direction = 0 → 0 < settings.wheelSpeed realLibrary motion) ∧
      (motion.direction ≠ 0 → settings.wheelSpeed realLibrary motion < 0) := by
  have positive := step_pos wheelRadius gearRatio
  have rpm : (0 : ℝ) < motion.rpm := by exact_mod_cast turns
  refine ⟨fun ahead => ?_, fun back => ?_⟩
  · rw [wheelSpeed, if_pos ahead]
    exact mul_pos rpm positive
  · rw [wheelSpeed, if_neg back]
    exact mul_neg_of_neg_of_pos (neg_lt_zero.mpr rpm) positive

/-- The motion is what the car is told, as far as the wheel stands at an angle. -/
structure Follows (settings : SteerSettings ℝ) (speed : ℤ) (angularSpeed angle : ℝ)
    (motion : WheelMotion ℝ) : Prop where
  /-- The two speeds are in the ratio that is told. -/
  ratio : |settings.turnRate realLibrary motion * speed -
      settings.wheelSpeed realLibrary motion * settings.attainable speed angularSpeed| ≤
    |settings.wheelSpeed realLibrary motion * speed| / settings.wheelBase *
      (|motion.angle - angle| * Real.pi / ((180 : ℕ) : ℝ))
  slow : |settings.wheelSpeed realLibrary motion| ≤ |(speed : ℝ)|
  /-- The car is slower by less than one revolution a minute. -/
  near : |(speed : ℝ)| < |settings.wheelSpeed realLibrary motion| + settings.step realLibrary
  sense : motion.rpm ≠ 0 →
    (0 < settings.wheelSpeed realLibrary motion * speed ↔ (motion.direction = 0 ↔ 0 < speed))

/-- A wheel that stands at another angle turns the car at another rate, by no more than the
angles differ. -/
theorem turnRate_within (wheelBase : 0 < settings.wheelBase) (speed : ℤ) (angle : ℝ)
    (motion : WheelMotion ℝ) :
    |settings.turnRate realLibrary motion * speed -
        settings.wheelSpeed realLibrary motion *
          settings.calculateAngularSpeed realLibrary speed angle| ≤
      |settings.wheelSpeed realLibrary motion * speed| / settings.wheelBase *
        (|motion.angle - angle| * Real.pi / ((180 : ℕ) : ℝ)) := by
  have base : (0 : ℝ) < settings.wheelBase := by exact_mod_cast wheelBase
  have half : (0 : ℝ) < ((180 : ℕ) : ℝ) := by norm_num
  have apart : settings.turnRate realLibrary motion * speed -
      settings.wheelSpeed realLibrary motion *
        settings.calculateAngularSpeed realLibrary speed angle =
      settings.wheelSpeed realLibrary motion * speed / settings.wheelBase *
        (Real.sin (motion.angle * Real.pi / ((180 : ℕ) : ℝ)) -
          Real.sin (angle * Real.pi / ((180 : ℕ) : ℝ))) := by
    rw [turnRate, calculateAngularSpeed, if_neg wheelBase.ne']
    change _ * Real.sin (motion.angle * Real.pi / _) / _ * _ -
      _ * (_ * Real.sin (angle * Real.pi / _) / _) = _
    ring
  have radians :
      |motion.angle * Real.pi / ((180 : ℕ) : ℝ) - angle * Real.pi / ((180 : ℕ) : ℝ)| =
        |motion.angle - angle| * Real.pi / ((180 : ℕ) : ℝ) := by
    rw [← sub_div, ← sub_mul, abs_div, abs_mul, abs_of_pos Real.pi_pos, abs_of_pos half]
  rw [apart, abs_mul, abs_div, abs_of_pos base, ← radians]
  exact mul_le_mul_of_nonneg_left (Real.abs_sin_sub_sin_le _ _)
    (div_nonneg (abs_nonneg _) base.le)

/-- A wheel that turns drives the car in the sense of the speed if the direction goes with it. -/
theorem sense_iff (wheelRadius : 0 < settings.wheelRadius) (gearRatio : 0 < settings.gearRatio)
    {motion : WheelMotion ℝ} (turns : 0 < motion.rpm) (moves : speed ≠ 0) :
    0 < settings.wheelSpeed realLibrary motion * speed ↔ (motion.direction = 0 ↔ 0 < speed) := by
  obtain ⟨ahead, back⟩ := wheelSpeed_direction wheelRadius gearRatio turns
  rcases eq_or_ne motion.direction 0 with forward | backward
  · rw [mul_pos_iff_of_pos_left (ahead forward), Int.cast_pos]
    exact ⟨fun positive => iff_of_true forward positive, fun agrees => agrees.mp forward⟩
  · have drives := back backward
    have sign : 0 < settings.wheelSpeed realLibrary motion * speed ↔ (speed : ℝ) < 0 :=
      ⟨fun product => (neg_iff_neg_of_mul_pos product).mp drives, mul_pos_of_neg_of_neg drives⟩
    rw [sign, Int.cast_lt_zero]
    constructor
    · intro negative
      exact iff_of_false backward negative.not_gt
    · intro agrees
      exact lt_of_le_of_ne (not_lt.mp fun positive => backward (agrees.mpr positive)) moves

/-- A wheel with the revolutions for a speed follows it. -/
theorem follows_of_rpm (wheelBase : 0 < settings.wheelBase)
    (wheelRadius : 0 < settings.wheelRadius) (gearRatio : 0 < settings.gearRatio)
    (angularSpeed : ℝ) {motion : WheelMotion ℝ}
    (rpm : motion.rpm = |settings.mmsToRpm realLibrary speed|) :
    settings.Follows speed angularSpeed
      (settings.calculateWheelAngle realLibrary speed angularSpeed) motion := by
  obtain ⟨low, high⟩ := mmsToRpm_bounds wheelRadius gearRatio speed
  have size := abs_wheelSpeed wheelRadius gearRatio motion
  rw [rpm, Int.cast_abs, abs_abs] at size
  constructor
  · rw [← calculateAngularSpeed_calculateWheelAngle wheelBase]
    exact turnRate_within wheelBase speed _ motion
  · exact size ▸ low
  · rw [size]
    linarith
  · intro turning
    have turns : 0 < motion.rpm := lt_of_le_of_ne (rpm ▸ abs_nonneg _) turning.symm
    apply sense_iff wheelRadius gearRatio turns
    rintro rfl
    have none : settings.mmsToRpm realLibrary 0 = 0 := by
      rw [mmsToRpm, Int.cast_zero, zero_mul, zero_mul, zero_div, truncate_zero]
    exact turning (by rw [rpm, none, abs_zero])

/-! ## The commands -/

theorem toInt_abs_ofInt {number : ℤ} (fits : |number| < 2 ^ 31) :
    (Int32.ofInt number).abs.toInt = |number| := by
  rcases abs_lt.mp fits with ⟨low, high⟩
  have same : (Int32.ofInt number).toBitVec.toInt = number :=
    Int32.toInt_ofInt_of_le low.le high
  have inside : (Int32.ofInt number).toBitVec ≠ BitVec.intMin 32 := by
    intro least
    rw [least] at same
    have value : (BitVec.intMin 32).toInt = -2 ^ 31 := by decide
    omega
  change (Int32.ofInt number).toBitVec.abs.toInt = |number|
  rw [BitVec.toInt_abs_eq_natAbs, if_neg inside, same, Int.natCast_natAbs]

theorem abs_steeringSetting_le (steerAngleOffset : ℝ) (getTransformedAngle : ℝ → ℝ) (angle : ℝ) :
    |steeringSetting steerAngleOffset getTransformedAngle angle| ≤ 90 := by
  rw [steeringSetting, limitAngle, abs_le]
  split
  · constructor <;> norm_num
  next low =>
    split
    · constructor <;> norm_num
    next high => exact ⟨not_lt.mp low, not_lt.mp high⟩

/-- The hundredths of a setting are those of the frame. -/
theorem hundredths_steeringSetting (steerAngleOffset : ℝ) (getTransformedAngle : ℝ → ℝ)
    (angle : ℝ) :
    ((settings.steeringFormat steerAngleOffset getTransformedAngle).hundredths
        (steeringSetting steerAngleOffset getTransformedAngle angle)).toInt =
      truncate (steeringSetting steerAngleOffset getTransformedAngle angle * ((100 : ℕ) : ℝ)) := by
  have within := abs_steeringSetting_le steerAngleOffset getTransformedAngle angle
  generalize steeringSetting steerAngleOffset getTransformedAngle angle = setting at within
  have whole : |setting * ((100 : ℕ) : ℝ)| ≤ 9000 := by
    rw [abs_mul, Nat.abs_cast]
    push_cast
    linarith
  have small : |truncate (setting * ((100 : ℕ) : ℝ))| ≤ 9000 := by
    exact_mod_cast (abs_truncate (setting * ((100 : ℕ) : ℝ))).1.trans whole
  rcases abs_le.mp small with ⟨low, high⟩
  exact Int32.toInt_ofInt_of_le (by omega) (by omega)

/-- The revolutions and the setting are on the bus. -/
theorem transmitted_setCarSpeed {steerAngleOffset : ℝ} {getTransformedAngle : ℝ → ℝ}
    {base next : SteeringBaseControler ℝ} {linearSpeed : Int32} {angularSpeed : ℝ}
    (fits : |settings.mmsToRpm realLibrary linearSpeed.toInt| < 2 ^ 31)
    (stepped : driveStep (settings.steeringFormat steerAngleOffset getTransformedAngle)
      (.setCarSpeed linearSpeed angularSpeed) base = some next)
    (passes : Passes (settings.steeringFormat steerAngleOffset getTransformedAngle) base
      (.setCarSpeed linearSpeed angularSpeed) next) :
    next.controler.transmittedSpeed = some |settings.mmsToRpm realLibrary linearSpeed.toInt| ∧
      next.controler.transmittedHundredths =
        some (truncate (steeringSetting steerAngleOffset getTransformedAngle
          (settings.calculateWheelAngle realLibrary linearSpeed.toInt angularSpeed) *
            ((100 : ℕ) : ℝ))) := by
  have transmits := (transmitted_iff_passes _ base _ next stepped).mpr passes
  have returns : (drive (settings.steeringFormat steerAngleOffset getTransformedAngle)
      (.setCarSpeed linearSpeed angularSpeed) base).2 = 0 := Devices.Controler.setSpeed_ret _ _
  rcases transmits returns with ⟨hundredths, speed⟩
  constructor
  · rw [speed]
    exact congrArg some (toInt_abs_ofInt fits)
  · rw [hundredths]
    exact congrArg some (hundredths_steeringSetting _ _ _)

/-- The car drives the circle it is told.  The bus is told the revolutions for the speed, and the
hundredths of the setting for an angle from which the angular speed is given back, as far as it is
attainable.  The motion has its two speeds in the ratio that is told, whatever the direction, as
far as the wheel stands at that angle.  It is slower than told by less than one revolution of the
wheel a minute, and goes in the sense that is told exactly if the direction goes with the sign of
the speed. -/
theorem drives_circle_told (settings : SteerSettings ℝ) (wheelBase : 0 < settings.wheelBase)
    (wheelRadius : 0 < settings.wheelRadius) (gearRatio : 0 < settings.gearRatio)
    {steerAngleOffset : ℝ} {getTransformedAngle : ℝ → ℝ} {base next : SteeringBaseControler ℝ}
    {linearSpeed : Int32} {angularSpeed : ℝ}
    (fits : |settings.mmsToRpm realLibrary linearSpeed.toInt| < 2 ^ 31)
    (stepped : driveStep (settings.steeringFormat steerAngleOffset getTransformedAngle)
      (.setCarSpeed linearSpeed angularSpeed) base = some next)
    (passes : Passes (settings.steeringFormat steerAngleOffset getTransformedAngle) base
      (.setCarSpeed linearSpeed angularSpeed) next) :
    let angle := settings.calculateWheelAngle realLibrary linearSpeed.toInt angularSpeed
    settings.calculateAngularSpeed realLibrary linearSpeed.toInt angle =
        settings.attainable linearSpeed.toInt angularSpeed ∧
      next.controler.transmittedHundredths =
        some (truncate (steeringSetting steerAngleOffset getTransformedAngle angle *
          ((100 : ℕ) : ℝ))) ∧
      ∃ rpm, next.controler.transmittedSpeed = some rpm ∧
        ∀ motion : WheelMotion ℝ, motion.rpm = rpm →
          settings.Follows linearSpeed.toInt angularSpeed angle motion := by
  rcases transmitted_setCarSpeed fits stepped passes with ⟨speed, hundredths⟩
  exact ⟨calculateAngularSpeed_calculateWheelAngle wheelBase _ angularSpeed, hundredths, _, speed,
    fun _ => follows_of_rpm wheelBase wheelRadius gearRatio angularSpeed⟩

/-- At 300 mm/s a wheel with a radius of 130 mm turns, and its revolutions fit into two bytes. -/
theorem rpm_of_speed :
    0 < |mmsToRpm realLibrary ⟨1150, 130, 14⟩ (-300)| ∧
      |mmsToRpm realLibrary ⟨1150, 130, 14⟩ (-300)| < 2 ^ 16 := by
  let settings : SteerSettings ℝ := ⟨1150, 130, 14⟩
  have gearRatio : 0 < settings.gearRatio := by norm_num [settings]
  obtain ⟨low, high⟩ : _ ∧ _ := mmsToRpm_bounds (by decide) gearRatio (-300)
  have step : settings.step realLibrary = 13 / 42 * Real.pi := by
    change ((2 : ℕ) : ℝ) * Real.pi * ((130 : ℤ) : ℝ) / (((60 : ℕ) : ℝ) * 14) = _
    push_cast
    ring
  have two := Real.two_le_pi
  have four := Real.pi_le_four
  have size : |((-300 : ℤ) : ℝ)| = 300 := by norm_num
  change 0 < |settings.mmsToRpm realLibrary (-300)| ∧ _
  generalize settings.mmsToRpm realLibrary (-300) = rpm at low high ⊢
  rw [step, size, ← Int.cast_abs] at low high
  constructor
  · by_contra none
    have zero : |rpm| = 0 := le_antisymm (not_lt.mp none) (abs_nonneg rpm)
    rw [zero, Int.cast_zero] at high
    linarith
  · by_contra many
    have large : (2 ^ 16 : ℝ) ≤ (|rpm| : ℤ) := by exact_mod_cast not_lt.mp many
    nlinarith

/-- A car that is told to go backward and to turn faster than it can. -/
theorem drives_circle_told_back :
    let settings : SteerSettings ℝ := ⟨1150, 130, 14⟩
    let format := settings.steeringFormat 0 id
    let base : SteeringBaseControler ℝ :=
      { controler := Controler.init format.toAngleFormat
        targetLineSpeed := 0
        targetAngulaSpeed := 0
        currentDirection := 0 }
    ∃ next, driveStep format (.setCarSpeed (-300) 1) base = some next ∧
      next.controler.transmittedHundredths = some (-9000) ∧
      ∃ rpm, next.controler.transmittedSpeed = some rpm ∧ 0 < rpm ∧
        ∀ motion : WheelMotion ℝ, motion.rpm = rpm → settings.Follows (-300) 1 (-90) motion := by
  intro settings format base
  have wheelRadius : 0 < settings.wheelRadius := by decide
  have gearRatio : 0 < settings.gearRatio := by norm_num [settings]
  have speed : (-300 : Int32).toInt = -300 := by decide
  have angle : settings.calculateWheelAngle realLibrary (-300 : Int32).toInt 1 = -90 := by
    rw [speed, calculateWheelAngle, if_neg (by decide), if_neg (by decide),
      if_neg (by norm_num [settings]), if_pos (by norm_num [settings])]
    norm_num
  have setting : steeringSetting 0 id (-90) = -90 := by
    rw [steeringSetting, limitAngle, limitAngle]
    norm_num
  have revolutions : 0 < |settings.mmsToRpm realLibrary (-300 : Int32).toInt| ∧
      |settings.mmsToRpm realLibrary (-300 : Int32).toInt| < 2 ^ 16 := speed ▸ rpm_of_speed
  have fits : |settings.mmsToRpm realLibrary (-300 : Int32).toInt| < 2 ^ 31 := by omega
  have rpm := toInt_abs_ofInt fits
  have hundredths : truncate (steeringSetting 0 id (-90) * ((100 : ℕ) : ℝ)) = -9000 := by
    have whole : (-90 : ℝ) * ((100 : ℕ) : ℝ) = ((-9000 : ℤ) : ℝ) := by norm_num
    rw [setting, whole, truncate_intCast]
  have passes : Passes format base (.setCarSpeed (-300) 1)
      (drive format (.setCarSpeed (-300) 1) base).1 := by
    have steered : format.steeringAngle (format.calculateWheelAngle (-300) 1) =
        steeringSetting 0 id (-90) := congrArg (steeringSetting 0 id) angle
    constructor
    · have turned : ¬ format.same base.controler.angle (steeringSetting 0 id (-90)) = true := by
        change ¬ decide ((0 : ℝ) = steeringSetting 0 id (-90)) = true
        rw [setting]
        norm_num
      have read : (format.hundredths (steeringSetting 0 id (-90))).toInt = -9000 :=
        (hundredths_steeringSetting 0 id _).trans hundredths
      rw [steered, AnglePasses, if_neg turned, read]
      decide
    · have starts : ¬ base.controler.speed = (format.mmsToRpm (-300)).abs := by
        intro same
        have zero : (format.mmsToRpm (-300)).abs.toInt = 0 := by
          rw [← same]
          rfl
        exact revolutions.1.ne (zero.symm.trans rpm)
      rw [SpeedPasses, if_neg starts]
      change 0 ≤ (Int32.ofInt _).abs.toInt ∧ (Int32.ofInt _).abs.toInt < 2 ^ 16
      rw [rpm]
      exact ⟨revolutions.1.le, revolutions.2⟩
  rcases drives_circle_told settings (by decide) wheelRadius gearRatio fits rfl passes with
    ⟨-, told, revs, tells, follows⟩
  have sent : revs = |settings.mmsToRpm realLibrary (-300 : Int32).toInt| :=
    Option.some.inj (tells.symm.trans (transmitted_setCarSpeed fits rfl passes).1)
  rw [angle] at told follows
  rw [hundredths] at told
  rw [speed] at follows
  exact ⟨_, rfl, told, revs, tells, sent ▸ revolutions.1, follows⟩

end SteerSettings

end DrivingControl.Controler

import DrivingControl.Comm.BigEndian
import DrivingControl.Devices.Controler
import DrivingControl.Library.Run

/-!
# Drive commands of a steered car

`CAgvSteeringBaseControler` turns speeds and steering angles into commands of
`CAgvControler`.  Commands and reports of the device come in any order.

A command that equals the last report is suppressed, and the last report need not
be about the last command.  A command has two bytes for its value.  A call has put its value
on the bus exactly when it was not suppressed and the value fits, or when the last
transmitted value was the same already.
-/

namespace DrivingControl.Controler

open DrivingControl.Comm DrivingControl.Devices DrivingControl.Library

/-- The computations on floats between a request and the commands for it. -/
structure SteeringFormat (Angle : Type) extends AngleFormat Angle where
  /-- `CalculateWheelAngle`. -/
  calculateWheelAngle : Int32 → Angle → Angle
  /-- The offset, the two limits and `getTransformedAngle` of `SetSteeringAngle`. -/
  steeringAngle : Angle → Angle
  /-- `MM_S_to_RPM`. -/
  mmsToRpm : Int32 → Int32

/-- `CAgvSteeringBaseControler` with its controller. -/
structure SteeringBaseControler (Angle : Type) where
  controler : Devices.Controler Angle
  targetLineSpeed : Int32
  targetAngulaSpeed : Angle
  currentDirection : Int32

variable {Angle : Type} (format : SteeringFormat Angle)

namespace SteeringBaseControler

/-- `CAgvSteeringBaseControler::SetSteeringSpeed`. -/
def setSteeringSpeed (sent : Int) (speed : Int32) (base : SteeringBaseControler Angle) :
    SteeringBaseControler Angle × Int :=
  let called := base.controler.setSpeed sent speed
  ({ base with controler := called.1 }, called.2)

/-- `CAgvSteeringBaseControler::SetSteeringAngle`. -/
def setSteeringAngle (sent : Int) (angle : Angle) (base : SteeringBaseControler Angle) :
    SteeringBaseControler Angle × Int :=
  let called := base.controler.setAngle format.toAngleFormat sent (format.steeringAngle angle)
  ({ base with controler := called.1 }, called.2)

/-- `CAgvSteeringBaseControler::SetCarSpeed`.  The result of the angle command is
overwritten by that of the speed command. -/
def setCarSpeed (angleSent speedSent : Int) (linearSpeed : Int32) (angularSpeed : Angle)
    (base : SteeringBaseControler Angle) : SteeringBaseControler Angle × Int :=
  let angle := format.calculateWheelAngle linearSpeed angularSpeed
  let steered :=
    (setSteeringAngle format angleSent angle { base with targetAngulaSpeed := angularSpeed }).1
  setSteeringSpeed speedSent (format.mmsToRpm linearSpeed).abs
    { steered with targetLineSpeed := linearSpeed }

/-- `CAgvSteeringBaseControler::StopCar`. -/
def stopCar (speedSent breakSent : Int) (enbraker : Bool) (base : SteeringBaseControler Angle) :
    SteeringBaseControler Angle × Int :=
  let stopped := base.controler.setSpeed speedSent 0
  let braked := if enbraker then (stopped.1.setBreak breakSent true).1 else stopped.1
  ({ base with
      controler := braked
      targetLineSpeed := 0
      targetAngulaSpeed := format.zero
      currentDirection := 0 }, stopped.2)

end SteeringBaseControler

/-- A report of the device, or a call.  Calls for other commands than speed and angle
are `other`, with the frame they send. -/
inductive DriveStep (Angle : Type) where
  | report (buf : Nat → UInt8) (len : Nat)
  | setSpeed (speed : Int32)
  | setAngle (angle : Angle)
  | setCarSpeed (linearSpeed : Int32) (angularSpeed : Angle)
  | stopCar (enbraker : Bool)
  | other (frame : List UInt8)

open SteeringBaseControler

/-- The state after a report or a call, and what it returns, when all sends succeed. -/
def drive (label : DriveStep Angle) (base : SteeringBaseControler Angle) :
    SteeringBaseControler Angle × Int :=
  match label with
  | .report buf len =>
      let parsed := base.controler.parseData format.toAngleFormat buf len
      ({ base with controler := parsed.1 }, parsed.2)
  | .setSpeed speed => setSteeringSpeed 0 speed base
  | .setAngle angle =>
      let called := base.controler.setAngle format.toAngleFormat 0 angle
      ({ base with controler := called.1 }, called.2)
  | .setCarSpeed linearSpeed angularSpeed =>
      setCarSpeed format 0 0 linearSpeed angularSpeed base
  | .stopCar enbraker => stopCar format 0 0 enbraker base
  | .other frame =>
      let called := base.controler.sendData 0 frame
      ({ base with controler := called.1 }, called.2)

/-- Reports and calls in any order. -/
def driveStep : StepFn (SteeringBaseControler Angle) (DriveStep Angle) :=
  fun label base => some (drive format label base).1

/-- A call that returns 0 has left its speed, its angle or both as the last ones that the
device was told. -/
def Transmitted (base : SteeringBaseControler Angle) (label : DriveStep Angle)
    (next : SteeringBaseControler Angle) : Prop :=
  (drive format label base).2 = 0 →
    match label with
    | .report _ _ => True
    | .setSpeed speed => next.controler.transmittedSpeed = some speed.toInt
    | .setAngle angle =>
        next.controler.transmittedHundredths = some (format.hundredths angle).toInt
    | .setCarSpeed linearSpeed angularSpeed =>
        next.controler.transmittedHundredths = some (format.hundredths
            (format.steeringAngle (format.calculateWheelAngle linearSpeed angularSpeed))).toInt ∧
          next.controler.transmittedSpeed = some (format.mmsToRpm linearSpeed).abs.toInt
    | .stopCar _ => next.controler.transmittedSpeed = some 0
    | .other _ => True

/-- A speed that is suppressed is what the device was told last, and one that is sent fits
into two bytes. -/
def SpeedPasses (speed : Int32) (base : SteeringBaseControler Angle) : Prop :=
  if base.controler.speed = speed then base.controler.transmittedSpeed = some speed.toInt
  else 0 ≤ speed.toInt ∧ speed.toInt < 2 ^ 16

/-- An angle that is suppressed is what the device was told last, and the hundredths of one
that is sent fit into a `short`. -/
def AnglePasses (angle : Angle) (base : SteeringBaseControler Angle) : Prop :=
  if format.same base.controler.angle angle then
    base.controler.transmittedHundredths = some (format.hundredths angle).toInt
  else -2 ^ 15 ≤ (format.hundredths angle).toInt ∧ (format.hundredths angle).toInt < 2 ^ 15

/-- No command of the call is suppressed wrongly or cut. -/
def Passes (base : SteeringBaseControler Angle) (label : DriveStep Angle)
    (_ : SteeringBaseControler Angle) : Prop :=
  match label with
  | .report _ _ => True
  | .setSpeed speed => SpeedPasses speed base
  | .setAngle angle => AnglePasses format angle base
  | .setCarSpeed linearSpeed angularSpeed =>
      AnglePasses format
          (format.steeringAngle (format.calculateWheelAngle linearSpeed angularSpeed)) base ∧
        SpeedPasses (format.mmsToRpm linearSpeed).abs base
  | .stopCar _ => SpeedPasses 0 base
  | .other _ => True

/-! ## What the device was told -/

/-- A speed command tells two bytes of the speed. -/
theorem speedOf_speedFrame (speed : Int32) :
    Controler.speedOf (Controler.speedFrame speed) = some (speed.toInt % 2 ^ 16) := by
  have written := toInt_buffer2Bin_bin2Buffer speed (by decide : 1 ≤ 2) (by decide)
  rw [(bmod_residue speed).1 (by decide)] at written
  exact congrArg some written

/-- An angle command tells two bytes of the hundredths. -/
theorem hundredthsOf_angleFrame (angle : Angle) :
    Controler.hundredthsOf (Controler.angleFrame format.toAngleFormat angle) =
      some ((format.hundredths angle).toInt.bmod (2 ^ 16)) := by
  have written := toInt_buffer2Bin_bin2Buffer (format.hundredths angle) (by decide : 1 ≤ 2)
    (by decide)
  rw [(bmod_residue _).1 (by decide)] at written
  have read : (Utils.buffer2Bin (Utils.bin2Buffer (format.hundredths angle) 2)).toInt16.toInt =
      (format.hundredths angle).toInt.bmod (2 ^ 16) := by
    rw [Int32.toInt_toInt16, written]
    exact Int.emod_bmod _ (2 ^ 16)
  exact congrArg some read

theorem transmittedSpeed_setSpeed (speed : Int32) (base : SteeringBaseControler Angle) :
    (base.controler.setSpeed 0 speed).1.transmittedSpeed = some speed.toInt ↔
      SpeedPasses speed base := by
  rw [Controler.transmittedSpeed, Controler.lastSpeed_setSpeed, SpeedPasses]
  split
  · exact Iff.rfl
  · rw [Option.bind_some, speedOf_speedFrame, Option.some.injEq]
    omega

theorem transmittedHundredths_setAngle (angle : Angle) (base : SteeringBaseControler Angle) :
    (base.controler.setAngle format.toAngleFormat 0 angle).1.transmittedHundredths =
        some (format.hundredths angle).toInt ↔
      AnglePasses format angle base := by
  rw [Controler.transmittedHundredths, Controler.lastAngle_setAngle, AnglePasses]
  split
  · exact Iff.rfl
  · rw [Option.bind_some, hundredthsOf_angleFrame, Option.some.injEq, Int.bmod_def]
    omega

/-- One call. -/
theorem transmitted_iff_passes (base : SteeringBaseControler Angle)
    (label : DriveStep Angle) (next : SteeringBaseControler Angle)
    (stepped : driveStep format label base = some next) :
    Transmitted format base label next ↔ Passes format base label next := by
  cases Option.some.inj stepped
  cases label with
  | report buf len => simp [Transmitted, Passes]
  | setSpeed speed =>
      simp only [Transmitted, Passes, drive, setSteeringSpeed, Controler.setSpeed_ret,
        forall_const]
      exact transmittedSpeed_setSpeed speed base
  | setAngle angle =>
      simp only [Transmitted, Passes, drive, Controler.setAngle_ret, forall_const]
      exact transmittedHundredths_setAngle format angle base
  | setCarSpeed linearSpeed angularSpeed =>
      let angle := format.steeringAngle (format.calculateWheelAngle linearSpeed angularSpeed)
      let steered := { base with
        controler := (base.controler.setAngle format.toAngleFormat 0 angle).1 }
      have speeds := transmittedSpeed_setSpeed (format.mmsToRpm linearSpeed).abs steered
      have passes : SpeedPasses (format.mmsToRpm linearSpeed).abs steered ↔
          SpeedPasses (format.mmsToRpm linearSpeed).abs base := by
        simp only [SpeedPasses, Controler.transmittedSpeed, steered, Controler.speed_setAngle,
          Controler.lastSpeed_setAngle]
      simp only [Transmitted, Passes, drive, setCarSpeed, setSteeringAngle, setSteeringSpeed,
        Controler.setSpeed_ret, forall_const]
      rw [← transmittedHundredths_setAngle, ← passes, ← speeds]
      simp only [Controler.transmittedHundredths, Controler.lastAngle_setSpeed, steered, angle]
  | stopCar enbraker =>
      simp only [Transmitted, Passes, drive, stopCar, Controler.setSpeed_ret, forall_const]
      rw [← transmittedSpeed_setSpeed 0 base]
      cases enbraker with
      | false => exact Iff.rfl
      | true =>
          simp only [if_true, Controler.transmittedSpeed, Controler.lastSpeed_setBreak]
          exact Iff.rfl
  | other frame => simp [Transmitted, Passes]

/-- In any order of reports and calls, the calls have put their values on the bus
exactly when none of their commands was suppressed wrongly or cut. -/
theorem along_transmitted_iff (labels : List (DriveStep Angle))
    (start : SteeringBaseControler Angle) :
    Along (driveStep format) (Transmitted format) labels start ↔
      Along (driveStep format) (Passes format) labels start :=
  along_congr (transmitted_iff_passes format) labels start

/-- Angles in hundredths of a degree, steered as they are, and speeds in revolutions. -/
def hundredthsFormat : SteeringFormat Int32 where
  same := (· == ·)
  hundredths := id
  ofHundredths := Int16.toInt32
  zero := 0
  calculateWheelAngle _ angularSpeed := angularSpeed
  steeringAngle := id
  mmsToRpm := id

/-- The car is stopped before the device has reported the speed 500 it was told: the
last report is zero and the stop is suppressed. -/
theorem stop_suppressed :
    ¬ ∀ labels : List (DriveStep Int32),
      Along (driveStep hundredthsFormat) (Transmitted hundredthsFormat) labels
        { controler := Controler.init hundredthsFormat.toAngleFormat
          targetLineSpeed := 0
          targetAngulaSpeed := 0
          currentDirection := 0 } := by
  intro transmitted
  have sent := (transmitted [.setSpeed 500, .stopCar true] _ rfl).2 _ rfl
  exact absurd (sent.1 rfl) (by decide)

end DrivingControl.Controler

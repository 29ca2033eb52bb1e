import DrivingControl.Utils.Utils

/-!
# The steering controller

`CAgvControler` sends drive commands to the steering device and keeps what the
device reports.  A speed or an angle that equals the last report is not sent.

Steering angles are floats in the source.  Only their comparison, their encoding
and the decoding of a report matter here, so they are an arbitrary type with these
three operations.
-/

namespace DrivingControl.Devices

open DrivingControl.Utils

/-- What the controller does with a `float` angle. -/
structure AngleFormat (Angle : Type) where
  /-- `==` on floats. -/
  same : Angle → Angle → Bool
  /-- `(int)(angle * 100)`. -/
  hundredths : Angle → Int32
  /-- `value / 100.0`. -/
  ofHundredths : Int16 → Angle
  /-- `0.0`. -/
  zero : Angle

/-- `CAgvControler` and the frames it has put on the bus. -/
structure Controler (Angle : Type) where
  direction : Int32
  speed : Int32
  angle : Angle
  distance : UInt32
  runErrorCode : UInt8
  turnErrorCode : UInt8
  /-- The frames transmitted under `wCanId`, oldest first. -/
  transmitted : List (List UInt8)
  deriving Repr

variable {Angle : Type}

namespace Controler

/-- The constructor of `CAgvControler`. -/
def init (format : AngleFormat Angle) : Controler Angle where
  direction := 0
  speed := 0
  angle := format.zero
  distance := 0
  runErrorCode := 0
  turnErrorCode := 0
  transmitted := []

/-- `SendData`: the frame is on the bus when the socket's write succeeds. -/
def sendData (sent : Int) (frame : List UInt8) (controler : Controler Angle) :
    Controler Angle × Int :=
  (if sent = 0 then { controler with transmitted := controler.transmitted ++ [frame] }
   else controler, sent)

/-- `CAgvControler::SetEnable`. -/
def setEnable (sent : Int) (enable : Bool) (controler : Controler Angle) :=
  sendData sent [0x11, enable.toUInt8] controler

/-- `CAgvControler::SetDirection`. -/
def setDirection (sent : Int) (direct : Int32) (controler : Controler Angle) :=
  sendData sent [0x12, direct.toUInt32.toUInt8] controler

/-- The frame `SetAngle` sends. -/
def angleFrame (format : AngleFormat Angle) (angle : Angle) : List UInt8 :=
  0x13 :: bin2Buffer (format.hundredths angle) 2

/-- `CAgvControler::SetAngle`. -/
def setAngle (format : AngleFormat Angle) (sent : Int) (angle : Angle)
    (controler : Controler Angle) : Controler Angle × Int :=
  if format.same controler.angle angle then (controler, 0)
  else sendData sent (angleFrame format angle) controler

/-- The frame `SetSpeed` sends. -/
def speedFrame (speed : Int32) : List UInt8 := 0x14 :: bin2Buffer speed 2

/-- `CAgvControler::SetSpeed`. -/
def setSpeed (sent : Int) (speed : Int32) (controler : Controler Angle) :
    Controler Angle × Int :=
  if controler.speed = speed then (controler, 0)
  else sendData sent (speedFrame speed) controler

/-- `CAgvControler::SetBreak`. -/
def setBreak (sent : Int) (enable : Bool) (controler : Controler Angle) :=
  sendData sent [0x15, enable.toUInt8] controler

/-- `CAgvControler::ResetDistance`. -/
def resetDistance (sent : Int) (controler : Controler Angle) :=
  sendData sent [0x16] controler

/-- `CAgvControler::ParseCanData`.  The bytes behind the frame are those the
receiver's buffer holds there. -/
def parseCanData (format : AngleFormat Angle) (buf : Nat → UInt8) (len : Nat)
    (controler : Controler Angle) : Controler Angle × Int :=
  if buf 0 = 0x01 then
    if len < 8 then (controler, -1)
    else
      ({ controler with
          direction := buffer2Bin [buf 1]
          angle := format.ofHundredths (buffer2Bin [buf 2, buf 3]).toInt16
          speed := buffer2Bin [buf 4, buf 5]
          distance := (buffer2Bin [buf 6, buf 7]).toUInt32 }, 8)
  else if buf 0 = 0x02 then
    if len < 2 then (controler, -1)
    else ({ controler with runErrorCode := buf 1, turnErrorCode := buf 2 }, 3)
  else (controler, 0)

/-- `CAgvCanSensor::ParseData`, without the sign of life it records. -/
def parseData (format : AngleFormat Angle) (buf : Nat → UInt8) (len : Nat)
    (controler : Controler Angle) : Controler Angle × Int :=
  if len = 0 then (controler, -1)
  else if len = 2 ∧ buf 0 = 0xFF ∧ buf 1 = 0xFF then (controler, 0)
  else parseCanData format buf len controler

/-! ## The last command of a kind -/

/-- The last frame on the bus with a given first byte. -/
def lastCommand (cmd : UInt8) (transmitted : List (List UInt8)) : Option (List UInt8) :=
  (transmitted.filter (·.head? == some cmd)).getLast?

/-- The last speed command on the bus. -/
def lastSpeed (controler : Controler Angle) : Option (List UInt8) :=
  lastCommand 0x14 controler.transmitted

/-- The last angle command on the bus. -/
def lastAngle (controler : Controler Angle) : Option (List UInt8) :=
  lastCommand 0x13 controler.transmitted

/-- The two bytes behind a command, as `ParseCanData` reads a reported speed. -/
def speedOf : List UInt8 → Option Int
  | [_, high, low] => some (buffer2Bin [high, low]).toInt
  | _ => none

/-- The two bytes behind a command, as `ParseCanData` reads the hundredths of a reported
angle. -/
def hundredthsOf : List UInt8 → Option Int
  | [_, high, low] => some (buffer2Bin [high, low]).toInt16.toInt
  | _ => none

/-- The speed that the device was told last. -/
def transmittedSpeed (controler : Controler Angle) : Option Int :=
  controler.lastSpeed.bind speedOf

/-- The hundredths of a degree that the device was told last. -/
def transmittedHundredths (controler : Controler Angle) : Option Int :=
  controler.lastAngle.bind hundredthsOf

theorem lastCommand_append_same (cmd : UInt8) (arguments : List UInt8)
    (transmitted : List (List UInt8)) :
    lastCommand cmd (transmitted ++ [cmd :: arguments]) = some (cmd :: arguments) := by
  simp [lastCommand, List.filter_append]

theorem lastCommand_append_other {cmd other : UInt8} (different : other ≠ cmd)
    (arguments : List UInt8) (transmitted : List (List UInt8)) :
    lastCommand cmd (transmitted ++ [other :: arguments]) = lastCommand cmd transmitted := by
  simp [lastCommand, List.filter_append, different]

section Sent

variable (controler : Controler Angle)

@[simp] theorem sendData_zero (frame : List UInt8) :
    sendData 0 frame controler =
      ({ controler with transmitted := controler.transmitted ++ [frame] }, 0) := rfl

/-- The last speed command behind `SetSpeed`. -/
theorem lastSpeed_setSpeed (speed : Int32) :
    (setSpeed 0 speed controler).1.lastSpeed =
      if controler.speed = speed then controler.lastSpeed else some (speedFrame speed) := by
  rw [setSpeed]
  split
  · rfl
  · simp [lastSpeed, speedFrame, lastCommand_append_same]

/-- The last angle command behind `SetAngle`. -/
theorem lastAngle_setAngle (format : AngleFormat Angle) (angle : Angle) :
    (setAngle format 0 angle controler).1.lastAngle =
      if format.same controler.angle angle then controler.lastAngle
      else some (angleFrame format angle) := by
  rw [setAngle]
  split
  · rfl
  · simp [lastAngle, angleFrame, lastCommand_append_same]

@[simp] theorem setSpeed_ret (speed : Int32) : (setSpeed 0 speed controler).2 = 0 := by
  rw [setSpeed]
  split <;> rfl

@[simp] theorem setAngle_ret (format : AngleFormat Angle) (angle : Angle) :
    (setAngle format 0 angle controler).2 = 0 := by
  rw [setAngle]
  split <;> rfl

@[simp] theorem speed_setAngle (format : AngleFormat Angle) (angle : Angle) :
    (setAngle format 0 angle controler).1.speed = controler.speed := by
  rw [setAngle]
  split <;> rfl

/-- An angle command leaves the last speed command alone. -/
@[simp] theorem lastSpeed_setAngle (format : AngleFormat Angle) (angle : Angle) :
    (setAngle format 0 angle controler).1.lastSpeed = controler.lastSpeed := by
  rw [setAngle]
  split
  · rfl
  · simp [lastSpeed, angleFrame, lastCommand_append_other]

/-- A speed command leaves the last angle command alone. -/
@[simp] theorem lastAngle_setSpeed (speed : Int32) :
    (setSpeed 0 speed controler).1.lastAngle = controler.lastAngle := by
  rw [setSpeed]
  split
  · rfl
  · simp [lastAngle, speedFrame, lastCommand_append_other]

/-- A brake command leaves the last speed command alone. -/
@[simp] theorem lastSpeed_setBreak (enable : Bool) :
    (setBreak 0 enable controler).1.lastSpeed = controler.lastSpeed := by
  simp [setBreak, lastSpeed, lastCommand_append_other]

end Sent

end Controler

end DrivingControl.Devices

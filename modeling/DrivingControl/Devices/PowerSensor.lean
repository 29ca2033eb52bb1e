import DrivingControl.Event.EventHelper
import DrivingControl.Utils.Utils

/-!
# The power sensor

`CAgvPowerSensor` averages the voltages that the battery frames bring and queues an event
when one of its values changes.  The comparison follows the switch over the commands, with
zeros where no battery frame has set the values.  So a frame of another command resets the
values that are not zero already, and a frame that breaks off behind its third byte counts
as a measurement.
-/

namespace DrivingControl.Devices

open DrivingControl.Event DrivingControl.Utils

/-- `((volt - minVoltage) / (maxVoltage - minVoltage)) * 100.0`, from the voltage and its two
limits, as the `int` it is assigned to. -/
abbrev Percentage := Int32 → Int32 → Int32 → Int32

/-- `CAgvPowerSensor`, with the static variables of `ParseCanData`. -/
structure PowerSensor where
  /-- The limits in millivolts, which `SetBatteryType` sets. -/
  minVoltage : Int32 := 0
  maxVoltage : Int32 := 0
  voltage : Int32 := 0
  capacity : Int32 := 0
  electricity : Int32 := 0
  sumVol : Int32 := 0
  averageTimes : Int32 := 0
  deriving DecidableEq, Repr

/-- What a call of `ParseCanData` leaves, queues and returns. -/
structure PowerParsed where
  power : PowerSensor
  queued : Option AgvEvent
  ret : Int
  deriving DecidableEq, Repr

namespace PowerSensor

/-- `SetBatteryType`. -/
def setBatteryType (type : Int) (power : PowerSensor) : PowerSensor :=
  if type = 1 then { power with minVoltage := 22000, maxVoltage := 26000 }
  else if type = 2 then { power with minVoltage := 23000, maxVoltage := 29000 }
  else power

/-- The constructor of `CAgvPowerSensor`.  Of another type than the two the limits are not
set; they are zero here. -/
def init (type : Int) : PowerSensor := setBatteryType type {}

/-- `calcCapacity`. -/
def calcCapacity (percentage : Percentage) (volt : Int32) (power : PowerSensor) : Int32 :=
  if volt > power.minVoltage then
    let cap := percentage volt power.minVoltage power.maxVoltage
    if cap < 0 then 0 else if cap > 100 then 100 else cap
  else 0

/-- The voltage of a measurement joins the average, which begins anew behind the eleventh. -/
def average (vol : Int32) (power : PowerSensor) : PowerSensor × Int32 :=
  let sumVol := power.sumVol + vol
  let averageTimes := power.averageTimes + 1
  (if averageTimes > 10 then { power with sumVol := 0, averageTimes := 0 }
    else { power with sumVol, averageTimes }, sumVol / averageTimes)

/-- The comparison behind the switch, and what follows it. -/
def update (vol cap ele : Int32) (power : PowerSensor) : PowerSensor × Option AgvEvent :=
  if vol ≠ power.voltage ∨ cap ≠ power.capacity ∨ ele ≠ power.electricity then
    ({ power with voltage := vol, capacity := cap, electricity := ele },
      some { event := .evBattery, data := .batteryMag vol.toInt cap.toInt ele.toInt })
  else (power, none)

/-- The values of a battery frame, and the average that they leave. -/
def measure (percentage : Percentage) (buf : Nat → UInt8) (power : PowerSensor) :
    PowerSensor × Int32 × Int32 × Int32 :=
  -- The battery's type and its status, bytes 1 and 4, are read and not used.
  let averaged := power.average (buffer2Bin [buf 2, buf 3])
  (averaged.1, averaged.2, averaged.1.calcCapacity percentage averaged.2,
    buffer2Bin [buf 5, buf 6])

/-- `CAgvPowerSensor::ParseCanData`.  The bytes behind the frame are those the receiver's
buffer holds there. -/
def parseCanData (percentage : Percentage) (buf : Nat → UInt8) (len : Nat)
    (power : PowerSensor) : PowerParsed :=
  if buf 0 = 0x01 then
    if len < 3 then { power, queued := none, ret := -1 }
    else
      let measured := power.measure percentage buf
      let updated := measured.1.update measured.2.1 measured.2.2.1 measured.2.2.2
      { power := updated.1, queued := updated.2, ret := 7 }
  else
    let updated := power.update 0 0 0
    { power := updated.1, queued := updated.2, ret := 0 }

/-- The values of the battery. -/
def battery (power : PowerSensor) : Int × Int × Int :=
  (power.voltage.toInt, power.capacity.toInt, power.electricity.toInt)

/-! ## Which frames change the battery state -/

/-- A frame with the command of a battery frame and all its seven bytes. -/
def IsBatteryFrame (buf : Nat → UInt8) (len : Nat) : Prop := buf 0 = 0x01 ∧ 7 ≤ len

instance (buf : Nat → UInt8) (len : Nat) : Decidable (IsBatteryFrame buf len) :=
  inferInstanceAs (Decidable (_ ∧ _))

/-- A frame that is no battery frame leaves the sensor as it is and queues nothing. -/
def OnlyBatteryFrames (percentage : Percentage) (buf : Nat → UInt8) (len : Nat)
    (power : PowerSensor) : Prop :=
  ¬ IsBatteryFrame buf len →
    (power.parseCanData percentage buf len).power = power ∧
      (power.parseCanData percentage buf len).queued = none

/-- A frame that carries no measurement comes while the values are zero, and one that does
has all its bytes. -/
def ResetsNothing (buf : Nat → UInt8) (len : Nat) (power : PowerSensor) : Prop :=
  (buf 0 = 0x01 → 7 ≤ len ∨ len < 3) ∧
    (buf 0 ≠ 0x01 → power.voltage = 0 ∧ power.capacity = 0 ∧ power.electricity = 0)

instance (buf : Nat → UInt8) (len : Nat) (power : PowerSensor) :
    Decidable (ResetsNothing buf len power) :=
  inferInstanceAs (Decidable ((_ → _ ∨ _) ∧ (_ → _ ∧ _ ∧ _)))

variable {percentage : Percentage} {buf : Nat → UInt8} {len : Nat} {power : PowerSensor}

/-- Every measurement is counted, or ends the count. -/
theorem averageTimes_average (vol : Int32) (power : PowerSensor) :
    (power.average vol).1.averageTimes ≠ power.averageTimes := by
  intro same
  simp only [average] at same
  split at same
  next many =>
    have first : power.averageTimes = 0 := same.symm
    rw [first] at many
    exact absurd many (by decide)
  next => exact absurd (Int32.add_eq_left.mp same) (by decide)

/-- The values of a measurement leave the averaging state to it. -/
theorem averageTimes_update (vol cap ele : Int32) (power : PowerSensor) :
    (power.update vol cap ele).1.averageTimes = power.averageTimes := by
  rw [update]
  split <;> rfl

/-- The values are compared with the present ones. -/
theorem update_eq_iff (vol cap ele : Int32) (power : PowerSensor) :
    (power.update vol cap ele).1 = power ∧ (power.update vol cap ele).2 = none ↔
      power.voltage = vol ∧ power.capacity = cap ∧ power.electricity = ele := by
  rw [update]
  split
  next differ =>
    constructor
    · rintro ⟨-, none⟩
      cases none
    · rintro ⟨rfl, rfl, rfl⟩
      simp at differ
  next same =>
    simp only [ne_eq, not_or, Decidable.not_not] at same
    simp [same]

/-! ## The kinds of frames -/

theorem parseCanData_measure (battery : buf 0 = 0x01) (long : 3 ≤ len) :
    power.parseCanData percentage buf len =
      { power := ((power.measure percentage buf).1.update (power.measure percentage buf).2.1
          (power.measure percentage buf).2.2.1 (power.measure percentage buf).2.2.2).1
        queued := ((power.measure percentage buf).1.update (power.measure percentage buf).2.1
          (power.measure percentage buf).2.2.1 (power.measure percentage buf).2.2.2).2
        ret := 7 } := by
  rw [parseCanData, if_pos battery, if_neg (Nat.not_lt.mpr long)]

theorem parseCanData_rejected (battery : buf 0 = 0x01) (short : len < 3) :
    power.parseCanData percentage buf len = { power, queued := none, ret := -1 } := by
  rw [parseCanData, if_pos battery, if_pos short]

theorem parseCanData_other (other : buf 0 ≠ 0x01) :
    power.parseCanData percentage buf len =
      { power := (power.update 0 0 0).1, queued := (power.update 0 0 0).2, ret := 0 } := by
  rw [parseCanData, if_neg other]

/-- A measurement changes the averaging state. -/
theorem power_ne_of_measure (battery : buf 0 = 0x01) (long : 3 ≤ len) :
    (power.parseCanData percentage buf len).power ≠ power := by
  intro same
  have counted := congrArg averageTimes same
  rw [parseCanData_measure battery long, averageTimes_update] at counted
  exact averageTimes_average _ _ counted

/-- A frame that is no battery frame changes nothing exactly if it brings no measurement
and finds the values zero, or is rejected. -/
theorem onlyBatteryFrames_iff (percentage : Percentage) (buf : Nat → UInt8) (len : Nat)
    (power : PowerSensor) :
    power.OnlyBatteryFrames percentage buf len ↔ power.ResetsNothing buf len := by
  by_cases battery : buf 0 = 0x01
  · have agree : power.ResetsNothing buf len ↔ 7 ≤ len ∨ len < 3 := by
      simp [ResetsNothing, battery]
    rw [agree]
    constructor
    · intro unchanged
      by_cases short : len < 3
      · exact .inr short
      · have frame : IsBatteryFrame buf len := by
          apply Classical.byContradiction
          intro breaksOff
          exact power_ne_of_measure battery (Nat.le_of_not_lt short) (unchanged breaksOff).1
        exact .inl frame.2
    · rintro (long | short) notFrame
      · exact absurd ⟨battery, long⟩ notFrame
      · rw [parseCanData_rejected battery short]
        exact ⟨rfl, rfl⟩
  · have agree : power.ResetsNothing buf len ↔
        power.voltage = 0 ∧ power.capacity = 0 ∧ power.electricity = 0 := by
      simp [ResetsNothing, battery]
    rw [agree, OnlyBatteryFrames, parseCanData_other battery, update_eq_iff]
    constructor
    · intro unchanged
      exact unchanged fun frame => battery frame.1
    · intro zero _
      exact zero

end PowerSensor

end DrivingControl.Devices

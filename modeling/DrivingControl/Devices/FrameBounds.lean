import DrivingControl.Devices.Controler
import DrivingControl.Devices.HMISensor
import DrivingControl.Devices.PowerSensor

/-!
# The bounds of the received frames

A parser is handed a buffer and a length.  The steering controller and the power sensor test
the length for some of their commands and the panel for none, and where they do, the length
of the test is not always that of the record.  Here the bytes that each parser reads stand
beside the parser, and a frame is followed by whatever the buffer holds behind it.
-/

namespace DrivingControl.Devices

/-- The byte of a buffer that begins with a frame. -/
def frameByte (beyond : Nat → UInt8) (frame : List UInt8) (i : Nat) : UInt8 :=
  frame.getD i (beyond i)

/-! ## What is read -/

/-- The bytes that `CAgvControler::ParseCanData` reads. -/
def Controler.reads (buf : Nat → UInt8) (len : Nat) : List Nat :=
  if buf 0 = 0x01 then (if len < 8 then [0] else [0, 1, 2, 3, 4, 5, 6, 7])
  else if buf 0 = 0x02 then (if len < 2 then [0] else [0, 1, 2])
  else [0]

/-- The bytes of a frame with two characters of an address. -/
def addressReads (part : UInt8) : List Nat :=
  if 1 ≤ part.toNat ∧ part.toNat ≤ 8 then [0, 1, 2, 3] else [0, 1]

/-- The bytes that `CAgvHMISensor::ParseCanData` reads. -/
def HMISensor.reads (buf : Nat → UInt8) : List Nat :=
  match buf 0 with
  | 0x01 => [0, 1]
  | 0x02 => [0, 1]
  | 0x07 => [0, 1, 2]
  | 0x08 => [0, 1, 2]
  | 0x09 => addressReads (buf 1)
  | 0x0A => [0, 1, 2, 3, 4]
  | 0x11 => [0, 1]
  | 0x12 => [0, 1]
  | 0x13 => [0, 1]
  | 0x14 => [0, 1]
  | 0x15 => addressReads (buf 1)
  | 0x81 => [0, 1]
  | _ => [0]

/-- The bytes that `CAgvPowerSensor::ParseCanData` reads. -/
def PowerSensor.reads (buf : Nat → UInt8) (len : Nat) : List Nat :=
  if buf 0 = 0x01 then (if len < 3 then [0] else [0, 1, 2, 3, 4, 5, 6]) else [0]

/-! ## The parsers depend on what they read -/

section Reads

variable {buf other : Nat → UInt8}

theorem Controler.zero_mem_reads (buf : Nat → UInt8) (len : Nat) :
    0 ∈ Controler.reads buf len := by
  unfold Controler.reads
  split
  · split <;> simp
  · split
    · split <;> simp
    · simp

theorem zero_mem_addressReads (part : UInt8) : 0 ∈ addressReads part := by
  unfold addressReads
  split <;> simp

theorem HMISensor.zero_mem_reads (buf : Nat → UInt8) : 0 ∈ HMISensor.reads buf := by
  unfold HMISensor.reads
  split
  -- `0x09` and `0x15`, whose frames say themselves how far they are read.
  case h_5 => exact zero_mem_addressReads _
  case h_11 => exact zero_mem_addressReads _
  all_goals simp

theorem PowerSensor.zero_mem_reads (buf : Nat → UInt8) (len : Nat) :
    0 ∈ PowerSensor.reads buf len := by
  unfold PowerSensor.reads
  split
  · split <;> simp
  · simp

theorem Controler.parseCanData_congr {Angle : Type} {len : Nat}
    (agree : ∀ i ∈ Controler.reads buf len, other i = buf i) (format : AngleFormat Angle)
    (controler : Controler Angle) :
    Controler.parseCanData format other len controler =
      Controler.parseCanData format buf len controler := by
  have command : other 0 = buf 0 := agree 0 (Controler.zero_mem_reads buf len)
  unfold Controler.reads at agree
  simp only [Controler.parseCanData, command]
  split at agree
  next report =>
    split at agree
    next short => simp only [if_pos report, if_pos short]
    next long =>
      simp only [List.forall_mem_cons] at agree
      simp only [if_pos report, if_neg long, agree]
  next notReport =>
    split at agree
    next errors =>
      split at agree
      next short => simp only [if_neg notReport, if_pos errors, if_pos short]
      next long =>
        simp only [List.forall_mem_cons] at agree
        simp only [if_neg notReport, if_pos errors, if_neg long, agree]
    next notErrors => simp only [if_neg notReport, if_neg notErrors]

theorem PowerSensor.parseCanData_congr {len : Nat}
    (agree : ∀ i ∈ PowerSensor.reads buf len, other i = buf i) (percentage : Percentage)
    (power : PowerSensor) :
    power.parseCanData percentage other len = power.parseCanData percentage buf len := by
  have command : other 0 = buf 0 := agree 0 (PowerSensor.zero_mem_reads buf len)
  unfold PowerSensor.reads at agree
  simp only [PowerSensor.parseCanData, PowerSensor.measure, command]
  split at agree
  next battery =>
    split at agree
    next short => simp only [if_pos short]
    next =>
      simp only [List.forall_mem_cons] at agree
      simp only [agree]
  next other => simp only [if_neg other]

/-- Characters for no place of the buffer are not taken. -/
theorem addressPart_of_outside {part : UInt8} (outside : ¬ (1 ≤ part.toNat ∧ part.toNat ≤ 8))
    (first second : UInt8) (ip : Fin 16 → UInt8) :
    HMISensor.addressPart part first second ip = ip := by
  funext i
  exact if_neg (by omega)

theorem addressPart_congr (agree : ∀ i ∈ addressReads (buf 1), other i = buf i)
    (ip : Fin 16 → UInt8) :
    other 1 = buf 1 ∧
      HMISensor.addressPart (buf 1) (other 2) (other 3) ip =
        HMISensor.addressPart (buf 1) (buf 2) (buf 3) ip := by
  unfold addressReads at agree
  split at agree
  next =>
    simp only [List.forall_mem_cons] at agree
    obtain ⟨-, part, first, second, -⟩ := agree
    rw [first, second]
    exact ⟨part, rfl⟩
  next outside =>
    simp only [List.forall_mem_cons] at agree
    rw [addressPart_of_outside outside, addressPart_of_outside outside]
    exact ⟨agree.2.1, rfl⟩

/-- The frame and what lies behind it are one buffer. -/
theorem parseCanData_frameByte (conversions : Conversions) (beyond : Nat → UInt8)
    (frame : List UInt8) (hmi : HMISensor) :
    hmi.parseCanData conversions beyond frame =
      hmi.parseCanData conversions (frameByte beyond frame) [] := rfl

theorem HMISensor.parseCanData_congr (agree : ∀ i ∈ HMISensor.reads buf, other i = buf i)
    (conversions : Conversions) (hmi : HMISensor) :
    hmi.parseCanData conversions other [] = hmi.parseCanData conversions buf [] := by
  have command : other 0 = buf 0 := agree 0 (HMISensor.zero_mem_reads buf)
  unfold HMISensor.reads at agree
  split at agree
  all_goals simp only [HMISensor.parseCanData, List.getD_nil, command]
  -- `0x09` and `0x15`.
  case h_5 code =>
    obtain ⟨part, placed⟩ := addressPart_congr agree hmi.serverIp
    simp only [code, part, placed]
    congr
  case h_11 code =>
    obtain ⟨part, placed⟩ := addressPart_congr agree hmi.localrIp
    simp only [code, part, placed]
    congr
  -- `0x13` and `0x81`, which compare the second byte.
  case h_9 code =>
    simp only [code, agree 1 (by simp)]
    congr
  case h_12 code =>
    simp only [code, agree 1 (by simp)]
    congr
  all_goals
    rename_i code
    simp only [List.forall_mem_cons] at agree
    simp only [code, agree]

end Reads

/-! ## What is to hold -/

/-- The bytes of a panel frame with its command. -/
def HMISensor.recordLength (buf : Nat → UInt8) : Nat :=
  if buf 0 = 0x0A then 5
  else if buf 0 = 0x09 ∨ buf 0 = 0x15 then
    (if 1 ≤ (buf 1).toNat ∧ (buf 1).toNat ≤ 8 then 4 else 2)
  else if buf 0 = 0x07 ∨ buf 0 = 0x08 then 3
  else if buf 0 ∈ ([0x01, 0x02, 0x11, 0x12, 0x13, 0x14, 0x81] : List UInt8) then 2
  else 1

/-- A sensor whose parser gets its length. -/
inductive BoundedSensor (Angle : Type) where
  | controler (format : AngleFormat Angle) (state : Controler Angle)
  | hmi (conversions : Conversions) (state : HMISensor)
  | power (percentage : Percentage) (state : PowerSensor)

namespace BoundedSensor

variable {Angle : Type}

/-- `ParseCanData`, and the sensor that it leaves. -/
def parseCanData (beyond : Nat → UInt8) (frame : List UInt8) :
    BoundedSensor Angle → BoundedSensor Angle
  | .controler format state =>
      .controler format (state.parseCanData format (frameByte beyond frame) frame.length).1
  | .hmi conversions state => .hmi conversions (state.parseCanData conversions beyond frame)
  | .power percentage state =>
      .power percentage
        (state.parseCanData percentage (frameByte beyond frame) frame.length).power

/-- The bytes that `ParseCanData` reads. -/
def reads (buf : Nat → UInt8) (len : Nat) : BoundedSensor Angle → List Nat
  | .controler _ _ => Controler.reads buf len
  | .hmi _ _ => HMISensor.reads buf
  | .power _ _ => PowerSensor.reads buf len

/-- The bytes of a frame with its command. -/
def recordLength (buf : Nat → UInt8) : BoundedSensor Angle → Nat
  | .controler _ _ => if buf 0 = 0x01 then 8 else if buf 0 = 0x02 then 3 else 1
  | .hmi _ _ => HMISensor.recordLength buf
  | .power _ _ => if buf 0 = 0x01 then 7 else 1

/-- Only bytes of the frame are read, and a frame without all bytes of its command changes
nothing. -/
def StaysInside (beyond : Nat → UInt8) (frame : List UInt8) (sensor : BoundedSensor Angle) :
    Prop :=
  (∀ i ∈ sensor.reads (frameByte beyond frame) frame.length, i < frame.length) ∧
    (frame.length < sensor.recordLength (frameByte beyond frame) →
      sensor.parseCanData beyond frame = sensor)

/-- The frame does not break off where its command is not tested, or is not tested for its
last bytes. -/
def Covered (buf : Nat → UInt8) (len : Nat) : BoundedSensor Angle → Prop
  | .controler _ _ => ¬ (buf 0 = 0x02 ∧ len = 2)
  | .hmi _ _ => HMISensor.recordLength buf ≤ len
  | .power _ _ => ¬ (buf 0 = 0x01 ∧ 3 ≤ len ∧ len < 7)

/-- A parser depends on the bytes it reads only. -/
theorem parseCanData_congr {beyond other : Nat → UInt8} {frame twin : List UInt8}
    (same : twin.length = frame.length) (sensor : BoundedSensor Angle)
    (agree : ∀ i ∈ sensor.reads (frameByte beyond frame) frame.length,
      frameByte other twin i = frameByte beyond frame i) :
    sensor.parseCanData other twin = sensor.parseCanData beyond frame := by
  cases sensor with
  | controler format state =>
      simp only [parseCanData, same, Controler.parseCanData_congr agree]
  | hmi conversions state =>
      have parsed := HMISensor.parseCanData_congr agree conversions state
      simp only [parseCanData]
      rw [parseCanData_frameByte conversions other, parsed]
      rfl
  | power percentage state =>
      simp only [parseCanData, same, PowerSensor.parseCanData_congr agree]

/-- A parser that stays inside its frame does not depend on what lies behind it. -/
theorem parseCanData_beyond {beyond : Nat → UInt8} {frame : List UInt8}
    {sensor : BoundedSensor Angle} (inside : sensor.StaysInside beyond frame)
    (other : Nat → UInt8) :
    sensor.parseCanData other frame = sensor.parseCanData beyond frame := by
  apply parseCanData_congr rfl
  intro i read
  have within := inside.1 i read
  rw [frameByte, frameByte, List.getD_eq_getElem _ _ within, List.getD_eq_getElem _ _ within]

/-! ## When it holds -/

variable {beyond : Nat → UInt8} {frame : List UInt8}

theorem controler_staysInside_iff (format : AngleFormat Angle) (state : Controler Angle)
    (nonempty : 1 ≤ frame.length) :
    (BoundedSensor.controler format state).StaysInside beyond frame ↔
      ¬ (frameByte beyond frame 0 = 0x02 ∧ frame.length = 2) := by
  unfold StaysInside
  simp only [reads, recordLength, parseCanData, Controler.reads, Controler.parseCanData]
  by_cases report : frameByte beyond frame 0 = 0x01
  · simp only [report]
    by_cases short : frame.length < 8
    · simp [short]
      omega
    · simp [short]
      omega
  · by_cases errors : frameByte beyond frame 0 = 0x02
    · by_cases short : frame.length < 2
      · simp [errors, short]
        omega
      · simp [errors, short]
        omega
    · simp [report, errors]
      omega

theorem power_staysInside_iff (percentage : Percentage) (state : PowerSensor)
    (nonempty : 1 ≤ frame.length) :
    (.power percentage state : BoundedSensor Angle).StaysInside beyond frame ↔
      ¬ (frameByte beyond frame 0 = 0x01 ∧ 3 ≤ frame.length ∧ frame.length < 7) := by
  unfold StaysInside
  simp only [reads, recordLength, parseCanData, PowerSensor.reads, PowerSensor.parseCanData]
  by_cases battery : frameByte beyond frame 0 = 0x01
  · by_cases short : frame.length < 3
    · simp [battery, short]
      omega
    · simp [battery, short]
      omega
  · simp only [battery, ↓reduceIte, false_and, not_false_iff, iff_true]
    constructor
    · simp
      omega
    · intro short
      omega

theorem addressReads_below_iff (part : UInt8) {len : Nat} :
    (∀ i ∈ addressReads part, i < len) ↔
      (if 1 ≤ part.toNat ∧ part.toNat ≤ 8 then 4 else 2) ≤ len := by
  unfold addressReads
  split
  · simp
    omega
  · simp
    omega

/-- The panel's parser reads the bytes of the record. -/
theorem reads_below_iff (buf : Nat → UInt8) {len : Nat} :
    (∀ i ∈ HMISensor.reads buf, i < len) ↔ HMISensor.recordLength buf ≤ len := by
  unfold HMISensor.reads HMISensor.recordLength
  split
  case h_5 code => simp [code, addressReads_below_iff]
  case h_11 code => simp [code, addressReads_below_iff]
  case h_13 =>
    simp only [imp_false] at *
    simp [*]
    omega
  all_goals
    rename_i code
    simp [code]
    omega

theorem hmi_staysInside_iff (conversions : Conversions) (state : HMISensor) :
    (.hmi conversions state : BoundedSensor Angle).StaysInside beyond frame ↔
      HMISensor.recordLength (frameByte beyond frame) ≤ frame.length := by
  rw [StaysInside, reads, reads_below_iff, recordLength]
  constructor
  · exact fun inside => inside.1
  · intro whole
    exact ⟨whole, fun short => absurd whole (Nat.not_le.mpr short)⟩

/-- A parser stays inside a frame exactly if the frame does not break off where the length
is not tested, or where the test lets it pass. -/
theorem staysInside_iff_covered (sensor : BoundedSensor Angle) (beyond : Nat → UInt8)
    (frame : List UInt8) (nonempty : 1 ≤ frame.length) :
    sensor.StaysInside beyond frame ↔
      sensor.Covered (frameByte beyond frame) frame.length := by
  cases sensor with
  | controler format state => exact controler_staysInside_iff format state nonempty
  | hmi conversions state => exact hmi_staysInside_iff conversions state
  | power percentage state => exact power_staysInside_iff percentage state nonempty

/-- A battery frame with all its bytes, and one that breaks off, behind others. -/
theorem staysInside_iff_covered_battery :
    let sensor : BoundedSensor Int :=
      .power (fun _ _ _ => 50) { voltage := 24000, capacity := 50, electricity := 100 }
    sensor.StaysInside (fun _ => 7) [0x01, 0x01, 0x5D, 0xC0, 0x00, 0x00, 0x64] ∧
      ¬ sensor.StaysInside (fun _ => 7) [0x01, 0x01, 0x5D, 0xC0] := by
  intro sensor
  constructor
  · apply (staysInside_iff_covered sensor _ _ (by decide)).mpr
    rintro ⟨-, -, short⟩
    exact absurd short (by decide)
  · apply mt (staysInside_iff_covered sensor _ _ (by decide)).mp
    intro covered
    exact covered (by decide)

/-- Of a battery frame with three bytes, seven are read, and the voltage is what happens to
lie behind it. -/
theorem staysInside_fails :
    (¬ ∀ (sensor : BoundedSensor Int) (beyond : Nat → UInt8) (frame : List UInt8),
        1 ≤ frame.length → sensor.StaysInside beyond frame) ∧
      (PowerSensor.parseCanData (fun _ _ _ => 50) (frameByte (fun _ => 7) [0x01, 0x01, 0x5D]) 3
          {}).power.voltage = 0x5D07 := by
  constructor
  · intro all
    have inside := all (.power (fun _ _ _ => 50) {}) (fun _ => 7) [0x01, 0x01, 0x5D] (by decide)
    exact absurd inside.1 (by decide)
  · decide

end BoundedSensor

end DrivingControl.Devices

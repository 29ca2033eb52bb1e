import DrivingControl.Library.Run
import DrivingControl.Utils.Utils

/-!
# The distance of the barrier sensor

`SetBarrierDistance` does not send a distance that equals the one requested before, which
it remembers before it sends.  When the first of a row of equal requests could not be sent,
the others report success without a send.  A distance is sent as one byte.
-/

namespace DrivingControl.Devices

open DrivingControl.Library

/-- `CAgvBarrierSensor` as `SetBarrierDistance` uses it, and the frames it has put on the
bus. -/
structure BarrierSensor where
  /-- The static variable of `SetBarrierDistance`. -/
  lastDistance : Int32 := -1
  /-- The frames transmitted under `wCanId`, oldest first. -/
  transmitted : List (List UInt8) := []
  deriving DecidableEq, Repr

/-- A call of `SetBarrierDistance`, and what the socket's write would return. -/
structure DistanceRequest where
  type : Int32
  id : Int32
  status : Int32
  distance : Int32
  sent : Int
  deriving DecidableEq, Repr

/-- An `int` that is assigned to an `unsigned char`. -/
def lowByte (value : Int32) : UInt8 := value.toUInt32.toUInt8

namespace BarrierSensor

/-- `SendData`: the frame is on the bus when the socket's write succeeds. -/
def sendData (sent : Int) (frame : List UInt8) (sensor : BarrierSensor) :
    BarrierSensor × Int :=
  (if sent = 0 then { sensor with transmitted := sensor.transmitted ++ [frame] } else sensor,
    sent)

/-- The frame of a distance. -/
def distanceFrame (request : DistanceRequest) : List UInt8 :=
  [0x01, lowByte request.type, lowByte request.id, lowByte request.status,
    lowByte request.distance]

/-- `CAgvBarrierSensor::SetBarrierDistance`. -/
def setBarrierDistance (request : DistanceRequest) (sensor : BarrierSensor) :
    BarrierSensor × Int :=
  if sensor.lastDistance = request.distance then (sensor, 0)
  else
    { sensor with lastDistance := request.distance }.sendData request.sent
      (distanceFrame request)

/-- One call. -/
def call : StepFn BarrierSensor DistanceRequest := fun request sensor =>
  some (sensor.setBarrierDistance request).1

/-- The distance of the last frame on the bus. -/
def transmittedDistance (sensor : BarrierSensor) : Option Int :=
  sensor.transmitted.getLast?.bind fun frame => frame[4]?.map fun byte => (byte.toNat : Int)

/-- A call that reports success leaves the requested distance as the last one transmitted. -/
def ReallySet (sensor : BarrierSensor) (request : DistanceRequest) (next : BarrierSensor) :
    Prop :=
  (sensor.setBarrierDistance request).2 = 0 →
    next.transmittedDistance = some request.distance.toInt

instance (sensor : BarrierSensor) (request : DistanceRequest) (next : BarrierSensor) :
    Decidable (ReallySet sensor request next) :=
  inferInstanceAs (Decidable (_ → _))

/-! ## Rows of equal requests -/

/-- Whether the row of equal requests that a call belongs to began with a send that
succeeded. -/
def observeRow (sensor : BarrierSensor) (request : DistanceRequest) (_ : BarrierSensor)
    (began : Bool) : Bool :=
  if sensor.lastDistance = request.distance then began else decide (request.sent = 0)

/-- A distance is repeated only behind a send that succeeded, and one that is sent fits into
its byte. -/
def RepeatsSent (paired : BarrierSensor × Bool) (request : DistanceRequest)
    (_ : BarrierSensor × Bool) : Prop :=
  if paired.1.lastDistance = request.distance then paired.2 = true
  else request.sent = 0 → 0 ≤ request.distance.toInt ∧ request.distance.toInt < 256

instance (paired : BarrierSensor × Bool) (request : DistanceRequest)
    (next : BarrierSensor × Bool) : Decidable (RepeatsSent paired request next) :=
  inferInstanceAs (Decidable (ite _ _ _))

/-- A row that began with a send has its distance on the bus. -/
def RowSent (paired : BarrierSensor × Bool) : Prop :=
  paired.2 = true → paired.1.transmittedDistance = some paired.1.lastDistance.toInt

theorem toNat_lowByte {value : Int32} (low : 0 ≤ value.toInt) (high : value.toInt < 256) :
    ((lowByte value).toNat : Int) = value.toInt := by
  have bits : value.toInt = value.toBitVec.toInt := rfl
  have byte : (lowByte value).toNat = value.toBitVec.toNat % 256 := by
    simp only [lowByte, UInt32.toNat_toUInt8]
    rfl
  rw [bits, BitVec.toInt_eq_toNat_cond] at low high ⊢
  rw [byte]
  split at low <;> omega

/-- A distance that fits into its byte is on the bus behind a send that succeeds. -/
theorem transmittedDistance_sendData {request : DistanceRequest} (sensor : BarrierSensor)
    (low : 0 ≤ request.distance.toInt) (high : request.distance.toInt < 256) :
    (sensor.sendData 0 (distanceFrame request)).1.transmittedDistance =
      some request.distance.toInt := by
  simp [transmittedDistance, sendData, distanceFrame, toNat_lowByte low high]

/-! ## What a call keeps -/

variable {paired next : BarrierSensor × Bool} {request : DistanceRequest}

/-- The call whose distance is the one before. -/
theorem setBarrierDistance_same {sensor : BarrierSensor}
    (same : sensor.lastDistance = request.distance) :
    sensor.setBarrierDistance request = (sensor, 0) := by
  rw [setBarrierDistance, if_pos same]

/-- The call with another distance. -/
theorem setBarrierDistance_other {sensor : BarrierSensor}
    (other : sensor.lastDistance ≠ request.distance) :
    sensor.setBarrierDistance request =
      { sensor with lastDistance := request.distance }.sendData request.sent
        (distanceFrame request) := by
  rw [setBarrierDistance, if_neg other]

theorem reallySet_call (rowSent : RowSent paired)
    (stepped : monitored call observeRow request paired = some next)
    (repeatsSent : RepeatsSent paired request next) :
    RowSent next ∧ ReallySet paired.1 request next.1 := by
  obtain ⟨moved, observed⟩ := monitored_eq_some stepped
  have called : next.1 = (paired.1.setBarrierDistance request).1 := (Option.some.inj moved).symm
  by_cases same : paired.1.lastDistance = request.distance
  · rw [RepeatsSent, if_pos same] at repeatsSent
    rw [setBarrierDistance_same same] at called
    have distance := rowSent repeatsSent
    constructor
    · intro _
      rw [called]
      exact distance
    · intro _
      rw [called, distance, same]
  · rw [RepeatsSent, if_neg same] at repeatsSent
    rw [setBarrierDistance_other same] at called
    rw [observeRow, if_neg same] at observed
    have onBus : request.sent = 0 →
        next.1.transmittedDistance = some request.distance.toInt := by
      intro success
      obtain ⟨low, high⟩ := repeatsSent success
      rw [called, success]
      exact transmittedDistance_sendData _ low high
    have remembered : next.1.lastDistance = request.distance := by
      rw [called, sendData]
      split <;> rfl
    constructor
    · intro began
      rw [observed, decide_eq_true_iff] at began
      rw [remembered]
      exact onBus began
    · intro success
      rw [setBarrierDistance_other same] at success
      exact onBus success

end BarrierSensor

/-- In every run of calls in which a distance is repeated only behind a send that succeeded
and the distances that are sent fit into their byte, whatever else fails, each call that
reports success leaves the requested distance as the last one transmitted. -/
theorem reallySet_of_repeatsSent (requests : List DistanceRequest)
    (repeatsSent : Along (monitored BarrierSensor.call BarrierSensor.observeRow)
      BarrierSensor.RepeatsSent requests ({}, false)) :
    Along BarrierSensor.call BarrierSensor.ReallySet requests {} := by
  have start : BarrierSensor.RowSent ({}, false) := fun began => nomatch began
  have along := along_of_guard
    (fun _ _ _ rowSent stepped met => (BarrierSensor.reallySet_call rowSent stepped met).1)
    (fun _ _ _ rowSent stepped met => (BarrierSensor.reallySet_call rowSent stepped met).2)
    start repeatsSent
  exact (along_monitored requests _).mp along

/-- Requests of the periodic setting: one that fails for another distance, and its repetition
behind a success. -/
def periodicRequest (distance : Int32) (sent : Int) : DistanceRequest where
  type := 2
  id := 1
  status := 0
  distance
  sent

theorem reallySet_of_repeatsSent_periodic :
    Along BarrierSensor.call BarrierSensor.ReallySet
      [periodicRequest 13 (-1), periodicRequest 10 0, periodicRequest 10 (-1)] {} :=
  reallySet_of_repeatsSent _ (by decide)

/-- A distance whose send failed is reported as set when it is requested again. -/
theorem reallySet_fails :
    ¬ ∀ requests : List DistanceRequest,
      Along BarrierSensor.call BarrierSensor.ReallySet requests {} := by
  intro all
  exact absurd (all [periodicRequest 13 (-1), periodicRequest 13 0]) (by decide)

end DrivingControl.Devices

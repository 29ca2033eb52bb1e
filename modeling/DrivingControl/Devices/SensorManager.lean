import DrivingControl.Event.EventHelper

/-!
# The sensor manager

`CAgvSensorManager` counts every 100 ms the sensors it has heard of lately, and queues an
event when their number has changed.  A sensor that was silent for fifty counts is taken
for dead.
-/

namespace DrivingControl.Devices

open DrivingControl.Event

/-- `ES0_CANID`, which addresses all sensors. -/
def es0CanId : Nat := 0x0301

/-- `CAgvCanSensor`, as far as the manager looks at it. -/
structure CanSensor where
  rCanId : Nat
  heartBeatCounter : Nat := 0
  isAlive : Bool := false
  deriving DecidableEq, Repr

namespace CanSensor

/-- `ParseData`: the data itself goes to the sensor's own parser. -/
def parseData (len : Nat) (sensor : CanSensor) : CanSensor :=
  if len = 0 then sensor else { sensor with heartBeatCounter := 0, isAlive := true }

/-- The count of one sensor. -/
def check (sensor : CanSensor) : CanSensor :=
  if sensor.heartBeatCounter + 1 ≥ 50 then
    { sensor with heartBeatCounter := 0, isAlive := false }
  else { sensor with heartBeatCounter := sensor.heartBeatCounter + 1 }

end CanSensor

/-- `CAgvSensorManager`, with the static variable of `HandleEvent`. -/
structure SensorManager where
  sensorList : List CanSensor := []
  laseSensorNum : Nat := 0
  deriving DecidableEq, Repr

namespace SensorManager

/-- The manager after `InitAllSensors`, with the identifiers of its sensors. -/
def initAllSensors (rCanIds : List Nat) : SensorManager where
  sensorList := rCanIds.map fun rCanId => { rCanId }

/-- `HandlerData`. -/
def handlerData (canId len : Nat) (manager : SensorManager) : SensorManager :=
  { manager with
    sensorList := manager.sensorList.map fun sensor =>
      if canId = sensor.rCanId ∨ canId = es0CanId then sensor.parseData len else sensor }

/-- The number of sensors that are alive. -/
def sensorNum (sensors : List CanSensor) : Nat := sensors.countP (·.isAlive)

/-- `HandleEvent` for `ev100msTimer`, and the event it queues. -/
def handleTimer (manager : SensorManager) : SensorManager × Option EventList :=
  let sensorList := manager.sensorList.map CanSensor.check
  let num := sensorNum sensorList
  if manager.laseSensorNum ≠ num then
    ({ sensorList, laseSensorNum := num },
      some (if num ≠ sensorList.length then .evSensorOffline else .evSensorOnline))
  else ({ manager with sensorList }, none)

theorem sensorList_handleTimer (manager : SensorManager) :
    manager.handleTimer.1.sensorList = manager.sensorList.map CanSensor.check := by
  unfold handleTimer
  dsimp only
  split <;> rfl

/-- Whether a frame is data of a registered sensor. -/
def hears (canId len : Nat) (manager : SensorManager) : Bool :=
  manager.sensorList.any fun sensor =>
    decide (canId = sensor.rCanId ∨ canId = es0CanId) && decide (len ≠ 0)

/-- Whether a sensor was heard of since the last count. -/
def fresh (manager : SensorManager) : Bool :=
  manager.sensorList.any fun sensor => sensor.isAlive && decide (sensor.heartBeatCounter = 0)

/-- Any other frame changes nothing. -/
theorem handlerData_of_not_hears {canId len : Nat} {manager : SensorManager}
    (other : manager.hears canId len = false) : manager.handlerData canId len = manager := by
  have each : ∀ sensor ∈ manager.sensorList,
      (if canId = sensor.rCanId ∨ canId = es0CanId then sensor.parseData len else sensor) =
        sensor := by
    intro sensor mem
    split
    next addressed =>
      have unheard := List.any_eq_false.mp other sensor mem
      have empty : len = 0 := by simpa [addressed] using unheard
      rw [CanSensor.parseData, if_pos empty]
    next => rfl
  rw [handlerData, List.map_congr_left each, List.map_id']

theorem fresh_of_hears {canId len : Nat} {manager : SensorManager}
    (heard : manager.hears canId len = true) : (manager.handlerData canId len).fresh = true := by
  rcases List.any_eq_true.mp heard with ⟨sensor, mem, both⟩
  rw [Bool.and_eq_true, decide_eq_true_eq, decide_eq_true_eq] at both
  refine List.any_eq_true.mpr ⟨sensor.parseData len, ?_, ?_⟩
  · refine List.mem_map.mpr ⟨sensor, mem, if_pos both.1⟩
  · simp [CanSensor.parseData, both.2]

/-- A count that follows such a frame counts a sensor. -/
theorem sensorNum_of_fresh {manager : SensorManager} (heard : manager.fresh = true) :
    0 < sensorNum manager.handleTimer.1.sensorList := by
  rcases List.any_eq_true.mp heard with ⟨sensor, mem, both⟩
  rw [Bool.and_eq_true, decide_eq_true_eq] at both
  rw [sensorList_handleTimer, sensorNum, List.countP_pos_iff]
  refine ⟨sensor.check, List.mem_map_of_mem mem, ?_⟩
  simp [CanSensor.check, both.1, both.2]

/-- A count revives no sensor. -/
theorem sensorNum_handleTimer_eq_zero {manager : SensorManager}
    (silent : sensorNum manager.sensorList = 0) :
    sensorNum manager.handleTimer.1.sensorList = 0 := by
  rw [sensorNum, List.countP_eq_zero] at silent ⊢
  rw [sensorList_handleTimer]
  intro counted mem
  rcases List.mem_map.mp mem with ⟨sensor, registered, equal⟩
  subst equal
  rw [CanSensor.check]
  split
  · simp
  · exact silent sensor registered

/-- Whether a registered sensor is not alive. -/
def lacksSensor (sensors : List CanSensor) : Bool := sensors.any fun sensor => !sensor.isAlive

theorem lacksSensor_eq_decide (sensors : List CanSensor) :
    lacksSensor sensors = decide (sensorNum sensors ≠ sensors.length) := by
  rw [Bool.eq_iff_iff, decide_eq_true_eq, lacksSensor, sensorNum, Ne, List.countP_eq_length]
  simp

/-- The manager remembers the number of its last count. -/
theorem laseSensorNum_handleTimer (manager : SensorManager) :
    manager.handleTimer.1.laseSensorNum = sensorNum manager.handleTimer.1.sensorList := by
  unfold handleTimer
  dsimp only
  split
  next => rfl
  next same => exact Classical.not_not.mp same

/-- The event of a count tells whether a sensor is missing, and comes exactly when the
number has changed. -/
theorem event_handleTimer (manager : SensorManager) :
    manager.handleTimer.2 =
      if manager.handleTimer.1.laseSensorNum = manager.laseSensorNum then none
      else some (if lacksSensor manager.handleTimer.1.sensorList then .evSensorOffline
        else .evSensorOnline) := by
  unfold handleTimer
  dsimp only
  split
  next changed =>
    rw [if_neg (Ne.symm changed), lacksSensor_eq_decide]
    simp only [decide_eq_true_eq]
  next same => rw [if_pos rfl]

end SensorManager

end DrivingControl.Devices

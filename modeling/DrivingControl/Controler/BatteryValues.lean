import DrivingControl.Controler.CarGauges
import DrivingControl.Devices.PowerSensor

/-!
# The battery's values in the car

The power sensor queues its values when they change, and the car takes them from the event
for its alarm.  Here the sensor runs beside the program.  In a run in which every frame
finds a sensor that it does not reset, the values in the car are those that a battery frame
has left in the sensor.
-/

namespace DrivingControl.Controler

open DrivingControl.Devices DrivingControl.Event DrivingControl.Library

/-- Whether an event is that of the power sensor. -/
def namesBattery (event : EventList) : Bool := event == .evBattery

/-- Whether another thread queues a battery event, which only the sensor does. -/
def CarStep.postsBattery : CarStep → Bool
  | .post evt => namesBattery evt.event
  | _ => false

/-- Whether the main loop handles a battery event. -/
def CarStep.handlesBattery : CarStep → Bool
  | .handle evt _ => namesBattery evt.event
  | _ => false

/-- The program with its power sensor, and what is remembered of the frames. -/
structure Supply where
  power : PowerSensor
  car : AgvCar := .init
  /-- What the battery frames have left in the sensor, oldest first. -/
  measured : List (Int × Int × Int) := []
  /-- Whether a battery event has been handled. -/
  told : Bool := false

/-- What happens next. -/
inductive SupplyStep where
  /-- The power sensor gets a frame. -/
  | frame (buf : Nat → UInt8) (len : Nat)
  /-- The rest of the program takes a step. -/
  | car (step : CarStep)

namespace Supply

variable (percentage : Percentage)

/-- The event of a frame, if there is one, is queued. -/
def enqueue (queued : Option AgvEvent) (car : AgvCar) : AgvCar :=
  match queued with
  | none => car
  | some event => { car with events := car.events.pushEvent event }

/-- A frame of the power sensor. -/
def frame (buf : Nat → UInt8) (len : Nat) (supply : Supply) : Supply :=
  let parsed := supply.power.parseCanData percentage buf len
  { supply with
    power := parsed.power
    car := enqueue parsed.queued supply.car
    measured := if PowerSensor.IsBatteryFrame buf len then
        supply.measured ++ [parsed.power.battery]
      else supply.measured }

/-- One step of the program with its power sensor. -/
def step : StepFn Supply SupplyStep
  | .frame buf len, supply => some (supply.frame percentage buf len)
  | .car label, supply =>
      if label.postsBattery then none
      else (queuedStep label supply.car).map fun car =>
        { supply with car, told := supply.told || label.handlesBattery }

/-- The start of the program with a battery of some type. -/
def boot (type : Int) : Supply where
  power := .init type

/-- The values in the car are those of a battery frame, or as they were at the start. -/
def FromBattery (supply : Supply) : Prop :=
  if supply.told then supply.car.gauges.battery ∈ supply.measured
  else supply.car.gauges.battery = (0, 0, 0)

/-- The values for which `ev1sTimer` counts towards the alarm. -/
def LowBattery (readings : Readings) (car : AgvCar) : Prop :=
  (car.batteryVoltage ≤ readings.alarmVoltage ∨ car.batteryCapacity ≤ 15) ∧
    car.batteryVoltage > 0

/-- Every frame finds a sensor that it does not reset. -/
def ResetsNothing (supply : Supply) (label : SupplyStep) (_ : Supply) : Prop :=
  match label with
  | .frame buf len => supply.power.ResetsNothing buf len
  | .car _ => True

instance (supply : Supply) (label : SupplyStep) (next : Supply) :
    Decidable (ResetsNothing supply label next) :=
  match label with
  | .frame buf len => inferInstanceAs (Decidable (supply.power.ResetsNothing buf len))
  | .car _ => inferInstanceAs (Decidable True)

/-! ## What every step keeps -/

/-- A battery event carries what a battery frame has left. -/
def Carries (measured : List (Int × Int × Int)) (evt : AgvEvent) : Prop :=
  ∃ vol cap ele, evt.data = .batteryMag vol cap ele ∧ (vol, cap, ele) ∈ measured

/-- The values in the car and those that wait for it come from battery frames. -/
structure Kept (supply : Supply) : Prop where
  values : supply.FromBattery
  waiting : ∀ priority, ∀ evt ∈ supply.car.events.ofKind namesBattery priority,
    Carries supply.measured evt

variable {percentage} {supply next : Supply}

/-- No handler queues a battery event. -/
theorem ownEvent_of_namesBattery {event : EventList} (names : namesBattery event = true) :
    AgvCar.ownEvent event = false := by
  rw [beq_iff_eq.mp names]
  rfl

/-- An event that the sensor queues carries the values it then has. -/
theorem battery_update {vol cap ele : Int32} {power : PowerSensor} {evt : AgvEvent}
    (queued : (power.update vol cap ele).2 = some evt) :
    Carries [(power.update vol cap ele).1.battery] evt := by
  rw [PowerSensor.update] at queued ⊢
  split at queued
  next differ =>
    cases queued
    rw [if_pos differ]
    exact ⟨_, _, _, rfl, List.mem_singleton.mpr rfl⟩
  next => cases queued

theorem Carries.mono {measured more : List (Int × Int × Int)} {evt : AgvEvent}
    (carries : Carries measured evt) (within : measured ⊆ more) : Carries more evt := by
  obtain ⟨vol, cap, ele, data, mem⟩ := carries
  exact ⟨vol, cap, ele, data, within mem⟩

/-- Only battery frames queue an event, when none resets the sensor. -/
theorem queued_of_resetsNothing {buf : Nat → UInt8} {len : Nat} {power : PowerSensor}
    {evt : AgvEvent} (safe : power.ResetsNothing buf len)
    (queued : (power.parseCanData percentage buf len).queued = some evt) :
    PowerSensor.IsBatteryFrame buf len ∧
      Carries [(power.parseCanData percentage buf len).power.battery] evt := by
  have unchanged := (PowerSensor.onlyBatteryFrames_iff percentage buf len power).mpr safe
  have frame : PowerSensor.IsBatteryFrame buf len := by
    apply Classical.byContradiction
    intro other
    rw [(unchanged other).2] at queued
    cases queued
  refine ⟨frame, ?_⟩
  have long : 3 ≤ len := Nat.le_trans (by decide) frame.2
  rw [PowerSensor.parseCanData_measure frame.1 long] at queued ⊢
  exact battery_update queued

theorem gauges_enqueue (queued : Option AgvEvent) (car : AgvCar) :
    (enqueue queued car).gauges = car.gauges := by
  cases queued <;> rfl

theorem measured_subset_frame (buf : Nat → UInt8) (len : Nat) (supply : Supply) :
    supply.measured ⊆ (supply.frame percentage buf len).measured := by
  rw [frame]
  dsimp only
  split
  · exact List.subset_append_left _ _
  · exact List.Subset.refl _

namespace Kept

/-- A frame of the sensor. -/
theorem frame (kept : supply.Kept) {buf : Nat → UInt8} {len : Nat}
    (safe : supply.power.ResetsNothing buf len) : (supply.frame percentage buf len).Kept := by
  have within : supply.measured ⊆ (supply.frame percentage buf len).measured :=
    measured_subset_frame buf len supply
  have same : (supply.frame percentage buf len).car.gauges = supply.car.gauges :=
    gauges_enqueue _ _
  constructor
  · have values := kept.values
    rw [FromBattery] at values ⊢
    rw [same]
    change if supply.told then _ else _
    split at values
    next told => rw [if_pos told]; exact within values
    next untold => rw [if_neg untold]; exact values
  · intro priority evt waits
    simp only [Supply.frame, enqueue] at waits
    split at waits
    next => exact (kept.waiting priority evt waits).mono within
    next event queued =>
      rcases EventHelper.mem_ofKind_pushEvent waits with before | same
      · exact (kept.waiting priority evt before).mono within
      · obtain ⟨battery, vol, cap, ele, data, mem⟩ := queued_of_resetsNothing safe queued
        refine ⟨vol, cap, ele, same.trans data, ?_⟩
        rw [Supply.frame, if_pos battery]
        exact List.mem_append_right _ mem

/-- The main loop handles the event that waits longest. -/
theorem handle (kept : supply.Kept) {evt : AgvEvent} {readings : Readings} {car : AgvCar}
    (stepped : queuedStep (.handle evt readings) supply.car = some car) :
    { supply with car, told := supply.told || namesBattery evt.event }.Kept := by
  obtain ⟨rest, popped, handled⟩ := queuedStep_handle stepped
  obtain ⟨top, waits⟩ := EventHelper.ofKind_popEvent namesBattery popped
  have left : ∀ priority, car.events.ofKind namesBattery priority =
      rest.ofKind namesBattery priority :=
    AgvCar.ofKind_handleEvent (fun _ => ownEvent_of_namesBattery) (fun _ => rfl) handled
  have handles := AgvCar.handlesGauges_handleEvent handled
  constructor
  · rw [FromBattery]
    by_cases kind : evt.event = .evBattery
    · have first : evt ∈ supply.car.events.ofKind namesBattery top := by
        simp [waits top, kind, namesBattery]
      obtain ⟨vol, cap, ele, data, mem⟩ := kept.waiting top evt first
      have told : (supply.told || namesBattery evt.event) = true := by
        simp [kind, namesBattery]
      rw [if_pos told]
      cases handles with
      | battery named found same =>
          cases data.symm.trans found
          rw [same]
          exact mem
      | started named clear same => simp [kind] at named
      | barrier named automatic matters seen same => simp [kind, AgvCar.IsBarrier] at named
      | kept other same => exact absurd kind other
    · have unnamed : namesBattery evt.event = false := beq_eq_false_iff_ne.mpr kind
      have leaves := AgvCar.battery_of_handlesGauges kind handles
      have same : car.gauges.battery = supply.car.gauges.battery := leaves
      rw [unnamed, Bool.or_false, same]
      exact kept.values
  · intro priority evt waiting
    apply kept.waiting priority evt
    rw [waits priority, ← left priority]
    exact List.mem_append_right _ waiting

/-- Another thread takes a step. -/
theorem background (kept : supply.Kept) {label : CarStep} {car : AgvCar}
    (posts : label.postsBattery = false) (other : label.isHandle = false)
    (stepped : queuedStep label supply.car = some car) :
    { supply with car, told := supply.told || label.handlesBattery }.Kept := by
  have moved := carStep_of_queuedStep other stepped
  have same : car.gauges = supply.car.gauges := AgvCar.gauges_background other moved
  have untold : label.handlesBattery = false := by
    cases label with
    | handle evt readings => cases other
    | _ => rfl
  have foreign : ∀ event, label.queues event = true → namesBattery event = false := by
    intro event queues
    rcases AgvCar.queues_cases queues with ⟨evt, rfl, rfl⟩ | own
    · exact posts
    · apply beq_eq_false_iff_ne.mpr
      rintro rfl
      exact absurd own (by decide)
  constructor
  · rw [FromBattery, same, untold, Bool.or_false]
    exact kept.values
  · intro priority evt waits
    rw [AgvCar.ofKind_carStep other moved foreign priority] at waits
    exact kept.waiting priority evt waits

/-- One step. -/
theorem step (kept : supply.Kept) {label : SupplyStep}
    (stepped : Supply.step percentage label supply = some next)
    (safe : ResetsNothing supply label next) : next.Kept := by
  cases label with
  | frame buf len =>
      cases stepped
      exact kept.frame safe
  | car label =>
      simp only [Supply.step] at stepped
      split at stepped
      next => cases stepped
      next posts =>
        obtain ⟨car, moved, equal⟩ := Option.map_eq_some_iff.mp stepped
        subst equal
        cases handling : label.isHandle with
        | false => exact kept.background (Bool.eq_false_iff.mpr posts) handling moved
        | true =>
            cases label with
            | handle evt readings => exact kept.handle moved
            | _ => cases handling

end Kept

/-- The values that the alarm is raised for are not those of the start. -/
theorem FromBattery.measured (fromBattery : supply.FromBattery) {readings : Readings}
    (low : LowBattery readings supply.car) : supply.car.gauges.battery ∈ supply.measured := by
  rw [FromBattery] at fromBattery
  split at fromBattery
  next => exact fromBattery
  next =>
    have positive : supply.car.batteryVoltage > 0 := low.2
    have zero : supply.car.batteryVoltage = 0 := congrArg Prod.fst fromBattery
    omega

/-- The program starts without values. -/
theorem kept_boot (type : Int) : (boot type).Kept := by
  refine ⟨rfl, fun priority evt waits => ?_⟩
  cases waits

end Supply

/-- A frame that is no battery frame leaves the sensor as it is and queues no event exactly
if it is rejected for its length, or finds the values zero.  In a run in which every frame is
of these or a battery frame, the car's values are at all times those of a battery frame, and
those that count towards the alarm are. -/
theorem onlyBatteryFrames_iff_resetsNothing (percentage : Percentage) :
    (∀ (buf : Nat → UInt8) (len : Nat) (power : PowerSensor),
      power.OnlyBatteryFrames percentage buf len ↔ power.ResetsNothing buf len) ∧
    ∀ (type : Int) (labels : List SupplyStep) (supply : Supply),
      Along (Supply.step percentage) Supply.ResetsNothing labels (.boot type) →
      run (Supply.step percentage) labels (.boot type) = some supply →
      supply.FromBattery ∧ ∀ readings, Supply.LowBattery readings supply.car →
        supply.car.gauges.battery ∈ supply.measured := by
  constructor
  · exact PowerSensor.onlyBatteryFrames_iff percentage
  · intro type labels supply safe reached
    have kept : supply.Kept := invariant_of_guard
      (fun _ _ _ before stepped met => before.step stepped met) (Supply.kept_boot type) safe
      reached
    exact ⟨kept.values, fun readings low => kept.values.measured low⟩

/-- A battery frame of seven bytes, whose event is handled. -/
theorem onlyBatteryFrames_iff_resetsNothing_told :
    let labels : List SupplyStep :=
      [.frame ([0x01, 0x01, 0x5D, 0xC0, 0x00, 0x00, 0x64].getD · 0) 7,
        .car (.handle { event := .evBattery, data := .batteryMag 24000 50 100 } {})]
    ∃ supply, run (Supply.step fun _ _ _ => 50) labels (.boot 1) = some supply ∧
      supply.told = true ∧ supply.car.gauges.battery = (24000, 50, 100) ∧
      supply.car.gauges.battery ∈ supply.measured := by
  intro labels
  have safe : Along (Supply.step fun _ _ _ => 50) Supply.ResetsNothing labels (.boot 1) := by
    decide
  have handled : ((run (Supply.step fun _ _ _ => 50) labels (.boot 1)).map fun supply =>
      (supply.told, supply.car.gauges.battery)) = some (true, (24000, 50, 100)) := by decide
  rcases Option.map_eq_some_iff.mp handled with ⟨supply, reached, same⟩
  rcases Prod.mk.inj same with ⟨told, battery⟩
  have values := ((onlyBatteryFrames_iff_resetsNothing _).2 1 labels supply safe reached).1
  rw [Supply.FromBattery, if_pos told] at values
  exact ⟨supply, reached, told, battery, values⟩

/-- A status frame behind a battery frame resets the voltage. -/
theorem onlyBatteryFrames_fails :
    ¬ ∀ (percentage : Percentage) (buf : Nat → UInt8) (len : Nat) (power : PowerSensor),
      power.OnlyBatteryFrames percentage buf len := by
  intro all
  have reset := (all (fun _ _ _ => 50) (fun _ => 0x11) 2
    { minVoltage := 22000, maxVoltage := 26000, voltage := 24000, capacity := 50 }
    (by decide)).1
  exact absurd reset (by decide)

end DrivingControl.Controler

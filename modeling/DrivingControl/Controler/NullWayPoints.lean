import DrivingControl.Controler.CarTargets

/-!
# Null way points

`GetTargetStation` returns null when the list is empty or the cursor is not inside it, and
none of its callers looks.  Only an arrival, and an arrived lift whose action is still open,
rely on a target that was there before: every other way to it checks the list first or has
just moved the cursor.  Nothing keeps the target for them, since a path may be replaced by
an empty one while the car drives.
-/

namespace DrivingControl.Controler

open DrivingControl.Comm DrivingControl.Event DrivingControl.Library

namespace RoutePlanner

/-- The target is a way point of the list. -/
def OnPath (router : RoutePlanner) : Prop :=
  0 ≤ router.targetPathId ∧ router.targetPathId < router.pathList.length

instance (router : RoutePlanner) : Decidable router.OnPath :=
  inferInstanceAs (Decidable (_ ∧ _))

theorem isSome_getTargetStation (router : RoutePlanner) :
    router.getTargetStation.isSome = true ↔ router.OnPath := by
  rw [getTargetStation, OnPath]
  split
  next nonneg =>
    simp only [nonneg, true_and, isSome_getElem?]
    omega
  next negative => simp [negative]

end RoutePlanner

namespace AgvCar

open RoutePlanner

variable {car : AgvCar} {target : WayPoint}

/-- Whether the handler of an event follows the pointer to the target without a look at the
list. -/
def needsTarget (evt : AgvEvent) (car : AgvCar) : Bool :=
  evt.event == .evNextPathPoint ||
    (evt.event == .evLiftArrived && car.currentPathAction == actionLiftUpDown)

/-! ## The callers -/

theorem isSome_onStationActionFinished (readings : Readings)
    (present : car.router.getTargetStation = some target) :
    (car.onStationActionFinished readings).isSome = true := by
  rcases onStationActionFinished_eq_some readings present with ⟨next, finished, -⟩
  rw [finished]
  rfl

/-- The end of an action needs its target. -/
theorem isSome_onStationActionFinished_iff (readings : Readings) (car : AgvCar) :
    (car.onStationActionFinished readings).isSome = true ↔ car.router.OnPath := by
  rw [← isSome_getTargetStation]
  cases present : car.router.getTargetStation with
  | none => simp [onStationActionFinished, onActionFinished, present]
  | some target => simpa using isSome_onStationActionFinished readings present

theorem isSome_startRun (readings : Readings) (car : AgvCar) :
    (car.startRun readings).isSome = true := by
  by_cases automatic : car.operateMode = .autoMode
  · rcases startRun_eq_some readings automatic with ⟨next, started, -⟩
    rw [started]
    rfl
  · rw [startRun]
    rw [if_neg automatic]
    rfl

theorem isSome_onArrivedStation (readings : Readings) (car : AgvCar) :
    (car.onArrivedStation readings).isSome = true ↔ car.router.OnPath := by
  rw [← isSome_getTargetStation]
  rw [onArrivedStation]
  cases present : car.router.getTargetStation with
  | none => simp
  | some target =>
      have performs := performs_doPathPointAction target car
      have kept := performs.route.getTargetStation.trans present
      dsimp only
      split
      · simpa using isSome_onStationActionFinished readings kept
      · simp

/-- A handler returns exactly if the target it needs is a way point of the list. -/
theorem isSome_handleEvent (readings : Readings) {evt : AgvEvent} (car : AgvCar)
    (other : evt.event ≠ .evBattery) :
    (car.handleEvent readings evt).isSome = true ↔
      (car.needsTarget evt = true → car.router.OnPath) := by
  rw [handleEvent]
  cases named : evt.event with
  | evBattery => exact absurd named other
  | evNextPathPoint =>
      simp only [needsTarget, named, beq_self_eq_true, Bool.true_or, true_imp_iff]
      exact isSome_onArrivedStation readings car
  | evLiftArrived =>
      simp only [onLiftArrivedHeight]
      by_cases lifting : car.currentPathAction = actionLiftUpDown
      · rw [if_pos lifting, isSome_onStationActionFinished_iff]
        simp [needsTarget, named, lifting]
      · rw [if_neg lifting]
        simp [needsTarget, named, lifting]
  | evKeyStart | evApplyPath =>
      simp only [needsTarget, named]
      split
      · simp [isSome_startRun]
      · simp
  | evPosition =>
      simp only [needsTarget, named]
      split <;> simp
  | _ => simp [needsTarget, named]

end AgvCar

/-! ## Runs -/

/-- `HandleEvent` does not follow a null pointer to a way point.  The data of `evBattery` is
the only other pointer that it follows. -/
def NoNullWayPoint (car : AgvCar) : CarStep → Prop
  | .handle evt readings =>
      evt.event = .evBattery ∨ (car.handleEvent readings evt).isSome = true
  | _ => True

/-- An arrival, or the arrival of the lift for an open action, finds the target on the
path. -/
def ArrivesOnPath (car : AgvCar) : CarStep → Prop
  | .handle evt _ => car.needsTarget evt = true → car.router.OnPath
  | _ => True

instance (car : AgvCar) : (label : CarStep) → Decidable (NoNullWayPoint car label)
  | .handle _ _ => inferInstanceAs (Decidable (_ ∨ _))
  | .post _ | .loop _ | .arrive | .halt | .lifter _ _ => isTrue trivial

theorem noNullWayPoint_iff (car : AgvCar) (label : CarStep) :
    NoNullWayPoint car label ↔ ArrivesOnPath car label := by
  cases label with
  | handle evt readings =>
      by_cases battery : evt.event = .evBattery
      · simp [NoNullWayPoint, ArrivesOnPath, AgvCar.needsTarget, battery]
      · simp only [NoNullWayPoint, ArrivesOnPath, battery, false_or]
        exact AgvCar.isSome_handleEvent readings car battery
  | _ => exact Iff.rfl

/-- In every run, no handler follows a null pointer to a way point exactly if every arrival
that needs one finds the target on the path. -/
theorem before_noNullWayPoint_iff (labels : List CarStep) (car : AgvCar) :
    Before carStep NoNullWayPoint labels car ↔ Before carStep ArrivesOnPath labels car :=
  before_congr noNullWayPoint_iff labels car

/-- The path is replaced by an empty one while the car drives to its first station. -/
theorem arrival_without_path :
    ¬ ∀ labels : List CarStep, Before carStep NoNullWayPoint labels AgvCar.init := by
  intro all
  have crashed := all (departure [stationAhead 1 1] ++
    [.handle { event := .evGetNewPath, data := .stationList } {}, .loop 1, .arrive,
      .handle { event := .evNextPathPoint, param := 1 } {}])
  exact absurd crashed (by decide)

end DrivingControl.Controler

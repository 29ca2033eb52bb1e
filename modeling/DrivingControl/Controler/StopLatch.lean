import DrivingControl.Controler.CarTargets

/-!
# The stop latch

After a stop key in automatic mode or an urgent stop the car should send no target
until it is started again.  A history variable remembers the stop.  The handlers of
late arrivals, of an arrived lift and, behind an urgent stop, of barrier events do
not look at it: a run keeps the latch exactly if none of these sends a target while
it is set.
-/

namespace DrivingControl.Controler

open DrivingControl.Comm DrivingControl.Event DrivingControl.Library

/-- Whether an event starts the car. -/
def isStart (event : EventList) : Bool :=
  event == .evKeyStart || event == .evApplyPath

/-- The latch behind an event: a stop sets it, a start releases it. -/
def latchBehind (evt : AgvEvent) (car : AgvCar) (latched : Bool) : Bool :=
  match evt.event with
  | .evKeyStop => latched || car.operateMode == .autoMode
  | .evUrgentStop => true
  | .evKeyStart | .evApplyPath => false
  | _ => latched

/-- The latch behind a step. -/
def observeStop (car : AgvCar) (label : CarStep) (_ : AgvCar) (latched : Bool) : Bool :=
  match label with
  | .handle evt _ => latchBehind evt car latched
  | _ => latched

/-- The program beside the latch. -/
def latchStep : StepFn (AgvCar × Bool) CarStep := monitored carStep observeStop

/-- While the latch is set, only a start sends a target. -/
def StaysStopped (paired : AgvCar × Bool) (label : CarStep) (next : AgvCar × Bool) : Prop :=
  match label with
  | .handle evt _ =>
      paired.2 = true ∧ isStart evt.event = false →
        next.1.controler.issued = paired.1.controler.issued
  | _ => next.1.controler.issued = paired.1.controler.issued

/-- While the latch is set, no event but a start makes the car drive on. -/
def NothingDrivesOn (paired : AgvCar × Bool) (label : CarStep) (_ : AgvCar × Bool) : Prop :=
  match label with
  | .handle evt readings =>
      paired.2 = true ∧ isStart evt.event = false → paired.1.sends readings evt = false
  | _ => True

instance (paired : AgvCar × Bool) (label : CarStep) (next : AgvCar × Bool) :
    Decidable (StaysStopped paired label next) :=
  match label with
  | .handle _ _ => inferInstanceAs (Decidable (_ → _))
  | .post _ | .loop _ | .arrive | .halt | .lifter _ _ => inferInstanceAs (Decidable (_ = _))

/-- One step. -/
theorem staysStopped_iff_nothingDrivesOn (paired : AgvCar × Bool) (label : CarStep)
    (next : AgvCar × Bool) (stepped : latchStep label paired = some next) :
    StaysStopped paired label next ↔ NothingDrivesOn paired label next := by
  have issued := issued_carStep (monitored_eq_some stepped).1
  cases label with
  | handle evt readings =>
      simp only [StaysStopped, NothingDrivesOn]
      apply imp_congr Iff.rfl
      rw [issued, CarStep.sent, List.append_right_eq_self, Option.toList_eq_nil_iff,
        ← Option.isNone_iff_eq_none, ← Option.not_isSome, AgvCar.isSome_sentBy,
        Bool.not_eq_true']
  | _ => simpa [StaysStopped, NothingDrivesOn, CarStep.sent] using issued

/-- In any order of events, the car stays stopped behind a stop exactly when nothing but
a start makes it drive on. -/
theorem along_staysStopped_iff (labels : List CarStep) (start : AgvCar × Bool) :
    Along latchStep StaysStopped labels start ↔
      Along latchStep NothingDrivesOn labels start :=
  along_congr staysStopped_iff_nothingDrivesOn labels start

/-- The arrival at the first way point waits while the stop key, which is urgent, is
handled; then it sends the second way point. -/
theorem late_arrival_drives_on :
    ¬ ∀ labels : List CarStep, Along latchStep StaysStopped labels (AgvCar.init, false) := by
  intro stays
  have late := stays (departure [stationAhead 1 0, stationAhead 2 1] ++
    [.loop 1, .arrive, .handle { event := .evKeyStop } {},
      .handle { event := .evNextPathPoint, param := 1 } {}])
  exact absurd late (by decide)

end DrivingControl.Controler

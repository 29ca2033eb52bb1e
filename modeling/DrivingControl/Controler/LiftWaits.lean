import DrivingControl.Controler.LiftFrame

/-!
# Waiting for the lift

At a way point with `ActionLiftUpDown` the car stops, and unless the forks are near the
wanted height it orders the lifter there and waits for the arrival.  `SetLiftHeight` passes
on only some heights.  The stop sends the lifter nothing: `UpAndRunFlag` leaves the body of
`LiftStop` out.
-/

namespace DrivingControl.Controler

open DrivingControl.Comm

/-- The height that a command moves the forks to. -/
def LiftCommand.height : LiftCommand → Option Int
  | .up height => some height
  | .down => some 0
  | .init => none

/-- The heights that `SetLiftHeight` passes on. -/
def CanBeOrdered (height : Int) : Prop := 0 ≤ height ∧ height < 3000

instance (height : Int) : Decidable (CanBeOrdered height) := inferInstanceAs (Decidable (_ ∧ _))

namespace Lifter

variable {height : Int} {lifter : Lifter}

/-- `SetLiftHeight` sends one command to move to the height, or nothing. -/
theorem commands_setLiftHeight (height : Int) (lifter : Lifter) :
    (∃ command : LiftCommand, command.height = some height ∧
      (lifter.setLiftHeight height).commands = lifter.commands ++ [command]) ↔
    CanBeOrdered height := by
  rw [setLiftHeight, CanBeOrdered]
  split
  next up => exact iff_of_true ⟨.up height, rfl, rfl⟩ ⟨Int.le_of_lt up.1, up.2⟩
  next notUp =>
    split
    next down =>
      subst down
      exact iff_of_true ⟨.down, rfl, rfl⟩ (by decide)
    next other =>
      constructor
      · rintro ⟨command, -, sent⟩
        exact absurd sent (by simp)
      · intro orderable
        omega

end Lifter

namespace AgvCar

/-- `DoPathPointAction` finishes the action, or has ordered the lifter to the height. -/
def BacksWait (path : WayPoint) (car : AgvCar) : Prop :=
  (car.doPathPointAction path).2 = 0 ∨
    ∃ command : LiftCommand, command.height = some path.liftHeight ∧
      (car.doPathPointAction path).1.controler.lifter.commands =
        car.controler.lifter.commands ++ [command]

/-- A lift that is away from its height is ordered there. -/
theorem lifter_doPathPointAction {path : WayPoint} {car : AgvCar}
    (lift : path.action = actionLiftUpDown)
    (away : car.controler.lifter.isArrived path.liftHeight = false) :
    (car.doPathPointAction path).1.controler.lifter =
      (car.controler.lifter.liftIsArrived path.liftHeight).1.setLiftHeight path.liftHeight := by
  have notRun : ¬(path.action = actionRun ∨ path.action = actionSpeedDown ∨
      path.action = actionResumeSpeed) := by
    rw [lift]
    decide
  have notStop : path.action ≠ actionStop := by
    rw [lift]
    decide
  rw [doPathPointAction]
  dsimp only
  rw [if_neg notRun, if_neg notStop, if_pos lift, lifter_stopCar]
  have moving : ¬ (car.controler.lifter.liftIsArrived path.liftHeight).2 = true :=
    ne_true_of_eq_false away
  rw [if_neg moving]

/-- The wait is backed by a command exactly for the heights that are passed on, or when there
is nothing to wait for. -/
theorem backsWait_iff (path : WayPoint) (lift : path.action = actionLiftUpDown) (car : AgvCar) :
    BacksWait path car ↔ CanBeOrdered path.liftHeight ∨
      (path.liftHeight - car.controler.lifter.plausibleHeight).natAbs < 50 := by
  have finishes := (performs_doPathPointAction path car).ret
  rw [completes_lift lift] at finishes
  have near : car.controler.lifter.isArrived path.liftHeight = true ↔
      (path.liftHeight - car.controler.lifter.plausibleHeight).natAbs < 50 := decide_eq_true_iff
  rw [← near, BacksWait]
  cases arrived : car.controler.lifter.isArrived path.liftHeight with
  | true => exact iff_of_true (.inl (finishes.mpr arrived)) (.inr rfl)
  | false =>
      have ordered := Lifter.commands_setLiftHeight path.liftHeight
        (car.controler.lifter.liftIsArrived path.liftHeight).1
      rw [finishes, arrived, lifter_doPathPointAction lift arrived, ← ordered]
      exact or_comm

/-- A lift to 1200 mm from the ground is ordered. -/
theorem backsWait_iff_ordered :
    BacksWait { id := 1, runMode := 2, action := actionLiftUpDown, liftHeight := 1200 } {} :=
  (backsWait_iff { id := 1, runMode := 2, action := actionLiftUpDown, liftHeight := 1200 } rfl
    {}).mpr (.inl (by decide))

/-- The station of a path frame with the lift height that is to be ignored, reached with the
forks at 500 mm: the car waits, and nothing was ordered. -/
theorem ignored_height_waits :
    ¬ ∀ (info : StationInfo) (car : AgvCar), (WayPoint.ofStation info).action = actionLiftUpDown →
      BacksWait (.ofStation info) car := by
  intro backs
  let info : StationInfo :=
    { id := 1, xPos := 0, yPos := 0, pathAngle := 0, turnRadius := 0, mode := 2, action := 4,
      liftHeight := 0xFFFF }
  let car : AgvCar := { controler := { lifter := { currentHeight := 500 } } }
  have silent : (car.doPathPointAction (.ofStation info)).1.controler.lifter.commands = [] := rfl
  rcases backs info car rfl with finished | ⟨command, -, sent⟩
  · exact absurd finished (by decide)
  · exact absurd (silent.symm.trans sent) (by simp [car])

end AgvCar

end DrivingControl.Controler

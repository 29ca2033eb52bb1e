import DrivingControl.Library.Run
import DrivingControl.Library.Streak

/-!
# The loss of the position

`IsLostPosition` is called every 10 ms and counts the calls that find the pose of the call
before.  One counter serves two thresholds: a moving car is lost behind the smaller one, a
standing car behind the larger.  What was counted while the car stood counts for a moving
car too.
-/

namespace DrivingControl.Controler

open DrivingControl.Library

/-- What a call of `IsLostPosition` reads: the pose of the lidar and the reported speed. -/
structure PositionTick (Pose : Type) where
  pose : Pose
  speed : Int
  deriving DecidableEq, Repr

/-- The static variables of `IsLostPosition`. -/
structure LostCounter (Pose : Type) where
  losePositionCount : Int
  lastPosition : Pose
  deriving DecidableEq, Repr

variable {Pose : Type} [DecidableEq Pose]

/-- The threshold for a reported speed. -/
def lostThreshold (maxTimeOfLostPos speed : Int) : Int :=
  if speed > 0 then maxTimeOfLostPos else maxTimeOfLostPos + 1000

/-- `CAgvCarControler::IsLostPosition`. -/
def isLostPosition (maxTimeOfLostPos : Int) (tick : PositionTick Pose)
    (counter : LostCounter Pose) : LostCounter Pose × Int :=
  if tick.pose = counter.lastPosition then
    if counter.losePositionCount + 1 > lostThreshold maxTimeOfLostPos tick.speed then
      ({ counter with losePositionCount := 0 }, -1)
    else
      ({ losePositionCount := counter.losePositionCount + 1, lastPosition := tick.pose }, 0)
  else ({ losePositionCount := 0, lastPosition := tick.pose }, 0)

/-- The start of the program, with the pose of a static variable. -/
def LostCounter.init (zero : Pose) : LostCounter Pose where
  losePositionCount := 0
  lastPosition := zero

/-- One call. -/
def lostStep (maxTimeOfLostPos : Int) : StepFn (LostCounter Pose) (PositionTick Pose) :=
  fun tick counter => some (isLostPosition maxTimeOfLostPos tick counter).1

/-! ## What was read -/

/-- The pose is that of the call before. -/
def unchangedPose (tick before : PositionTick Pose) : Bool := decide (tick.pose = before.pose)

/-- The pose is that of the call before, and the car moves. -/
def unchangedMoving (tick before : PositionTick Pose) : Bool :=
  decide (tick.pose = before.pose) && decide (tick.speed > 0)

/-- The calls before, newest first. -/
abbrev TickLog (Pose : Type) := List (PositionTick Pose)

/-- The consecutive calls that found the pose unchanged. -/
def unchangedTicks (zero : Pose) (log : TickLog Pose) : Int := streak unchangedPose ⟨zero, 0⟩ log

/-- The consecutive calls that found the pose unchanged and the car moving. -/
def movingTicks (zero : Pose) (log : TickLog Pose) : Int := streak unchangedMoving ⟨zero, 0⟩ log

/-- The calls are remembered. -/
def observeTick (_ : LostCounter Pose) (tick : PositionTick Pose) (_ : LostCounter Pose)
    (log : TickLog Pose) : TickLog Pose := tick :: log

/-- The calls beside their log. -/
def loggedLostStep (maxTimeOfLostPos : Int) :
    StepFn (LostCounter Pose × TickLog Pose) (PositionTick Pose) :=
  monitored (lostStep maxTimeOfLostPos) observeTick

/-- A loss is reported behind enough calls with an unchanged pose, all of them of a moving
car, or behind a thousand more of any car. -/
def RightReason (maxTimeOfLostPos : Int) (zero : Pose) (paired : LostCounter Pose × TickLog Pose)
    (tick : PositionTick Pose) (_ : LostCounter Pose × TickLog Pose) : Prop :=
  (isLostPosition maxTimeOfLostPos tick paired.1).2 = -1 →
    movingTicks zero (tick :: paired.2) > maxTimeOfLostPos ∨
      unchangedTicks zero (tick :: paired.2) > maxTimeOfLostPos + 1000

instance (maxTimeOfLostPos : Int) (zero : Pose) (paired : LostCounter Pose × TickLog Pose)
    (tick : PositionTick Pose) (next : LostCounter Pose × TickLog Pose) :
    Decidable (RightReason maxTimeOfLostPos zero paired tick next) :=
  inferInstanceAs (Decidable (_ → _ ∨ _))

/-- Where a call with an unchanged pose takes the counter of a moving car above a positive
threshold, all the calls it has counted were of a moving car, or the pose is unchanged for
the longer time. -/
def CountsMoving (maxTimeOfLostPos : Int) (zero : Pose)
    (paired : LostCounter Pose × TickLog Pose) (tick : PositionTick Pose)
    (_ : LostCounter Pose × TickLog Pose) : Prop :=
  0 < maxTimeOfLostPos → tick.pose = paired.1.lastPosition → tick.speed > 0 →
    paired.1.losePositionCount + 1 > maxTimeOfLostPos →
    movingTicks zero (tick :: paired.2) ≥ paired.1.losePositionCount + 1 ∨
      unchangedTicks zero (tick :: paired.2) > maxTimeOfLostPos + 1000

/-! ## The counter and the log -/

/-- The counter knows the last pose, counts only calls with an unchanged pose, and is not
above the smaller threshold behind a call of a moving car. -/
structure Counted (maxTimeOfLostPos : Int) (zero : Pose)
    (paired : LostCounter Pose × TickLog Pose) : Prop where
  lastPosition : paired.1.lastPosition = (latest ⟨zero, 0⟩ paired.2).pose
  unchanged : paired.1.losePositionCount ≤ unchangedTicks zero paired.2
  moving : 0 ≤ maxTimeOfLostPos → 0 < movingTicks zero paired.2 →
    paired.1.losePositionCount ≤ maxTimeOfLostPos

section Calls

variable {maxTimeOfLostPos : Int} {zero : Pose} {counter : LostCounter Pose}
  {log : TickLog Pose} {tick : PositionTick Pose}

theorem counted_init (maxTimeOfLostPos : Int) (zero : Pose) :
    Counted maxTimeOfLostPos zero (.init zero, []) :=
  ⟨rfl, Int.le_refl 0, fun _ none => absurd none (Int.lt_irrefl 0)⟩

theorem unchangedTicks_nonneg (zero : Pose) (log : TickLog Pose) :
    0 ≤ unchangedTicks zero log := Int.natCast_nonneg _

theorem unchangedTicks_cons (same : tick.pose = (latest ⟨zero, 0⟩ log).pose) :
    unchangedTicks zero (tick :: log) = unchangedTicks zero log + 1 := by
  have held : unchangedPose tick (latest ⟨zero, 0⟩ log) = true := decide_eq_true same
  rw [unchangedTicks, streak_cons_of_held held]
  rfl

theorem movingTicks_cons (same : tick.pose = (latest ⟨zero, 0⟩ log).pose)
    (moves : tick.speed > 0) :
    movingTicks zero (tick :: log) = movingTicks zero log + 1 := by
  have held : unchangedMoving tick (latest ⟨zero, 0⟩ log) = true := by
    simp [unchangedMoving, same, moves]
  rw [movingTicks, streak_cons_of_held held]
  rfl

/-- Behind a call of a standing car no call of a moving car is counted. -/
theorem movingTicks_cons_of_stands (stands : ¬ tick.speed > 0) :
    movingTicks zero (tick :: log) = 0 := by
  have broken : unchangedMoving tick (latest ⟨zero, 0⟩ log) = false := by
    simp only [unchangedMoving, decide_eq_false stands, Bool.and_false]
  rw [movingTicks, streak_cons_of_not_held broken]
  rfl

/-! ## The kinds of calls -/

/-- The pose has changed. -/
theorem isLostPosition_changed (changed : tick.pose ≠ counter.lastPosition) :
    isLostPosition maxTimeOfLostPos tick counter =
      ({ losePositionCount := 0, lastPosition := tick.pose }, 0) := by
  rw [isLostPosition, if_neg changed]

/-- The pose is unchanged, and the counter passes the threshold. -/
theorem isLostPosition_lost (same : tick.pose = counter.lastPosition)
    (passes : counter.losePositionCount + 1 > lostThreshold maxTimeOfLostPos tick.speed) :
    isLostPosition maxTimeOfLostPos tick counter =
      ({ counter with losePositionCount := 0 }, -1) := by
  rw [isLostPosition, if_pos same, if_pos passes]

/-- The pose is unchanged, and the counter stays within the threshold. -/
theorem isLostPosition_counted (same : tick.pose = counter.lastPosition)
    (within : ¬ counter.losePositionCount + 1 > lostThreshold maxTimeOfLostPos tick.speed) :
    isLostPosition maxTimeOfLostPos tick counter =
      ({ losePositionCount := counter.losePositionCount + 1, lastPosition := tick.pose }, 0) := by
  rw [isLostPosition, if_pos same, if_neg within]

/-- A call keeps what the counter knows. -/
theorem Counted.call (counted : Counted maxTimeOfLostPos zero (counter, log)) :
    Counted maxTimeOfLostPos zero
      ((isLostPosition maxTimeOfLostPos tick counter).1, tick :: log) := by
  have nonneg := unchangedTicks_nonneg zero (tick :: log)
  by_cases same : tick.pose = counter.lastPosition
  · have unchanged := unchangedTicks_cons (same.trans counted.lastPosition)
    by_cases passes : counter.losePositionCount + 1 > lostThreshold maxTimeOfLostPos tick.speed
    · rw [isLostPosition_lost same passes]
      exact ⟨same.symm, nonneg, fun positive _ => positive⟩
    · rw [isLostPosition_counted same passes]
      refine ⟨rfl, ?_, fun positive streak => ?_⟩
      · rw [unchanged]
        exact Int.add_le_add_right counted.unchanged 1
      · have moves : tick.speed > 0 := by
          apply Classical.byContradiction
          intro stands
          rw [movingTicks_cons_of_stands stands] at streak
          exact Int.lt_irrefl 0 streak
        rw [lostThreshold, if_pos moves] at passes
        exact Int.not_lt.mp passes
  · rw [isLostPosition_changed same]
    exact ⟨rfl, nonneg, fun positive _ => positive⟩

/-- A loss is reported when the pose is unchanged and the counter passes the threshold. -/
theorem isLostPosition_eq_neg_one_iff :
    (isLostPosition maxTimeOfLostPos tick counter).2 = -1 ↔
      tick.pose = counter.lastPosition ∧
        counter.losePositionCount + 1 > lostThreshold maxTimeOfLostPos tick.speed := by
  by_cases same : tick.pose = counter.lastPosition
  · by_cases passes : counter.losePositionCount + 1 > lostThreshold maxTimeOfLostPos tick.speed
    · simp [isLostPosition_lost same passes, same, passes]
    · simp [isLostPosition_counted same passes, same, passes]
  · simp [isLostPosition_changed same, same]

/-- Where the counter of a moving car passes a positive threshold, enough calls of a moving
car come last exactly if it has counted no others. -/
theorem Counted.movingTicks_iff (counted : Counted maxTimeOfLostPos zero (counter, log))
    (positive : 0 < maxTimeOfLostPos) (same : tick.pose = counter.lastPosition)
    (moves : tick.speed > 0) (passes : counter.losePositionCount + 1 > maxTimeOfLostPos) :
    movingTicks zero (tick :: log) > maxTimeOfLostPos ↔
      movingTicks zero (tick :: log) ≥ counter.losePositionCount + 1 := by
  have known : counter.lastPosition = (latest ⟨zero, 0⟩ log).pose := counted.lastPosition
  have streak := movingTicks_cons (same.trans known) moves
  have bounded : 0 < movingTicks zero log → counter.losePositionCount ≤ maxTimeOfLostPos :=
    counted.moving (Int.le_of_lt positive)
  rw [streak]
  constructor
  · intro enough
    have count := bounded (by omega)
    omega
  · intro all
    omega

/-- A report is for the right reason exactly if the counter does not pass the smaller
threshold with calls of a standing car. -/
theorem Counted.rightReason_iff (counted : Counted maxTimeOfLostPos zero (counter, log))
    (next : LostCounter Pose × TickLog Pose) :
    RightReason maxTimeOfLostPos zero (counter, log) tick next ↔
      CountsMoving maxTimeOfLostPos zero (counter, log) tick next := by
  have known : counter.lastPosition = (latest ⟨zero, 0⟩ log).pose := counted.lastPosition
  simp only [RightReason, CountsMoving, isLostPosition_eq_neg_one_iff]
  by_cases moves : tick.speed > 0
  · rw [lostThreshold, if_pos moves]
    constructor
    · intro right positive same _ passes
      rw [← counted.movingTicks_iff positive same moves passes]
      exact right ⟨same, passes⟩
    · rintro counts ⟨same, passes⟩
      by_cases positive : 0 < maxTimeOfLostPos
      · rw [counted.movingTicks_iff positive same moves passes]
        exact counts positive same moves passes
      · have streak := movingTicks_cons (same.trans known) moves
        have none : 0 ≤ movingTicks zero log := Int.natCast_nonneg _
        left
        omega
  · rw [lostThreshold, if_neg moves]
    constructor
    · intro _ _ _ goes
      exact absurd goes moves
    · rintro - ⟨same, passes⟩
      have unchanged := unchangedTicks_cons (same.trans known)
      have few : counter.losePositionCount ≤ unchangedTicks zero log := counted.unchanged
      right
      omega

end Calls

/-- In every run of calls, with whatever poses and speeds, each loss is reported for the
right reason exactly if no call takes the counter of a moving car above a positive threshold
with calls of a standing car in it, before the pose is unchanged for the longer time. -/
theorem rightReason_iff_countsMoving (maxTimeOfLostPos : Int) (zero : Pose)
    (ticks : List (PositionTick Pose)) :
    Along (loggedLostStep maxTimeOfLostPos) (RightReason maxTimeOfLostPos zero) ticks
        (.init zero, []) ↔
      Along (loggedLostStep maxTimeOfLostPos) (CountsMoving maxTimeOfLostPos zero) ticks
        (.init zero, []) := by
  apply along_iff_of_guard _ _ (counted_init maxTimeOfLostPos zero)
  · intro paired tick next counted stepped _
    have called := Option.some.inj stepped
    subst called
    exact counted.call
  · intro paired tick next counted stepped
    exact counted.rightReason_iff next

/-- A car that stands for a while is reported lost at its first moving call. -/
theorem rightReason_fails :
    ¬ ∀ (maxTimeOfLostPos : Int) (zero : Int) (ticks : List (PositionTick Int)),
      Along (loggedLostStep maxTimeOfLostPos) (RightReason maxTimeOfLostPos zero) ticks
        (.init zero, []) := by
  intro all
  have reported := all 2 0 [⟨0, 0⟩, ⟨0, 0⟩, ⟨0, 1⟩]
  exact absurd reported (by decide)

end DrivingControl.Controler

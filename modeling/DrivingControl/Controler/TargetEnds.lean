import DrivingControl.Controler.CarEvents

/-!
# How a target ends

`LoopRunning` ends a target with one event: the arrival behind the last sub-path, or
the error of a motion.  The arrival leaves the helper without a running mode.  The
error leaves everything as it is, so the same motion is called again in the next turn
and may fail again.
-/

namespace DrivingControl.Controler

open DrivingControl.Event DrivingControl.Library

/-- The helper while it drives to one target, with what it has queued since. -/
structure Motion where
  helper : MoveHelper
  /-- The events queued for the target. -/
  posted : List AgvEvent := []
  /-- Whether a motion has failed since the target was set. -/
  failed : Bool := false
  deriving DecidableEq, Repr

/-- What the motion thread does for a target, and `ClearTarget` by the other one. -/
inductive MotionStep where
  /-- A turn of `LoopRunning` up to its end, or to the wait before the arrival. -/
  | loop (ret : Int)
  /-- The end of the turn that waits. -/
  | arrive
  | clear
  deriving DecidableEq, Repr

/-- `SendImportantEvent`, as the event it queues. -/
def importantEvent (event : EventList) (param : Int) : AgvEvent :=
  { event, param, priority := important }

/-- One step for the target. -/
def motionStep : StepFn Motion MotionStep
  | .loop ret, motion =>
      if motion.helper.arriving then none
      else
        match motion.helper.loopRunning ret with
        | (helper, none) => some { motion with helper }
        | (helper, some errorCode) => some
            { helper
              posted := motion.posted ++ [importantEvent .evPathMagError errorCode]
              failed := true }
  | .arrive, motion =>
      if motion.helper.arriving then
        let finished := motion.helper.finishTarget
        some { motion with
          helper := finished.1
          posted := motion.posted ++ [importantEvent .evNextPathPoint finished.2] }
      else none
  | .clear, motion => some { motion with helper := motion.helper.clearTarget }

/-- The steps are those of the car in automatic mode: its helper moves in the same way,
and the same events are queued. -/
theorem carStep_loop (ret : Int) (car : AgvCar)
    (automatic : car.controler.operateMode = .autoMode) :
    carStep (.loop ret) car =
      (motionStep (.loop ret) { helper := car.controler.moveHelper }).map fun motion =>
        { car with
          controler := { car.controler with moveHelper := motion.helper }
          events := car.events.pushAll motion.posted } := by
  simp only [carStep, motionStep]
  split
  · rfl
  · simp only [AgvCar.loop, automatic, if_true]
    rcases car.controler.moveHelper.loopRunning ret with ⟨helper, _ | errorCode⟩ <;> rfl

theorem carStep_arrive (car : AgvCar) :
    carStep .arrive car =
      (motionStep .arrive { helper := car.controler.moveHelper }).map fun motion =>
        { car with
          controler := { car.controler with moveHelper := motion.helper }
          events := car.events.pushAll motion.posted } := by
  simp only [carStep, motionStep]
  split <;> rfl

namespace Motion

/-- Whether a motion is called in the next turn of `LoopRunning`. -/
def drives (motion : Motion) : Bool :=
  motion.helper.isRunning && MoveHelper.isDriven motion.helper.runningMode

/-- Whether a step ends the target: a motion that is called fails, or the last sub-path
is behind the car. -/
def ends (motion : Motion) : MotionStep → Bool
  | .loop ret => motion.drives && decide (ret < 0)
  | .arrive => motion.helper.arriving
  | .clear => false

/-- At most one event was queued, and it tells of an end. -/
def EndsOnce (motion : Motion) : Prop :=
  motion.posted.length ≤ 1 ∧
    ∀ event ∈ motion.posted, event.event = .evNextPathPoint ∨ event.event = .evPathMagError

instance (motion : Motion) : Decidable motion.EndsOnce := inferInstanceAs (Decidable (_ ∧ _))

/-- The helper that arrived, or was never sent, calls no motion and waits for nothing. -/
def Rests (motion : Motion) : Prop := motion.drives = false ∧ motion.helper.arriving = false

/-- What a step does: it goes on, and a helper at rest stays there; or a motion fails; or
the car arrives, and the helper rests. -/
inductive Outcome (motion next : Motion) (label : MotionStep) : Prop where
  | goesOn (same : motion.ends label = false) (posted : next.posted = motion.posted)
      (failed : next.failed = motion.failed) (rests : motion.Rests → next.Rests)
  | fails (ends : motion.ends label = true) (errorCode : Int)
      (posted : next.posted = motion.posted ++ [importantEvent .evPathMagError errorCode])
      (failed : next.failed = true) (moves : ¬ motion.Rests)
  | arrives (ends : motion.ends label = true) (station : Int)
      (posted : next.posted = motion.posted ++ [importantEvent .evNextPathPoint station])
      (failed : next.failed = motion.failed) (moves : ¬ motion.Rests) (rests : next.Rests)

variable {motion next : Motion} {label : MotionStep}

theorem outcome_loop {ret : Int} (stepped : motionStep (.loop ret) motion = some next) :
    Outcome motion next (.loop ret) := by
  simp only [motionStep, MoveHelper.loopRunning] at stepped
  split at stepped
  · cases stepped
  have turns : (!motion.helper.isRunning ||
      !MoveHelper.isDriven motion.helper.runningMode) = !motion.drives := by
    simp [drives, Bool.not_and]
  by_cases called : motion.drives = true
  · rw [called, Bool.not_true] at turns
    have moves : ¬ motion.Rests := fun rests => by simp [rests.1] at called
    by_cases done : ret = 1
    · -- The next sub-path begins, or the car is behind the last one.
      subst done
      simp only [turns, Bool.false_eq_true, if_false, if_true] at stepped
      split at stepped
      next helper _ turned =>
        cases stepped
        exact .goesOn (by simp [ends]) rfl rfl fun rests => absurd rests moves
      next helper errorCode turned =>
        split at turned <;> cases turned
    · by_cases failed : ret < 0
      · simp only [turns, Bool.false_eq_true, if_false, done, failed, if_true,
          Option.some.injEq] at stepped
        subst stepped
        exact .fails (by simp [ends, called, failed]) ret rfl rfl moves
      · simp only [turns, Bool.false_eq_true, if_false, done, failed,
          Option.some.injEq] at stepped
        subst stepped
        exact .goesOn (by simp [ends, failed]) rfl rfl id
  · simp only [turns, called, Bool.not_false, if_true, Option.some.injEq] at stepped
    subst stepped
    exact .goesOn (by simp [ends, called]) rfl rfl id

theorem outcome_arrive (stepped : motionStep .arrive motion = some next) :
    Outcome motion next .arrive := by
  simp only [motionStep] at stepped
  split at stepped
  next waits =>
    cases stepped
    refine .arrives waits _ rfl rfl (fun rests => ?_) ⟨?_, rfl⟩
    · simp [rests.2] at waits
    · simp [drives, MoveHelper.finishTarget, MoveHelper.isDriven, stopMode, goForwardMode,
        goBackwardMode, forwardToArcMode, backwardToArcMode, rotateLeftMode, rotateRightMode]
  next => cases stepped

theorem outcome (stepped : motionStep label motion = some next) :
    Outcome motion next label := by
  cases label with
  | loop ret => exact outcome_loop stepped
  | arrive => exact outcome_arrive stepped
  | clear =>
      cases stepped
      exact .goesOn rfl rfl rfl fun rests => ⟨rfl, rests.2⟩

/-! ## One end for each target -/

/-- As long as no step ends a target behind a failure, at most one event was queued; the
helper rests behind an arrival. -/
structure Ended (motion : Motion) : Prop where
  once : motion.EndsOnce
  failed : motion.failed = true → motion.posted ≠ []
  arrived : motion.failed = false → motion.posted ≠ [] → motion.Rests

theorem ended_start (helper : MoveHelper) : Ended { helper } :=
  ⟨⟨by simp, by simp⟩, by simp, by simp⟩

/-- No step ends the target once a motion has failed. -/
def NoEndAfterFailure (motion : Motion) (label : MotionStep) (_ : Motion) : Prop :=
  motion.failed = true → motion.ends label = false

instance (motion next : Motion) (label : MotionStep) :
    Decidable (NoEndAfterFailure motion label next) := inferInstanceAs (Decidable (_ → _))

/-- An event that is the first keeps the account. -/
theorem endsOnce_append (event : AgvEvent) (posted : next.posted = motion.posted ++ [event])
    (nothing : motion.posted = [])
    (tells : event.event = .evNextPathPoint ∨ event.event = .evPathMagError) :
    next.EndsOnce := by
  rw [nothing, List.nil_append] at posted
  simp [EndsOnce, posted, tells]

/-- Nothing is queued before a target ends without a failure before it. -/
theorem Ended.posted_eq_nil (ended : Ended motion) (sound : motion.failed = false)
    (moves : ¬ motion.Rests) : motion.posted = [] := by
  apply Classical.byContradiction
  intro posted
  exact moves (ended.arrived sound posted)

theorem Ended.step (ended : Ended motion) (stepped : motionStep label motion = some next)
    (guard : NoEndAfterFailure motion label next) : Ended next := by
  have sound (ends : motion.ends label = true) : motion.failed = false := by
    cases failed : motion.failed with
    | false => rfl
    | true => simp [guard failed] at ends
  cases outcome stepped with
  | goesOn same posted failed rests =>
      refine ⟨?_, ?_, ?_⟩
      · simpa [EndsOnce, posted] using ended.once
      · rw [failed, posted]
        exact ended.failed
      · rw [failed, posted]
        exact fun sound queued => rests (ended.arrived sound queued)
  | fails ends errorCode posted failed moves =>
      have nothing := ended.posted_eq_nil (sound ends) moves
      refine ⟨endsOnce_append _ posted nothing (.inr rfl), ?_, ?_⟩
      · simp [posted]
      · simp [failed]
  | arrives ends station posted failed moves rests =>
      have nothing := ended.posted_eq_nil (sound ends) moves
      refine ⟨endsOnce_append _ posted nothing (.inl rfl), ?_, fun _ _ => rests⟩
      simp [failed, sound ends]

/-- A step keeps the target at one end exactly if it does not end it behind a failure. -/
theorem Ended.endsOnce_iff (ended : Ended motion)
    (stepped : motionStep label motion = some next) :
    next.EndsOnce ↔ NoEndAfterFailure motion label next := by
  constructor
  · intro once failed
    have queued := List.length_pos_iff.mpr (ended.failed failed)
    cases outcome stepped with
    | goesOn same => exact same
    | fails ends errorCode posted =>
        have bound := once.1
        rw [posted, List.length_append, List.length_singleton] at bound
        omega
    | arrives ends station posted =>
        have bound := once.1
        rw [posted, List.length_append, List.length_singleton] at bound
        omega
  · intro guard
    exact (ended.step stepped guard).once

end Motion

/-- From `SetTarget` on, whatever target it was given, at most one event is queued in
every state of a run exactly if no step of the run ends the target after a turn in which
a motion failed. -/
theorem endsOnce_along_iff (split : PathMag → Split) (target : PathMag) (helper : MoveHelper)
    (steps : List MotionStep) :
    Along motionStep (fun _ _ next => next.EndsOnce) steps
        { helper := (helper.setTarget split target).1 } ↔
      Along motionStep Motion.NoEndAfterFailure steps
        { helper := (helper.setTarget split target).1 } :=
  along_iff_of_guard (fun _ _ _ ended stepped guard => ended.step stepped guard)
    (fun _ _ _ ended stepped => ended.endsOnce_iff stepped) (Motion.ended_start _)

/-- A target that is driven to forward in one piece. -/
def aheadSplit : PathMag → Split := fun _ => { modes := [goForwardMode] }

def aheadTarget : PathMag := { station := 7, mode := goForwardMode, action := actionStop }

/-- A motion that starts ahead of its target fails in every turn, and every turn queues
the error again. -/
theorem endsOnce_fails :
    MoveHelper.Accepts aheadSplit aheadTarget ∧
      ¬ Along motionStep (fun _ _ next => next.EndsOnce) [.loop (-1), .loop (-1)]
        { helper := (({} : MoveHelper).setTarget aheadSplit aheadTarget).1 } := by
  decide

end DrivingControl.Controler

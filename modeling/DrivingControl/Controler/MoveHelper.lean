import DrivingControl.Controler.RoutePlanner

/-!
# The move helper

`CAgvMoveHelperForklift` drives the car to one target at a time.  A target is split
into sub-paths, which the loop of the motion thread runs one after the other; behind
the last one it queues the arrival.

The geometry of the split and of the single motions is not modelled: what
`SplitToSubTarget` makes of a target and what a motion returns are inputs.
-/

namespace DrivingControl.Controler

/-- The arguments of `SetTarget`: `PathMagStruct`, of which `targetPoint` and
`lastPathMag` keep one each. -/
structure PathMag where
  station : Int := 0
  mode : Int := 0
  speed : Int := 0
  xPos : Int := 0
  yPos : Int := 0
  angle : Int := 0
  radius : Int := 0
  action : Int := 0
  liftHeight : Int := 0
  deriving DecidableEq, Repr

/-- What `SplitToSubTarget` or `AttitudeAdjustToFork` makes of a target: an error
code, and the run modes of the sub-paths. -/
structure Split where
  errorCode : Int := 0
  modes : List Int := []
  deriving DecidableEq, Repr

/-- `CAgvMoveHelperForklift`, as far as it decides which target is driven to. -/
structure MoveHelper where
  isRunning : Bool := false
  /-- `CarRunningMode`, which `GetRunningMode` returns. -/
  carRunningMode : Int := stopMode
  /-- `MAXSPEEDALLOWED`. -/
  maxSpeedAllowed : Int := 0
  targetPoint : PathMag := {}
  needStop : Bool := false
  /-- The run mode of the sub-path that is driven. -/
  runningMode : Int := stopMode
  /-- The run modes of `subpath` up to `subpathSize`. -/
  subpath : List Int := []
  pathIndex : Nat := 0
  /-- Whether the loop is behind the last sub-path and has not queued the arrival. -/
  arriving : Bool := false
  deriving DecidableEq, Repr

namespace MoveHelper

/-- `targetPoint.needStop` for a target that is split. -/
def stopsPrecisely (target : PathMag) : Bool :=
  target.action == actionStop ||
    (target.action == actionLiftUpDown && target.mode == goBackwardMode) ||
    target.action == actionCharge

/-- The end of `SetTarget`, with the run mode of the first sub-path. -/
def acceptTarget (target : PathMag) (needStop : Bool) (subpath : List Int)
    (runningMode : Int) (helper : MoveHelper) : MoveHelper :=
  { helper with
    isRunning := true
    carRunningMode := target.mode
    maxSpeedAllowed := target.speed
    targetPoint := target
    needStop
    runningMode
    subpath
    pathIndex := 0 }

/-- `SetTarget`.  A target that cannot be split gives its error code; the running mode
and the speed limit are set all the same. -/
def setTarget (split : PathMag → Split) (target : PathMag) (helper : MoveHelper) :
    MoveHelper × Option Int :=
  let parts := split target
  if target.mode = goForwardMode ∨ target.mode = goBackwardMode then
    if parts.errorCode ≠ 0 then
      ({ helper with
          carRunningMode := target.mode
          maxSpeedAllowed := target.speed
          subpath := parts.modes }, some parts.errorCode)
    else
      (helper.acceptTarget target (stopsPrecisely target) parts.modes
        (parts.modes.headD stopMode), none)
  else if target.mode = carryGoods then
    (helper.acceptTarget target true parts.modes (parts.modes.headD stopMode), none)
  else (helper.acceptTarget target false [] target.mode, none)

/-- `ClearTarget`. -/
def clearTarget (helper : MoveHelper) : MoveHelper :=
  { helper with isRunning := false, runningMode := stopMode, carRunningMode := stopMode }

/-- `GetRunningMode`. -/
def getRunningMode (helper : MoveHelper) : Int := helper.carRunningMode

/-- The run modes for which `LoopRunning` calls a motion. -/
def isDriven (mode : Int) : Bool :=
  mode == goForwardMode || mode == goBackwardMode || mode == forwardToArcMode ||
    mode == backwardToArcMode || mode == rotateLeftMode || mode == rotateRightMode

/-- One turn of `LoopRunning` with what the motion returns, and the error code it
queues.  After the last sub-path the loop first stops the drive and waits. -/
def loopRunning (ret : Int) (helper : MoveHelper) : MoveHelper × Option Int :=
  if !helper.isRunning || !isDriven helper.runningMode then (helper, none)
  else if ret = 1 then
    match helper.subpath[helper.pathIndex + 1]? with
    | some mode =>
        ({ helper with pathIndex := helper.pathIndex + 1, runningMode := mode }, none)
    | none => ({ helper with pathIndex := helper.pathIndex + 1, arriving := true }, none)
  else if ret < 0 then (helper, some ret)
  else (helper, none)

/-- The end of that turn, which queues the arrival at the station it returns. -/
def finishTarget (helper : MoveHelper) : MoveHelper × Int :=
  ({ helper with
      runningMode := stopMode
      pathIndex := 0
      subpath := []
      arriving := false }, helper.targetPoint.station)

variable (split : PathMag → Split) (target : PathMag) (helper : MoveHelper)

/-- `SetTarget` accepts a target exactly when its split has no error. -/
def Accepts : Prop :=
  (target.mode = goForwardMode ∨ target.mode = goBackwardMode) → (split target).errorCode = 0

instance : Decidable (Accepts split target) := inferInstanceAs (Decidable (_ → _))

theorem setTarget_snd_eq_none :
    (helper.setTarget split target).2 = none ↔ Accepts split target := by
  unfold setTarget Accepts
  dsimp only
  split
  next driven =>
    split
    next failed => simp [driven, failed]
    next passed => simpa [driven] using passed
  next notDriven => split <;> simp [notDriven]

/-- An accepted target is the one that is driven to. -/
theorem setTarget_accepted (accepts : Accepts split target) :
    (helper.setTarget split target).1.isRunning = true ∧
      (helper.setTarget split target).1.targetPoint = target := by
  have passes := (setTarget_snd_eq_none split target helper).mpr accepts
  unfold setTarget at passes ⊢
  dsimp only at passes ⊢
  split
  next driven =>
    rw [if_pos driven] at passes
    split
    next failed => simp [failed] at passes
    next => exact ⟨rfl, rfl⟩
  next => split <;> exact ⟨rfl, rfl⟩

/-- A rejected target leaves the one before. -/
theorem setTarget_rejected (rejects : ¬ Accepts split target) :
    (helper.setTarget split target).1.isRunning = helper.isRunning ∧
      (helper.setTarget split target).1.targetPoint = helper.targetPoint := by
  have driven : target.mode = goForwardMode ∨ target.mode = goBackwardMode := by
    apply Classical.byContradiction
    intro notDriven
    exact rejects fun driven => absurd driven notDriven
  have failed : (split target).errorCode ≠ 0 := fun passed => rejects fun _ => passed
  rw [setTarget]
  simp only [if_pos driven, if_pos failed, and_self]

/-! ## The target that is driven to -/

/-- The helper drives to no other target than before. -/
structure Rests (helper next : MoveHelper) : Prop where
  targetPoint : next.targetPoint = helper.targetPoint
  isRunning : next.isRunning = true → helper.isRunning = true

variable {helper next last : MoveHelper} {split : PathMag → Split} {target : PathMag}

theorem Rests.refl (helper : MoveHelper) : Rests helper helper := ⟨rfl, id⟩

theorem Rests.trans (first : Rests helper next) (second : Rests next last) :
    Rests helper last where
  targetPoint := second.targetPoint.trans first.targetPoint
  isRunning running := first.isRunning (second.isRunning running)

theorem rests_clearTarget (helper : MoveHelper) : Rests helper helper.clearTarget :=
  ⟨rfl, (nomatch ·)⟩

/-- A rejected target changes nothing that is driven to. -/
theorem rests_setTarget (rejects : ¬ Accepts split target) :
    Rests helper (helper.setTarget split target).1 := by
  rcases setTarget_rejected split target helper rejects with ⟨running, point⟩
  exact ⟨point, fun isRunning => running ▸ isRunning⟩

/-- A turn of the loop keeps the target. -/
theorem rests_loopRunning (ret : Int) (helper : MoveHelper) :
    Rests helper (helper.loopRunning ret).1 := by
  rw [loopRunning]
  split
  · exact .refl helper
  · split
    · split
      · exact ⟨rfl, id⟩
      · exact ⟨rfl, id⟩
    · split
      · exact .refl helper
      · exact .refl helper

end MoveHelper

end DrivingControl.Controler

import DrivingControl.Controler.DecomposedPaths
import DrivingControl.Controler.MoveHelper
import DrivingControl.Utils.MathUtils

/-!
# Targets with their segments

`SetTarget` with everything that it writes: the segments with their poses and speeds,
the radius, and the flags of the motion.  The move helper that the other modules work
with keeps only the run modes; `toMoveHelper` forgets the rest, and `SetTarget` here is
`SetTarget` there for the split that `SplitToSubTarget` makes.
-/

namespace DrivingControl.Controler

/-- `RunContext`, as `targetPoint` keeps it from the arguments of `SetTarget`. -/
structure RunContext where
  station : Int := 0
  mode : Int := 0
  xPos : Int := 0
  yPos : Int := 0
  angle : ℚ := 0
  radius : Int := 0
  speed : Int := 0
  action : Int := 0
  liftHeight : Int := 0
  deriving DecidableEq, Repr

namespace RunContext

/-- The arguments with the heading in whole degrees. -/
def toPathMag (target : RunContext) : PathMag where
  station := target.station
  mode := target.mode
  speed := target.speed
  xPos := target.xPos
  yPos := target.yPos
  angle := target.angle.floor
  radius := target.radius
  action := target.action
  liftHeight := target.liftHeight

def pose (target : RunContext) : Pose := ⟨target.xPos, target.yPos, target.angle⟩

/-- The target is split: `GoForwardMode == mode || GoBackwardMode == mode`. -/
def IsSplit (target : RunContext) : Prop :=
  target.mode = goForwardMode ∨ target.mode = goBackwardMode

instance (target : RunContext) : Decidable target.IsSplit :=
  inferInstanceAs (Decidable (_ ∨ _))

/-- `(DIRECTION)mode`. -/
def direction (target : RunContext) : Direction :=
  if target.mode = goForwardMode then .forward else .backward

/-- The target asks for a precise stop. -/
def stopsPrecisely (target : RunContext) : Bool := MoveHelper.stopsPrecisely target.toPathMag

end RunContext

/-- `ROTATEMODE`. -/
inductive RotateMode where
  | relative
  | absolute
  deriving DecidableEq, Repr

/-- `CAgvMoveHelperForklift`, as far as `SetTarget` reads and writes it. -/
structure ForkliftHelper where
  isRunning : Bool := false
  /-- `CarRunningMode`. -/
  carRunningMode : Int := stopMode
  /-- `MAXSPEEDALLOWED`. -/
  maxSpeedAllowed : Int := 0
  targetPoint : RunContext := {}
  /-- `targetPoint.needStop`. -/
  needStop : Bool := false
  runningMode : Int := stopMode
  targetPose : Pose := ⟨0, 0, 0⟩
  targetSpeed : Int := 0
  /-- `subpath` and `subpathSize`. -/
  subpath : SubPaths := {}
  pathIndex : Nat := 0
  rotateMode : RotateMode := .relative
  initParaFlag : Bool := false
  isChangeSpeedInit : Bool := false
  /-- `STANDARD_RADIUS`. -/
  standardRadius : Int
  /-- `SavedXMLSTANDARD_RADIUS`. -/
  savedStandardRadius : Int
  deriving DecidableEq, Repr

/-- A call of `SetTarget`, with the pose of the car, what the helper functions compute, and
the segments that `AttitudeAdjustToFork` leaves. -/
structure SetTargetCall where
  target : RunContext
  current : Pose
  geometry : Geometry
  adjusted : SubPaths := {}

namespace SubPaths

/-- The run modes of the entries in use. -/
def modes (paths : SubPaths) : List Int :=
  (paths.entries.toList.take paths.size).map fun entry => (entry.getD {}).runmode

variable {paths : SubPaths} {subs : List SubPath}

theorem Holds.modes (holds : paths.Holds subs) : paths.modes = subs.map SubPath.runmode := by
  have read := holds.read
  rw [SubPaths.read, if_pos (holds.size ▸ holds.le), Option.some.injEq] at read
  rw [← read, List.map_map]
  rfl

theorem Holds.first {sub : SubPath} (holds : paths.Holds (sub :: subs)) : paths.first = sub := by
  have filled := holds.filled 0 (by simp)
  have entry : paths.entries[0] = some sub := by simpa using filled
  rw [SubPaths.first, entry, Option.getD_some]

/-- The first segment in use is the one that is driven first. -/
theorem Holds.headD_modes (holds : paths.Holds subs) (present : subs ≠ []) (mode : Int) :
    paths.modes.headD mode = paths.first.runmode := by
  cases subs with
  | nil => exact absurd rfl present
  | cons sub rest => rw [holds.modes, holds.first, List.map_cons, List.headD_cons]

end SubPaths

/-- The segments are as `AttitudeAdjustToFork` leaves them: as `clearSubpath` did, or set. -/
def SetTargetCall.IsAdjusted (call : SetTargetCall) : Prop :=
  call.adjusted = {} ∨ ∃ subs, call.adjusted.Holds subs ∧ subs ≠ []

theorem SetTargetCall.IsAdjusted.headD_modes {call : SetTargetCall} (adjusts : call.IsAdjusted) :
    call.adjusted.modes.headD stopMode = call.adjusted.first.runmode := by
  rcases adjusts with empty | ⟨subs, holds, present⟩
  · rw [empty]
    rfl
  · exact holds.headD_modes present stopMode

namespace ForkliftHelper

/-- The end of `SetTarget`. -/
def acceptTarget (call : SetTargetCall) (needStop : Bool) (rotateMode : RotateMode)
    (helper : ForkliftHelper) : ForkliftHelper :=
  let first := helper.subpath.first
  { helper with
    isRunning := true
    targetPoint := call.target
    needStop
    rotateMode
    pathIndex := 0
    runningMode := first.runmode
    targetPose :=
      if rotateMode = .absolute ∧ first.rotates then
        { first.target with
            angle := Utils.transformAngle (call.current.angle - first.target.angle) (-360) 360 180 }
      else first.target
    targetSpeed := first.speed
    initParaFlag := false
    isChangeSpeedInit := false }

/-- What a call hands to `SplitToSubTarget`.  `needStop` is still that of the target
before. -/
def splitSettings (call : SetTargetCall) (helper : ForkliftHelper) : SplitSettings where
  needStop := helper.needStop
  maxSpeedAllowed := call.target.speed
  savedStandardRadius := helper.savedStandardRadius

/-- The call of `SplitToSubTarget`. -/
def split (call : SetTargetCall) (helper : ForkliftHelper) : Option Decomposition :=
  splitToSubTarget (helper.splitSettings call) call.geometry call.current call.target.pose
    call.target.direction helper.standardRadius

/-- `SetTarget`, with its return value.  There is no result when `SplitToSubTarget` leaves its
array. -/
def setTarget (call : SetTargetCall) (helper : ForkliftHelper) :
    Option (ForkliftHelper × Int) :=
  let cleared : ForkliftHelper := { helper with
    carRunningMode := call.target.mode
    maxSpeedAllowed := call.target.speed
    subpath := {} }
  if call.target.IsSplit then
    (helper.split call).map fun parts =>
      let decomposed := { cleared with
        standardRadius := parts.standardRadius
        subpath := parts.subpath }
      if parts.ret ≠ 0 then (decomposed, -1)
      else (decomposed.acceptTarget call call.target.stopsPrecisely .relative, 0)
  else if call.target.mode = carryGoods then
    some ({ cleared with subpath := call.adjusted }.acceptTarget call true .absolute, 0)
  else
    -- The segment is written to the first entry, and `subpathSize` stays zero.
    let single : SubPath :=
      { target := call.target.pose, runmode := call.target.mode, distance := 0, speed := 100 }
    some ({ cleared with subpath := SubPaths.writeFirst single {} }.acceptTarget call false
      .relative, 0)

variable {helper next : ForkliftHelper} {call : SetTargetCall} {parts : Decomposition}

theorem setTarget_split (isSplit : call.target.IsSplit)
    (returns : helper.split call = some parts) :
    helper.setTarget call = some (
      let decomposed := { helper with
        carRunningMode := call.target.mode
        maxSpeedAllowed := call.target.speed
        standardRadius := parts.standardRadius
        subpath := parts.subpath }
      if parts.ret ≠ 0 then (decomposed, -1)
      else (decomposed.acceptTarget call call.target.stopsPrecisely .relative, 0)) := by
  rw [setTarget, if_pos isSplit, returns, Option.map_some]

/-- Every accepted target is taken over by the end of `SetTarget`. -/
theorem eq_of_accepted (accepted : helper.setTarget call = some (next, 0)) :
    ∃ (made : ForkliftHelper) (needStop : Bool) (rotateMode : RotateMode),
      next = made.acceptTarget call needStop rotateMode := by
  rw [setTarget] at accepted
  split at accepted
  · rcases Option.map_eq_some_iff.mp accepted with ⟨parts, -, outcome⟩
    split at outcome
    · cases outcome
    · cases outcome
      exact ⟨_, _, _, rfl⟩
  · split at accepted
    · cases accepted
      exact ⟨_, _, _, rfl⟩
    · cases accepted
      exact ⟨_, _, _, rfl⟩

/-! ## The move helper without the segments -/

/-- The helper as the other modules know it. -/
def toMoveHelper (arriving : Bool) (helper : ForkliftHelper) : MoveHelper where
  isRunning := helper.isRunning
  carRunningMode := helper.carRunningMode
  maxSpeedAllowed := helper.maxSpeedAllowed
  targetPoint := helper.targetPoint.toPathMag
  needStop := helper.needStop
  runningMode := helper.runningMode
  subpath := helper.subpath.modes
  pathIndex := helper.pathIndex
  arriving

/-- The run modes that a call makes of its target. -/
def splitModes (call : SetTargetCall) (helper : ForkliftHelper) : Split :=
  if call.target.IsSplit then
    match helper.split call with
    | some parts => { errorCode := parts.ret, modes := parts.subpath.modes }
    | none => {}
  else { modes := call.adjusted.modes }

/-- A target that is split fails, and leaves no segment, or leaves at least one. -/
theorem split_spec (call : SetTargetCall) (helper : ForkliftHelper) :
    ∃ parts, helper.split call = some parts ∧
      (parts.ret = -1 ∧ parts.subpath = {} ∨
        parts.ret = 0 ∧ ∃ subs, parts.subpath.Holds subs ∧ subs ≠ []) := by
  rcases splitToSubTarget_spec (helper.splitSettings call) call.geometry call.current
    call.target.pose call.target.direction helper.standardRadius with
    ⟨parts, returns, -, failed | ⟨passed, valid, holds⟩⟩
  · exact ⟨parts, returns, .inl failed⟩
  · have decomposed := decomposed_chosen (helper.splitSettings call) call.geometry call.current
      call.target.pose call.target.direction helper.standardRadius valid
    have present := (decomposed.shape_simplified (helper.splitSettings call)).2
    exact ⟨parts, returns, .inr ⟨passed, _, holds, by simpa [drivenSubPaths] using present⟩⟩

/-- `SetTarget` is that of the move helper without the segments. -/
theorem toMoveHelper_setTarget (arriving : Bool) (helper : ForkliftHelper)
    (adjusts : call.target.mode = carryGoods → call.IsAdjusted) :
    (helper.setTarget call).map (fun result =>
        (result.1.toMoveHelper arriving, if result.2 = 0 then none else some result.2)) =
      some ((helper.toMoveHelper arriving).setTarget (fun _ => helper.splitModes call)
        call.target.toPathMag) := by
  by_cases isSplit : call.target.IsSplit
  · rcases helper.split_spec call with ⟨parts, returns, outcome⟩
    have modes : helper.splitModes call =
        { errorCode := parts.ret, modes := parts.subpath.modes } := by
      rw [splitModes, if_pos isSplit, returns]
    have driven : call.target.toPathMag.mode = goForwardMode ∨
        call.target.toPathMag.mode = goBackwardMode := isSplit
    rw [setTarget_split isSplit returns, MoveHelper.setTarget, modes, if_pos driven]
    rcases outcome with ⟨failed, empty⟩ | ⟨passed, subs, holds, present⟩
    · simp only [failed, empty]
      rfl
    · have first := holds.headD_modes present stopMode
      simp only [passed, ne_eq, not_true_eq_false, if_false, Option.map_some, first]
      rfl
  · have other : ¬(call.target.toPathMag.mode = goForwardMode ∨
        call.target.toPathMag.mode = goBackwardMode) := isSplit
    rw [setTarget, if_neg isSplit, MoveHelper.setTarget, if_neg other]
    by_cases carries : call.target.mode = carryGoods
    · have sameMode : call.target.toPathMag.mode = carryGoods := carries
      have first := (adjusts carries).headD_modes
      have modes : helper.splitModes call = { modes := call.adjusted.modes } := by
        rw [splitModes, if_neg isSplit]
      rw [if_pos carries, if_pos sameMode, modes, first]
      rfl
    · have otherMode : ¬ call.target.toPathMag.mode = carryGoods := carries
      rw [if_neg carries, if_neg otherMode]
      rfl

end ForkliftHelper

end DrivingControl.Controler

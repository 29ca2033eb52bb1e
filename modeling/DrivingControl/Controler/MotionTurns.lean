import DrivingControl.Controler.MotionCommands

/-!
# The motion thread as the move helper

The other modules know the motion by `MoveHelper`: a list of run modes, an index, and what a
motion returns.  Here every turn of the faithful loop is a turn of that helper.  No run comes to
a turn that leaves its array, divides by zero or multiplies zero by infinity.
-/

namespace DrivingControl.Controler

open DrivingControl.Library

/-- A turn of the move helper, with the arrival in the same turn. -/
def MoveHelper.wholeTurn (ret : Int) (helper : MoveHelper) : MoveHelper × List MotionEvent :=
  let turned := helper.loopRunning ret
  if turned.1.arriving then
    (turned.1.finishTarget.1, [.evNextPathPoint turned.1.finishTarget.2])
  else (turned.1, turned.2.toList.map .evPathMagError)

namespace MotionThread

variable {settings : MotionSettings} {library : MathLibrary} {input : TurnInput}
  {thread : MotionThread} {direction : Option Int}

/-- What the other modules know of the thread. -/
def toMoveHelper (thread : MotionThread) : MoveHelper := thread.helper.toMoveHelper false

/-! ## One turn -/

/-- A motion changes the run mode when it ends, and of the other members for a target only the
speed. -/
structure MotionFrame (thread : MotionThread) (motion : MotionResult) : Prop where
  helper : ∃ initParaFlag isChangeSpeedInit runningMode targetSpeed,
    motion.thread.helper =
      { thread.helper with initParaFlag, isChangeSpeedInit, runningMode, targetSpeed }
  runningMode : motion.ret ≠ 1 → motion.thread.helper.runningMode = thread.helper.runningMode
  driven : motion.ret ≠ 0 → MoveHelper.isDriven thread.helper.runningMode = true

theorem isDriven_of_ofMode {runningMode : Int} {function : DriveFunction}
    (is : DriveFunction.ofMode runningMode = some function) :
    MoveHelper.isDriven runningMode = true := by
  rcases DriveFunction.ofMode_eq_some is with ⟨rfl, -⟩ | ⟨rfl, -⟩ | ⟨rfl, -⟩ | ⟨rfl, -⟩ <;> rfl

theorem isDriven_of_rotates {runningMode : Int}
    (rotates : runningMode = rotateLeftMode ∨ runningMode = rotateRightMode) :
    MoveHelper.isDriven runningMode = true := by
  rcases rotates with rfl | rfl <;> rfl

theorem motionFrame_drive {function : DriveFunction} {motion : MotionResult}
    (offset : 0 ≤ settings.delayDistanceOffset)
    (directed : thread.Directed settings library direction)
    (is : DriveFunction.ofMode thread.helper.runningMode = some function)
    (through : thread.drive settings library input function = some motion) :
    MotionFrame thread motion := by
  rcases Option.map_eq_some_iff.mp through with ⟨iteration, iterated, rfl⟩
  refine ⟨⟨_, _, _, _, rfl⟩, ?_, fun _ => isDriven_of_ofMode is⟩
  intro goes
  cases DriveFunction.iterate_outcome offset (directed.drive function is) iterated with
  | refuses first => rfl
  | starts first next speed angular follows still runningMode => exact runningMode
  | moves going next sent follows still init runningMode => exact runningMode
  | arrives going next sent follows ended stops => exact absurd rfl goes

theorem motionFrame_rotate (angle : ℚ)
    (rotates : thread.helper.runningMode = rotateLeftMode ∨
      thread.helper.runningMode = rotateRightMode) :
    MotionFrame thread (thread.rotate settings input angle) := by
  have driven := isDriven_of_rotates rotates
  rw [rotate]
  split
  · exact ⟨⟨_, _, _, _, rfl⟩, fun _ => rfl, fun _ => driven⟩
  · have rotated (side : RotateDirection) (turn : ℚ)
        (goes : (thread.toRotation.rotate side settings.delayAngleOffset turn
          input.toRotateInput).ret ≠ 1) :
        (thread.toRotation.rotate side settings.delayAngleOffset turn
          input.toRotateInput).rotation.runningMode = thread.helper.runningMode := by
      rcases thread.toRotation.rotate_cases side settings.delayAngleOffset turn
        input.toRotateInput with ⟨ends, -⟩ | ⟨-, mode⟩
      · exact absurd ends goes
      · exact mode
    dsimp only
    split
    · exact ⟨⟨_, _, _, _, rfl⟩, rotated .left _, fun _ => driven⟩
    · exact ⟨⟨_, _, _, _, rfl⟩, rotated .right _, fun _ => driven⟩

theorem motionFrame_runMotion {motion : MotionResult} (offset : 0 ≤ settings.delayDistanceOffset)
    (directed : thread.Directed settings library direction)
    (through : thread.runMotion settings library input = some motion) :
    MotionFrame thread motion := by
  rw [runMotion] at through
  split at through
  next function is => exact motionFrame_drive offset directed is through
  next none =>
    split at through
    next rotates =>
      cases through
      exact motionFrame_rotate _ rotates
    next =>
      cases through
      exact ⟨⟨_, _, _, _, rfl⟩, fun _ => rfl, fun goes => absurd rfl goes⟩

/-- The run mode of an entry in use. -/
theorem modes_getElem? {paths : SubPaths} {index : Nat} {entry : Option SubPath}
    (inside : index < paths.size) (read : paths.entries[index]? = some entry) :
    paths.modes[index]? = some (entry.getD {}).runmode := by
  rw [SubPaths.modes, List.getElem?_map, List.getElem?_take_of_lt inside, Vector.getElem?_toList,
    read]
  rfl

theorem modes_getElem?_eq_none {paths : SubPaths} {index : Nat} (outside : ¬ index < paths.size) :
    paths.modes[index]? = none := by
  rw [List.getElem?_eq_none_iff, SubPaths.modes, List.length_map, List.length_take]
  omega

/-- The move helper behind a segment that is not the last one. -/
theorem loopRunning_next {helper : MoveHelper} {mode : Int}
    (going : ¬ (!helper.isRunning || !MoveHelper.isDriven helper.runningMode))
    (read : helper.subpath[helper.pathIndex + 1]? = some mode) :
    helper.loopRunning 1 =
      ({ helper with pathIndex := helper.pathIndex + 1, runningMode := mode }, none) := by
  rw [MoveHelper.loopRunning, if_neg going, if_pos rfl, read]

/-- The move helper behind the last one. -/
theorem loopRunning_last {helper : MoveHelper}
    (going : ¬ (!helper.isRunning || !MoveHelper.isDriven helper.runningMode))
    (read : helper.subpath[helper.pathIndex + 1]? = none) :
    helper.loopRunning 1 =
      ({ helper with pathIndex := helper.pathIndex + 1, arriving := true }, none) := by
  rw [MoveHelper.loopRunning, if_neg going, if_pos rfl, read]

/-- The end of a segment is that of the move helper. -/
theorem wholeTurn_endSegment {motion : MotionResult} {turn : Turn}
    (frame : MotionFrame thread motion)
    (runs : thread.helper.isRunning = true) (finished : motion.ret = 1)
    (reached : motion.thread.endSegment input = some turn) :
    thread.toMoveHelper.wholeTurn 1 = (turn.thread.toMoveHelper, turn.events) := by
  have driven := frame.driven (by rw [finished]; decide)
  rcases frame.helper with ⟨initParaFlag, isChangeSpeedInit, runningMode, targetSpeed, left⟩
  have going : ¬ (!thread.toMoveHelper.isRunning ||
      !MoveHelper.isDriven thread.toMoveHelper.runningMode) := by
    simp only [toMoveHelper, ForkliftHelper.toMoveHelper, runs, driven, Bool.not_true,
      Bool.or_false, Bool.false_eq_true, not_false_iff]
  rw [MoveHelper.wholeTurn]
  rw [endSegment, left] at reached
  split at reached
  next inside =>
    rcases Option.map_eq_some_iff.mp reached with ⟨entry, read, rfl⟩
    rw [loopRunning_next going (modes_getElem? inside read), nextSegment, left]
    rfl
  next outside =>
    cases reached
    rw [loopRunning_last going (modes_getElem?_eq_none outside), finishTarget, left]
    rfl

/-- A motion that goes on leaves the move helper. -/
theorem same_of_unfinished {motion : MotionResult} (frame : MotionFrame thread motion)
    (unfinished : motion.ret ≠ 1) : motion.thread.toMoveHelper = thread.toMoveHelper := by
  rcases frame.helper with ⟨initParaFlag, isChangeSpeedInit, runningMode, targetSpeed, left⟩
  have mode := frame.runningMode unfinished
  rw [left] at mode
  change runningMode = thread.helper.runningMode at mode
  subst mode
  rw [toMoveHelper, left]
  rfl

theorem loopRunning_unfinished {motion : MotionResult} (runs : thread.helper.isRunning = true)
    (frame : MotionFrame thread motion) (unfinished : motion.ret ≠ 1) :
    thread.toMoveHelper.loopRunning motion.ret =
      (thread.toMoveHelper, if motion.ret < 0 then some motion.ret else none) := by
  rw [MoveHelper.loopRunning]
  split
  next rests =>
    have zero : motion.ret = 0 := by
      by_contra goes
      simp [toMoveHelper, ForkliftHelper.toMoveHelper, runs, frame.driven goes] at rests
    rw [zero]
    rfl
  next => split <;> rfl

/-- A turn of the loop is a turn of the move helper for what its motion returns. -/
theorem toMoveHelper_loopRunning {turn : Turn} (offset : 0 ≤ settings.delayDistanceOffset)
    (directed : thread.Directed settings library direction)
    (through : thread.loopRunning settings library input = some turn) :
    ∃ ret, thread.toMoveHelper.wholeTurn ret = (turn.thread.toMoveHelper, turn.events) := by
  rw [loopRunning] at through
  split at through
  next rests =>
    cases through
    refine ⟨0, ?_⟩
    have rested : thread.toMoveHelper.loopRunning 0 = (thread.toMoveHelper, none) := by
      rw [MoveHelper.loopRunning, if_pos]
      simp only [toMoveHelper, ForkliftHelper.toMoveHelper, rests, Bool.not_false, Bool.true_or]
    rw [MoveHelper.wholeTurn, rested]
    rfl
  next runs =>
    have runs : thread.helper.isRunning = true := by simpa using runs
    rcases Option.bind_eq_some_iff.mp through with ⟨motion, moves, ends⟩
    have frame := motionFrame_runMotion offset directed moves
    split at ends
    next finished =>
      rcases Option.map_eq_some_iff.mp ends with ⟨last, reached, rfl⟩
      exact ⟨1, (wholeTurn_endSegment frame runs finished reached).trans rfl⟩
    next unfinished =>
      cases ends
      refine ⟨motion.ret, ?_⟩
      rw [MoveHelper.wholeTurn, loopRunning_unfinished runs frame unfinished,
        same_of_unfinished frame unfinished]
      split
      · rfl
      · rfl

end MotionThread

/-! ## Every turn has a result -/

/-- The root is not below a whole number whose square is not above. -/
def MathLibrary.RootsAbove (library : MathLibrary) : Prop :=
  ∀ (number : ℕ) (square : ℚ), (number : ℚ) * number ≤ square → number ≤ library.sqrt square

/-- The wheel runs on a circle, even if the circle of the arc is a point. -/
theorem wheelRadius_ne_zero {settings : DriveSettings} {library : MathLibrary}
    (roots : library.RootsAbove) (wheel : 0 < settings.wheelBase) (circle : Circle) :
    wheelRadius settings library circle ≠ 0 := by
  have base : (1 : ℚ) ≤ settings.wheelBase := by exact_mod_cast wheel
  have whole : ((settings.wheelBase.toNat : ℕ) : ℚ) = settings.wheelBase := by
    exact_mod_cast Int.toNat_of_nonneg wheel.le
  have root := roots settings.wheelBase.toNat
    (circle.radius * circle.radius + settings.wheelBase * settings.wheelBase)
    (by rw [whole]; exact le_add_of_nonneg_left (mul_self_nonneg circle.radius))
  rw [whole] at root
  have above : (1 : ℤ) ≤ wheelRadius settings library circle := by
    rw [wheelRadius, truncate, if_pos (by linarith)]
    apply Int.le_floor.mpr
    push_cast
    linarith
  omega

namespace Drive

variable {settings : DriveSettings} {library : MathLibrary} {input : DriveInput} {drive : Drive}

theorem adjust_isSome {lineInput : LineInput} (lineDrive : LineDrive)
    (off : lineInput.pose.xPos ≠ 0) : (lineDrive.adjust lineInput).isSome := by
  have slows : (lineDrive.slowDown lineInput.pose.xPos).isSome := by
    rw [LineDrive.slowDown, if_neg (mul_ne_zero two_ne_zero off)]
    rfl
  rw [LineDrive.adjust]
  split
  · rfl
  · split
    · rw [Option.isSome_map]
      split
      · exact slows
      · rfl
    · split
      · rfl
      · split <;> rfl

theorem forwardToLine_isSome (line : drive.LineInvariant)
    (offset : 0 ≤ settings.delayDistanceOffset) :
    (drive.forwardToLine settings library input).isSome := by
  rw [forwardToLine]
  split
  next => rfl
  next other =>
    have going : drive.initParaFlag = true := by simpa using other
    split
    next => rfl
    next far =>
      have before := finalDelayDistance_nonneg drive.toLineDrive settings.toLineSettings
        input.speed offset
      have off : (input.toLineInput 0).pose.xPos ≠ 0 := by
        intro zero
        exact far (by rw [show input.pose.xPos = 0 from zero]; omega)
      have through := adjust_isSome (drive.approach settings.toLineSettings input.pose.xPos) off
      rcases Option.isSome_iff_exists.mp through with ⟨adjusted, adjusts⟩
      have ahead :=
        ((line.ahead going).approach settings.toLineSettings input.pose.xPos).adjust adjusts
      rw [adjusts, Option.bind_some]
      exact controlWhen_isSome ahead.moves range_ahead _

theorem backwardToLine_isSome (under : drive.MovesInvariant backwardSpeeds fun _ => 0)
    (offset : 0 ≤ settings.delayDistanceOffset) :
    (drive.backwardToLine settings library input).isSome := by
  rw [backwardToLine]
  split
  next => rfl
  next other =>
    have going : drive.initParaFlag = true := by simpa using other
    split
    next => rfl
    next far =>
      have delay := backwardDelayDistance_nonneg drive settings input.speed offset
      have before : 0 ≤ input.pose.xPos := by omega
      have slowed := ((under going).approachBackward settings before).slowBackward input.pose.xPos
      exact controlWhen_isSome slowed range_backward _

theorem startArc_isSome (function : ArcFunction)
    (wheel : ∀ circle, wheelRadius settings library circle ≠ 0) :
    (drive.startArc settings library function input).isSome := by
  rw [startArc]
  split
  · rfl
  · dsimp only
    rw [if_neg (wheel _)]
    rfl

end Drive

namespace DriveFunction

theorem iterate_isSome {settings : DriveSettings} {library : MathLibrary} {input : DriveInput}
    {drive : Drive} {function : DriveFunction} (offset : 0 ≤ settings.delayDistanceOffset)
    (wheel : ∀ circle, wheelRadius settings library circle ≠ 0)
    (holds : function.Invariant settings library drive) :
    (function.iterate settings library input drive).isSome := by
  have arc {shape : ArcFunction} (sound : shape.Sound)
      (under : drive.ArcInvariant settings library shape) :
      (drive.runArc settings library shape input).isSome := by
    cases first : drive.initParaFlag with
    | false =>
        rw [Drive.runArc, if_pos first]
        exact Drive.startArc_isSome shape wheel
    | true => exact Drive.runArc_isSome sound first (under first)
  cases function with
  | forwardToLine => exact Drive.forwardToLine_isSome holds offset
  | backwardToLine => exact Drive.backwardToLine_isSome holds offset
  | forwardToArc => exact arc sound_forwardArc holds
  | backwardToArc => exact arc sound_backwardArc holds

end DriveFunction

/-- The segments of a target lie in the array, where `AttitudeAdjustToFork` makes them as well. -/
def MotionLabel.Inside : MotionLabel → Prop
  | .setTarget call => call.target.mode = carryGoods → call.adjusted.size ≤ 5
  | _ => True

namespace MotionThread

variable {settings : MotionSettings} {library : MathLibrary} {input : TurnInput}
  {thread : MotionThread} {direction : Option Int}

theorem runMotion_isSome (offset : 0 ≤ settings.delayDistanceOffset)
    (wheel : 0 < settings.wheelBase) (roots : library.RootsAbove)
    (directed : thread.Directed settings library direction) :
    (thread.runMotion settings library input).isSome := by
  rw [runMotion]
  split
  next function is =>
    rw [drive, Option.isSome_map]
    exact DriveFunction.iterate_isSome offset (wheelRadius_ne_zero roots wheel)
      (directed.drive function is)
  next none => split <;> rfl

theorem loopRunning_isSome (offset : 0 ≤ settings.delayDistanceOffset)
    (wheel : 0 < settings.wheelBase) (roots : library.RootsAbove)
    (directed : thread.Directed settings library direction)
    (inside : thread.helper.subpath.size ≤ 5) :
    (thread.loopRunning settings library input).isSome := by
  rw [loopRunning]
  split
  · rfl
  · rcases Option.isSome_iff_exists.mp (runMotion_isSome offset wheel roots directed) with
      ⟨motion, moves⟩
    rw [moves, Option.bind_some]
    split
    · rcases (motionFrame_runMotion offset directed moves).helper with ⟨_, _, _, _, left⟩
      rw [Option.isSome_map, endSegment]
      split
      next more =>
        have index : motion.thread.helper.pathIndex + 1 < 5 := by
          rw [left] at more ⊢
          exact Nat.lt_of_lt_of_le more inside
        rw [Option.isSome_map, Vector.getElem?_eq_getElem index]
        rfl
      next => rfl
    · rfl

/-- The end of a segment leaves the segments of the target or none. -/
theorem subpath_endSegment {turn : Turn} (through : thread.endSegment input = some turn) :
    turn.thread.helper.subpath = thread.helper.subpath ∨ turn.thread.helper.subpath = {} := by
  rw [endSegment] at through
  split at through
  · rcases Option.map_eq_some_iff.mp through with ⟨entry, -, rfl⟩
    exact .inl rfl
  · cases through
    exact .inr rfl

theorem size_loopRunning {turn : Turn} (offset : 0 ≤ settings.delayDistanceOffset)
    (directed : thread.Directed settings library direction)
    (through : thread.loopRunning settings library input = some turn)
    (inside : thread.helper.subpath.size ≤ 5) : turn.thread.helper.subpath.size ≤ 5 := by
  rw [loopRunning] at through
  split at through
  · cases through
    exact inside
  · rcases Option.bind_eq_some_iff.mp through with ⟨motion, moves, ends⟩
    rcases (motionFrame_runMotion offset directed moves).helper with ⟨_, _, _, _, left⟩
    have still : motion.thread.helper.subpath.size ≤ 5 := by
      rw [left]
      exact inside
    split at ends
    · rcases Option.map_eq_some_iff.mp ends with ⟨last, reached, rfl⟩
      rcases subpath_endSegment reached with same | empty
      · exact same ▸ still
      · rw [empty]
        decide
    · cases ends
      exact still

theorem size_setBarrierStatus {status : Int} (inside : thread.helper.subpath.size ≤ 5) :
    (thread.setBarrierStatus status).helper.subpath.size ≤ 5 := by
  rw [setBarrierStatus]
  split <;> exact inside

theorem size_setTarget {call : SetTargetCall} {helper : ForkliftHelper}
    {result : ForkliftHelper × Int}
    (adjusts : call.target.mode = carryGoods → call.adjusted.size ≤ 5)
    (set : helper.setTarget call = some result) : result.1.subpath.size ≤ 5 := by
  rw [ForkliftHelper.setTarget] at set
  split at set
  · rcases Option.map_eq_some_iff.mp set with ⟨parts, returns, outcome⟩
    rcases helper.split_spec call with ⟨found, same, cases⟩
    rw [returns, Option.some.injEq] at same
    subst same
    have fits : parts.subpath.size ≤ 5 := by
      rcases cases with ⟨-, empty⟩ | ⟨-, subs, holds, -⟩
      · rw [empty]
        decide
      · rw [holds.size]
        exact holds.le
    split at outcome
    · cases outcome
      exact fits
    · cases outcome
      exact fits
  · split at set
    next carries =>
      cases set
      exact adjusts carries
    next =>
      cases set
      exact Nat.zero_le 5

theorem setTarget_isSome (call : SetTargetCall) (helper : ForkliftHelper) :
    (helper.setTarget call).isSome := by
  rw [ForkliftHelper.setTarget]
  split
  · rcases helper.split_spec call with ⟨parts, returns, -⟩
    rw [returns]
    rfl
  · split <;> rfl

end MotionThread

/-! ## Runs -/

/-- Every run comes to its end: no turn leaves the array of the segments, divides by zero or
multiplies zero by infinity. -/
theorem motion_never_stuck (settings : MotionSettings) (library : MathLibrary)
    (standardRadius : Int) (offset : 0 ≤ settings.delayDistanceOffset)
    (wheel : 0 < settings.wheelBase) (roots : library.RootsAbove) (labels : List MotionLabel)
    (valid : ∀ label ∈ labels, label.Positive ∧ label.Inside) :
    ∃ final, run (threadStep settings library) labels (.initial standardRadius) = some final := by
  have returns (thread : MotionThread) (label : MotionLabel)
      (holds : (∃ direction, thread.Directed settings library direction) ∧
        thread.helper.subpath.size ≤ 5) (valid : label.Positive ∧ label.Inside) :
      ∃ next, threadStep settings library label thread = some next ∧
        (∃ direction, next.Directed settings library direction) ∧
          next.helper.subpath.size ≤ 5 := by
    rcases holds with ⟨⟨direction, directed⟩, inside⟩
    have turns : ∃ turn, motionTurn settings library thread label = some turn ∧
        turn.thread.helper.subpath.size ≤ 5 := by
      cases label with
      | loopRunning input =>
          rcases Option.isSome_iff_exists.mp (MotionThread.loopRunning_isSome offset wheel roots
            directed inside) with ⟨turn, through⟩
          exact ⟨turn, through, MotionThread.size_loopRunning offset directed through inside⟩
      | setTarget call =>
          rcases Option.isSome_iff_exists.mp
            (MotionThread.setTarget_isSome call thread.helper) with ⟨result, set⟩
          have through : motionTurn settings library thread (.setTarget call) = some
              { thread := { thread with helper := result.1 }
                events := if result.2 < 0 then [.evPathMagError result.2] else [] } := by
            rw [motionTurn, set, Option.map_some]
          exact ⟨_, through, MotionThread.size_setTarget valid.2 set⟩
      | clearTarget => exact ⟨_, rfl, inside⟩
      | setBarrierStatus status => exact ⟨_, rfl, MotionThread.size_setBarrierStatus inside⟩
      | setRunning run => exact ⟨_, rfl, inside⟩
    rcases turns with ⟨turn, through, still⟩
    refine ⟨turn.thread, ?_, ⟨_, (directed_motionTurn offset valid.1 directed through).1⟩, still⟩
    rw [threadStep, through, Option.map_some]
  rcases exists_run_of_invariant returns valid
    ⟨⟨none, directed_initial settings library standardRadius⟩, Nat.zero_le 5⟩ with
    ⟨final, reached, -⟩
  exact ⟨final, reached⟩

/-- The whole part of the root. -/
def wholeRoot (square : ℚ) : ℚ := Nat.sqrt ⌊square⌋₊

theorem wholeRoot_above (number : ℕ) (square : ℚ) (within : (number : ℚ) * number ≤ square) :
    number ≤ wholeRoot square := by
  rw [wholeRoot, Nat.cast_le]
  apply Nat.le_sqrt.mpr
  apply Nat.le_floor
  exact_mod_cast within

/-- A car that starts along an arc to the right and follows it. -/
theorem motion_never_stuck_arc :
    let settings : MotionSettings :=
      { carID := 1002, delayDistanceOffset := 20, delayArcDistanceOffset := 20,
        wheelBase := 1875, delayAngleOffset := 2 }
    let library : MathLibrary := ⟨fun _ => 0, fun _ => 0, fun _ _ => -5313 / 100, wholeRoot⟩
    let labels : List MotionLabel := [
      .setTarget
        { target := { station := 7, mode := forwardToArcMode, speed := 500 }
          current := ⟨-2000, -1000, 0⟩
          geometry := { xPos := -2000, yPos := -1000 } },
      .loopRunning { pose := ⟨-2000, -1000, 0⟩, relative := ⟨-2000, -1000, 53⟩, speed := 0 },
      .loopRunning
        { pose := ⟨-1500, -500, 0⟩, relative := ⟨-1500, -500, 3687 / 100⟩, speed := 150 }]
    ∃ final, run (threadStep settings library) labels (.initial 1000) = some final := by
  intro settings library labels
  have valid : ∀ label ∈ labels, label.Positive ∧ label.Inside := by
    simp only [labels, List.forall_mem_cons, List.not_mem_nil, false_imp_iff, implies_true,
      MotionLabel.Positive, MotionLabel.Inside, SetTargetCall.Positive, and_true]
    exact ⟨⟨by decide, fun carries => absurd carries (by decide)⟩,
      fun carries => absurd carries (by decide)⟩
  exact motion_never_stuck settings library 1000 (by decide) (by decide)
    wholeRoot_above labels valid

/-- What a label does to the thread, it does to the move helper. -/
def Refines (thread : MotionThread) : MotionLabel → Turn → Prop
  | .loopRunning _, turn =>
      ∃ ret, thread.toMoveHelper.wholeTurn ret = (turn.thread.toMoveHelper, turn.events)
  | .setTarget call, turn =>
      (call.target.mode = carryGoods → call.IsAdjusted) →
        let set := thread.toMoveHelper.setTarget (fun _ => thread.helper.splitModes call)
          call.target.toPathMag
        (set.1, set.2.toList.map .evPathMagError) = (turn.thread.toMoveHelper, turn.events)
  | .clearTarget, turn => turn.thread.toMoveHelper = thread.toMoveHelper.clearTarget
  | .setBarrierStatus _, turn => turn.thread.toMoveHelper = thread.toMoveHelper
  | .setRunning run, turn =>
      turn.thread.toMoveHelper = { thread.toMoveHelper with isRunning := run }

theorem setTarget_ret {call : SetTargetCall} {helper : ForkliftHelper}
    {result : ForkliftHelper × Int} (set : helper.setTarget call = some result) :
    result.2 = 0 ∨ result.2 = -1 := by
  rw [ForkliftHelper.setTarget] at set
  split at set
  · rcases Option.map_eq_some_iff.mp set with ⟨parts, -, outcome⟩
    split at outcome
    · cases outcome
      exact .inr rfl
    · cases outcome
      exact .inl rfl
  · split at set
    · cases set
      exact .inl rfl
    · cases set
      exact .inl rfl

theorem refines_motionTurn {settings : MotionSettings} {library : MathLibrary}
    {thread : MotionThread} {direction : Option Int} {label : MotionLabel} {turn : Turn}
    (offset : 0 ≤ settings.delayDistanceOffset)
    (directed : thread.Directed settings library direction)
    (turns : motionTurn settings library thread label = some turn) :
    Refines thread label turn := by
  cases label with
  | loopRunning input => exact MotionThread.toMoveHelper_loopRunning offset directed turns
  | setTarget call =>
      intro adjusts
      rcases Option.map_eq_some_iff.mp turns with ⟨result, set, rfl⟩
      have refined := ForkliftHelper.toMoveHelper_setTarget false thread.helper adjusts
      rw [set, Option.map_some, Option.some.injEq] at refined
      dsimp only
      rw [MotionThread.toMoveHelper, ← refined]
      rcases setTarget_ret set with zero | failed
      · rw [zero]
        rfl
      · rw [failed]
        rfl
  | clearTarget =>
      cases turns
      rfl
  | setBarrierStatus status =>
      cases turns
      show (thread.setBarrierStatus status).toMoveHelper = thread.toMoveHelper
      rw [MotionThread.setBarrierStatus]
      split <;> rfl
  | setRunning run =>
      cases turns
      rfl

/-- Every run of the motion thread is one of the move helper, with the same events. -/
theorem motion_refines_move_helper (settings : MotionSettings) (library : MathLibrary)
    (standardRadius : Int) (offset : 0 ≤ settings.delayDistanceOffset)
    (labels : List MotionLabel) (positive : ∀ label ∈ labels, label.Positive) :
    Before (threadStep settings library)
      (fun thread label => ∀ turn ∈ motionTurn settings library thread label,
        Refines thread label turn)
      labels (.initial standardRadius) := by
  have kept (thread : MotionThread) (label : MotionLabel) (next : MotionThread)
      (holds : ∃ direction, thread.Directed settings library direction) (valid : label.Positive)
      (stepped : threadStep settings library label thread = some next) :
      ∃ direction, next.Directed settings library direction := by
    rcases holds with ⟨direction, directed⟩
    rcases Option.map_eq_some_iff.mp stepped with ⟨turn, turns, left⟩
    exact ⟨_, left ▸ (directed_motionTurn offset valid directed turns).1⟩
  apply before_of_invariant kept _ positive
  · exact ⟨none, directed_initial settings library standardRadius⟩
  · intro thread label holds valid turn turns
    rcases holds with ⟨direction, directed⟩
    exact refines_motionTurn offset directed turns

/-- A load and a target that are refused, and a target that is driven to along an arc. -/
theorem motion_refines_move_helper_arc :
    let settings : MotionSettings :=
      { carID := 1002, delayDistanceOffset := 20, delayArcDistanceOffset := 20,
        wheelBase := 1875, delayAngleOffset := 2 }
    let library : MathLibrary := ⟨fun _ => 0, fun _ => 0, fun _ _ => -5313 / 100, wholeRoot⟩
    let labels : List MotionLabel := [
      .setTarget
        { target := { station := 5, mode := carryGoods, yPos := 3000, angle := 90, speed := 100 }
          current := ⟨0, 0, 0⟩
          geometry := { xPos := 0, yPos := 0 } },
      .setTarget
        { target := { station := 6, mode := goForwardMode, angle := 400, speed := 500 }
          current := ⟨-2000, -1000, 0⟩
          geometry := { xPos := -2000, yPos := -1000 } },
      .setTarget
        { target := { station := 7, mode := forwardToArcMode, speed := 500 }
          current := ⟨-2000, -1000, 0⟩
          geometry := { xPos := -2000, yPos := -1000 } },
      .loopRunning { pose := ⟨-2000, -1000, 0⟩, relative := ⟨-2000, -1000, 53⟩, speed := 0 },
      .loopRunning { pose := ⟨0, 0, 0⟩, relative := ⟨0, 0, 0⟩, speed := 150 }]
    Before (threadStep settings library)
      (fun thread label => ∀ turn ∈ motionTurn settings library thread label,
        Refines thread label turn)
      labels (.initial 1000) := by
  intro settings library labels
  have positive : ∀ label ∈ labels, label.Positive := by
    simp only [labels, List.forall_mem_cons, List.not_mem_nil, false_imp_iff, implies_true,
      MotionLabel.Positive, SetTargetCall.Positive, and_true]
    exact ⟨⟨by decide, fun _ _ _ read => absurd read (by simp [Vector.getElem?_replicate])⟩,
      ⟨by decide, fun carries => absurd carries (by decide)⟩,
      by decide, fun carries => absurd carries (by decide)⟩
  exact motion_refines_move_helper settings library 1000 (by decide) labels positive

end DrivingControl.Controler

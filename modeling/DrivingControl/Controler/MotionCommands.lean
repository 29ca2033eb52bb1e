import DrivingControl.Controler.MotionThread

/-!
# The direction and the speed of the motion

`SetDirection` says which way the wheels turn, and the wheels are sent the magnitude of a speed
only: the sign of the speed that the motion computes has to agree with the direction it has set.
It does in every run, across segments, targets and obstacles, as long as no segment forward
along a line has a speed of zero or less.
-/

namespace DrivingControl.Controler

open DrivingControl.Library

/-! ## Lists of commands -/

/-- The direction that the motion set last.  A rotation sets one of its own. -/
def directionAfter (direction : Option Int) : MotionCommand → Option Int
  | .setDirection direction => some direction
  | .rotate _ => none
  | _ => direction

/-- The speed of a command has the sign of the direction. -/
def Agrees (direction : Option Int) : MotionCommand → Prop
  | .setCarSpeed linearSpeed _ =>
      direction = some 0 ∧ 0 < linearSpeed ∨ direction = some 1 ∧ linearSpeed < 0
  | _ => True

/-- Every command of a list agrees with the direction that is set at that point. -/
def AllAgree : Option Int → List MotionCommand → Prop
  | _, [] => True
  | direction, command :: commands =>
      Agrees direction command ∧ AllAgree (directionAfter direction command) commands

variable {direction : Option Int} {commands : List MotionCommand}

theorem allAgree_append (commands others : List MotionCommand) (direction : Option Int) :
    AllAgree direction (commands ++ others) ↔
      AllAgree direction commands ∧ AllAgree (commands.foldl directionAfter direction) others := by
  induction commands generalizing direction with
  | nil => exact (and_iff_right trivial).symm
  | cons command commands ih =>
      simp only [List.cons_append, AllAgree, List.foldl_cons, ih, and_assoc]

/-- Commands that leave the direction alone. -/
theorem allAgree_of_keeps
    (keeps : ∀ command ∈ commands,
      Agrees direction command ∧ directionAfter direction command = direction) :
    AllAgree direction commands ∧ commands.foldl directionAfter direction = direction := by
  induction commands with
  | nil => exact ⟨trivial, rfl⟩
  | cons command commands ih =>
      rcases keeps command List.mem_cons_self with ⟨agrees, same⟩
      have rest := ih fun later mem => keeps later (List.mem_cons_of_mem command mem)
      rw [AllAgree, List.foldl_cons, same]
      exact ⟨⟨agrees, rest.1⟩, rest.2⟩

/-- The commands of a rotation agree with every direction. -/
theorem allAgree_rotate (rotates : List RotateCommand) (direction : Option Int) :
    AllAgree direction (rotates.map .rotate) := by
  induction rotates generalizing direction with
  | nil => trivial
  | cons command rotates ih => exact ⟨trivial, ih none⟩

/-! ## The four functions -/

namespace DriveFunction

/-- The argument of `SetDirection`. -/
def code : DriveFunction → Int
  | forwardToLine => 0
  | backwardToLine => 1
  | forwardToArc => 0
  | backwardToArc => 1

/-- The speeds that it sends. -/
def speeds : DriveFunction → Set ℤ
  | forwardToLine => Set.Ioi 0
  | backwardToLine => Drive.backwardSpeeds
  | forwardToArc => Direction.forward.arcSpeeds
  | backwardToArc => Direction.backward.arcSpeeds

/-- The curvature of its segment. -/
def curvature (settings : DriveSettings) (library : MathLibrary) : DriveFunction → Drive → ℚ
  | forwardToLine => fun _ => 0
  | backwardToLine => fun _ => 0
  | forwardToArc => Drive.arcCurvature settings library
  | backwardToArc => Drive.arcCurvature settings library

def Invariant (settings : DriveSettings) (library : MathLibrary) :
    DriveFunction → Drive → Prop
  | forwardToLine => Drive.LineInvariant
  | backwardToLine => Drive.MovesInvariant Drive.backwardSpeeds fun _ => 0
  | forwardToArc => Drive.ArcInvariant settings library forwardArc
  | backwardToArc => Drive.ArcInvariant settings library backwardArc

variable {settings : DriveSettings} {library : MathLibrary} {input : DriveInput} {drive : Drive}
  {function : DriveFunction} {iteration : DriveIteration}

theorem ofMode_eq_some {runningMode : Int} (is : ofMode runningMode = some function) :
    (runningMode = goForwardMode ∧ function = forwardToLine) ∨
      (runningMode = goBackwardMode ∧ function = backwardToLine) ∨
      (runningMode = forwardToArcMode ∧ function = forwardToArc) ∨
      (runningMode = backwardToArcMode ∧ function = backwardToArc) := by
  rw [ofMode] at is
  split at is
  · exact .inl ⟨‹_›, (Option.some.inj is).symm⟩
  · split at is
    · exact .inr (.inl ⟨‹_›, (Option.some.inj is).symm⟩)
    · split at is
      · exact .inr (.inr (.inl ⟨‹_›, (Option.some.inj is).symm⟩))
      · rw [Option.ite_none_right_eq_some] at is
        exact .inr (.inr (.inr ⟨is.1, (Option.some.inj is.2).symm⟩))

theorem iterate_outcome (offset : 0 ≤ settings.delayDistanceOffset)
    (holds : function.Invariant settings library drive)
    (through : function.iterate settings library input drive = some iteration) :
    Drive.Outcome function.code function.speeds (function.curvature settings library)
      (function.Invariant settings library) drive iteration := by
  cases function with
  | forwardToLine => exact Drive.forwardToLine_outcome holds through
  | backwardToLine => exact Drive.backwardToLine_outcome offset holds through
  | forwardToArc => exact Drive.runArc_outcome sound_forwardArc holds through
  | backwardToArc => exact Drive.runArc_outcome sound_backwardArc holds through

/-- The speeds have the sign of the direction. -/
theorem agrees_of_mem {linearSpeed : ℤ} (mem : linearSpeed ∈ function.speeds)
    (angularSpeed : ℚ) : Agrees (some function.code) (.setCarSpeed linearSpeed angularSpeed) := by
  cases function with
  | forwardToLine => exact .inl ⟨rfl, mem⟩
  | backwardToLine => exact .inr ⟨rfl, mem.2.trans_lt (by decide)⟩
  | forwardToArc => exact .inl ⟨rfl, lt_of_lt_of_le (by decide) mem.1⟩
  | backwardToArc => exact .inr ⟨rfl, mem.2.trans_lt (by decide)⟩

/-- The action of the target and the barriers are no part of what holds under way. -/
theorem moves_with {drive : Drive} {speeds : Set ℤ} {curvature : ℚ}
    (moves : drive.Moves speeds curvature) (action barrierStatus lastStatus : Int) :
    Drive.Moves speeds curvature { drive with action, barrierStatus, lastStatus } :=
  ⟨moves.current, moves.target, moves.aspeed, moves.dspeed, moves.curve⟩

theorem Invariant.withOutside (holds : function.Invariant settings library drive)
    (action barrierStatus lastStatus : Int) :
    function.Invariant settings library { drive with action, barrierStatus, lastStatus } := by
  cases function with
  | forwardToLine =>
      refine ⟨fun going => ?_, holds.target⟩
      have ahead := holds.ahead going
      exact ⟨moves_with ahead.moves _ _ _, ahead.saved⟩
  | backwardToLine => exact fun going => moves_with (holds going) _ _ _
  | forwardToArc => exact fun going => moves_with (holds going) _ _ _
  | backwardToArc => exact fun going => moves_with (holds going) _ _ _

/-- Nor is the radius that a target leaves for the next ones. -/
theorem Invariant.withRadius (holds : function.Invariant settings library drive)
    (standardRadius : Int) :
    function.Invariant { settings with standardRadius } library drive := by
  cases function <;> exact holds

/-- A segment that has not started needs a speed only forward along a line. -/
theorem invariant_of_first (first : drive.initParaFlag = false)
    (target : function = forwardToLine → 0 < drive.targetSpeed) :
    function.Invariant settings library drive := by
  have ended (going : drive.initParaFlag = true) : False := by
    rw [first] at going
    cases going
  cases function with
  | forwardToLine => exact ⟨fun going => (ended going).elim, fun _ => target rfl⟩
  | backwardToLine => exact fun going => (ended going).elim
  | forwardToArc => exact fun going => (ended going).elim
  | backwardToArc => exact fun going => (ended going).elim

end DriveFunction

/-! ## The rotations -/

namespace Rotation

variable {rotation : Rotation} (direction : RotateDirection)

theorem runningMode_setIntegration (statics : Integration) :
    (rotation.setIntegration direction statics).runningMode = rotation.runningMode := by
  cases direction <;> rfl

theorem runningMode_advance (angle : ℚ) (input : RotateInput) (rotation : Rotation) :
    (rotation.advance direction angle input).1.runningMode = rotation.runningMode := by
  rw [advance]
  split
  · exact runningMode_setIntegration direction _
  · exact runningMode_setIntegration direction _

theorem runningMode_changeRotateSpeedByAngle (remaining : ℚ) :
    (rotation.changeRotateSpeedByAngle remaining).1.runningMode = rotation.runningMode := by
  simp only [changeRotateSpeedByAngle]
  split
  · rfl
  · split <;> rfl

/-- A call ends the rotation, or leaves its run mode. -/
theorem rotate_cases (delayAngleOffset angle : ℚ) (input : RotateInput) (rotation : Rotation) :
    let rotated := rotation.rotate direction delayAngleOffset angle input
    rotated.ret = 1 ∧ rotated.rotation.initParaFlag = false ∨
      rotated.ret ≠ 1 ∧ rotated.rotation.runningMode = rotation.runningMode := by
  have advanced := runningMode_advance direction angle input rotation
  have goes : (0 : Int) ≠ 1 := by decide
  have refused : (-1 : Int) ≠ 1 := by decide
  dsimp only
  rw [rotate]
  split
  · exact .inr ⟨refused, rfl⟩
  · dsimp only
    split
    · exact .inl ⟨rfl, rfl⟩
    · split
      · exact .inr ⟨goes, (runningMode_changeRotateSpeedByAngle _).trans advanced⟩
      · exact .inr ⟨goes, advanced⟩

end Rotation

/-! ## The thread -/

namespace MotionThread

variable {settings : MotionSettings} {library : MathLibrary} {input : TurnInput}
  {thread : MotionThread} {function : DriveFunction}

/-- The segments forward along a line have a speed above zero. -/
def PositiveSegments (paths : SubPaths) : Prop :=
  ∀ index sub, index < paths.size → paths.entries[index]? = some (some sub) →
    sub.runmode = goForwardMode → 0 < sub.speed

theorem positiveSegments_empty : PositiveSegments {} :=
  fun index _ inside => absurd inside (Nat.not_lt_zero index)

/-- What a run keeps, with the direction that was set last. -/
structure Directed (settings : MotionSettings) (library : MathLibrary) (thread : MotionThread)
    (direction : Option Int) : Prop where
  drive : ∀ function, DriveFunction.ofMode thread.helper.runningMode = some function →
    function.Invariant (thread.driveSettings settings) library (thread.toDrive function)
  direction : ∀ function, DriveFunction.ofMode thread.helper.runningMode = some function →
    thread.helper.initParaFlag = true → direction = some function.code
  segments : PositiveSegments thread.helper.subpath
  /-- A rotation by zero degrees ends before it has started. -/
  idle : DriveFunction.ofMode thread.helper.runningMode = none →
    thread.helper.targetPose.angle = 0 → thread.helper.initParaFlag = false

/-- What a turn sends agrees with the directions that are set, and keeps to the speeds of its
segment. -/
structure Keeps (direction : Option Int) (thread : MotionThread) (turn : Turn) : Prop where
  agree : AllAgree direction turn.sent
  speeds : ∀ function, DriveFunction.ofMode thread.helper.runningMode = some function →
    ∀ linearSpeed angularSpeed, .setCarSpeed linearSpeed angularSpeed ∈ turn.sent →
      linearSpeed ∈ function.speeds
  lines : (thread.helper.runningMode = goForwardMode ∨
      thread.helper.runningMode = goBackwardMode) →
    ∀ linearSpeed angularSpeed, .setCarSpeed linearSpeed angularSpeed ∈ turn.sent →
      |angularSpeed| ≤ 87 / 1000

/-! ### The functions on the members -/

theorem toDrive_ofDrive (thread : MotionThread) (function : DriveFunction) (drive : Drive) :
    (thread.ofDrive function drive).toDrive function =
      { drive with action := thread.helper.targetPoint.action } := by
  simp only [toDrive, ofDrive, Function.update_self]

theorem ofDrive_toDrive (thread : MotionThread) (function : DriveFunction) :
    thread.ofDrive function (thread.toDrive function) = thread := by
  simp only [ofDrive, toDrive, Function.update_eq_self]

/-- Between two segments the speed of the next one is all that counts. -/
theorem directed_of_first (direction : Option Int) (first : thread.helper.initParaFlag = false)
    (segments : PositiveSegments thread.helper.subpath)
    (target : thread.helper.runningMode = goForwardMode → 0 < thread.helper.targetSpeed) :
    Directed settings library thread direction where
  drive function is := by
    apply DriveFunction.invariant_of_first first
    rintro rfl
    rcases DriveFunction.ofMode_eq_some is with ⟨forward, -⟩ | ⟨-, other⟩ | ⟨-, other⟩ | ⟨-, other⟩
    · exact target forward
    · cases other
    · cases other
    · cases other
  direction function is going := by
    rw [first] at going
    cases going
  segments := segments
  idle _ _ := first

/-! ### The end of a segment -/

/-- A command that stops the car. -/
def Stops : MotionCommand → Prop
  | .stopCar _ => True
  | .setBreak _ => True
  | _ => False

theorem allAgree_of_stops {commands : List MotionCommand}
    (stops : ∀ command ∈ commands, Stops command) (direction : Option Int) :
    AllAgree direction commands ∧ commands.foldl directionAfter direction = direction := by
  apply allAgree_of_keeps
  intro command mem
  have stop := stops command mem
  cases command with
  | stopCar => exact ⟨trivial, rfl⟩
  | setBreak => exact ⟨trivial, rfl⟩
  | setDirection => cases stop
  | setCarSpeed => cases stop
  | rotate => cases stop

theorem stops_stopCommands (thread : MotionThread) :
    ∀ command ∈ thread.stopCommands, Stops command := by
  intro command mem
  rw [stopCommands] at mem
  split at mem
  · rw [List.mem_singleton.mp mem]
    trivial
  · split at mem
    · rcases List.mem_cons.mp mem with rfl | last
      · trivial
      · rw [List.mem_singleton.mp last]
        trivial
    · cases mem

theorem directed_endSegment {turn : Turn} (direction : Option Int)
    (first : thread.helper.initParaFlag = false)
    (segments : PositiveSegments thread.helper.subpath)
    (through : thread.endSegment input = some turn) :
    Directed settings library turn.thread direction ∧
      ∀ command ∈ turn.sent, Stops command := by
  rw [endSegment] at through
  split at through
  next inside =>
    rcases Option.map_eq_some_iff.mp through with ⟨entry, read, rfl⟩
    refine ⟨directed_of_first direction first segments ?_, nofun⟩
    intro forward
    cases entry with
    | none => cases forward
    | some sub => exact segments _ sub inside read forward
  next =>
    cases through
    refine ⟨directed_of_first direction first positiveSegments_empty ?_,
      stops_stopCommands thread⟩
    intro forward
    cases forward

/-! ### A turn -/

/-- The motion of a turn: what holds behind it, also when it ends a segment, and what it
sends. -/
structure Drives (settings : MotionSettings) (library : MathLibrary) (direction : Option Int)
    (thread : MotionThread) (motion : MotionResult) : Prop where
  directed : motion.ret ≠ 1 →
    Directed settings library motion.thread (motion.sent.foldl directionAfter direction)
  ended : motion.ret = 1 → motion.thread.helper.initParaFlag = false
  subpath : motion.thread.helper.subpath = thread.helper.subpath
  keeps : Keeps direction thread ⟨motion.thread, motion.sent, []⟩

/-- Commands of a drive that is under way, or of its end. -/
theorem allAgree_of_follows {commands : List MotionCommand} {curvature : ℚ}
    (follows : ∀ command ∈ commands,
      Drive.Follows function.speeds curvature command ∨ command = .stopCar true) :
    AllAgree (some function.code) commands ∧
      commands.foldl directionAfter (some function.code) = some function.code := by
  apply allAgree_of_keeps
  intro command mem
  rcases follows command mem with follow | rfl
  · cases command with
    | setCarSpeed linearSpeed angularSpeed =>
        exact ⟨DriveFunction.agrees_of_mem follow.1 angularSpeed, rfl⟩
    | setDirection => cases follow
    | setBreak => cases follow
    | stopCar => cases follow
    | rotate => cases follow
  · exact ⟨trivial, rfl⟩

/-- What follows a curve at the speeds of the function of the run mode. -/
theorem keeps_of_follows {direction : Option Int} {turn : Turn} {curvature : ℚ}
    (is : DriveFunction.ofMode thread.helper.runningMode = some function)
    (straight : thread.helper.runningMode = goForwardMode ∨
      thread.helper.runningMode = goBackwardMode → curvature = 0)
    (agree : AllAgree direction turn.sent)
    (follows : ∀ linearSpeed angularSpeed, .setCarSpeed linearSpeed angularSpeed ∈ turn.sent →
      Drive.Follows function.speeds curvature (.setCarSpeed linearSpeed angularSpeed)) :
    Keeps direction thread turn where
  agree := agree
  speeds other same linearSpeed angularSpeed mem := by
    cases is.symm.trans same
    exact (follows linearSpeed angularSpeed mem).1
  lines line linearSpeed angularSpeed mem := by
    have near := (follows linearSpeed angularSpeed mem).2
    rwa [straight line, zero_mul, sub_zero] at near

/-- On a line there is no curvature. -/
theorem curvature_line (driveSettings : DriveSettings) (library : MathLibrary) (drive : Drive)
    (is : DriveFunction.ofMode thread.helper.runningMode = some function)
    (line : thread.helper.runningMode = goForwardMode ∨
      thread.helper.runningMode = goBackwardMode) :
    function.curvature driveSettings library drive = 0 := by
  rcases DriveFunction.ofMode_eq_some is with ⟨-, rfl⟩ | ⟨-, rfl⟩ | ⟨arc, -⟩ | ⟨arc, -⟩
  · rfl
  · rfl
  · rw [arc] at line
    exact absurd line (by decide)
  · rw [arc] at line
    exact absurd line (by decide)

theorem drives_drive {direction : Option Int} {motion : MotionResult}
    (offset : 0 ≤ settings.delayDistanceOffset)
    (directed : Directed settings library thread direction)
    (is : DriveFunction.ofMode thread.helper.runningMode = some function)
    (through : thread.drive settings library input function = some motion) :
    Drives settings library direction thread motion := by
  rcases Option.map_eq_some_iff.mp through with ⟨iteration, iterated, rfl⟩
  have straight (drive : Drive) :=
    curvature_line (thread.driveSettings settings) library drive is
  have onward {next : Drive}
      (holds : function.Invariant (thread.driveSettings settings) library next)
      (same : next.runningMode = thread.helper.runningMode) :
      Directed settings library (thread.ofDrive function next) (some function.code) := by
    have mode {other : DriveFunction} (found : DriveFunction.ofMode next.runningMode = some other) :
        other = function := by
      rw [same, is] at found
      exact (Option.some.inj found).symm
    constructor
    · intro other found
      rw [mode found, toDrive_ofDrive]
      exact holds.withOutside _ next.barrierStatus next.lastStatus
    · intro other found _
      rw [mode found]
    · exact directed.segments
    · intro none
      have found : DriveFunction.ofMode next.runningMode = some function := same ▸ is
      exact absurd (found.symm.trans none) (by simp)
  cases DriveFunction.iterate_outcome offset (directed.drive function is) iterated with
  | refuses first =>
      constructor
      · intro _
        rw [ofDrive_toDrive]
        exact directed
      · nofun
      · rfl
      · exact keeps_of_follows is (fun _ => rfl) trivial nofun
  | starts first next speed angular follows still runningMode =>
      constructor
      · intro _
        exact onward still runningMode
      · nofun
      · rfl
      · refine keeps_of_follows is (straight next) ?_ fun linearSpeed angularSpeed mem => ?_
        · exact ⟨trivial, trivial, DriveFunction.agrees_of_mem follows.1 angular, trivial⟩
        · cases Drive.eq_of_mem_startCommands mem
          exact follows
  | moves going next sent follows still init runningMode =>
      have agree := allAgree_of_follows fun command mem => .inl (follows command mem)
      have set := directed.direction function is going
      constructor
      · intro _
        rw [set, agree.2]
        exact onward still runningMode
      · nofun
      · rfl
      · rw [set]
        exact keeps_of_follows is (straight _) agree.1 fun linearSpeed angularSpeed mem =>
          follows _ mem
  | arrives going next sent follows ended stops =>
      have agree := allAgree_of_follows follows
      have set := directed.direction function is going
      constructor
      · exact fun still => absurd rfl still
      · exact fun _ => ended
      · rfl
      · rw [set]
        refine keeps_of_follows is (straight (thread.toDrive function)) agree.1
          fun linearSpeed angularSpeed mem => ?_
        rcases follows _ mem with follow | stop
        · exact follow
        · cases stop

/-- The commands of a rotation set no speed of the wheels. -/
theorem keeps_of_rotates {direction : Option Int} {turn : Turn} (rotates : List RotateCommand)
    (sent : turn.sent = rotates.map .rotate) : Keeps direction thread turn := by
  have absent (linearSpeed : Int) (angularSpeed : ℚ) :
      .setCarSpeed linearSpeed angularSpeed ∉ turn.sent := by
    rw [sent]
    simp
  constructor
  · rw [sent]
    exact allAgree_rotate rotates direction
  · intro function is linearSpeed angularSpeed mem
    exact absurd mem (absent linearSpeed angularSpeed)
  · intro line linearSpeed angularSpeed mem
    exact absurd mem (absent linearSpeed angularSpeed)

theorem drives_rotate (direction : Option Int)
    (directed : Directed settings library thread direction)
    (none : DriveFunction.ofMode thread.helper.runningMode = none) :
    Drives settings library direction thread
      (thread.rotate settings input thread.helper.targetPose.angle) := by
  rw [rotate]
  split
  next zero =>
    constructor
    · exact fun still => absurd rfl still
    · exact fun _ => directed.idle none zero
    · rfl
    · exact keeps_of_rotates [] rfl
  next turns =>
    have rotated (side : RotateDirection) (angle : ℚ) :
        Drives settings library direction thread
          (let rotated := thread.toRotation.rotate side settings.delayAngleOffset angle
            input.toRotateInput
          { thread := thread.ofRotation rotated.rotation
            ret := rotated.ret
            sent := rotated.sent.map .rotate }) := by
      rcases thread.toRotation.rotate_cases side settings.delayAngleOffset angle
        input.toRotateInput with ⟨ends, ended⟩ | ⟨goes, mode⟩
      · exact ⟨fun still => absurd ends still, fun _ => ended, rfl, keeps_of_rotates _ rfl⟩
      · have same (function : DriveFunction)
            (found : DriveFunction.ofMode (thread.ofRotation (thread.toRotation.rotate side
              settings.delayAngleOffset angle input.toRotateInput).rotation).helper.runningMode =
                some function) : False := by
          have mode : (thread.ofRotation (thread.toRotation.rotate side settings.delayAngleOffset
              angle input.toRotateInput).rotation).helper.runningMode =
                thread.helper.runningMode := mode
          rw [mode, none] at found
          cases found
        refine ⟨fun _ => ⟨fun function found => (same function found).elim,
          fun function found => (same function found).elim, directed.segments,
          fun _ zero => absurd zero turns⟩, fun ends => absurd ends goes, rfl,
          keeps_of_rotates _ rfl⟩
    dsimp only
    split
    · exact rotated .left _
    · exact rotated .right _

theorem drives_runMotion {direction : Option Int} {motion : MotionResult}
    (offset : 0 ≤ settings.delayDistanceOffset)
    (directed : Directed settings library thread direction)
    (through : thread.runMotion settings library input = some motion) :
    Drives settings library direction thread motion := by
  rw [runMotion] at through
  split at through
  next function is => exact drives_drive offset directed is through
  next none =>
    split at through
    · cases through
      exact drives_rotate direction directed none
    · cases through
      exact ⟨fun _ => directed, nofun, rfl, keeps_of_rotates [] rfl⟩

theorem Keeps.append {direction : Option Int} {motion turn : Turn}
    (keeps : Keeps direction thread motion) (stops : ∀ command ∈ turn.sent, Stops command) :
    Keeps direction thread { turn with sent := motion.sent ++ turn.sent } := by
  have first (linearSpeed : Int) (angularSpeed : ℚ)
      (mem : .setCarSpeed linearSpeed angularSpeed ∈ motion.sent ++ turn.sent) :
      .setCarSpeed linearSpeed angularSpeed ∈ motion.sent := by
    rcases List.mem_append.mp mem with here | there
    · exact here
    · exact (stops _ there).elim
  constructor
  · exact (allAgree_append _ _ direction).mpr ⟨keeps.agree, (allAgree_of_stops stops _).1⟩
  · intro function is linearSpeed angularSpeed mem
    exact keeps.speeds function is linearSpeed angularSpeed (first _ _ mem)
  · intro line linearSpeed angularSpeed mem
    exact keeps.lines line linearSpeed angularSpeed (first _ _ mem)

theorem directed_loopRunning {direction : Option Int} {turn : Turn}
    (offset : 0 ≤ settings.delayDistanceOffset)
    (directed : Directed settings library thread direction)
    (through : thread.loopRunning settings library input = some turn) :
    Directed settings library turn.thread (turn.sent.foldl directionAfter direction) ∧
      Keeps direction thread turn := by
  rw [loopRunning] at through
  split at through
  · cases through
    exact ⟨directed, keeps_of_rotates [] rfl⟩
  · rcases Option.bind_eq_some_iff.mp through with ⟨motion, moves, ends⟩
    have drives := drives_runMotion offset directed moves
    split at ends
    next finished =>
      rcases Option.map_eq_some_iff.mp ends with ⟨last, reached, rfl⟩
      have segments : PositiveSegments motion.thread.helper.subpath := by
        rw [drives.subpath]
        exact directed.segments
      rcases directed_endSegment (motion.sent.foldl directionAfter direction)
        (drives.ended finished) segments reached with ⟨after, stops⟩
      refine ⟨?_, drives.keeps.append stops⟩
      rw [List.foldl_append, (allAgree_of_stops stops _).2]
      exact after
    next unfinished =>
      cases ends
      exact ⟨drives.directed unfinished, drives.keeps.agree, drives.keeps.speeds,
        drives.keeps.lines⟩

end MotionThread

/-! ## New targets -/

theorem calTargetSpeedByPathDistance_pos {maxSpeedAllowed : Int} (positive : 0 < maxSpeedAllowed)
    (distance : Int) : 0 < calTargetSpeedByPathDistance maxSpeedAllowed distance := by
  rw [calTargetSpeedByPathDistance]
  split_ifs <;> omega

/-- A segment forward along a line gets a speed above zero. -/
theorem speed_driven_pos (settings : SplitSettings) (geometry : Geometry) (mirrored : Bool)
    (positive : 0 < settings.maxSpeedAllowed) {sub : SubPath}
    (forward : (((sub.reflect mirrored).setSpeed settings.maxSpeedAllowed).toWorld
      geometry).runmode = goForwardMode) :
    0 < (((sub.reflect mirrored).setSpeed settings.maxSpeedAllowed).toWorld geometry).speed := by
  have same : (((sub.reflect mirrored).setSpeed settings.maxSpeedAllowed).toWorld
      geometry).speed = ((sub.reflect mirrored).setSpeed settings.maxSpeedAllowed).speed := by
    rw [SubPath.toWorld]
    split <;> rfl
  rw [runmode_toWorld, runmode_setSpeed] at forward
  rw [same, SubPath.setSpeed]
  dsimp only
  rw [if_pos (.inl forward)]
  exact calTargetSpeedByPathDistance_pos positive _

namespace MotionThread

theorem positiveSegments_of_holds {paths : SubPaths} {subs : List SubPath}
    (holds : paths.Holds subs)
    (positive : ∀ sub ∈ subs, sub.runmode = goForwardMode → 0 < sub.speed) :
    PositiveSegments paths := by
  intro index sub inside entry
  rw [holds.size] at inside
  rw [holds.filled index inside, Option.some.injEq, Option.some.injEq] at entry
  exact positive sub (entry ▸ List.getElem_mem inside)

/-- The speed of the segment that is driven first. -/
theorem first_pos {paths : SubPaths}
    (entry : ∀ sub, paths.entries[0]? = some (some sub) → sub.runmode = goForwardMode →
      0 < sub.speed) (forward : paths.first.runmode = goForwardMode) : 0 < paths.first.speed := by
  rw [SubPaths.first] at forward ⊢
  cases found : paths.entries[0] with
  | none =>
      rw [found] at forward
      cases forward
  | some sub =>
      rw [found] at forward
      have read : paths.entries[0]? = some (some sub) := by simp [found]
      exact entry sub read forward

/-- The segments that `SplitToSubTarget` leaves. -/
theorem positiveSegments_split {call : SetTargetCall} {helper : ForkliftHelper}
    {parts : Decomposition} (positive : 0 < call.target.speed)
    (returns : helper.split call = some parts) :
    parts.ret = -1 ∧ parts.subpath = {} ∨
      parts.ret = 0 ∧ PositiveSegments parts.subpath ∧ 0 < parts.subpath.size := by
  rcases splitToSubTarget_spec (helper.splitSettings call) call.geometry call.current
    call.target.pose call.target.direction helper.standardRadius with
    ⟨found, same, -, failed | ⟨passed, valid, holds⟩⟩
  · cases returns.symm.trans same
    exact .inl failed
  · cases returns.symm.trans same
    have decomposed := decomposed_chosen (helper.splitSettings call) call.geometry call.current
      call.target.pose call.target.direction helper.standardRadius valid
    have present := (decomposed.shape_simplified (helper.splitSettings call)).2
    refine .inr ⟨passed, positiveSegments_of_holds holds ?_, ?_⟩
    · intro sub mem forward
      rcases List.mem_map.mp mem with ⟨simple, -, rfl⟩
      exact speed_driven_pos _ _ _ positive forward
    · rw [holds.size]
      apply List.length_pos_iff.mpr
      simpa [drivenSubPaths] using present

end MotionThread

/-- A target with a speed above zero, whose segments, where `AttitudeAdjustToFork` makes them,
have such speeds as well. -/
def SetTargetCall.Positive (call : SetTargetCall) : Prop :=
  0 < call.target.speed ∧ (call.target.mode = carryGoods →
    ∀ (index : Nat) (sub : SubPath), call.adjusted.entries[index]? = some (some sub) →
      sub.runmode = goForwardMode → 0 < sub.speed)

namespace MotionThread

variable {settings : MotionSettings} {library : MathLibrary} {thread : MotionThread}

theorem directed_setTarget {direction : Option Int} {call : SetTargetCall}
    {result : ForkliftHelper × Int} (positive : call.Positive)
    (directed : Directed settings library thread direction)
    (set : thread.helper.setTarget call = some result) :
    Directed settings library { thread with helper := result.1 } direction := by
  by_cases isSplit : call.target.IsSplit
  · rcases thread.helper.split_spec call with ⟨parts, returns, -⟩
    rw [ForkliftHelper.setTarget_split isSplit returns, Option.some.injEq] at set
    subst set
    rcases positiveSegments_split positive.1 returns with
      ⟨failed, empty⟩ | ⟨passed, segments, present⟩
    · rw [failed, empty]
      exact ⟨fun function is => (directed.drive function is).withRadius parts.standardRadius,
        directed.direction, positiveSegments_empty, directed.idle⟩
    · rw [passed]
      exact directed_of_first direction rfl segments
        (first_pos fun sub entry => segments 0 sub present entry)
  · rw [ForkliftHelper.setTarget, if_neg isSplit] at set
    split at set
    next carries =>
      cases set
      have entries := positive.2 carries
      exact directed_of_first direction rfl (fun index sub _ => entries index sub)
        (first_pos (entries 0))
    next =>
      cases set
      apply directed_of_first direction rfl
      · intro index sub inside
        exact absurd inside (Nat.not_lt_zero index)
      · exact fun forward => absurd (.inl forward) isSplit

theorem directed_setBarrierStatus {direction : Option Int}
    (directed : Directed settings library thread direction) (status : Int) :
    Directed settings library (thread.setBarrierStatus status) direction := by
  rw [setBarrierStatus]
  split
  · exact ⟨fun function is => (directed.drive function is).withOutside _ status status,
      directed.direction, directed.segments, directed.idle⟩
  · exact directed

end MotionThread

/-! ## Runs -/

/-- The thread as its constructor leaves it, with `STANDARD_RADIUS` of the settings. -/
def MotionThread.initial (standardRadius : Int) : MotionThread where
  helper := { standardRadius, savedStandardRadius := standardRadius }

/-- A new target is positive; every other label is. -/
def MotionLabel.Positive : MotionLabel → Prop
  | .setTarget call => call.Positive
  | _ => True

/-- The direction that was set last, beside the thread. -/
def lastDirection (settings : MotionSettings) (library : MathLibrary) (thread : MotionThread)
    (label : MotionLabel) (_ : MotionThread) (direction : Option Int) : Option Int :=
  match motionTurn settings library thread label with
  | some turn => turn.sent.foldl directionAfter direction
  | none => direction

theorem directed_motionTurn {settings : MotionSettings} {library : MathLibrary}
    {thread : MotionThread} {direction : Option Int} {label : MotionLabel} {turn : Turn}
    (offset : 0 ≤ settings.delayDistanceOffset) (positive : label.Positive)
    (directed : thread.Directed settings library direction)
    (turns : motionTurn settings library thread label = some turn) :
    turn.thread.Directed settings library (turn.sent.foldl directionAfter direction) ∧
      thread.Keeps direction turn := by
  cases label with
  | loopRunning input => exact MotionThread.directed_loopRunning offset directed turns
  | setTarget call =>
      rcases Option.map_eq_some_iff.mp turns with ⟨result, set, rfl⟩
      exact ⟨MotionThread.directed_setTarget positive directed set,
        MotionThread.keeps_of_rotates [] rfl⟩
  | clearTarget =>
      cases turns
      exact ⟨MotionThread.directed_of_first direction rfl directed.segments nofun,
        MotionThread.keeps_of_rotates [] rfl⟩
  | setBarrierStatus status =>
      cases turns
      exact ⟨MotionThread.directed_setBarrierStatus directed status,
        MotionThread.keeps_of_rotates [] rfl⟩
  | setRunning run =>
      cases turns
      exact ⟨⟨directed.drive, directed.direction, directed.segments, directed.idle⟩,
        MotionThread.keeps_of_rotates [] rfl⟩

theorem directed_initial (settings : MotionSettings) (library : MathLibrary)
    (standardRadius : Int) :
    (MotionThread.initial standardRadius).Directed settings library none :=
  MotionThread.directed_of_first none rfl MotionThread.positiveSegments_empty nofun

/-- In every run the speeds agree with the directions that are set: a car that drives forward
is sent speeds above zero, one that drives backward speeds below zero, both with the speeds of
their segment, and on a line with an angular speed of 0.087 rad/s at most. -/
theorem speeds_agree_with_direction (settings : MotionSettings) (library : MathLibrary)
    (standardRadius : Int) (offset : 0 ≤ settings.delayDistanceOffset)
    (labels : List MotionLabel) (positive : ∀ label ∈ labels, label.Positive) :
    Before (monitored (threadStep settings library) (lastDirection settings library))
      (fun paired label => ∀ turn ∈ motionTurn settings library paired.1 label,
        paired.1.Keeps paired.2 turn)
      labels (MotionThread.initial standardRadius, none) := by
  have kept (paired : MotionThread × Option Int) (label : MotionLabel)
      (next : MotionThread × Option Int) (directed : paired.1.Directed settings library paired.2)
      (valid : label.Positive)
      (stepped : monitored (threadStep settings library) (lastDirection settings library) label
        paired = some next) : next.1.Directed settings library next.2 := by
    rcases monitored_eq_some stepped with ⟨moved, seen⟩
    rcases Option.map_eq_some_iff.mp moved with ⟨turn, turns, left⟩
    rw [seen, lastDirection, turns, ← left]
    exact (directed_motionTurn offset valid directed turns).1
  apply before_of_invariant kept _ positive
  · exact directed_initial settings library standardRadius
  · intro paired label directed valid turn turns
    exact (directed_motionTurn offset valid directed turns).2

/-- A car that starts 8 m before its target, passes an obstacle and starts again for a target
behind it. -/
theorem speeds_agree_with_direction_there_and_back :
    let settings : MotionSettings :=
      { carID := 1001, delayDistanceOffset := 20, delayArcDistanceOffset := 20,
        wheelBase := 1500, delayAngleOffset := 2 }
    let library : MathLibrary :=
      ⟨fun _ => 0, fun _ => 0, fun _ _ => 0, fun square => Nat.sqrt square.floor.toNat⟩
    let labels : List MotionLabel := [
      .setTarget
        { target := { station := 7, mode := goForwardMode, speed := 1000, action := actionRun }
          current := ⟨-8000, 0, 0⟩
          geometry := { xPos := -8000, yPos := 0 } },
      .loopRunning { pose := ⟨-8000, 0, 0⟩, relative := ⟨-8000, 0, 0⟩, speed := 0 },
      .setBarrierStatus 1,
      .loopRunning { pose := ⟨-7900, 0, 0⟩, relative := ⟨-7900, 0, 0⟩, speed := 300 },
      .setTarget
        { target := { station := 8, mode := goBackwardMode, speed := 1000, action := actionStop }
          current := ⟨0, 0, 0⟩
          geometry := { xPos := 8000, yPos := 0 } },
      .loopRunning { pose := ⟨0, 0, 0⟩, relative := ⟨8000, 0, 0⟩, speed := 0 }]
    Before (monitored (threadStep settings library) (lastDirection settings library))
      (fun paired label => ∀ turn ∈ motionTurn settings library paired.1 label,
        paired.1.Keeps paired.2 turn)
      labels (MotionThread.initial 1000, none) := by
  intro settings library labels
  have positive : ∀ label ∈ labels, label.Positive := by
    simp only [labels, List.forall_mem_cons, List.not_mem_nil, false_imp_iff, implies_true,
      MotionLabel.Positive, SetTargetCall.Positive, true_and, and_true]
    exact ⟨⟨by decide, fun carries => absurd carries (by decide)⟩,
      ⟨by decide, fun carries => absurd carries (by decide)⟩⟩
  exact speeds_agree_with_direction settings library 1000 (by decide) labels positive

end DrivingControl.Controler

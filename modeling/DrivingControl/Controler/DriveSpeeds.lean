import DrivingControl.Controler.Drives
import Mathlib.Data.Int.ConditionallyCompleteOrder
import Mathlib.Order.Interval.Set.OrdConnected

/-!
# The speeds of a drive

Between its first iteration and its last one a drive keeps both speeds in a range of its own,
and its angular speed in proportion to its speed: the car stays on one curve while it goes
faster or slower, for an obstacle as well.  `wheelControl` leaves the curve by 0.087 rad/s at
most.
-/

namespace DrivingControl.Controler

open DrivingControl.Library DrivingControl.Utils

/-- The speeds of a drive along an arc. -/
def Direction.arcSpeeds : Direction → Set ℤ
  | forward => Set.Icc 150 500
  | backward => Set.Icc (-500) (-150)

/-- The factor and the deceleration of an arc are not below zero. -/
structure ArcFunction.Sound (function : ArcFunction) : Prop where
  times : 0 ≤ function.times
  dspeed : ∀ drive : LineDrive, 0 ≤ function.dspeed drive

theorem sound_forwardArc : forwardArc.Sound where
  times := by decide
  dspeed drive := by
    have least := LineDrive.calDspeed_ge drive
    exact Int.tdiv_nonneg (by omega) (by decide)

theorem sound_backwardArc : backwardArc.Sound where
  times := by decide
  dspeed drive := by
    have least := LineDrive.calDspeed_ge drive
    show 0 ≤ if _ then drive.calDspeed else drive.calDspeed.tdiv 2
    split
    · omega
    · exact Int.tdiv_nonneg (by omega) (by decide)

/-- What happens to a drive along an arc. -/
inductive ArcEvent where
  | iterate (input : DriveInput)
  | setBarrierStatus (status : Int)
  deriving DecidableEq, Repr

namespace Drive

/-- The angular speed is in proportion to the speed. -/
def OnCurve (curvature : ℚ) (drive : Drive) : Prop :=
  drive.baseAngularSpeed = curvature * drive.currentLinearSpeed

/-- The drive does not have to slow down to its target speed. -/
def Rises (drive : Drive) : Prop :=
  (0 ≤ drive.currentLinearSpeed ∧ drive.currentLinearSpeed ≤ drive.targetSpeed) ∨
    (drive.targetSpeed ≤ drive.currentLinearSpeed ∧ drive.currentLinearSpeed ≤ 0)

/-- What holds while a drive is under way.  The deceleration may be below zero where it is not
used, or where the speed has no upper limit. -/
structure Moves (speeds : Set ℤ) (curvature : ℚ) (drive : Drive) : Prop where
  current : drive.currentLinearSpeed ∈ speeds
  target : drive.targetSpeed ∈ speeds
  aspeed : 0 ≤ drive.aspeed
  dspeed : 0 ≤ drive.dspeed ∨ drive.Rises ∨ speeds = Set.Ioi 0
  curve : drive.OnCurve curvature

/-- A range of speeds in one direction, in which a car before an obstacle may drive at 300. -/
structure Range (speeds : Set ℤ) : Prop where
  connected : speeds.OrdConnected
  slow : ∀ speed ∈ speeds, 300 ≤ speed → 300 ∈ speeds
  moving : 0 ∉ speeds

/-- A command to the wheels with a speed of the range, near the curve. -/
def Follows (speeds : Set ℤ) (curvature : ℚ) : MotionCommand → Prop
  | .setCarSpeed linearSpeed angularSpeed =>
      linearSpeed ∈ speeds ∧ |angularSpeed - curvature * linearSpeed| ≤ 87 / 1000
  | _ => False

variable {settings : DriveSettings} {library : MathLibrary} {input : DriveInput} {drive : Drive}
  {iteration : DriveIteration} {speeds : Set ℤ} {curvature : ℚ} {distance : Int} {carAngle : ℚ}

theorem Moves.still (moves : drive.Moves speeds 0) : drive.baseAngularSpeed = 0 :=
  moves.curve.trans (zero_mul _)

/-! ## One control -/

/-- The speed goes towards the target speed, not past it, or down to 300. -/
theorem managedSpeed_cases (aspeed : 0 ≤ drive.aspeed)
    (dspeed : 0 ≤ drive.dspeed ∨ drive.Rises) :
    drive.managedSpeed ∈ Set.uIcc drive.currentLinearSpeed drive.targetSpeed ∨
      300 < drive.currentLinearSpeed ∧ drive.managedSpeed = 300 := by
  rw [Rises] at dspeed
  simp only [LineDrive.managedSpeed, Set.mem_uIcc]
  split_ifs <;> omega

/-- Whatever the deceleration is, a car that drives forward goes on forward. -/
theorem managedSpeed_pos (current : 0 < drive.currentLinearSpeed)
    (target : 0 < drive.targetSpeed) (aspeed : 0 ≤ drive.aspeed) : 0 < drive.managedSpeed := by
  simp only [LineDrive.managedSpeed]
  split_ifs <;> omega

theorem Moves.managedSpeed_mem (moves : drive.Moves speeds curvature) (range : Range speeds) :
    drive.managedSpeed ∈ speeds := by
  have between (dspeed : 0 ≤ drive.dspeed ∨ drive.Rises) : drive.managedSpeed ∈ speeds := by
    rcases managedSpeed_cases moves.aspeed dspeed with between | ⟨fast, slow⟩
    · exact range.connected.uIcc_subset moves.current moves.target between
    · rw [slow]
      exact range.slow _ moves.current fast.le
  rcases moves.dspeed with nonneg | rises | ahead
  · exact between (.inl nonneg)
  · exact between (.inr rises)
  · have current := moves.current
    have target := moves.target
    rw [ahead] at current target ⊢
    exact managedSpeed_pos current target moves.aspeed

/-- A drive that does not have to slow down does not pass its target speed. -/
theorem Rises.manage {next : Drive} (rises : drive.Rises) (aspeed : 0 ≤ drive.aspeed)
    (current : next.currentLinearSpeed = drive.managedSpeed)
    (target : next.targetSpeed = drive.targetSpeed) : next.Rises := by
  rw [Rises, current, target]
  rcases managedSpeed_cases aspeed (.inr rises) with between | ⟨fast, slow⟩
  · rcases rises with ⟨forward, below⟩ | ⟨above, backward⟩
    · rw [Set.uIcc_of_le below] at between
      exact .inl ⟨forward.trans between.1, between.2⟩
    · rw [Set.uIcc_of_ge above] at between
      exact .inr ⟨between.1, between.2.trans backward⟩
  · rcases rises with ⟨-, below⟩ | ⟨-, backward⟩
    · rw [slow]
      exact .inl ⟨by decide, fast.le.trans below⟩
    · exact absurd (fast.trans_le backward) (by decide)

theorem manageWheelSpeed_eq_some {managed : Drive}
    (through : drive.manageWheelSpeed = some managed) :
    ∃ base, managed = { drive with
        currentLinearSpeed := drive.managedSpeed, baseAngularSpeed := base } ∧
      ∀ curvature, drive.OnCurve curvature → base = curvature * drive.managedSpeed := by
  rw [manageWheelSpeed] at through
  split at through
  next same =>
    rw [Option.ite_none_left_eq_some, Option.some.injEq] at through
    rcases through with ⟨moving, rfl⟩
    have divisor : (drive.currentLinearSpeed : ℚ) ≠ 0 := by exact_mod_cast moving
    refine ⟨_, rfl, fun curvature curve => ?_⟩
    rw [show drive.baseAngularSpeed = _ from curve]
    field_simp
  next other =>
    cases through
    have same : drive.managedSpeed = drive.currentLinearSpeed := by
      simp only [LineDrive.SameDirection] at other
      simp only [LineDrive.managedSpeed]
      rw [if_neg (fun both => other (.inl ⟨both.2, both.1⟩)),
        if_neg (fun both => other (.inr ⟨both.2, both.1⟩))]
    rw [same]
    exact ⟨drive.baseAngularSpeed, rfl, fun curvature curve => curve⟩

/-- The steering changes the angular speed, by the limit of `wheelControl` at most. -/
theorem steer_eq_some {steered : Drive}
    (through : drive.steer library distance carAngle = some steered) :
    ∃ output angular, steered = { drive with
        lastOutput := output, currentAngularSpeed := angular } ∧
      |angular - drive.baseAngularSpeed| ≤ 87 / 1000 := by
  rw [steer] at through
  split at through
  · cases through
    refine ⟨drive.lastOutput, drive.baseAngularSpeed, rfl, ?_⟩
    rw [sub_self, abs_zero]
    norm_num
  · rw [Option.ite_none_left_eq_some, Option.some.injEq] at through
    rcases through with ⟨-, rfl⟩
    exact ⟨_, _, rfl, abs_steeredSpeed_sub_le _ _⟩

/-- What the control of the wheels changes, and what it sends. -/
theorem control_eq_some
    (through : drive.control library input distance carAngle = some iteration) :
    ∃ base output angular lastLinear lastAngular,
      iteration.drive = { drive with
        currentLinearSpeed := drive.managedSpeed
        baseAngularSpeed := base
        lastOutput := output
        currentAngularSpeed := angular
        lastLinearSpeed := lastLinear
        lastAngularSpeed := lastAngular
        lastPose := input.pose } ∧
      iteration.ret = 0 ∧
      (iteration.sent = [] ∨ iteration.sent = [.setCarSpeed drive.managedSpeed angular]) ∧
      |angular - base| ≤ 87 / 1000 ∧
      ∀ curvature, drive.OnCurve curvature → base = curvature * drive.managedSpeed := by
  rw [control, Option.bind_eq_some_iff] at through
  rcases through with ⟨managed, manages, through⟩
  rcases Option.map_eq_some_iff.mp through with ⟨controlled, controls, rfl⟩
  rw [wheelControl] at controls
  rcases Option.map_eq_some_iff.mp controls with ⟨steered, steers, rfl⟩
  rcases manageWheelSpeed_eq_some manages with ⟨base, rfl, curve⟩
  rcases steer_eq_some steers with ⟨output, angular, rfl, near⟩
  rw [LineDrive.wheelControl]
  split
  · exact ⟨base, output, angular, _, _, rfl, rfl, .inr rfl, near, curve⟩
  · exact ⟨base, output, angular, _, _, rfl, rfl, .inl rfl, near, curve⟩

/-- The part of an iteration that controls the wheels keeps the drive in its range. -/
structure Passes (speeds : Set ℤ) (curvature : ℚ) (drive : Drive) (iteration : DriveIteration) :
    Prop where
  ret : iteration.ret = 0
  moves : iteration.drive.Moves speeds curvature
  sent : ∀ command ∈ iteration.sent, Follows speeds curvature command
  initParaFlag : iteration.drive.initParaFlag = drive.initParaFlag
  runningMode : iteration.drive.runningMode = drive.runningMode
  savedTargetSpeed : iteration.drive.savedTargetSpeed = drive.savedTargetSpeed
  circle : iteration.drive.circle = drive.circle
  pathDirection : iteration.drive.pathDirection = drive.pathDirection

theorem Moves.controlWhen (moves : drive.Moves speeds curvature) (range : Range speeds)
    {due : Prop} [Decidable due]
    (through : drive.controlWhen library input due distance carAngle = some iteration) :
    Passes speeds curvature drive iteration := by
  rw [Drive.controlWhen] at through
  split at through
  · rcases control_eq_some through with
      ⟨base, output, angular, lastLinear, lastAngular, left, ret, sent, near, curve⟩
    have onCurve := curve curvature moves.curve
    constructor
    · exact ret
    · rw [left]
      constructor
      · exact moves.managedSpeed_mem range
      · exact moves.target
      · exact moves.aspeed
      · rcases moves.dspeed with nonneg | rises | ahead
        · exact .inl nonneg
        · exact .inr (.inl (rises.manage moves.aspeed rfl rfl))
        · exact .inr (.inr ahead)
      · exact onCurve
    · intro command mem
      rcases sent with none | one
      · rw [none] at mem
        cases mem
      · rw [one, List.mem_singleton] at mem
        rw [mem]
        exact ⟨moves.managedSpeed_mem range, onCurve ▸ near⟩
    all_goals rw [left]
  · cases through
    exact ⟨rfl, moves, nofun, rfl, rfl, rfl, rfl, rfl⟩

/-! ## One iteration -/

/-- What an iteration does to a drive with an invariant. -/
inductive Outcome (code : Int) (speeds : Set ℤ) (curvature : Drive → ℚ)
    (invariant : Drive → Prop) (drive : Drive) : DriveIteration → Prop where
  | refuses (first : drive.initParaFlag = false) :
      Outcome code speeds curvature invariant drive ⟨drive, -1, []⟩
  | starts (first : drive.initParaFlag = false) (next : Drive) (linearSpeed : ℤ)
      (angularSpeed : ℚ)
      (follows : Follows speeds (curvature next) (.setCarSpeed linearSpeed angularSpeed))
      (still : invariant next)
      (runningMode : next.runningMode = drive.runningMode) :
      Outcome code speeds curvature invariant drive
        ⟨next, 0, startCommands code linearSpeed angularSpeed⟩
  | moves (going : drive.initParaFlag = true) (next : Drive) (sent : List MotionCommand)
      (follows : ∀ command ∈ sent, Follows speeds (curvature drive) command)
      (still : invariant next) (under : next.initParaFlag = true)
      (runningMode : next.runningMode = drive.runningMode) :
      Outcome code speeds curvature invariant drive ⟨next, 0, sent⟩
  | arrives (going : drive.initParaFlag = true) (next : Drive) (sent : List MotionCommand)
      (follows : ∀ command ∈ sent,
        Follows speeds (curvature drive) command ∨ command = .stopCar true)
      (ended : next.initParaFlag = false) (stops : next.runningMode = stopMode) :
      Outcome code speeds curvature invariant drive ⟨next, 1, sent⟩

/-- A part of an iteration behind which the wheels are controlled. -/
theorem moves_outcome {code : Int} {invariant : Drive → Prop} {curvatureOf : Drive → ℚ}
    {adjusted : Drive} {due : Prop} [Decidable due] (going : drive.initParaFlag = true)
    (moves : adjusted.Moves speeds (curvatureOf drive)) (range : Range speeds)
    (init : adjusted.initParaFlag = drive.initParaFlag)
    (mode : adjusted.runningMode = drive.runningMode)
    (still : Passes speeds (curvatureOf drive) adjusted iteration → invariant iteration.drive)
    (through : adjusted.controlWhen library input due distance carAngle = some iteration) :
    Outcome code speeds curvatureOf invariant drive iteration := by
  have passes := moves.controlWhen range through
  have holds := still passes
  rcases iteration with ⟨next, ret, sent⟩
  cases passes.ret
  exact .moves going next sent passes.sent holds (passes.initParaFlag.trans (init.trans going))
    (passes.runningMode.trans mode)

/-- A drive forward along a line, which has to come back to the speed of its segment. -/
structure LineAhead (drive : Drive) : Prop where
  moves : drive.Moves (Set.Ioi 0) 0
  saved : 0 < drive.savedTargetSpeed

/-- A drive forward along a line that may not have started. -/
structure LineInvariant (drive : Drive) : Prop where
  ahead : drive.initParaFlag = true → drive.LineAhead
  target : drive.initParaFlag = false → 0 < drive.targetSpeed

/-- A drive in a range of speeds that may not have started. -/
def MovesInvariant (speeds : Set ℤ) (curvature : Drive → ℚ) (drive : Drive) : Prop :=
  drive.initParaFlag = true → drive.Moves speeds (curvature drive)

theorem range_ahead : Range (Set.Ioi 0) where
  connected := Set.ordConnected_Ioi
  slow _ _ _ := (by decide : (0 : ℤ) < 300)
  moving := Set.self_notMem_Ioi

theorem range_Icc {low high : ℤ} (sign : 0 < low ∧ low ≤ 300 ∨ high < 0) :
    Range (Set.Icc low high) where
  connected := Set.ordConnected_Icc
  slow speed mem fast := by
    rcases sign with ⟨-, slow⟩ | negative
    · exact ⟨slow, fast.trans mem.2⟩
    · exact absurd (fast.trans mem.2) (by omega)
  moving mem := by
    rcases mem with ⟨above, below⟩
    omega

theorem eq_of_mem_startCommands {code speed linearSpeed : Int} {angular angularSpeed : ℚ}
    (mem : .setCarSpeed linearSpeed angularSpeed ∈ startCommands code speed angular) :
    MotionCommand.setCarSpeed linearSpeed angularSpeed = .setCarSpeed speed angular := by
  simpa [startCommands] using mem

/-! ### `ForwardToLine` -/

theorem approach_cases_pos (settings : LineSettings) (drive : LineDrive) (xPos : Int) :
    drive.approach settings xPos = drive ∨
      ∃ speed, 0 < speed ∧ drive.approach settings xPos = drive.crawl speed := by
  have distance : 0 ≤ |xPos| / 5 := Int.ediv_nonneg (abs_nonneg xPos) (by decide)
  have final : 0 < settings.speedFinalFinal := by
    rw [LineSettings.speedFinalFinal]
    split <;> decide
  rw [LineDrive.approach]
  split
  · exact .inr ⟨_, by omega, rfl⟩
  · split
    · exact .inr ⟨_, by omega, rfl⟩
    · split
      · exact .inr ⟨100, by decide, rfl⟩
      · exact .inl rfl

theorem LineAhead.approach (ahead : drive.LineAhead) (settings : LineSettings) (xPos : Int) :
    LineAhead { drive with toLineDrive := drive.approach settings xPos } := by
  rcases approach_cases_pos settings drive.toLineDrive xPos with same | ⟨speed, positive, crawls⟩
  · rwa [same]
  · rw [crawls]
    exact ⟨⟨positive, positive, ahead.moves.aspeed, .inr (.inr rfl),
      ahead.moves.still.trans (zero_mul _).symm⟩, ahead.saved⟩

theorem LineAhead.adjust {lineInput : LineInput} {adjusted : LineDrive} (ahead : drive.LineAhead)
    (through : drive.toLineDrive.adjust lineInput = some adjusted) :
    LineAhead { drive with toLineDrive := adjusted } := by
  have moves := ahead.moves
  have fast : (0 : ℤ) < 200 := by decide
  rcases LineDrive.adjust_cases through with same | ⟨slowed, kept | slows, rfl⟩ |
    ⟨going, aspeed, positive, rfl⟩ | ⟨dspeed, positive, rfl⟩
  · rwa [same]
  · subst kept
    exact ⟨⟨moves.current, moves.target, moves.aspeed, .inr (.inr rfl), moves.curve⟩, ahead.saved⟩
  · rcases LineDrive.slowDown_eq_some slows with ⟨-, rfl⟩
    exact ⟨⟨moves.current, fast, moves.aspeed, .inr (.inr rfl), moves.curve⟩, ahead.saved⟩
  · exact ⟨⟨moves.current, ahead.saved, positive, .inr (.inr rfl), moves.curve⟩, ahead.saved⟩
  · exact ⟨⟨moves.current, fast, moves.aspeed, .inr (.inr rfl), moves.curve⟩, ahead.saved⟩

/-- The first speed is the target speed, the speed of the car above 300, or 300. -/
theorem startSpeed_pos (target : 0 < drive.targetSpeed) (speed : Int) :
    0 < (drive.startSpeed speed).1 := by
  rw [LineDrive.startSpeed]
  split_ifs <;> grind

/-- The distance changes neither the run mode nor whether the drive is under way. -/
theorem adjusted_keeps {lineInput : LineInput} {lineDrive adjusted : LineDrive}
    (settings : LineSettings) (xPos : Int)
    (through : (lineDrive.approach settings xPos).adjust lineInput = some adjusted) :
    adjusted.initParaFlag = lineDrive.initParaFlag ∧
      adjusted.runningMode = lineDrive.runningMode := by
  have approached : (lineDrive.approach settings xPos).initParaFlag = lineDrive.initParaFlag ∧
      (lineDrive.approach settings xPos).runningMode = lineDrive.runningMode := by
    rcases LineDrive.approach_cases settings lineDrive xPos with same | ⟨speed, -, crawls⟩
    · rw [same]
      exact ⟨rfl, rfl⟩
    · rw [crawls]
      exact ⟨rfl, rfl⟩
  rcases LineDrive.adjust_cases through with same | ⟨slowed, kept | slows, rfl⟩ |
    ⟨-, aspeed, -, rfl⟩ | ⟨dspeed, -, rfl⟩
  · rwa [same]
  · rwa [kept]
  · rcases LineDrive.slowDown_eq_some slows with ⟨-, rfl⟩
    exact approached
  · exact approached
  · exact approached

theorem prepare_pos (target : 0 < drive.targetSpeed) (speed : Int) :
    0 < (drive.prepare speed).currentLinearSpeed ∧ 0 < (drive.prepare speed).savedTargetSpeed := by
  rw [LineDrive.prepare]
  split
  · exact ⟨(by decide : (0 : ℤ) < 100), (by decide : (0 : ℤ) < 100)⟩
  · exact ⟨startSpeed_pos target speed, target⟩

theorem prepare_keeps (drive : LineDrive) (speed : Int) :
    (drive.prepare speed).runningMode = drive.runningMode ∧
      (drive.prepare speed).targetSpeed = drive.targetSpeed := by
  rw [LineDrive.prepare]
  split <;> exact ⟨rfl, rfl⟩

theorem arrive_outcome {code : Int} {curvature : Drive → ℚ} {invariant : Drive → Prop}
    {sent : List MotionCommand} (going : drive.initParaFlag = true)
    (stops : ∀ command ∈ sent, command = .stopCar true) :
    Outcome code speeds curvature invariant drive
      ⟨{ drive with toLineDrive := drive.arrive }, 1, sent⟩ :=
  .arrives going _ _ (fun command mem => .inr (stops command mem)) rfl rfl

/-- A command on the curve itself. -/
theorem follows_self {linearSpeed : ℤ} {angularSpeed : ℚ} (mem : linearSpeed ∈ speeds)
    (equal : angularSpeed = curvature * linearSpeed) :
    Follows speeds curvature (.setCarSpeed linearSpeed angularSpeed) := by
  refine ⟨mem, ?_⟩
  rw [equal, sub_self, abs_zero]
  norm_num

theorem startForwardLine_outcome (first : drive.initParaFlag = false)
    (target : 0 < drive.targetSpeed) :
    Outcome 0 (Set.Ioi 0) (fun _ => 0) LineInvariant drive (drive.startForwardLine input) := by
  rcases prepare_pos target input.speed.toNat with ⟨current, saved⟩
  rcases prepare_keeps drive.toLineDrive input.speed.toNat with ⟨mode, kept⟩
  have follows := follows_self current (zero_mul _).symm
  rw [startForwardLine, LineDrive.start]
  split
  · exact .refuses first
  · cases ready : input.ready with
    | true =>
        rw [DriveInput.toLineInput, ready]
        exact .starts first _ _ 0 follows ⟨fun _ => ⟨⟨current, current, le_refl _,
          .inr (.inr rfl), (zero_mul _).symm⟩, saved⟩, nofun⟩ mode
    | false =>
        rw [DriveInput.toLineInput, ready]
        exact .starts first _ _ 0 follows ⟨nofun, fun _ => target.trans_eq kept.symm⟩ mode

theorem forwardToLine_outcome (line : drive.LineInvariant)
    (through : drive.forwardToLine settings library input = some iteration) :
    Outcome 0 (Set.Ioi 0) (fun _ => 0) LineInvariant drive iteration := by
  rw [forwardToLine] at through
  split at through
  next first =>
    cases through
    exact startForwardLine_outcome first (line.target first)
  next other =>
    have going : drive.initParaFlag = true := by simpa using other
    split at through
    · cases through
      exact arrive_outcome going nofun
    · rcases Option.bind_eq_some_iff.mp through with ⟨adjusted, adjusts, controls⟩
      have ahead :=
        ((line.ahead going).approach settings.toLineSettings input.pose.xPos).adjust adjusts
      rcases adjusted_keeps settings.toLineSettings input.pose.xPos adjusts with ⟨init, mode⟩
      refine moves_outcome going ahead.moves range_ahead init mode (fun passes => ⟨?_, ?_⟩) controls
      · exact fun _ => ⟨passes.moves, passes.savedTargetSpeed.symm ▸ ahead.saved⟩
      · intro first
        rw [passes.initParaFlag, init, going] at first
        cases first

/-! ### `BackwardToLine` -/

/-- The speeds of a drive backward along a line. -/
def backwardSpeeds : Set ℤ := Set.Icc (-450) (-35)

theorem range_backward : Range backwardSpeeds := range_Icc (.inr (by decide))

theorem startBackwardLine_outcome (first : drive.initParaFlag = false) :
    Outcome 1 backwardSpeeds (fun _ => 0) (MovesInvariant backwardSpeeds fun _ => 0) drive
      (drive.startBackwardLine input) := by
  have start : (-150 : ℤ) ∈ backwardSpeeds := ⟨by decide, by decide⟩
  have target : (-450 : ℤ) ∈ backwardSpeeds := ⟨by decide, by decide⟩
  have nonneg : (0 : ℤ) ≤ 50 := by decide
  rw [startBackwardLine]
  split
  · exact .refuses first
  · have follows := follows_self start (zero_mul _).symm
    cases ready : input.ready with
    | true =>
        simp only [started, ready, if_true]
        exact .starts first _ _ 0 follows
          (fun _ => ⟨start, target, nonneg, .inl nonneg, (zero_mul _).symm⟩) rfl
    | false =>
        simp only [started, ready, Bool.false_eq_true, if_false]
        exact .starts first _ _ 0 follows nofun rfl

theorem absSpeed_nonneg (speed : UInt16) : 0 ≤ absSpeed speed.toNat := by
  have bound := speed.toNat_lt
  rw [absSpeed]
  split <;> omega

/-- The distance at which a target counts as reached is not below zero, whichever action needs
the precise one. -/
theorem delay_nonneg (settings : LineSettings) (speed : UInt16) (current : Int) (precise : Prop)
    [Decidable precise] (offset : 0 ≤ settings.delayDistanceOffset) :
    0 ≤ if precise then
        if |current| < 65 then (absSpeed speed.toNat * settings.kDistance).tdiv 100 else 40
      else
        let delay := |settings.delayDistanceOffset * absSpeed speed.toNat| / 100
        if delay > 2 * settings.delayDistanceOffset then 2 * settings.delayDistanceOffset
        else delay := by
  have k : 0 ≤ settings.kDistance := by
    rw [LineSettings.kDistance]
    split <;> decide
  split
  · split
    · exact Int.tdiv_nonneg (Int.mul_nonneg (absSpeed_nonneg speed) k) (by decide)
    · decide
  · have delay : 0 ≤ |settings.delayDistanceOffset * absSpeed speed.toNat| / 100 :=
      Int.ediv_nonneg (abs_nonneg _) (by decide)
    dsimp only
    split <;> omega

theorem finalDelayDistance_nonneg (drive : LineDrive) (settings : LineSettings) (speed : UInt16)
    (offset : 0 ≤ settings.delayDistanceOffset) :
    0 ≤ drive.finalDelayDistance settings speed.toNat :=
  delay_nonneg settings speed _ _ offset

theorem backwardDelayDistance_nonneg (drive : Drive) (settings : DriveSettings) (speed : UInt16)
    (offset : 0 ≤ settings.delayDistanceOffset) :
    0 ≤ drive.backwardDelayDistance settings speed.toNat :=
  delay_nonneg settings.toLineSettings speed _ _ offset

theorem Moves.approachBackward (moves : drive.Moves backwardSpeeds 0)
    (settings : DriveSettings) {xPos : Int} (ahead : 0 ≤ xPos) :
    (drive.approachBackward settings xPos).Moves backwardSpeeds 0 := by
  rw [Drive.approachBackward]
  split
  next near =>
    have final : 35 ≤ settings.speedFinalFinal ∧ settings.speedFinalFinal ≤ 45 := by
      rw [LineSettings.speedFinalFinal]
      split <;> decide
    have distance : |xPos| = xPos := abs_of_nonneg ahead
    have mem : -(|xPos| / 5 + settings.speedFinalFinal) ∈ backwardSpeeds := by
      rw [distance]
      constructor <;> omega
    exact ⟨mem, mem, moves.aspeed, .inr (.inl (.inr ⟨le_refl _, mem.2.trans (by decide)⟩)),
      moves.still.trans (zero_mul _).symm⟩
  next => exact moves

theorem Moves.slowBackward (moves : drive.Moves backwardSpeeds 0) (xPos : Int) :
    (drive.slowBackward xPos).Moves backwardSpeeds 0 := by
  have target : (-200 : ℤ) ∈ backwardSpeeds := ⟨by decide, by decide⟩
  have nonneg : (0 : ℤ) ≤ 15 := by decide
  rw [Drive.slowBackward]
  split
  · exact ⟨moves.current, target, nonneg, .inl nonneg, moves.curve⟩
  · exact moves

theorem slowBackward_keeps (drive : Drive) (settings : DriveSettings) (xPos : Int) :
    ((drive.approachBackward settings xPos).slowBackward xPos).initParaFlag = drive.initParaFlag ∧
      ((drive.approachBackward settings xPos).slowBackward xPos).runningMode =
        drive.runningMode := by
  rw [slowBackward, approachBackward]
  split <;> split <;> exact ⟨rfl, rfl⟩

theorem backwardToLine_outcome (offset : 0 ≤ settings.delayDistanceOffset)
    (under : drive.MovesInvariant backwardSpeeds fun _ => 0)
    (through : drive.backwardToLine settings library input = some iteration) :
    Outcome 1 backwardSpeeds (fun _ => 0) (MovesInvariant backwardSpeeds fun _ => 0) drive
      iteration := by
  rw [backwardToLine] at through
  split at through
  next first =>
    cases through
    exact startBackwardLine_outcome first
  next other =>
    have going : drive.initParaFlag = true := by simpa using other
    split at through
    · cases through
      apply arrive_outcome going
      intro command mem
      split at mem
      · exact List.mem_singleton.mp mem
      · cases mem
    next far =>
      have ahead := backwardDelayDistance_nonneg drive settings input.speed offset
      have before : 0 ≤ input.pose.xPos := by omega
      have slowed := ((under going).approachBackward settings before).slowBackward input.pose.xPos
      rcases slowBackward_keeps drive settings input.pose.xPos with ⟨init, mode⟩
      exact moves_outcome going slowed range_backward init mode (fun passes _ => passes.moves)
        through

/-! ### `ForwardToArc` and `BackwardToArc` -/

theorem range_arc (direction : Direction) : Range direction.arcSpeeds := by
  cases direction with
  | forward => exact range_Icc (.inl ⟨by decide, by decide⟩)
  | backward => exact range_Icc (.inr (by decide))

/-- The curvature of the arc, positive to the left. -/
def arcCurvature (settings : DriveSettings) (library : MathLibrary) (drive : Drive) : ℚ :=
  drive.pathDirection.turn / wheelRadius settings library drive.circle

/-- What holds while a drive along an arc is under way. -/
def OnArc (settings : DriveSettings) (library : MathLibrary) (function : ArcFunction)
    (drive : Drive) : Prop :=
  drive.Moves function.direction.arcSpeeds (drive.arcCurvature settings library)

/-- A drive along an arc that may not have started. -/
abbrev ArcInvariant (settings : DriveSettings) (library : MathLibrary) (function : ArcFunction) :
    Drive → Prop :=
  MovesInvariant function.direction.arcSpeeds (arcCurvature settings library)

variable {function : ArcFunction}

/-- The speeds of a start lie in the range, with the target speed as the faster one. -/
theorem arcSpeeds_start (direction : Direction) :
    direction.way.sign * 150 ∈ direction.arcSpeeds ∧
      direction.way.sign * 500 ∈ direction.arcSpeeds ∧
      (0 ≤ direction.way.sign * 150 ∧ direction.way.sign * 150 ≤ direction.way.sign * 500 ∨
        direction.way.sign * 500 ≤ direction.way.sign * 150 ∧ direction.way.sign * 150 ≤ 0) := by
  cases direction with
  | forward => exact ⟨⟨by decide, by decide⟩, ⟨by decide, by decide⟩, by decide⟩
  | backward => exact ⟨⟨by decide, by decide⟩, ⟨by decide, by decide⟩, by decide⟩

theorem onArc_arcSpeeds (sound : function.Sound) {radius : Int}
    (wheel : radius = wheelRadius settings library drive.circle) :
    (drive.arcSpeeds function radius).OnArc settings library function := by
  rcases arcSpeeds_start function.direction with ⟨current, target, rises⟩
  constructor
  · exact current
  · exact target
  · have least (lineDrive : LineDrive) : 0 ≤ lineDrive.calAspeed :=
      le_trans (by decide) lineDrive.calAspeed_ge
    exact Int.mul_nonneg (least _) sound.times
  · exact .inr (.inl rises)
  · subst wheel
    show drive.pathDirection.turn * (_ / _) = drive.pathDirection.turn / _ * _
    rw [div_mul_eq_mul_div, mul_div_assoc]
    rfl

theorem startArc_outcome (sound : function.Sound) (first : drive.initParaFlag = false)
    (through : drive.startArc settings library function input = some iteration) :
    Outcome function.direction.code function.direction.arcSpeeds (arcCurvature settings library)
      (ArcInvariant settings library function) drive iteration := by
  rw [startArc] at through
  split at through
  · cases through
    exact .refuses first
  · dsimp only at through
    rw [Option.ite_none_left_eq_some, Option.some.injEq] at through
    rcases through with ⟨-, rfl⟩
    have onArc : OnArc settings library function
        ((drive.takeCircle library function input).arcSpeeds function
          (wheelRadius settings library (drive.takeCircle library function input).circle)) :=
      onArc_arcSpeeds sound rfl
    have follows := follows_self onArc.current onArc.curve
    cases ready : input.ready with
    | true =>
        simp only [started, ready, if_true]
        exact .starts first _ _ _ follows
          (fun _ => ⟨onArc.current, onArc.target, onArc.aspeed, onArc.dspeed, onArc.curve⟩) rfl
    | false =>
        simp only [started, ready, Bool.false_eq_true, if_false]
        exact .starts first _ _ _ follows nofun rfl

theorem OnArc.slowArc (onArc : drive.OnArc settings library function) (sound : function.Sound)
    (input : DriveInput) :
    (drive.slowArc settings function input).OnArc settings library function := by
  rw [Drive.slowArc]
  split
  · exact ⟨onArc.current, (arcSpeeds_start function.direction).1, onArc.aspeed,
      .inl (sound.dspeed _), onArc.curve⟩
  · exact onArc

theorem slowArc_keeps (settings : DriveSettings) (library : MathLibrary)
    (function : ArcFunction) (input : DriveInput) (drive : Drive) :
    (drive.slowArc settings function input).initParaFlag = drive.initParaFlag ∧
      (drive.slowArc settings function input).runningMode = drive.runningMode ∧
      (drive.slowArc settings function input).arcCurvature settings library =
        drive.arcCurvature settings library := by
  rw [slowArc]
  split <;> exact ⟨rfl, rfl, rfl⟩

theorem runArc_outcome (sound : function.Sound)
    (under : drive.ArcInvariant settings library function)
    (through : drive.runArc settings library function input = some iteration) :
    Outcome function.direction.code function.direction.arcSpeeds (arcCurvature settings library)
      (ArcInvariant settings library function) drive iteration := by
  rw [runArc] at through
  split at through
  next first => exact startArc_outcome sound first through
  next other =>
    have going : drive.initParaFlag = true := by simpa using other
    have onArc : drive.OnArc settings library function := under going
    have slowed := onArc.slowArc sound input
    rcases slowArc_keeps settings library function input drive with ⟨init, mode, same⟩
    rw [followArc] at through
    rcases Option.map_eq_some_iff.mp through with ⟨controlled, controls, rfl⟩
    have passes := slowed.controlWhen (range_arc function.direction) controls
    rw [same] at passes
    rcases controlled with ⟨next, ret, sent⟩
    cases passes.ret
    split
    · exact .arrives going _ sent (fun command mem => .inl (passes.sent command mem)) rfl rfl
    · have circle : next.arcCurvature settings library = drive.arcCurvature settings library := by
        rw [← same, arcCurvature, passes.circle, passes.pathDirection, arcCurvature]
      have still : next.OnArc settings library function := by
        rw [OnArc, circle]
        exact passes.moves
      exact .moves going next sent passes.sent (fun _ => still)
        (passes.initParaFlag.trans (init.trans going)) (passes.runningMode.trans mode)

/-! ## Numbers -/

theorem manageWheelSpeed_isSome (moving : drive.currentLinearSpeed ≠ 0) :
    drive.manageWheelSpeed.isSome := by
  simp only [manageWheelSpeed, moving, if_false]
  split <;> rfl

theorem wheelControl_isSome (moving : drive.currentLinearSpeed ≠ 0) :
    (drive.wheelControl library distance carAngle).isSome := by
  simp only [wheelControl, Option.isSome_map, steer, moving, if_false]
  split <;> rfl

/-- A car that moves computes numbers. -/
theorem control_isSome (moves : drive.Moves speeds curvature) (range : Range speeds) :
    (drive.control library input distance carAngle).isSome := by
  have moving {speed : ℤ} (mem : speed ∈ speeds) : speed ≠ 0 := fun still =>
    range.moving (still ▸ mem)
  rcases Option.isSome_iff_exists.mp (manageWheelSpeed_isSome (moving moves.current)) with
    ⟨managed, manages⟩
  rcases manageWheelSpeed_eq_some manages with ⟨base, rfl, -⟩
  rw [control, manages, Option.bind_some, Option.isSome_map]
  exact wheelControl_isSome (moving (moves.managedSpeed_mem range))

theorem controlWhen_isSome (moves : drive.Moves speeds curvature) (range : Range speeds)
    (due : Prop) [Decidable due] :
    (drive.controlWhen library input due distance carAngle).isSome := by
  rw [controlWhen]
  split
  · exact control_isSome moves range
  · rfl

/-! ## Runs along arcs -/

def arcStep (settings : DriveSettings) (library : MathLibrary) (function : ArcFunction) :
    StepFn Drive ArcEvent
  | .iterate input, drive =>
      (drive.runArc settings library function input).map DriveIteration.drive
  | .setBarrierStatus status, drive =>
      some { drive with toLineDrive := drive.toLineDrive.setBarrierStatus status }

/-- The commands of an iteration stay near the arc, which the first iteration takes, and the
others have a result. -/
def KeepsToArc (settings : DriveSettings) (library : MathLibrary) (function : ArcFunction)
    (drive : Drive) : ArcEvent → Prop
  | .setBarrierStatus _ => True
  | .iterate input =>
      (drive.initParaFlag = true →
        (drive.runArc settings library function input).isSome) ∧
      ∀ iteration ∈ drive.runArc settings library function input,
        ∀ linearSpeed angularSpeed,
          .setCarSpeed linearSpeed angularSpeed ∈ iteration.sent →
            linearSpeed ∈ function.direction.arcSpeeds ∧
            |angularSpeed - arcCurvature settings library
              (if drive.initParaFlag = true then drive else iteration.drive) * linearSpeed| ≤
                87 / 1000

theorem runArc_isSome (sound : function.Sound) (going : drive.initParaFlag = true)
    (onArc : drive.OnArc settings library function) :
    (drive.runArc settings library function input).isSome := by
  rw [runArc, if_neg (by rw [going]; decide), followArc, Option.isSome_map]
  exact controlWhen_isSome (onArc.slowArc sound input) (range_arc function.direction) _

/-- A command of an iteration stays near the arc. -/
theorem keepsToArc (sound : function.Sound)
    (under : drive.ArcInvariant settings library function)
    (event : ArcEvent) : KeepsToArc settings library function drive event := by
  cases event with
  | setBarrierStatus status => trivial
  | iterate input =>
      refine ⟨fun going => runArc_isSome sound going (under going), ?_⟩
      intro iteration through linearSpeed angularSpeed mem
      cases runArc_outcome sound under through with
      | refuses first => cases mem
      | starts first next speed angular follows still runningMode =>
          cases eq_of_mem_startCommands mem
          rw [if_neg (by rw [first]; decide)]
          exact follows
      | moves going next sent follows still init runningMode =>
          rw [if_pos going]
          exact follows _ mem
      | arrives going next sent follows ended stops =>
          rw [if_pos going]
          rcases follows _ mem with near | stop
          · exact near
          · cases stop

theorem OnArc.setBarrierStatus (onArc : drive.OnArc settings library function) (status : Int) :
    OnArc settings library function
      { drive with toLineDrive := drive.toLineDrive.setBarrierStatus status } := by
  rw [LineDrive.setBarrierStatus]
  split
  · exact ⟨onArc.current, onArc.target, onArc.aspeed, onArc.dspeed, onArc.curve⟩
  · exact onArc

theorem initParaFlag_setBarrierStatus (drive : LineDrive) (status : Int) :
    (drive.setBarrierStatus status).initParaFlag = drive.initParaFlag := by
  rw [LineDrive.setBarrierStatus]
  split <;> rfl

theorem arcStep_kept (sound : function.Sound) (event : ArcEvent) {next : Drive}
    (under : drive.ArcInvariant settings library function)
    (stepped : arcStep settings library function event drive = some next) :
    next.ArcInvariant settings library function := by
  cases event with
  | setBarrierStatus status =>
      cases stepped
      intro going
      have onArc : drive.OnArc settings library function :=
        under (initParaFlag_setBarrierStatus drive.toLineDrive status ▸ going)
      exact onArc.setBarrierStatus status
  | iterate input =>
      rcases Option.map_eq_some_iff.mp stepped with ⟨iteration, through, rfl⟩
      cases runArc_outcome sound under through with
      | refuses first => exact under
      | starts first next speed angular follows still runningMode => exact still
      | moves going next sent follows still init runningMode => exact still
      | arrives going next sent follows ended stops =>
          exact fun going => absurd (ended.symm.trans going) (by decide)

theorem before_keepsToArc (settings : DriveSettings) (library : MathLibrary)
    (sound : function.Sound) (events : List ArcEvent) (start : Drive) :
    Before (arcStep settings library function) (KeepsToArc settings library function) events
      { start with initParaFlag := false } := by
  have kept (drive : Drive) (event : ArcEvent) (next : Drive)
      (under : drive.ArcInvariant settings library function) (_ : True)
      (stepped : arcStep settings library function event drive = some next) :
      next.ArcInvariant settings library function := arcStep_kept sound event under stepped
  exact before_of_invariant kept (fun drive event under _ => keepsToArc sound under event)
    (fun _ _ => trivial) nofun

/-- Along an arc every speed lies between those of the start and of the target, every angular
speed within 0.087 rad/s of the one that goes with it on the circle, and every iteration behind
the first one has a result. -/
theorem arcs_keep_to_circle (settings : DriveSettings) (library : MathLibrary)
    (events : List ArcEvent) (start : Drive) :
    Before (arcStep settings library forwardArc) (KeepsToArc settings library forwardArc) events
        { start with initParaFlag := false } ∧
      Before (arcStep settings library backwardArc) (KeepsToArc settings library backwardArc)
        events { start with initParaFlag := false } :=
  ⟨before_keepsToArc settings library sound_forwardArc events start,
    before_keepsToArc settings library sound_backwardArc events start⟩

end Drive

end DrivingControl.Controler

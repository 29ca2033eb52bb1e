import DrivingControl.Controler.RoutePlanner
import DrivingControl.Library.Seam
import Mathlib.Data.Rat.Floor
import Mathlib.Order.Bounds.Basic

/-!
# Rotations on the spot

`RotateLeft` and `RotateRight` are called again and again while the car turns.  The first
call starts the car, and the others integrate the change of the heading since the call
before.  A heading wraps at 360 degrees, so a change of more than 270 degrees is taken for
one across the seam.  When the integrated angle is near enough to the target, the car is
stopped and the call returns 1.
-/

namespace DrivingControl.Controler

open DrivingControl.Library

/-- `ROTATE_DIRECTION`. -/
inductive RotateDirection where
  | left | right
  deriving DecidableEq, Repr

/-- What a rotation sends to the base controller. -/
inductive RotateCommand where
  | rotateLeft (speed : Int)
  | rotateRight (speed : Int)
  | runForward (speed : Int)
  | stopCar
  | setBreak
  deriving DecidableEq, Repr

namespace RotateDirection

/-- `decAngle`, before it is corrected. -/
def difference : RotateDirection → ℚ → ℚ → ℚ
  | left, currentCarAngle, lastCarAngle => currentCarAngle - lastCarAngle
  | right, currentCarAngle, lastCarAngle => lastCarAngle - currentCarAngle

def command : RotateDirection → Int → RotateCommand
  | left => .rotateLeft
  | right => .rotateRight

/-- The part of the target angle behind which the car slows down, in hundredths. -/
def slowsBehind : RotateDirection → ℚ
  | left => 55 / 100
  | right => 58 / 100

end RotateDirection

/-- The static variables of `RotateLeft`; `RotateRight` has its own. -/
structure Integration where
  lastCarAngle : ℚ := 0
  rotateCarAngle : ℚ := 0
  deriving DecidableEq, Repr

/-- What a rotation keeps: members of `CAgvMoveHelperForklift`, and static variables from
`left` on. -/
structure Rotation where
  initParaFlag : Bool := false
  isChangeSpeedInit : Bool := false
  runningMode : Int := stopMode
  /-- `targetPoint.action`. -/
  action : Int := actionRun
  /-- `targetPoint.needStop`. -/
  needStop : Bool := false
  turningSpeed : Int := 0
  turningArriveSpeed : Int := 0
  targetSpeed : Int := 0
  currentLinearSpeed : Int := 0
  left : Integration := {}
  right : Integration := {}
  /-- `lastAngle` of `ChangeRotateSpeedByAngle`. -/
  lastAngle : ℚ := 0
  /-- `deltaSpeed` of `ChangeRotateSpeedByAngle`. -/
  deltaSpeed : Int := 0
  deriving DecidableEq, Repr

/-- What a call reads from outside. -/
structure RotateInput where
  /-- The heading of `GetCurrentPose`. -/
  heading : ℚ
  /-- The base controller's `RotateLeft` or `RotateRight` returns 0. -/
  ready : Bool := true
  deriving DecidableEq, Repr

/-- A call: what it leaves, what it returns, the angle it compares with the target, and what
it sends. -/
structure Rotated where
  rotation : Rotation
  ret : Int
  rotateCarAngle : ℚ
  sent : List RotateCommand
  deriving DecidableEq, Repr

/-- `needRotateAngle` for a target angle, with `DELAY_ANGLE_OFFSET`. -/
def needRotateAngle (delayAngleOffset angle : ℚ) : ℚ :=
  if angle ≤ delayAngleOffset then angle / 3 else angle - delayAngleOffset

/-- The speed that a rotation starts with. -/
def startRotateSpeed (turningSpeed : Int) (angle : ℚ) : Int :=
  let speed := ⌊angle / 180 * turningSpeed * (175 / 100)⌋
  if speed > turningSpeed then turningSpeed else if speed < 150 then 150 else speed

namespace Rotation

variable (direction : RotateDirection) (delayAngleOffset angle : ℚ) (input : RotateInput)
  (rotation : Rotation)

def integration : Integration :=
  match direction with
  | .left => rotation.left
  | .right => rotation.right

def setIntegration (statics : Integration) : Rotation :=
  match direction with
  | .left => { rotation with left := statics }
  | .right => { rotation with right := statics }

/-! ## The parts of a call -/

/-- The first call. -/
def initRotate : Rotation × List RotateCommand :=
  let speed := startRotateSpeed 400 angle
  ({ rotation.setIntegration direction ⟨input.heading, 0⟩ with
      turningSpeed := 400
      turningArriveSpeed := 50
      targetSpeed := speed
      currentLinearSpeed := speed
      initParaFlag := input.ready },
    [direction.command speed])

/-- The other calls integrate the rotation. -/
def integrate : Rotation :=
  let statics := rotation.integration direction
  let decAngle := acrossSeam 360 270 (direction.difference input.heading statics.lastCarAngle)
  rotation.setIntegration direction ⟨input.heading, statics.rotateCarAngle + decAngle⟩

/-- `ChangeRotateSpeedByAngle`, which does not use its direction. -/
def changeRotateSpeedByAngle (remaining : ℚ) : Rotation × List RotateCommand :=
  if rotation.isChangeSpeedInit = false then
    ({ rotation with
        deltaSpeed := (rotation.currentLinearSpeed - rotation.turningArriveSpeed).tdiv 7
        lastAngle := remaining
        isChangeSpeedInit := true }, [])
  else if |remaining - rotation.lastAngle| > 1 then
    let speed := max (rotation.currentLinearSpeed - rotation.deltaSpeed)
      rotation.turningArriveSpeed
    ({ rotation with
        currentLinearSpeed := speed
        targetSpeed := speed
        lastAngle := remaining }, [.runForward speed])
  else (rotation, [])

/-- The target angle is reached. -/
def finishRotate : Rotation × List RotateCommand :=
  ({ rotation.setIntegration direction {} with
      initParaFlag := false
      isChangeSpeedInit := false
      runningMode := stopMode },
    if rotation.action = actionCharge ∨
        (rotation.action = actionLiftUpDown ∧ rotation.needStop = true) then
      [.stopCar, .setBreak]
    else [.stopCar])

/-- The parameters of the first call are set, or the rotation is integrated. -/
def advance : Rotation × List RotateCommand :=
  if rotation.initParaFlag = false then rotation.initRotate direction angle input
  else (rotation.integrate direction input, [])

/-- The body that both functions share. -/
def rotate : Rotated :=
  if angle ≤ 0 then { rotation, ret := -1, rotateCarAngle := 0, sent := [] }
  else
    let advanced := rotation.advance direction angle input
    let rotateCarAngle := (advanced.1.integration direction).rotateCarAngle
    if rotateCarAngle ≥ needRotateAngle delayAngleOffset angle then
      let finished := advanced.1.finishRotate direction
      { rotation := finished.1, ret := 1, rotateCarAngle, sent := advanced.2 ++ finished.2 }
    else if angle - rotateCarAngle ≤ 24 ∧ rotateCarAngle > direction.slowsBehind * angle then
      let slowed := advanced.1.changeRotateSpeedByAngle (angle - rotateCarAngle)
      { rotation := slowed.1, ret := 0, rotateCarAngle, sent := advanced.2 ++ slowed.2 }
    else { rotation := advanced.1, ret := 0, rotateCarAngle, sent := advanced.2 }

/-- `RotateLeft`. -/
def rotateLeft : Rotated := rotation.rotate .left delayAngleOffset angle input

/-- `RotateRight`. -/
def rotateRight : Rotated := rotation.rotate .right delayAngleOffset angle input

/-- The function for a direction. -/
def rotateIn : Rotated :=
  match direction with
  | .left => rotation.rotateLeft delayAngleOffset angle input
  | .right => rotation.rotateRight delayAngleOffset angle input

/-- The calls for one target angle, from the first one on. -/
def rotations (inputs : ℕ → RotateInput) : ℕ → Rotated
  | 0 => rotation.rotateIn direction delayAngleOffset angle (inputs 0)
  | n + 1 =>
      (rotations inputs n).rotation.rotateIn direction delayAngleOffset angle (inputs (n + 1))

/-! ## One call -/

variable {direction delayAngleOffset angle input rotation}

theorem rotateIn_eq :
    rotation.rotateIn direction delayAngleOffset angle input =
      rotation.rotate direction delayAngleOffset angle input := by
  cases direction <;> rfl

theorem needRotateAngle_pos (positive : 0 < angle) :
    0 < needRotateAngle delayAngleOffset angle := by
  rw [needRotateAngle]
  split
  next => linarith
  next behind => linarith

@[simp] theorem integration_setIntegration (statics : Integration) :
    (rotation.setIntegration direction statics).integration direction = statics := by
  cases direction <;> rfl

@[simp] theorem initParaFlag_setIntegration (statics : Integration) :
    (rotation.setIntegration direction statics).initParaFlag = rotation.initParaFlag := by
  cases direction <;> rfl

/-- Slowing down leaves the integration alone. -/
theorem changeRotateSpeedByAngle_frame (remaining : ℚ) :
    let slowed := (rotation.changeRotateSpeedByAngle remaining).1
    slowed.initParaFlag = rotation.initParaFlag ∧
      slowed.integration direction = rotation.integration direction := by
  simp only [changeRotateSpeedByAngle]
  cases direction <;> grind [integration]

/-- A call compares the angle it has advanced to with the target angle.  Short of it, the
integration goes on from there. -/
theorem rotate_spec (direction : RotateDirection) (delayAngleOffset : ℚ) (input : RotateInput)
    (rotation : Rotation) (positive : 0 < angle) :
    let advanced := (rotation.advance direction angle input).1
    let rotated := rotation.rotate direction delayAngleOffset angle input
    rotated.rotateCarAngle = (advanced.integration direction).rotateCarAngle ∧
      rotated.ret =
        (if needRotateAngle delayAngleOffset angle ≤ rotated.rotateCarAngle then 1 else 0) ∧
      (rotated.rotateCarAngle < needRotateAngle delayAngleOffset angle →
        rotated.rotation.initParaFlag = advanced.initParaFlag ∧
          rotated.rotation.integration direction = advanced.integration direction) := by
  dsimp only
  rw [rotate, if_neg (not_le.mpr positive)]
  dsimp only
  split
  next reached => exact ⟨rfl, rfl, fun short => absurd reached (not_le.mpr short)⟩
  next short =>
    split
    · exact ⟨rfl, rfl, fun _ => changeRotateSpeedByAngle_frame _⟩
    · exact ⟨rfl, rfl, fun _ => ⟨rfl, rfl⟩⟩

/-! ## Any number of calls -/

/-- The heading of an orientation, which counts whole turns too. -/
def headingOf (orientation : ℚ) : ℚ := Int.fract (orientation / 360) * 360

/-- Between two orientations that differ by less than 90 degrees the integration takes the
true change. -/
theorem acrossSeam_headingOf (direction : RotateDirection) {last current : ℚ}
    (slow : |current - last| < 90) :
    acrossSeam 360 270 (direction.difference (headingOf current) (headingOf last)) =
      direction.difference current last := by
  have turn : (0 : ℚ) < 360 := by norm_num
  rw [headingOf, headingOf, ← toIcoMod_eq_fract_mul turn, ← toIcoMod_eq_fract_mul turn]
  cases direction with
  | left =>
      apply acrossSeam_toIcoMod turn (by norm_num)
      linarith
  | right =>
      apply acrossSeam_toIcoMod turn (by norm_num)
      rw [abs_sub_comm]
      linarith

/-- The true rotation in a direction since the first call. -/
def turned (direction : RotateDirection) (orientation : ℕ → ℚ) (n : ℕ) : ℚ :=
  direction.difference (orientation n) (orientation 0)

/-- The rotation has been started, and the integration is up to date. -/
structure Integrates (direction : RotateDirection) (orientation : ℕ → ℚ) (n : ℕ)
    (rotation : Rotation) : Prop where
  started : rotation.initParaFlag = true
  upToDate : rotation.integration direction =
    ⟨headingOf (orientation n), turned direction orientation n⟩

variable {orientation : ℕ → ℚ} {n : ℕ}

theorem turned_zero : turned direction orientation 0 = 0 := by
  cases direction <;> exact sub_self _

theorem turned_succ : turned direction orientation (n + 1) =
    turned direction orientation n +
      direction.difference (orientation (n + 1)) (orientation n) := by
  cases direction <;> simp only [turned, RotateDirection.difference] <;> ring

/-- The first call starts the integration. -/
theorem integrates_first (fresh : rotation.initParaFlag = false) (ready : input.ready = true)
    (heading : input.heading = headingOf (orientation 0)) :
    Integrates direction orientation 0 (rotation.advance direction angle input).1 := by
  rw [advance, if_pos fresh, initRotate]
  constructor
  · exact ready
  · rw [turned_zero, ← heading]
    cases direction <;> rfl

/-- The other calls bring it up to date. -/
theorem Integrates.next (before : Integrates direction orientation n rotation)
    (heading : input.heading = headingOf (orientation (n + 1)))
    (slow : |orientation (n + 1) - orientation n| < 90) :
    Integrates direction orientation (n + 1) (rotation.advance direction angle input).1 := by
  have going : ¬ rotation.initParaFlag = false := by
    rw [before.started]
    decide
  rw [advance, if_neg going, integrate]
  constructor
  · rw [initParaFlag_setIntegration]
    exact before.started
  · rw [integration_setIntegration, before.upToDate, heading, acrossSeam_headingOf direction slow,
      turned_succ]

/-- A call that brings the integration up to date compares the true rotation. -/
theorem Integrates.rotateIn (delayAngleOffset : ℚ) (positive : 0 < angle)
    (advanced : Integrates direction orientation n (rotation.advance direction angle input).1) :
    let rotated := rotation.rotateIn direction delayAngleOffset angle input
    rotated.rotateCarAngle = turned direction orientation n ∧
      rotated.ret =
        (if needRotateAngle delayAngleOffset angle ≤ turned direction orientation n then 1
          else 0) ∧
      (turned direction orientation n < needRotateAngle delayAngleOffset angle →
        Integrates direction orientation n rotated.rotation) := by
  rcases rotate_spec direction delayAngleOffset input rotation positive with
    ⟨compared, ret, kept⟩
  rw [advanced.upToDate] at compared kept
  rw [compared] at ret kept
  rw [rotateIn_eq]
  refine ⟨compared, ret, fun short => ?_⟩
  rcases kept short with ⟨started, same⟩
  exact ⟨started.trans advanced.started, same⟩

/-! ## The first time -/

section FirstTime

variable {observed happens : ℕ → Prop}
  (agree : ∀ n, (∀ k < n, ¬ happens k) → (observed n ↔ happens n))

include agree

/-- What is observed rightly until it happens did not happen before it was observed. -/
theorem none_before_of_agree {n : ℕ} (none : ∀ k < n, ¬ observed k) : ∀ k < n, ¬ happens k := by
  intro k
  induction k using Nat.strongRecOn with
  | _ k ih =>
      intro below
      rw [← agree k fun earlier before => ih earlier before (before.trans below)]
      exact none k below

/-- It is first observed when it first happens. -/
theorem isLeast_iff_of_agree (m : ℕ) :
    IsLeast { n | observed n } m ↔ IsLeast { n | happens n } m := by
  constructor
  · intro ⟨here, least⟩
    have none := none_before_of_agree agree fun k below observed =>
      absurd (least observed) (not_le.mpr below)
    exact ⟨(agree m none).mp here, fun k happened => not_lt.mp fun below => none k below happened⟩
  · intro ⟨here, least⟩
    have none : ∀ k < m, ¬ happens k := fun k below happened =>
      absurd (least happened) (not_le.mpr below)
    refine ⟨(agree m none).mpr here, fun k observed => not_lt.mp fun below => ?_⟩
    have noneBefore := fun earlier (before : earlier < k) => none earlier (before.trans below)
    exact none k below ((agree k noneBefore).mp observed)

end FirstTime

section Run

variable {inputs : ℕ → RotateInput} (positive : 0 < angle)
  (fresh : rotation.initParaFlag = false) (ready : (inputs 0).ready = true)
  (headings : ∀ n, (inputs n).heading = headingOf (orientation n))
  (slow : ∀ n, |orientation (n + 1) - orientation n| < 90)

include positive fresh ready headings slow

/-- As long as the target angle was not reached before, a call compares the true rotation. -/
theorem rotations_spec (direction : RotateDirection) (delayAngleOffset : ℚ) (n : ℕ)
    (short : ∀ k, 0 < k → k < n →
      turned direction orientation k < needRotateAngle delayAngleOffset angle) :
    let rotated := rotation.rotations direction delayAngleOffset angle inputs n
    rotated.rotateCarAngle = turned direction orientation n ∧
      rotated.ret =
        (if needRotateAngle delayAngleOffset angle ≤ turned direction orientation n then 1
          else 0) ∧
      (turned direction orientation n < needRotateAngle delayAngleOffset angle →
        Integrates direction orientation n rotated.rotation) := by
  induction n with
  | zero => exact (integrates_first fresh ready (headings 0)).rotateIn delayAngleOffset positive
  | succ n ih =>
      have here : turned direction orientation n < needRotateAngle delayAngleOffset angle := by
        rcases Nat.eq_zero_or_pos n with rfl | later
        · rw [turned_zero]
          exact needRotateAngle_pos positive
        · exact short n later n.lt_succ_self
      have before := (ih fun k later below => short k later (Nat.lt_succ_of_lt below)).2.2 here
      exact (before.next (headings (n + 1)) (slow n)).rotateIn delayAngleOffset positive

/-- The first call returns 0.  The rotation that the calls measure is the true one, up to the
call that returns 1.  That is the first one after the first call at which the true rotation is
at least the required angle. -/
theorem rotations_measure (direction : RotateDirection) (delayAngleOffset : ℚ) :
    (rotation.rotations direction delayAngleOffset angle inputs 0).ret = 0 ∧
    (∀ n, (∀ k, 0 < k → k < n →
        (rotation.rotations direction delayAngleOffset angle inputs k).ret ≠ 1) →
      (rotation.rotations direction delayAngleOffset angle inputs n).rotateCarAngle =
        turned direction orientation n) ∧
    ∀ m, IsLeast { n | 0 < n ∧
        (rotation.rotations direction delayAngleOffset angle inputs n).ret = 1 } m ↔
      IsLeast { n | 0 < n ∧
        needRotateAngle delayAngleOffset angle ≤ turned direction orientation n } m := by
  have spec := rotations_spec positive fresh ready headings slow direction delayAngleOffset
  have shortBefore {n : ℕ} (none : ∀ k < n, ¬ (0 < k ∧
      needRotateAngle delayAngleOffset angle ≤ turned direction orientation k)) :
      ∀ k, 0 < k → k < n →
        turned direction orientation k < needRotateAngle delayAngleOffset angle :=
    fun k later below => not_le.mp fun reached => none k below ⟨later, reached⟩
  have agree (n : ℕ) (none : ∀ k < n, ¬ (0 < k ∧
      needRotateAngle delayAngleOffset angle ≤ turned direction orientation k)) :
      (0 < n ∧ (rotation.rotations direction delayAngleOffset angle inputs n).ret = 1) ↔
        0 < n ∧ needRotateAngle delayAngleOffset angle ≤ turned direction orientation n := by
    rw [(spec n (shortBefore none)).2.1]
    apply and_congr_right
    intro later
    split
    next reached => exact ⟨fun _ => reached, fun _ => rfl⟩
    next short => exact ⟨fun other => absurd other (by decide), fun reached => absurd reached short⟩
  refine ⟨?_, ?_, isLeast_iff_of_agree agree⟩
  · have required : ¬ needRotateAngle delayAngleOffset angle ≤ turned direction orientation 0 := by
      rw [turned_zero]
      exact not_le.mpr (needRotateAngle_pos positive)
    rw [(spec 0 fun k later below => absurd below (Nat.not_lt_zero k)).2.1, if_neg required]
  · intro n going
    apply (spec n _).1
    apply shortBefore
    exact none_before_of_agree agree fun k below returned => going k returned.1 below returned.2

end Run

/-- A car at 350 degrees turns left by 15 degrees a call across the seam, once back to 345
degrees, and on.  With a target of 90 degrees and an offset of 7 the sixth later call is the
first that returns 1. -/
theorem rotations_measure_seam :
    IsLeast { n | 0 < n ∧ (({} : Rotation).rotations .left 7 90
      (fun n => { heading := headingOf (if n = 2 then 345 else 350 + 15 * n) }) n).ret = 1 } 6 := by
  let orientation : ℕ → ℚ := fun n => if n = 2 then 345 else 350 + 15 * n
  have fresh : ({} : Rotation).initParaFlag = false := rfl
  have headings : ∀ n, ({ heading := headingOf (orientation n) } : RotateInput).heading =
    headingOf (orientation n) := fun _ => rfl
  have slow : ∀ n, |orientation (n + 1) - orientation n| < 90 := by
    intro n
    rcases eq_or_ne n 1 with rfl | notBack
    · norm_num [orientation, abs_lt]
    · rcases eq_or_ne n 2 with rfl | notOn
      · norm_num [orientation, abs_lt]
      · simp only [orientation, notOn, if_false, Nat.reduceEqDiff, notBack]
        push_cast
        rw [abs_lt]
        constructor <;> linarith
  have measured := rotations_measure (by norm_num : (0 : ℚ) < 90) fresh rfl headings slow .left 7
  apply (measured.2.2 6).mpr
  simp only [needRotateAngle, turned, RotateDirection.difference, orientation]
  constructor
  · norm_num
  · rintro n ⟨-, reached⟩
    by_contra fewer
    have small : (n : ℚ) ≤ 5 := by exact_mod_cast Nat.le_of_lt_succ (not_le.mp fewer)
    norm_num at reached
    split at reached <;> linarith

end Rotation

end DrivingControl.Controler

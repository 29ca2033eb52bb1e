import DrivingControl.Controler.ForwardToLine

/-!
# Slowing down before a station

Near a station `ForwardToLine` sets the target speed to 200 and computes the deceleration
of a uniformly retarded motion.  Both divisions truncate, and other than `calDspeed`
nothing keeps the result from becoming zero.
-/

namespace DrivingControl.Controler

open DrivingControl.Library

namespace LineDrive

/-- The iteration enters the near branch for an action that requires slowing down, and the car
is still short of the target. -/
structure EntersNear (settings : LineSettings) (input : LineInput) (drive : LineDrive) : Prop where
  going : drive.initParaFlag = true
  away : input.pose.xPos < -drive.finalDelayDistance settings input.speed
  far : (drive.approach settings input.pose.xPos).arrivingFlag = false
  near : input.pose.xPos > -drive.referenceDistance
  slows : drive.SlowsDown
  short : input.pose.xPos < 0

/-- `ManageWheelSpeed` after the barrier status has been set. -/
def manageStep : StepFn LineDrive Int :=
  fun status drive => some (drive.setBarrierStatus status).manageWheelSpeed

/-- Without a barrier, a speed above 200 is lowered, and not below 200. -/
def Lowers (drive : LineDrive) (status : Int) (next : LineDrive) : Prop :=
  ¬ (drive.setBarrierStatus status).BarrierAhead → 200 < drive.currentLinearSpeed →
    200 ≤ next.currentLinearSpeed ∧ next.currentLinearSpeed < drive.currentLinearSpeed

/-- The near branch returns, and slows down a car that drives faster than 200. -/
def SlowsEffectively (settings : LineSettings) (input : LineInput) (drive : LineDrive) : Prop :=
  drive.EntersNear settings input →
    ∃ slowed, (drive.approach settings input.pose.xPos).adjust input = some slowed ∧
      slowed.targetSpeed = 200 ∧
      (200 < drive.currentLinearSpeed →
        1 ≤ slowed.dspeed ∧ ∀ statuses, Along manageStep Lowers statuses slowed)

variable {settings : LineSettings} {input : LineInput} {drive : LineDrive}

/-- What the near branch makes of the drive. -/
theorem EntersNear.adjust (entered : drive.EntersNear settings input) :
    (drive.approach settings input.pose.xPos).adjust input = some { drive with
      targetSpeed := 200
      dspeed := ((drive.currentLinearSpeed * drive.currentLinearSpeed - 200 * 200).tdiv
        |2 * input.pose.xPos| * 9).tdiv 100
      arrivingFlag := true
      mode := .lowSpeedMode } := by
  have same : drive.approach settings input.pose.xPos = drive := by
    rcases approach_cases settings drive input.pose.xPos with same | ⟨speed, -, crawls⟩
    · exact same
    · have far := entered.far
      rw [crawls] at far
      cases far
  have far := entered.far
  have short := entered.short
  rw [same] at far ⊢
  rw [LineDrive.adjust, if_neg (by rw [far]; decide), if_pos entered.near,
    if_pos entered.slows, slowDown, if_neg (by omega)]
  rfl

/-- The deceleration is at least 1 exactly if the distance is short enough for the speed. -/
theorem dspeed_pos_iff {speed xPos : Int} (fast : 200 < speed) (short : xPos < 0) :
    1 ≤ ((speed * speed - 200 * 200).tdiv |2 * xPos| * 9).tdiv 100 ↔
      24 * |xPos| ≤ speed * speed - 200 * 200 := by
  have energy : 0 ≤ speed * speed - 200 * 200 := by
    have square : 200 * 200 ≤ speed * speed :=
      Int.mul_le_mul (Int.le_of_lt fast) (Int.le_of_lt fast) (by decide) (by omega)
    omega
  have distance : |xPos| = -xPos := abs_of_neg short
  have twice : |2 * xPos| = 2 * |xPos| := by
    rw [distance, abs_of_neg (by omega)]
    omega
  have positive : 0 < 2 * |xPos| := by omega
  rw [twice, Int.tdiv_eq_ediv_of_nonneg energy]
  generalize quotient : (speed * speed - 200 * 200) / (2 * |xPos|) = q
  have nonneg : 0 ≤ q := quotient ▸ Int.ediv_nonneg energy (Int.le_of_lt positive)
  calc 1 ≤ (q * 9).tdiv 100
      ↔ 12 ≤ q := by rw [Int.tdiv_eq_ediv_of_nonneg (by omega)]; omega
    _ ↔ 12 * (2 * |xPos|) ≤ speed * speed - 200 * 200 := by
        rw [← quotient]
        exact Int.le_ediv_iff_mul_le positive
    _ ↔ 24 * |xPos| ≤ speed * speed - 200 * 200 := by omega

theorem setBarrierStatus_speeds (drive : LineDrive) (status : Int) :
    (drive.setBarrierStatus status).currentLinearSpeed = drive.currentLinearSpeed ∧
      (drive.setBarrierStatus status).targetSpeed = drive.targetSpeed ∧
      (drive.setBarrierStatus status).dspeed = drive.dspeed := by
  rw [setBarrierStatus]
  split
  · exact ⟨rfl, rfl, rfl⟩
  · exact ⟨rfl, rfl, rfl⟩

/-- One step: the speed falls by the deceleration, and not below the target speed. -/
theorem managedSpeed_lowers (target : drive.targetSpeed = 200) (decelerates : 1 ≤ drive.dspeed)
    (clear : ¬ drive.BarrierAhead) (fast : 200 < drive.currentLinearSpeed) :
    200 ≤ drive.managedSpeed ∧ drive.managedSpeed < drive.currentLinearSpeed := by
  simp only [managedSpeed, target, clear, if_false]
  split_ifs <;> omega

/-- A deceleration of at least 1 is enough, whatever becomes of the barrier in between. -/
theorem along_lowers (target : drive.targetSpeed = 200) (decelerates : 1 ≤ drive.dspeed)
    (statuses : List Int) : Along manageStep Lowers statuses drive := by
  induction statuses generalizing drive with
  | nil => trivial
  | cons status statuses ih =>
      obtain ⟨speed, aim, rate⟩ := setBarrierStatus_speeds drive status
      apply along_cons rfl
      · intro clear fast
        rw [← speed] at fast ⊢
        exact managedSpeed_lowers (aim.trans target) (rate ▸ decelerates) clear fast
      · exact ih (aim.trans target) (rate ▸ decelerates)

/-- In every state, the near branch slows the car down exactly if the car drives at 200 at most
already, or the distance is short enough for its speed. -/
theorem slowsEffectively_iff (settings : LineSettings) (input : LineInput) (drive : LineDrive) :
    drive.SlowsEffectively settings input ↔
      (drive.EntersNear settings input →
        drive.currentLinearSpeed ≤ 200 ∨
          24 * |input.pose.xPos| ≤
            drive.currentLinearSpeed * drive.currentLinearSpeed - 200 * 200) := by
  apply forall_congr'
  intro entered
  rw [entered.adjust]
  constructor
  · rintro ⟨slowed, adjusted, -, slows⟩
    cases adjusted
    rcases le_or_gt drive.currentLinearSpeed 200 with slow | fast
    · exact .inl slow
    · exact .inr ((dspeed_pos_iff fast entered.short).mp (slows fast).1)
  · intro enough
    refine ⟨_, rfl, rfl, fun fast => ?_⟩
    have decelerates := (dspeed_pos_iff fast entered.short).mpr
      (enough.resolve_left (Int.not_le.mpr fast))
    exact ⟨decelerates, along_lowers rfl decelerates⟩

/-- With 210 mm/s, and 545 mm short of the target, the deceleration is 0. -/
theorem slowed_by_nothing :
    ¬ ∀ (settings : LineSettings) (input : LineInput) (drive : LineDrive),
      drive.SlowsEffectively settings input := by
  intro all
  let settings : LineSettings := { carID := 1001, delayDistanceOffset := 40 }
  let input : LineInput := { pose := ⟨-545, 0, 0⟩, speed := 210 }
  let drive : LineDrive :=
    { initParaFlag := true
      runningMode := goForwardMode
      action := actionSpeedDown
      currentLinearSpeed := 210
      targetSpeed := 210
      lastLinearSpeed := 210
      savedTargetSpeed := 210 }
  have entered : drive.EntersNear settings input := by
    constructor <;> decide
  obtain ⟨slowed, adjusted, -, slows⟩ := all settings input drive entered
  have dspeed : slowed.dspeed = 0 := by
    rw [entered.adjust] at adjusted
    cases adjusted
    rfl
  have faster := (slows (by decide)).1
  rw [dspeed] at faster
  exact absurd faster (by decide)

end LineDrive

end DrivingControl.Controler

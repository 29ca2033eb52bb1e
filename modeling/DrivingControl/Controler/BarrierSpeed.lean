import DrivingControl.Controler.ForwardToLine

/-!
# The speed before an obstacle

`ManageWheelSpeed` allows no more than 300 mm/s while an obstacle is far or middle.  The
first iteration for a target sends a speed as well, and does not look at the barrier.
-/

namespace DrivingControl.Controler

open DrivingControl.Library

namespace LineDrive

/-- While an obstacle is far or middle, an iteration sends no speed above 300. -/
def CapsSpeed (settings : LineSettings) (drive : LineDrive) : LineEvent → LineDrive → Prop
  | .iterate input, _ =>
      drive.BarrierAhead →
        ∀ iteration ∈ drive.forwardToLine settings input, ∀ speed ∈ iteration.sent, speed ≤ 300
  | _, _ => True

/-- While an obstacle is far or middle, the car is started only to charge, or when it drives
backward or at 300 at most, or for a target speed of 300 at most. -/
def StartsSlowly (drive : LineDrive) : LineEvent → LineDrive → Prop
  | .iterate input, _ =>
      drive.BarrierAhead → drive.initParaFlag = false → input.pose.xPos < 0 →
        drive.action = actionCharge ∨ input.speed ≤ 300 ∨ input.speed ≥ 32768 ∨
          drive.targetSpeed ≤ 300
  | _, _ => True

variable {settings : LineSettings} {input : LineInput} {drive : LineDrive}

/-! ## The first iteration -/

theorem start_behind (drive : LineDrive) (behind : input.pose.xPos < 0) :
    (drive.start input).sent = some (drive.prepare input.speed).currentLinearSpeed := by
  rw [start, if_neg (not_le.mpr behind)]
  cases input.ready <;> rfl

/-- The first speed is at most 300 exactly if the car starts slowly. -/
theorem prepare_le_iff (drive : LineDrive) (speed : Int) :
    (drive.prepare speed).currentLinearSpeed ≤ 300 ↔
      drive.action = actionCharge ∨ speed ≤ 300 ∨ speed ≥ 32768 ∨ drive.targetSpeed ≤ 300 := by
  rw [prepare]
  split
  case isTrue charging => simp [charging]
  case isFalse other =>
    simp only [other, false_or, startSpeed]
    split
    · omega
    · split <;> omega

/-! ## Every other iteration -/

/-- What holds between the first iteration and the last one.  A target speed below zero can
only come from the target itself, and then the car has not been started faster than 300. -/
structure Bounded (drive : LineDrive) : Prop where
  aspeed : 0 ≤ drive.aspeed
  forward : 0 ≤ drive.savedTargetSpeed → 0 ≤ drive.targetSpeed
  slow : 0 ≤ drive.targetSpeed ∨ drive.currentLinearSpeed ≤ 300
  before : drive.savedTargetSpeed < 0 → drive.arrivingFlag = false →
    drive.currentLinearSpeed ≤ 300 ∧ drive.targetSpeed ≤ 300 ∧
      (0 ≤ drive.targetSpeed → drive.targetSpeed < drive.currentLinearSpeed → 0 ≤ drive.dspeed)

/-- Near the target the car drives to a speed that is not below zero. -/
theorem Bounded.of_near (aspeed : 0 ≤ drive.aspeed) (forward : 0 ≤ drive.targetSpeed)
    (near : drive.arrivingFlag = true) : drive.Bounded where
  aspeed := aspeed
  forward _ := forward
  slow := .inl forward
  before _ far := absurd (near.symm.trans far) (by decide)

theorem Bounded.approach (bounded : drive.Bounded) (settings : LineSettings) (xPos : Int) :
    (drive.approach settings xPos).Bounded := by
  rcases approach_cases settings drive xPos with same | ⟨speed, forward, crawls⟩
  · rwa [same]
  · rw [crawls]
    exact Bounded.of_near bounded.aspeed forward rfl

theorem Bounded.adjust {next : LineDrive} (bounded : drive.Bounded)
    (adjusted : drive.adjust input = some next) : next.Bounded := by
  rcases adjust_cases adjusted with same | ⟨slowed, kept | through, rfl⟩ |
    ⟨going, aspeed, positive, rfl⟩ | ⟨dspeed, positive, rfl⟩
  · rwa [same]
  · subst kept
    exact ⟨bounded.aspeed, bounded.forward, bounded.slow, fun _ => nofun⟩
  · rcases slowDown_eq_some through with ⟨-, rfl⟩
    exact Bounded.of_near bounded.aspeed ((by decide : (0 : Int) ≤ 200)) rfl
  · constructor
    · exact positive
    · exact id
    · rcases lt_or_ge drive.savedTargetSpeed 0 with negative | forward
      · exact .inr (bounded.before negative going).1
      · exact .inl forward
    · intro negative _
      refine ⟨(bounded.before negative going).1, ?_, fun forward => ?_⟩
      · exact Int.le_trans (Int.le_of_lt negative) (by decide)
      · exact absurd forward (Int.not_le.mpr negative)
  · constructor
    · exact bounded.aspeed
    · exact fun _ => (by decide : (0 : Int) ≤ 200)
    · exact .inl ((by decide : (0 : Int) ≤ 200))
    · intro negative going
      exact ⟨(bounded.before negative going).1, (by decide : (200 : Int) ≤ 300), fun _ _ => positive⟩

/-- The speed that `ManageWheelSpeed` leaves is at most 300 before an obstacle. -/
theorem Bounded.managedSpeed_le (bounded : drive.Bounded) (barrier : drive.BarrierAhead) :
    drive.managedSpeed ≤ 300 := by
  have aspeed := bounded.aspeed
  have slow := bounded.slow
  simp only [managedSpeed, barrier, if_true]
  split_ifs <;> omega

theorem Bounded.manageWheelSpeed (bounded : drive.Bounded) : drive.manageWheelSpeed.Bounded := by
  have aspeed := bounded.aspeed
  have slow := bounded.slow
  constructor
  · exact aspeed
  · exact bounded.forward
  · show 0 ≤ drive.targetSpeed ∨ drive.managedSpeed ≤ 300
    simp only [managedSpeed]
    split_ifs <;> omega
  · intro negative going
    have before := bounded.before negative going
    show drive.managedSpeed ≤ 300 ∧ drive.targetSpeed ≤ 300 ∧
      (0 ≤ drive.targetSpeed → drive.targetSpeed < drive.managedSpeed → 0 ≤ drive.dspeed)
    simp only [managedSpeed]
    split_ifs <;> omega

theorem Bounded.control (bounded : drive.Bounded) (input : LineInput) :
    (drive.control input).drive.Bounded := by
  have managed := bounded.manageWheelSpeed
  rw [LineDrive.control]
  split
  · rw [wheelControl]
    split
    · exact ⟨managed.aspeed, managed.forward, managed.slow, managed.before⟩
    · exact ⟨managed.aspeed, managed.forward, managed.slow, managed.before⟩
  · exact bounded

/-- What is sent is the speed that `ManageWheelSpeed` leaves. -/
theorem managedSpeed_of_sent {speed : Int} (sent : speed ∈ (drive.control input).sent) :
    speed = drive.managedSpeed := by
  rw [control] at sent
  split at sent
  · rw [wheelControl] at sent
    split at sent
    · exact (Option.mem_some.mp sent).symm
    · cases sent
  · cases sent

/-- The adjustment does not look at the barrier. -/
theorem adjusted_barrierStatus {next : LineDrive} (settings : LineSettings)
    (adjusted : (drive.approach settings input.pose.xPos).adjust input = some next) :
    next.barrierStatus = drive.barrierStatus := by
  have same : (drive.approach settings input.pose.xPos).barrierStatus = drive.barrierStatus := by
    rcases approach_cases settings drive input.pose.xPos with same | ⟨speed, -, crawls⟩
    · rw [same]
    · rw [crawls]
      rfl
  rcases adjust_cases adjusted with rfl | ⟨slowed, kept | through, rfl⟩ | ⟨-, -, -, rfl⟩ |
    ⟨-, -, rfl⟩
  · exact same
  · rw [kept]
    exact same
  · rcases slowDown_eq_some through with ⟨-, rfl⟩
    exact same
  · exact same
  · exact same

/-! ## Runs -/

/-- What holds between the calls. -/
def Invariant (drive : LineDrive) : Prop := drive.initParaFlag = true → drive.Bounded

/-- The first speed is below zero, or above 300, only as the target speed is. -/
theorem prepare_bounds (drive : LineDrive) (speed : Int) :
    (0 ≤ (drive.prepare speed).savedTargetSpeed →
        0 ≤ (drive.prepare speed).currentLinearSpeed) ∧
      ((drive.prepare speed).savedTargetSpeed < 0 →
        (drive.prepare speed).currentLinearSpeed ≤ 300) := by
  rw [prepare]
  split
  · constructor <;> intro _ <;> simp
  · simp only [startSpeed]
    split_ifs <;> constructor <;> omega

theorem bounded_start (first : drive.initParaFlag = false)
    (ready : (drive.start input).drive.initParaFlag = true) :
    (drive.start input).drive.Bounded := by
  have bounds := drive.prepare_bounds input.speed
  rw [start] at ready ⊢
  by_cases ahead : input.pose.xPos ≥ 0
  · rw [if_pos ahead] at ready
    exact absurd (first.symm.trans ready) (by decide)
  · rw [if_neg ahead] at ready ⊢
    cases started : input.ready with
    | false =>
        rw [started] at ready
        cases ready
    | true =>
        constructor
        · exact Int.le_refl 0
        · exact bounds.1
        · rcases lt_or_ge (drive.prepare input.speed).savedTargetSpeed 0 with negative | forward
          · exact .inr (bounds.2 negative)
          · exact .inl (bounds.1 forward)
        · intro negative _
          have slow := bounds.2 negative
          exact ⟨slow, slow, fun _ less => absurd less (Int.lt_irrefl _)⟩

theorem invariant_step {event : LineEvent} {next : LineDrive} (invariant : drive.Invariant)
    (stepped : step settings event drive = some next) : next.Invariant := by
  intro going
  cases event with
  | iterate input =>
      rcases Option.map_eq_some_iff.mp stepped with ⟨iteration, iterated, rfl⟩
      cases first : drive.initParaFlag with
      | false =>
          rw [forwardToLine_start first, Option.some.injEq] at iterated
          subst iterated
          exact bounded_start first going
      | true =>
          rcases forwardToLine_cases first iterated with rfl | ⟨adjusted, through, rfl⟩
          · cases going
          · exact (((invariant first).approach settings _).adjust through).control input
  | setBarrierStatus status =>
      cases stepped
      by_cases changes : drive.lastStatus ≠ status
      · rw [setBarrierStatus, if_pos changes] at going ⊢
        have bounded := invariant going
        exact ⟨bounded.aspeed, bounded.forward, bounded.slow, bounded.before⟩
      · rw [setBarrierStatus, if_neg changes] at going ⊢
        exact invariant going
  | newTarget targetSpeed runningMode action =>
      cases stepped
      cases going

/-- The iterations after the first one keep to the speed. -/
theorem capsSpeed_of_going (bounded : drive.Bounded) (going : drive.initParaFlag = true) :
    ∀ iteration ∈ drive.forwardToLine settings input, drive.BarrierAhead →
      ∀ speed ∈ iteration.sent, speed ≤ 300 := by
  intro iteration iterated barrier speed sent
  rcases forwardToLine_cases going iterated with rfl | ⟨adjusted, through, rfl⟩
  · cases sent
  · rw [managedSpeed_of_sent sent]
    apply ((bounded.approach settings _).adjust through).managedSpeed_le
    rw [BarrierAhead, adjusted_barrierStatus settings through]
    exact barrier

/-- An iteration keeps to the speed exactly if it starts the car slowly, or does not start it. -/
theorem capsSpeed_iff_startsSlowly {event : LineEvent} {next : LineDrive}
    (invariant : drive.Invariant) :
    drive.CapsSpeed settings event next ↔ drive.StartsSlowly event next := by
  cases event with
  | iterate input =>
      cases first : drive.initParaFlag with
      | false =>
          apply imp_congr_right
          intro barrier
          rw [forwardToLine_start first]
          by_cases behind : input.pose.xPos < 0
          · have sent := start_behind drive behind
            have bound := drive.prepare_le_iff input.speed
            simp [sent, first, behind, bound]
          · have sent : (drive.start input).sent = none := by
              rw [start, if_pos (not_lt.mp behind)]
            simp [sent, behind]
      | true =>
          constructor
          · intro _ _ starts
            exact absurd (first.symm.trans starts) (by decide)
          · intro _ barrier iteration iterated
            exact capsSpeed_of_going (invariant first) first iteration iterated barrier
  | setBarrierStatus status => exact Iff.rfl
  | newTarget targetSpeed runningMode action => exact Iff.rfl

/-- In every run, whatever the state a target is taken up in, the speed is capped exactly if
the car starts slowly whenever it starts before an obstacle. -/
theorem capsSpeed_iff (settings : LineSettings) (start : LineDrive) (events : List LineEvent) :
    Along (step settings) (CapsSpeed settings) events { start with initParaFlag := false } ↔
      Along (step settings) StartsSlowly events { start with initParaFlag := false } := by
  apply along_iff_of_guard (fun _ _ _ invariant stepped _ => invariant_step invariant stepped)
  · intro drive event next invariant _
    exact capsSpeed_iff_startsSlowly invariant
  · exact nofun

/-- The car still rolls with 500 mm/s when it takes up a target before a far obstacle. -/
theorem started_before_barrier :
    ¬ ∀ (settings : LineSettings) (start : LineDrive) (events : List LineEvent),
      Along (step settings) (CapsSpeed settings) events
        { start with initParaFlag := false } := by
  intro all
  let settings : LineSettings := { carID := 1001, delayDistanceOffset := 40 }
  let input : LineInput := { pose := ⟨-5000, 0, 0⟩, speed := 500 }
  have capped := all settings {}
    [.setBarrierStatus 1, .newTarget 1000 goForwardMode actionRun, .iterate input]
  have rolling := (capped _ rfl).2 _ rfl |>.2 _ rfl |>.1
  have slow := rolling (by decide) _ rfl 500 rfl
  exact absurd slow (by decide)

end LineDrive

end DrivingControl.Controler

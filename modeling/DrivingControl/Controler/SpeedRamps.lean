import DrivingControl.Controler.ForwardToLine
import DrivingControl.Library.Ramp
import Mathlib.Data.Rat.Floor

/-!
# Speed ramps

`ManageWheelSpeed` moves the speed towards the target speed by `aspeed` away from
standstill and by `dspeed` towards it.  Forward and backward driving have a branch each.
The two are mirror images, and without a barrier both are ramps.
-/

namespace DrivingControl.Controler

open DrivingControl.Library

namespace LineDrive

variable {drive : LineDrive}

/-- Both speeds are forward or both are backward; zero counts as either. -/
def SameDirection (drive : LineDrive) : Prop :=
  (0 ≤ drive.currentLinearSpeed ∧ 0 ≤ drive.targetSpeed) ∨
    (drive.currentLinearSpeed ≤ 0 ∧ drive.targetSpeed ≤ 0)

instance (drive : LineDrive) : Decidable drive.SameDirection :=
  inferInstanceAs (Decidable (_ ∨ _))

/-- The step of the ramp. -/
def rampStep (drive : LineDrive) : Int :=
  if |drive.currentLinearSpeed| < |drive.targetSpeed| then drive.aspeed else drive.dspeed

/-- The speed after a number of calls of `ManageWheelSpeed`. -/
def speedAfter (drive : LineDrive) (calls : ℕ) : Int :=
  (manageWheelSpeed^[calls] drive).currentLinearSpeed

/-- The drive with both speeds negated. -/
def reversed (drive : LineDrive) : LineDrive :=
  { drive with
    currentLinearSpeed := -drive.currentLinearSpeed
    targetSpeed := -drive.targetSpeed }

/-! ## One step -/

/-- Without a barrier both branches take one step of a ramp. -/
theorem managedSpeed_eq_ramp (clear : ¬ drive.BarrierAhead) (same : drive.SameDirection)
    (dspeed : 0 < drive.dspeed) :
    drive.managedSpeed = ramp drive.rampStep drive.targetSpeed drive.currentLinearSpeed := by
  rw [managedSpeed, ramp, rampStep]
  rcases same with ⟨current, target⟩ | ⟨current, target⟩
  · rw [abs_of_nonneg current, abs_of_nonneg target]
    simp only [ge_iff_le, target, current, and_self, if_true, clear, if_false]
    split <;> split <;> omega
  · rw [abs_of_nonpos current, abs_of_nonpos target]
    simp only [ge_iff_le, target, current, and_self, if_true, clear, if_false]
    split <;> split <;> omega

/-- The branches are mirror images. -/
theorem manageWheelSpeed_reversed (clear : ¬ drive.BarrierAhead) :
    drive.reversed.manageWheelSpeed = drive.manageWheelSpeed.reversed := by
  have mirrored : drive.reversed.managedSpeed = -drive.managedSpeed := by
    have reversedClear : ¬ drive.reversed.BarrierAhead := clear
    simp only [managedSpeed, clear, reversedClear, if_false]
    simp only [reversed]
    grind
  simp only [manageWheelSpeed, mirrored]
  rfl

/-- Every step of a run with both speeds negated is negated. -/
theorem speedAfter_reversed (clear : ¬ drive.BarrierAhead) (calls : ℕ) :
    drive.reversed.speedAfter calls = -drive.speedAfter calls := by
  have mirrored : manageWheelSpeed^[calls] drive.reversed =
      (manageWheelSpeed^[calls] drive).reversed := by
    induction calls generalizing drive with
    | zero => rfl
    | succ calls ih =>
        have stillClear : ¬ drive.manageWheelSpeed.BarrierAhead := clear
        rw [Function.iterate_succ_apply, Function.iterate_succ_apply,
          manageWheelSpeed_reversed clear, ih stillClear]
  rw [speedAfter, mirrored]
  rfl

theorem rampStep_pos (aspeed : 0 < drive.aspeed) (dspeed : 0 < drive.dspeed) :
    0 < drive.rampStep := by
  rw [rampStep]
  split
  · exact aspeed
  · exact dspeed

/-! ## Any number of steps -/

section Run

variable (clear : ¬ drive.BarrierAhead) (same : drive.SameDirection)
  (aspeed : 0 < drive.aspeed) (dspeed : 0 < drive.dspeed)

include clear same aspeed dspeed

/-- Between the speed at the start and the target speed the step of the ramp stays. -/
theorem manageWheelSpeed_between {speed : Int}
    (between : drive.currentLinearSpeed ≤ speed ∧ speed ≤ drive.targetSpeed ∨
      drive.targetSpeed ≤ speed ∧ speed ≤ drive.currentLinearSpeed) :
    manageWheelSpeed { drive with currentLinearSpeed := speed } =
      { drive with currentLinearSpeed := ramp drive.rampStep drive.targetSpeed speed } := by
  have stillSame : SameDirection { drive with currentLinearSpeed := speed } := by
    simp only [SameDirection] at same ⊢
    omega
  have stillClear : ¬ BarrierAhead { drive with currentLinearSpeed := speed } := clear
  have nonneg := (rampStep_pos aspeed dspeed).le
  rw [manageWheelSpeed, managedSpeed_eq_ramp stillClear stillSame dspeed]
  rcases eq_or_ne speed drive.targetSpeed with arrived | going
  · have positive : 0 < rampStep { drive with currentLinearSpeed := speed } :=
      rampStep_pos aspeed dspeed
    rw [arrived] at positive ⊢
    rw [ramp_self nonneg, ramp_self positive.le]
  · have step : rampStep { drive with currentLinearSpeed := speed } = drive.rampStep := by
      simp only [SameDirection] at same
      simp only [rampStep]
      congr 1
      grind
    rw [step]

/-- The speeds of a run are those of the ramp, and nothing else changes. -/
theorem manageWheelSpeed_iterate (calls : ℕ) :
    manageWheelSpeed^[calls] drive =
      { drive with
        currentLinearSpeed :=
          (ramp drive.rampStep drive.targetSpeed)^[calls] drive.currentLinearSpeed } := by
  have nonneg := (rampStep_pos aspeed dspeed).le
  induction calls with
  | zero => rfl
  | succ calls ih =>
      rw [Function.iterate_succ_apply', ih, Function.iterate_succ_apply']
      apply manageWheelSpeed_between clear same aspeed dspeed
      have gone := nsmul_nonneg nonneg calls
      rcases le_total drive.currentLinearSpeed drive.targetSpeed with below | above
      · rw [ramp_iterate_up nonneg below]
        omega
      · rw [ramp_iterate_down nonneg above]
        omega

theorem speedAfter_eq (calls : ℕ) :
    drive.speedAfter calls =
      (ramp drive.rampStep drive.targetSpeed)^[calls] drive.currentLinearSpeed := by
  rw [speedAfter, manageWheelSpeed_iterate clear same aspeed dspeed]

/-- The speed moves towards the target speed, never past it, is there as soon as the steps
cover the distance, and stays.  The run with both speeds negated is the mirror image. -/
theorem speedAfter_converges (calls : ℕ) :
    (drive.currentLinearSpeed ≤ drive.targetSpeed →
      drive.speedAfter calls ≤ drive.speedAfter (calls + 1) ∧
        drive.speedAfter (calls + 1) ≤ drive.targetSpeed) ∧
    (drive.targetSpeed ≤ drive.currentLinearSpeed →
      drive.targetSpeed ≤ drive.speedAfter (calls + 1) ∧
        drive.speedAfter (calls + 1) ≤ drive.speedAfter calls) ∧
    (⌈(|drive.targetSpeed - drive.currentLinearSpeed| : ℚ) / drive.rampStep⌉₊ ≤ calls →
      drive.speedAfter calls = drive.targetSpeed) ∧
    drive.reversed.speedAfter calls = -drive.speedAfter calls := by
  have positive := rampStep_pos aspeed dspeed
  have speeds := speedAfter_eq clear same aspeed dspeed
  refine ⟨?_, ?_, ?_, ?_⟩
  · intro below
    rw [speeds, speeds]
    exact ramp_iterate_rises positive.le below calls
  · intro above
    rw [speeds, speeds]
    exact ramp_iterate_falls positive.le above calls
  · intro enough
    rw [speeds]
    apply ramp_iterate_eq_target positive.le
    rw [Nat.ceil_le, div_le_iff₀ (by exact_mod_cast positive)] at enough
    rw [nsmul_eq_mul]
    exact_mod_cast enough
  · exact speedAfter_reversed clear calls

end Run

/-- From 500 to 1000 by steps of 150: four calls are needed and enough. -/
theorem speedAfter_converges_faster :
    let drive : LineDrive :=
      { currentLinearSpeed := 500, targetSpeed := 1000, aspeed := 150, dspeed := 90 }
    drive.speedAfter 4 = 1000 ∧ drive.reversed.speedAfter 4 = -1000 := by
  intro drive
  have clear : ¬ drive.BarrierAhead := by decide
  rcases speedAfter_converges clear (by decide) (by decide) (by decide) 4 with
    ⟨-, -, arrives, mirrored⟩
  have arrived : drive.speedAfter 4 = 1000 := by
    apply arrives
    rw [Nat.ceil_le]
    norm_num [drive, rampStep]
  rw [mirrored, arrived]
  exact ⟨rfl, rfl⟩

end LineDrive

end DrivingControl.Controler

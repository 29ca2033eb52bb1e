import DrivingControl.Controler.SpeedRamps

/-!
# The deceleration of the segment before

`ForwardToLine` starts without a deceleration of its own.  A segment with a target speed below
300 mm/s is started at 300, and what brings it down to its target speed is the deceleration
that an earlier segment has left.  One that was left near a target at less than 200 mm/s is
below zero, and the car gets faster by it.
-/

namespace DrivingControl.Controler

open DrivingControl.Library

namespace LineDrive

variable {drive : LineDrive}

/-- One control above the target speed. -/
theorem managedSpeed_above (clear : ¬ drive.BarrierAhead) (forward : 0 ≤ drive.targetSpeed)
    (above : drive.targetSpeed ≤ drive.currentLinearSpeed) :
    drive.managedSpeed =
      if drive.currentLinearSpeed = drive.targetSpeed then drive.targetSpeed
      else max drive.targetSpeed (drive.currentLinearSpeed - drive.dspeed) := by
  simp only [managedSpeed, clear, if_false]
  split_ifs <;> omega

/-- Any number of controls above the target speed, whatever the sign of the deceleration is. -/
theorem manageWheelSpeed_iterate_above (clear : ¬ drive.BarrierAhead)
    (forward : 0 ≤ drive.targetSpeed) (above : drive.targetSpeed < drive.currentLinearSpeed)
    (calls : ℕ) :
    manageWheelSpeed^[calls] drive = { drive with
      currentLinearSpeed :=
        max drive.targetSpeed (drive.currentLinearSpeed - calls * drive.dspeed) } := by
  induction calls with
  | zero =>
      rw [Function.iterate_zero, id, Nat.cast_zero, zero_mul, sub_zero, max_eq_right above.le]
  | succ calls ih =>
      have stillClear : ¬ BarrierAhead { drive with
          currentLinearSpeed :=
            max drive.targetSpeed (drive.currentLinearSpeed - calls * drive.dspeed) } := clear
      have managed := managedSpeed_above stillClear forward (le_max_left _ _)
      rw [Function.iterate_succ_apply', ih, manageWheelSpeed, managed]
      congr 1
      push_cast
      rw [add_mul, one_mul]
      split
      next reached =>
        -- A deceleration that has brought the car down to the target speed is above zero.
        have fallen : drive.currentLinearSpeed - calls * drive.dspeed ≤ drive.targetSpeed :=
          max_eq_left_iff.mp reached
        have slows : 0 < drive.dspeed := by
          by_contra rises
          have := mul_nonpos_of_nonneg_of_nonpos (Int.natCast_nonneg calls) (not_lt.mp rises)
          omega
        rw [max_eq_left (by omega)]
      next going =>
        have above : drive.targetSpeed < drive.currentLinearSpeed - calls * drive.dspeed := by
          by_contra reached
          exact going (max_eq_left (not_lt.mp reached))
        rw [max_eq_right above.le, sub_sub]

/-- Above a target speed the car comes down to it exactly if the deceleration is above zero.
Otherwise every control adds what it falls short of zero. -/
theorem slows_down_iff (clear : ¬ drive.BarrierAhead) (forward : 0 ≤ drive.targetSpeed)
    (above : drive.targetSpeed < drive.currentLinearSpeed) :
    ((∃ calls, drive.speedAfter calls = drive.targetSpeed) ↔ 0 < drive.dspeed) ∧
      (drive.dspeed ≤ 0 → ∀ calls,
        drive.speedAfter calls = drive.currentLinearSpeed + calls * -drive.dspeed) := by
  have speeds (calls : ℕ) : drive.speedAfter calls =
      max drive.targetSpeed (drive.currentLinearSpeed - calls * drive.dspeed) := by
    rw [speedAfter, manageWheelSpeed_iterate_above clear forward above]
  have rises (nonpos : drive.dspeed ≤ 0) (calls : ℕ) :
      drive.speedAfter calls = drive.currentLinearSpeed + calls * -drive.dspeed := by
    have gained := mul_nonneg (Int.natCast_nonneg calls) (neg_nonneg.mpr nonpos)
    rw [mul_neg] at gained ⊢
    rw [speeds, max_eq_right (by omega)]
    ring
  refine ⟨⟨?_, ?_⟩, rises⟩
  · rintro ⟨calls, reached⟩
    by_contra nonpos
    have gained := mul_nonneg (Int.natCast_nonneg calls) (neg_nonneg.mpr (not_lt.mp nonpos))
    rw [rises (not_lt.mp nonpos)] at reached
    omega
  · intro slows
    refine ⟨(drive.currentLinearSpeed - drive.targetSpeed).toNat, ?_⟩
    rw [speeds, max_eq_left]
    have distance : ((drive.currentLinearSpeed - drive.targetSpeed).toNat : Int) =
        drive.currentLinearSpeed - drive.targetSpeed := Int.toNat_of_nonneg (by omega)
    rw [distance]
    nlinarith

/-- A lift target is approached at less than 200 mm/s, which leaves a deceleration of -2.  The
next target is to be driven to at 150 mm/s.  Its drive starts at 300 and gets faster. -/
theorem slows_down_iff_left_over :
    ∃ drive, run (step ⟨1001, 100⟩)
        [.newTarget 150 goForwardMode actionLiftUpDown,
          .iterate { pose := ⟨-1000, 0, 0⟩, speed := 200 },
          .iterate { pose := ⟨-380, 0, 0⟩, speed := 150 },
          .iterate { pose := ⟨0, 0, 0⟩, speed := 150 },
          .newTarget 150 goForwardMode actionRun,
          .iterate { pose := ⟨-7000, 0, 0⟩, speed := 100 },
          .iterate { pose := ⟨-6900, 0, 0⟩, speed := 300 }] {} = some drive ∧
      drive.targetSpeed = 150 ∧ (∀ calls, drive.speedAfter calls = 302 + calls * 2) ∧
      ¬ ∃ calls, drive.speedAfter calls = drive.targetSpeed := by
  let left : LineDrive :=
    { initParaFlag := true
      runningMode := goForwardMode
      currentLinearSpeed := 302
      targetSpeed := 150
      aspeed := 30
      dspeed := -2
      lastLinearSpeed := 302
      mode := .highSpeedMode
      lastPose := ⟨-6900, 0, 0⟩
      savedTargetSpeed := 150 }
  have clear : ¬ left.BarrierAhead := by decide
  refine ⟨left, by decide +kernel, rfl, ?_⟩
  rcases slows_down_iff clear (by decide) (by decide) with ⟨reaches, rises⟩
  constructor
  · exact rises (by decide)
  · rw [reaches]
    decide

end LineDrive

end DrivingControl.Controler

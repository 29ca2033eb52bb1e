import Mathlib.Algebra.Order.ToIntervalMod
import Mathlib.Tactic.Linarith
import Mathlib.Tactic.Positivity

/-!
# Changes across a seam

A reading that wraps jumps by a whole turn where it passes the seam.  The change between
two readings is told from such a jump by its size: one larger than a threshold is taken
for a jump, and corrected.  This is right when the true change stays smaller than what the
threshold leaves of a turn.
-/

namespace DrivingControl.Library

universe u

variable {Value : Type u} [Field Value] [LinearOrder Value]

/-- The difference of two readings, corrected by a turn when it is beyond the threshold. -/
def acrossSeam (turn threshold difference : Value) : Value :=
  if difference < -threshold ∧ difference > -turn then difference + turn
  else if difference > threshold ∧ difference < turn then difference - turn
  else difference

variable [IsStrictOrderedRing Value] [Archimedean Value] {turn threshold : Value}

/-- The difference of two wrapped readings, corrected, is the true change. -/
theorem acrossSeam_toIcoMod (positive : 0 < turn) (half : turn ≤ 2 * threshold)
    {start stop : Value} (slow : |stop - start| < turn - threshold) :
    acrossSeam turn threshold (toIcoMod positive 0 stop - toIcoMod positive 0 start) =
      stop - start := by
  have startIn := toIcoMod_mem_Ico' positive start
  have stopIn := toIcoMod_mem_Ico' positive stop
  have startBack := toIcoMod_add_toIcoDiv_zsmul positive 0 start
  have stopBack := toIcoMod_add_toIcoDiv_zsmul positive 0 stop
  rcases abs_lt.mp slow with ⟨low, high⟩
  generalize toIcoMod positive 0 start = startReading at *
  generalize toIcoMod positive 0 stop = stopReading at *
  generalize toIcoDiv positive 0 start = startTurns at startBack
  generalize toIcoDiv positive 0 stop = stopTurns at stopBack
  -- the turns between the two orientations
  obtain ⟨turns, between⟩ : ∃ turns : ℤ,
      stop - start = stopReading - startReading + turns * turn := by
    refine ⟨stopTurns - startTurns, ?_⟩
    rw [zsmul_eq_mul] at startBack stopBack
    push_cast
    linarith
  have above : (-2 : Value) < turns := by
    nlinarith [startIn.1, startIn.2, stopIn.1, stopIn.2]
  have below : (turns : Value) < 2 := by
    nlinarith [startIn.1, startIn.2, stopIn.1, stopIn.2]
  have few : turns = -1 ∨ turns = 0 ∨ turns = 1 := by
    have lower : -2 < turns := by exact_mod_cast above
    have upper : turns < 2 := by exact_mod_cast below
    omega
  rw [acrossSeam]
  rcases few with down | none | up
  · rw [down] at between
    push_cast at between
    rw [if_neg (by intro ⟨under, _⟩; linarith),
      if_pos ⟨by linarith, by linarith [startIn.1, stopIn.2]⟩]
    linarith
  · rw [none] at between
    push_cast at between
    rw [if_neg (by intro ⟨under, _⟩; linarith), if_neg (by intro ⟨beyond, _⟩; linarith)]
    linarith
  · rw [up] at between
    push_cast at between
    rw [if_pos ⟨by linarith, by linarith [startIn.2, stopIn.1]⟩]
    linarith

end DrivingControl.Library

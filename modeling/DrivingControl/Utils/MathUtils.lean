import DrivingControl.Library.Truncation
import DrivingControl.Library.WhileLoop

/-!
# Angles in their range

The functions of `CAgvMathUtils` that bring an angle into a range of one turn.
`transformAngle` and `getAngleDiff` take a turn off or add one, and `changeAngleScope` as many
as it takes.  The first two leave half a turn as it is and never give its negative; the third
leaves both as they are.

Angles are rational numbers of degrees.
-/

namespace DrivingControl.Utils

open DrivingControl.Library

/-- `CAgvMathUtils::transformAngle`. -/
def transformAngle (angle minAngleLimit maxAngleLimit transformedAngleLimit : ℚ) : ℚ :=
  if angle ≥ maxAngleLimit ∨ angle < minAngleLimit then 0
  else if angle > transformedAngleLimit then angle - transformedAngleLimit * 2
  else if angle ≤ -transformedAngleLimit then angle + transformedAngleLimit * 2
  else angle

/-- `CAgvMathUtils::getAngleDiff`.  It only reports angles that are out of range. -/
def getAngleDiff (currentAngle targetAngle : ℚ) : ℚ :=
  let decAngle := currentAngle - targetAngle
  if decAngle > 180 then decAngle - 360
  else if decAngle ≤ -180 then 360 + decAngle
  else decAngle

/-- `CAgvMathUtils::changeAngleScope`, with the number of turns its loops are allowed. -/
def changeAngleScope (turns : Nat) (needChangeAngle scope : ℚ) : Option ℚ :=
  if scope > 360 then some needChangeAngle
  else if needChangeAngle > scope then
    whileLoop (fun angle => angle > scope) (fun angle => angle - 360) turns needChangeAngle
  else if needChangeAngle < scope - 360 then
    whileLoop (fun angle => angle < scope - 360) (fun angle => angle + 360) turns needChangeAngle
  else some needChangeAngle

/-- `CAgvMathUtils::limitThrehold`, of an integer or a floating point number. -/
def limitThrehold {Value : Type} [LinearOrder Value] (variant low high : Value) : Value :=
  if variant < low then low else if variant > high then high else variant

/-! ## The angle around zero -/

/-- The only angle above -180 and up to 180 degrees that is whole turns from another. -/
structure Centres (angle centred : ℚ) : Prop where
  mem : centred ∈ Set.Ioc (-180) 180
  congruent : centred ≡ angle [PMOD 360]
  unique : ∀ other ∈ Set.Ioc (-180 : ℚ) 180, other ≡ angle [PMOD 360] → other = centred

theorem turn_pos : (0 : ℚ) < 180 * 2 := by norm_num

variable {angle centred other : ℚ}

theorem centres_toIocMod (angle : ℚ) : Centres angle (toIocMod turn_pos (-180) angle) := by
  have whole : (180 : ℚ) * 2 = 360 := by norm_num
  have upper : (-180 : ℚ) + 180 * 2 = 180 := by norm_num
  refine ⟨?_, ?_, ?_⟩
  · have mem := toIocMod_mem_Ioc turn_pos (-180) angle
    rwa [upper] at mem
  · rw [← whole, AddCommGroup.modEq_iff_eq_add_zsmul]
    exact ⟨_, (toIocMod_add_toIocDiv_zsmul turn_pos (-180) angle).symm⟩
  · intro other mem congruent
    symm
    rw [toIocMod_eq_iff, upper]
    rw [← whole, AddCommGroup.modEq_iff_eq_add_zsmul] at congruent
    exact ⟨mem, congruent⟩

theorem Centres.congr (centres : Centres angle centred) (congruent : angle ≡ other [PMOD 360]) :
    Centres other centred :=
  ⟨centres.mem, centres.congruent.trans congruent,
    fun same mem back => centres.unique same mem (back.trans congruent.symm)⟩

theorem centres_wrapCentred (low : -540 < angle) (high : angle ≤ 540) :
    Centres angle (wrapCentred 180 angle) := by
  rw [wrapCentred_eq_toIocMod turn_pos (by linarith) (by linarith)]
  exact centres_toIocMod angle

/-! ## The three functions -/

theorem transformAngle_eq (low : -360 ≤ angle) (high : angle < 360) :
    transformAngle angle (-360) 360 180 = wrapCentred 180 angle := by
  have inside : ¬ (angle ≥ 360 ∨ angle < -360) := by
    rintro (above | below)
    · linarith
    · linarith
  rw [transformAngle, if_neg inside, wrapCentred]

theorem getAngleDiff_eq (currentAngle targetAngle : ℚ) :
    getAngleDiff currentAngle targetAngle = wrapCentred 180 (currentAngle - targetAngle) := by
  have whole : (180 : ℚ) * 2 = 360 := by norm_num
  simp only [getAngleDiff, wrapCentred, whole, add_comm (360 : ℚ)]

theorem changeAngleScope_returns (angle : ℚ) {scope : ℚ} (low : scope ≤ 360) :
    ∃ turns result, (∀ more, turns ≤ more → changeAngleScope more angle scope = some result) ∧
      result ∈ Set.Icc (scope - 360) scope ∧ result ≡ angle [PMOD 360] := by
  have turn : (0 : ℚ) < 360 := by norm_num
  simp only [changeAngleScope, if_neg (not_lt.mpr low)]
  split
  next above =>
    rcases exists_whileLoop_sub turn scope angle above with
      ⟨turns, result, returned, lower, upper, congruent⟩
    exact ⟨turns, result, returned, ⟨le_of_lt lower, upper⟩, congruent⟩
  next within =>
    split
    next below =>
      rcases exists_whileLoop_add turn (scope - 360) angle below with
        ⟨turns, result, returned, lower, upper, congruent⟩
      exact ⟨turns, result, returned, ⟨lower, by linarith⟩, congruent⟩
    next beyond =>
      exact ⟨0, angle, fun _ _ => rfl, ⟨not_lt.mp beyond, not_lt.mp within⟩,
        AddCommGroup.modEq_rfl⟩

/-- `transformAngle` takes angles of less than a turn, and `getAngleDiff` the difference of two
angles in their range, to the only angle in the range that is whole turns from them, and
`changeAngleScope` comes from any angle to one of its range. -/
theorem angles_in_range :
    (∀ angle : ℚ, -360 ≤ angle → angle < 360 →
      Centres angle (transformAngle angle (-360) 360 180)) ∧
    (∀ currentAngle ∈ Set.Ioc (-180 : ℚ) 180, ∀ targetAngle ∈ Set.Ioc (-180 : ℚ) 180,
      Centres (currentAngle - targetAngle) (getAngleDiff currentAngle targetAngle)) ∧
    ∀ angle scope : ℚ, scope ≤ 360 →
      ∃ turns result, (∀ more, turns ≤ more → changeAngleScope more angle scope = some result) ∧
        result ∈ Set.Icc (scope - 360) scope ∧ result ≡ angle [PMOD 360] := by
  refine ⟨?_, ?_, fun angle scope => changeAngleScope_returns angle⟩
  · intro angle low high
    rw [transformAngle_eq low high]
    exact centres_wrapCentred (by linarith) (by linarith)
  · rintro currentAngle ⟨currentLow, currentHigh⟩ targetAngle ⟨targetLow, targetHigh⟩
    rw [getAngleDiff_eq]
    exact centres_wrapCentred (by linarith) (by linarith)

/-- A full turn back, a quarter turn across the border and an angle of many turns. -/
theorem angles_in_range_borders :
    Centres (-360) (transformAngle (-360) (-360) 360 180) ∧
    Centres (180 - -90) (getAngleDiff 180 (-90)) ∧
    ∃ turns result, (∀ more, turns ≤ more → changeAngleScope more 7200 0 = some result) ∧
      result ∈ Set.Icc (0 - 360 : ℚ) 0 ∧ result ≡ 7200 [PMOD 360] :=
  ⟨angles_in_range.1 (-360) (le_refl _) (by norm_num),
    angles_in_range.2.1 180 ⟨by norm_num, le_refl _⟩ (-90) ⟨by norm_num, by norm_num⟩,
    angles_in_range.2.2 7200 0 (by norm_num)⟩

example : transformAngle (-180) (-360) 360 180 = 180 := by decide +kernel

example : changeAngleScope 20 7200 0 = some 0 := by decide +kernel

/-! ## Limits -/

section Limits

variable {Value : Type} [LinearOrder Value] {variant low high : Value}

theorem limitThrehold_mem (ordered : low ≤ high) :
    limitThrehold variant low high ∈ Set.Icc low high := by
  rw [limitThrehold]
  split
  · exact ⟨le_refl low, ordered⟩
  · split
    · exact ⟨ordered, le_refl high⟩
    · exact ⟨not_lt.mp ‹_›, not_lt.mp ‹_›⟩

theorem limitThrehold_of_mem (inside : variant ∈ Set.Icc low high) :
    limitThrehold variant low high = variant := by
  rw [limitThrehold, if_neg (not_lt.mpr inside.1), if_neg (not_lt.mpr inside.2)]

variable [AddCommGroup Value] [IsOrderedAddMonoid Value]

/-- Limits around another number are limits of the difference. -/
theorem limitThrehold_around (base variant bound : Value) :
    limitThrehold (base + variant) (base - bound) (base + bound) =
      base + limitThrehold variant (-bound) bound := by
  simp only [limitThrehold, sub_eq_add_neg, gt_iff_lt, add_lt_add_iff_left]
  split
  · rfl
  · split <;> rfl

/-- Limits on both sides of zero keep the sign. -/
theorem limitThrehold_pos_iff {bound : Value} (positive : 0 < bound) :
    0 < limitThrehold variant (-bound) bound ↔ 0 < variant := by
  have negative : -bound < 0 := neg_lt_zero.mpr positive
  rw [limitThrehold]
  split
  next below =>
    exact iff_of_false (not_lt.mpr negative.le) (not_lt.mpr (below.trans negative).le)
  next =>
    split
    next above => exact iff_of_true positive (positive.trans above)
    next => exact Iff.rfl

theorem limitThrehold_neg {bound : Value} (nonneg : 0 ≤ bound) :
    limitThrehold (-variant) (-bound) bound = -limitThrehold variant (-bound) bound := by
  have ordered : -bound ≤ bound := (neg_nonpos.mpr nonneg).trans nonneg
  simp only [limitThrehold, gt_iff_lt, neg_lt_neg_iff]
  rcases lt_trichotomy bound variant with above | same | below
  · rw [if_pos above, if_neg (not_lt.mpr (ordered.trans above.le)), if_pos above]
  · simp [← same, not_lt.mpr ordered]
  · rw [if_neg (not_lt.mpr below.le), if_neg (not_lt.mpr below.le)]
    by_cases low : variant < -bound
    · rw [if_pos (lt_neg_of_lt_neg low), if_pos low, neg_neg]
    · rw [if_neg (fun high => low (lt_neg_of_lt_neg high)), if_neg low]

end Limits

end DrivingControl.Utils

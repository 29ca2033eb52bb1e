import Mathlib.Algebra.Order.ToIntervalMod
import Mathlib.Data.Rat.Floor
import Mathlib.Tactic.Linarith

/-!
# Truncation and wrapping

A number that is assigned to an integer loses its fraction towards zero, and an angle that
leaves its range comes back by one turn.  Here it is said by which changes a value is left as
it is.
-/

namespace DrivingControl.Library

universe u

variable {Value : Type u} [Field Value] [LinearOrder Value] [IsStrictOrderedRing Value]

section Truncation

variable [FloorRing Value]

/-- The integer a number is truncated to. -/
def truncate (number : Value) : ℤ := if 0 ≤ number then ⌊number⌋ else ⌈number⌉

/-- A change of an integer by which truncation brings it back. -/
def Absorbed (value : ℤ) (change : Value) : Prop :=
  (0 < value → 0 ≤ change ∧ change < 1) ∧ (value < 0 → -1 < change ∧ change ≤ 0) ∧
    (value = 0 → -1 < change ∧ change < 1)

instance (value : ℤ) (change : ℚ) : Decidable (Absorbed value change) :=
  inferInstanceAs (Decidable ((_ → _) ∧ (_ → _) ∧ (_ → _)))

variable {value : ℤ} {change : Value}

/-- An integer has no fraction to lose. -/
theorem truncate_intCast (value : ℤ) : truncate (value : Value) = value := by
  rw [truncate]
  split
  · exact Int.floor_intCast value
  · exact Int.ceil_intCast value

theorem truncate_zero : truncate (0 : Value) = 0 := by
  rw [← Int.cast_zero, truncate_intCast]

omit [IsStrictOrderedRing Value] in
/-- Truncation does not reach what a number is below. -/
theorem truncate_lt {bound : ℤ} {number : Value} (positive : 0 < bound)
    (below : number < bound) : truncate number < bound := by
  rw [truncate]
  split
  next => exact Int.floor_lt.mpr below
  next negative =>
    have least : ⌈number⌉ ≤ 0 := Int.ceil_le.mpr (by simpa using le_of_not_ge negative)
    omega

/-- Truncation takes less than one off the size of a number. -/
theorem abs_truncate (number : Value) :
    |(truncate number : Value)| ≤ |number| ∧ |number| < |(truncate number : Value)| + 1 := by
  rw [truncate]
  split
  next nonneg =>
    have whole : (0 : Value) ≤ (⌊number⌋ : Value) := by exact_mod_cast Int.floor_nonneg.mpr nonneg
    rw [abs_of_nonneg whole, abs_of_nonneg nonneg]
    exact ⟨Int.floor_le number, Int.lt_floor_add_one number⟩
  next negative =>
    have below : number < 0 := not_le.mp negative
    have ceiling : ⌈number⌉ ≤ 0 := Int.ceil_le.mpr (by simpa using below.le)
    have whole : (⌈number⌉ : Value) ≤ 0 := by exact_mod_cast ceiling
    rw [abs_of_nonpos whole, abs_of_neg below]
    have high := Int.le_ceil number
    have low := Int.ceil_lt_add_one number
    exact ⟨by linarith, by linarith⟩

/-- A value that stays nonnegative is rounded down. -/
theorem truncate_add_of_nonneg (nonneg : 0 ≤ (value : Value) + change) :
    truncate ((value : Value) + change) = value ↔ 0 ≤ change ∧ change < 1 := by
  rw [truncate, if_pos nonneg, Int.floor_eq_iff]
  constructor
  · rintro ⟨low, high⟩
    exact ⟨by linarith, by linarith⟩
  · rintro ⟨low, high⟩
    exact ⟨by linarith, by linarith⟩

/-- A value that becomes negative is rounded up. -/
theorem truncate_add_of_neg (negative : (value : Value) + change < 0) :
    truncate ((value : Value) + change) = value ↔ -1 < change ∧ change ≤ 0 := by
  rw [truncate, if_neg (not_le.mpr negative), Int.ceil_eq_iff]
  constructor
  · rintro ⟨low, high⟩
    exact ⟨by linarith, by linarith⟩
  · rintro ⟨low, high⟩
    exact ⟨by linarith, by linarith⟩

/-- The changes that truncation takes back. -/
theorem truncate_add_eq_self_iff :
    truncate ((value : Value) + change) = value ↔ Absorbed value change := by
  rcases lt_trichotomy value 0 with negative | zero | positive
  · have below : (value : Value) ≤ -1 := by exact_mod_cast Int.le_sub_one_of_lt negative
    have agree : Absorbed value change ↔ -1 < change ∧ change ≤ 0 := by
      simp [Absorbed, negative, not_lt_of_gt negative, ne_of_lt negative]
    rw [agree]
    by_cases nonneg : 0 ≤ (value : Value) + change
    · rw [truncate_add_of_nonneg nonneg]
      constructor
      · rintro ⟨-, high⟩
        linarith
      · rintro ⟨-, high⟩
        linarith
    · exact truncate_add_of_neg (not_le.mp nonneg)
  · subst zero
    have agree : Absorbed 0 change ↔ -1 < change ∧ change < 1 := by
      simp [Absorbed]
    rw [agree]
    by_cases nonneg : 0 ≤ change
    · rw [truncate_add_of_nonneg (by simpa using nonneg)]
      constructor
      · rintro ⟨-, high⟩
        exact ⟨by linarith, high⟩
      · rintro ⟨-, high⟩
        exact ⟨nonneg, high⟩
    · have negative := not_le.mp nonneg
      rw [truncate_add_of_neg (by simpa using negative)]
      constructor
      · rintro ⟨low, -⟩
        exact ⟨low, by linarith⟩
      · rintro ⟨low, -⟩
        exact ⟨low, le_of_lt negative⟩
  · have above : (1 : Value) ≤ value := by exact_mod_cast Int.add_one_le_of_lt positive
    have agree : Absorbed value change ↔ 0 ≤ change ∧ change < 1 := by
      simp [Absorbed, positive, not_lt_of_gt positive, ne_of_gt positive]
    rw [agree]
    by_cases nonneg : 0 ≤ (value : Value) + change
    · exact truncate_add_of_nonneg nonneg
    · have negative := not_le.mp nonneg
      rw [truncate_add_of_neg negative]
      constructor
      · rintro ⟨low, -⟩
        linarith
      · rintro ⟨low, -⟩
        linarith

end Truncation

/-! ## Wrapping -/

/-- One turn less from a full turn on, and one more below zero. -/
def wrapOnce (turn angle : Value) : Value :=
  if angle ≥ turn then angle - turn else if angle < 0 then angle + turn else angle

/-- A change of an angle that a turn brings back, or none of an angle within a turn. -/
def Returned (turn angle change : Value) : Prop :=
  (change = 0 ∧ 0 ≤ angle ∧ angle < turn) ∨ (change = turn ∧ 0 ≤ angle) ∨
    (change = -turn ∧ angle < turn)

instance (turn angle change : ℚ) : Decidable (Returned turn angle change) :=
  inferInstanceAs (Decidable ((_ ∧ _ ∧ _) ∨ (_ ∧ _) ∨ (_ ∧ _)))

/-- The changes that wrapping takes back. -/
theorem wrapOnce_add_eq_self_iff {turn angle change : Value} (positive : 0 < turn) :
    wrapOnce turn (angle + change) = angle ↔ Returned turn angle change := by
  rw [wrapOnce, Returned]
  split
  next above =>
    constructor
    · intro same
      have whole : change = turn := by linarith
      exact .inr (.inl ⟨whole, by linarith⟩)
    · rintro (⟨none, low, high⟩ | ⟨whole, low⟩ | ⟨back, high⟩)
      · linarith
      · linarith
      · linarith
  next below =>
    have beneath := not_le.mp below
    split
    next negative =>
      constructor
      · intro same
        have back : change = -turn := by linarith
        exact .inr (.inr ⟨back, by linarith⟩)
      · rintro (⟨none, low, high⟩ | ⟨whole, low⟩ | ⟨back, high⟩)
        · linarith
        · linarith
        · linarith
    next nonneg =>
      have within := not_lt.mp nonneg
      constructor
      · intro same
        have none : change = 0 := by linarith
        exact .inl ⟨none, by linarith, by linarith⟩
      · rintro (⟨none, low, high⟩ | ⟨whole, low⟩ | ⟨back, high⟩)
        · linarith
        · linarith
        · linarith

/-- One turn less beyond half a turn, and one more from half a turn back on. -/
def wrapCentred (half angle : Value) : Value :=
  if angle > half then angle - half * 2
  else if angle ≤ -half then angle + half * 2
  else angle

/-- Within one and a half turns it gives the only angle of a turn around zero. -/
theorem wrapCentred_eq_toIocMod [Archimedean Value] {half angle : Value}
    (positive : 0 < half * 2) (low : -(half * 3) < angle) (high : angle ≤ half * 3) :
    wrapCentred half angle = toIocMod positive (-half) angle := by
  symm
  rw [toIocMod_eq_iff, wrapCentred]
  split
  next above => exact ⟨⟨by linarith, by linarith⟩, 1, by rw [one_smul]; ring⟩
  next below =>
    split
    next back => exact ⟨⟨by linarith, by linarith⟩, -1, by rw [neg_smul, one_smul]; ring⟩
    next within =>
      exact ⟨⟨not_le.mp within, by linarith [not_lt.mp below]⟩, 0, by rw [zero_smul, add_zero]⟩

end DrivingControl.Library

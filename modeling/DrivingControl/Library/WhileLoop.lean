import Mathlib.Algebra.Group.ModEq
import Mathlib.Algebra.Order.Floor.Semiring
import Mathlib.Tactic.FieldSimp
import Mathlib.Tactic.Linarith
import Mathlib.Tactic.Ring

/-!
# Loops

A `while` loop is run for a number of turns at most; without a result it is still in the
loop then.  What it returns is independent of that number, keeps what every turn keeps, and
exists when a measure goes down with every turn.

The cases at the end are loops that bring a number down by a fixed step while it is above a
bound, or up while it is below.
-/

namespace DrivingControl.Library

universe u

variable {State : Type u}

/-- `while (condition) body`, with the number of turns that are allowed. -/
def whileLoop (condition : State → Prop) [DecidablePred condition] (body : State → State) :
    Nat → State → Option State
  | 0, state => if condition state then none else some state
  | turns + 1, state =>
      if condition state then whileLoop condition body turns (body state) else some state

section Rules

variable {condition : State → Prop} [DecidablePred condition] {body : State → State}
  {turns : Nat} {state result : State}

/-- A loop that is not entered. -/
theorem whileLoop_of_not (left : ¬ condition state) :
    whileLoop condition body turns state = some state := by
  cases turns with
  | zero => rw [whileLoop, if_neg left]
  | succ turns => rw [whileLoop, if_neg left]

/-- More turns than are needed change nothing. -/
theorem whileLoop_mono (returned : whileLoop condition body turns state = some result)
    {more : Nat} (enough : turns ≤ more) :
    whileLoop condition body more state = some result := by
  induction turns generalizing state more with
  | zero =>
      rw [whileLoop] at returned
      split at returned
      next => cases returned
      next left =>
        cases returned
        exact whileLoop_of_not left
  | succ turns ih =>
      obtain ⟨more, rfl⟩ : ∃ rest, more = rest + 1 := ⟨more - 1, by omega⟩
      rw [whileLoop] at returned ⊢
      split at returned
      next entered =>
        rw [if_pos entered]
        exact ih returned (by omega)
      next left =>
        rw [if_neg left]
        exact returned

/-- What a loop returns has what every turn keeps, and no longer meets the condition. -/
theorem whileLoop_keeps {invariant : State → Prop}
    (kept : ∀ state, invariant state → condition state → invariant (body state))
    (initial : invariant state) (returned : whileLoop condition body turns state = some result) :
    invariant result ∧ ¬ condition result := by
  induction turns generalizing state with
  | zero =>
      rw [whileLoop] at returned
      split at returned
      next => cases returned
      next left =>
        cases returned
        exact ⟨initial, left⟩
  | succ turns ih =>
      rw [whileLoop] at returned
      split at returned
      next entered => exact ih (kept state initial entered) returned
      next left =>
        cases returned
        exact ⟨initial, left⟩

/-- A loop returns when a measure goes down with every turn. -/
theorem whileLoop_returns {measure : State → Nat}
    (lowered : ∀ state, condition state → measure (body state) < measure state)
    (enough : measure state ≤ turns) :
    ∃ result, whileLoop condition body turns state = some result := by
  induction turns generalizing state with
  | zero =>
      have left : ¬ condition state := fun entered => by
        have lower := lowered state entered
        omega
      exact ⟨state, whileLoop_of_not left⟩
  | succ turns ih =>
      rw [whileLoop]
      split
      next entered =>
        have lower := lowered state entered
        exact ih (by omega)
      next => exact ⟨state, rfl⟩

end Rules

/-! ## Steps towards a bound -/

section Congruence

variable {Value : Type u} [AddCommGroup Value] (step number : Value)

theorem sub_modEq : number - step ≡ number [PMOD step] :=
  AddCommGroup.modEq_iff_zsmul.mpr ⟨1, by rw [one_zsmul, sub_sub_cancel]⟩

theorem add_modEq : number + step ≡ number [PMOD step] :=
  AddCommGroup.modEq_iff_zsmul.mpr ⟨-1, by rw [neg_zsmul, one_zsmul, sub_add_cancel_left]⟩

end Congruence

section Steps

variable {Value : Type u} [Field Value] [LinearOrder Value] [IsStrictOrderedRing Value]
  [FloorSemiring Value]

/-- The number of steps from a number down to a bound. -/
def stepsAbove (step bound number : Value) : Nat := ⌈(number - bound) / step⌉₊

/-- A step is one less of them. -/
theorem stepsAbove_sub {step bound number : Value} (positive : 0 < step) (above : bound < number) :
    stepsAbove step bound (number - step) < stepsAbove step bound number := by
  have fewer : (number - step - bound) / step = (number - bound) / step - 1 := by
    field_simp
    ring
  have some : 0 < (number - bound) / step := div_pos (by linarith) positive
  rw [stepsAbove, stepsAbove, fewer, Nat.ceil_sub_one]
  have counted : 0 < ⌈(number - bound) / step⌉₊ := Nat.ceil_pos.mpr some
  omega

variable {step : Value} (positive : 0 < step) (bound start : Value)

include positive

/-- A number that is above a bound comes within a step below it. -/
theorem exists_whileLoop_sub (above : bound < start) :
    ∃ turns result,
      (∀ more, turns ≤ more →
        whileLoop (fun number => number > bound) (fun number => number - step) more start =
          some result) ∧
      bound - step < result ∧ result ≤ bound ∧ result ≡ start [PMOD step] := by
  have lowered (number : Value) (entered : number > bound) :
      stepsAbove step bound (number - step) < stepsAbove step bound number :=
    stepsAbove_sub positive entered
  obtain ⟨result, returned⟩ :=
    whileLoop_returns lowered (Nat.le_refl (stepsAbove step bound start))
  refine ⟨_, result, fun more enough => whileLoop_mono returned enough, ?_⟩
  have kept : ∀ number, bound - step < number ∧ number ≡ start [PMOD step] → number > bound →
      bound - step < number - step ∧ number - step ≡ start [PMOD step] := by
    intro number held entered
    exact ⟨by linarith, (sub_modEq step number).trans held.2⟩
  have initial : bound - step < start ∧ start ≡ start [PMOD step] :=
    ⟨by linarith, AddCommGroup.modEq_rfl⟩
  rcases whileLoop_keeps kept initial returned with ⟨⟨low, congruent⟩, left⟩
  exact ⟨low, not_lt.mp left, congruent⟩

/-- A number that is below a bound comes within a step above it. -/
theorem exists_whileLoop_add (below : start < bound) :
    ∃ turns result,
      (∀ more, turns ≤ more →
        whileLoop (fun number => number < bound) (fun number => number + step) more start =
          some result) ∧
      bound ≤ result ∧ result < bound + step ∧ result ≡ start [PMOD step] := by
  have lowered (number : Value) (entered : number < bound) :
      stepsAbove step (-bound) (-(number + step)) < stepsAbove step (-bound) (-number) := by
    rw [neg_add, ← sub_eq_add_neg]
    exact stepsAbove_sub positive (neg_lt_neg entered)
  obtain ⟨result, returned⟩ :=
    @whileLoop_returns Value (fun number => number < bound) _ (fun number => number + step) _
      start (fun number => stepsAbove step (-bound) (-number)) lowered (Nat.le_refl _)
  refine ⟨_, result, fun more enough => whileLoop_mono returned enough, ?_⟩
  have kept : ∀ number, number < bound + step ∧ number ≡ start [PMOD step] → number < bound →
      number + step < bound + step ∧ number + step ≡ start [PMOD step] := by
    intro number held entered
    exact ⟨by linarith, (add_modEq step number).trans held.2⟩
  have initial : start < bound + step ∧ start ≡ start [PMOD step] :=
    ⟨by linarith, AddCommGroup.modEq_rfl⟩
  rcases whileLoop_keeps kept initial returned with ⟨⟨high, congruent⟩, left⟩
  exact ⟨not_lt.mp left, high, congruent⟩

end Steps

end DrivingControl.Library

/-!
# What a machine spends

A machine takes one input after the other.  Each of its turns has a cost, and what a turn costs
is paid from a potential of its state, or by an allowance for the turn.  A machine whose turns
are not free ends when what it can spend is bounded.
-/

namespace DrivingControl.Library

universe u v

variable {State : Type u} {Input : Type v}

/-- The state after the first inputs. -/
def stateAfter (turn : Input → State → State) (start : State) (inputs : Nat → Input) :
    Nat → State
  | 0 => start
  | n + 1 => turn (inputs n) (stateAfter turn start inputs n)

/-- What the first turns cost. -/
def spent (turn : Input → State → State) (cost : Input → State → Nat) (start : State)
    (inputs : Nat → Input) : Nat → Nat
  | 0 => 0
  | n + 1 => spent turn cost start inputs n + cost (inputs n) (stateAfter turn start inputs n)

section Rules

variable {turn : Input → State → State} {cost allowance : Input → State → Nat} {start : State}
  {inputs others : Nat → Input} {invariant ended : State → Prop}

/-- Later inputs change nothing. -/
theorem stateAfter_congr {n : Nat} (same : ∀ m, m < n → inputs m = others m) :
    stateAfter turn start inputs n = stateAfter turn start others n := by
  induction n with
  | zero => rfl
  | succ n ih =>
      rw [stateAfter, stateAfter, same n (Nat.lt_succ_self n),
        ih fun m before => same m (Nat.lt_succ_of_lt before)]

theorem stateAfter_keeps (initial : invariant start)
    (kept : ∀ input state, invariant state → invariant (turn input state)) (n : Nat) :
    invariant (stateAfter turn start inputs n) := by
  induction n with
  | zero => exact initial
  | succ n ih => exact kept _ _ ih

/-- A machine that has ended stays so. -/
theorem ended_of_le (stays : ∀ input state, ended state → ended (turn input state)) {n more : Nat}
    (ends : ended (stateAfter turn start inputs n)) (later : n ≤ more) :
    ended (stateAfter turn start inputs more) := by
  induction later with
  | refl => exact ends
  | step _ ih => exact stays _ _ ih

theorem spent_le_of_le {n more : Nat} (later : n ≤ more) :
    spent turn cost start inputs n ≤ spent turn cost start inputs more := by
  induction later with
  | refl => exact Nat.le_refl _
  | step _ ih => exact Nat.le_trans ih (Nat.le_add_right _ _)

/-- When every turn is paid from the potential and its allowance, so are all of them. -/
theorem spent_add_potential_le (invariant : State → Prop) (potential : State → Nat)
    (initial : invariant start)
    (kept : ∀ input state, invariant state → invariant (turn input state))
    (paid : ∀ input state, invariant state →
      cost input state + potential (turn input state) ≤ potential state + allowance input state)
    (n : Nat) :
    spent turn cost start inputs n + potential (stateAfter turn start inputs n) ≤
      potential start + spent turn allowance start inputs n := by
  induction n with
  | zero => exact Nat.le_of_eq (Nat.add_comm _ _)
  | succ n ih =>
      have held : invariant (stateAfter turn start inputs n) := stateAfter_keeps initial kept n
      have here := paid (inputs n) _ held
      rw [spent, spent, stateAfter]
      omega

/-- A machine that has not ended has paid for each of its turns. -/
theorem le_spent (ended : State → Prop)
    (costs : ∀ input state, ¬ ended (turn input state) → 1 ≤ cost input state)
    (stays : ∀ input state, ended state → ended (turn input state)) {n : Nat}
    (busy : ¬ ended (stateAfter turn start inputs n)) : n ≤ spent turn cost start inputs n := by
  induction n with
  | zero => exact Nat.zero_le _
  | succ n ih =>
      have before := ih fun ends => busy (stays _ _ ends)
      have here := costs (inputs n) (stateAfter turn start inputs n) busy
      rw [spent]
      omega

end Rules

end DrivingControl.Library

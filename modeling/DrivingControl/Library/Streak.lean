/-!
# Streaks

How many of the latest elements of a log, newest first, are each in a relation to the
element before.  Counters that begin anew when the relation fails are measured against it.
-/

namespace DrivingControl.Library

universe u

variable {α : Type u}

/-- The latest element of a log, or what was there before the first. -/
def latest (start : α) (log : List α) : α := log.headD start

/-- The number of the latest elements that are in the relation to the ones before them. -/
def streak (held : α → α → Bool) (start : α) : List α → Nat
  | [] => 0
  | element :: log =>
      if held element (latest start log) then streak held start log + 1 else 0

section Rules

variable {held : α → α → Bool} {start element : α} {log : List α}

theorem streak_cons_of_held (holds : held element (latest start log) = true) :
    streak held start (element :: log) = streak held start log + 1 := by
  rw [streak, if_pos holds]

theorem streak_cons_of_not_held (broken : held element (latest start log) = false) :
    streak held start (element :: log) = 0 := by
  rw [streak, if_neg (by simp [broken])]

end Rules

end DrivingControl.Library

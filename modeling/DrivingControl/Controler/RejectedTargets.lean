import DrivingControl.Controler.ForkliftTargets

/-!
# Rejected targets

`SetTarget` assigns the running mode and the speed limit and clears the segments before
the decomposition can fail.  The running flag, the path index and the segment that is
driven are left as they are.
-/

namespace DrivingControl.Controler

namespace ForkliftHelper

/-- The motion thread drives nothing. -/
def Idle (helper : ForkliftHelper) : Prop :=
  helper.isRunning = false ∨ MoveHelper.isDriven helper.runningMode = false

instance (helper : ForkliftHelper) : Decidable helper.Idle :=
  inferInstanceAs (Decidable (_ ∨ _))

/-- Nothing differs but entries of `subpath` that are not in use. -/
structure Unchanged (helper next : ForkliftHelper) : Prop where
  others : { next with subpath := helper.subpath } = helper
  size : next.subpath.size = helper.subpath.size
  entries : ∀ i, i < helper.subpath.size →
    next.subpath.entries[i]? = helper.subpath.entries[i]?

/-- The call rejects its target. -/
def Rejects (helper : ForkliftHelper) (call : SetTargetCall) : Prop :=
  ∃ next, helper.setTarget call = some (next, -1)

/-- A rejected target leaves the helper as it was, or idle. -/
def RejectsCleanly (helper : ForkliftHelper) (call : SetTargetCall) : Prop :=
  ∀ next, helper.setTarget call = some (next, -1) → helper.Unchanged next ∨ next.Idle

/-- The helper is idle, or it has the mode, the speed limit and the radius of the call already
and no segments in use. -/
def Undisturbed (helper : ForkliftHelper) (call : SetTargetCall) : Prop :=
  helper.Idle ∨
    helper.carRunningMode = call.target.mode ∧
    helper.maxSpeedAllowed = call.target.speed ∧
    helper.standardRadius = radiusAfter (helper.splitSettings call) call.geometry call.current
      call.target.pose call.target.direction helper.standardRadius ∧
    helper.subpath.size = 0

instance (helper : ForkliftHelper) (call : SetTargetCall) :
    Decidable (helper.Undisturbed call) := inferInstanceAs (Decidable (_ ∨ _))

variable {helper next : ForkliftHelper} {call : SetTargetCall}

/-- What a rejected target leaves. -/
theorem eq_of_rejected (rejected : helper.setTarget call = some (next, -1)) :
    next = { helper with
      carRunningMode := call.target.mode
      maxSpeedAllowed := call.target.speed
      standardRadius := radiusAfter (helper.splitSettings call) call.geometry call.current
        call.target.pose call.target.direction helper.standardRadius
      subpath := {} } := by
  by_cases isSplit : call.target.IsSplit
  · rcases splitToSubTarget_spec (helper.splitSettings call) call.geometry call.current
      call.target.pose call.target.direction helper.standardRadius with
      ⟨parts, returns, radius, outcome⟩
    have result := setTarget_split isSplit returns
    rw [rejected] at result
    rcases outcome with ⟨failed, cleared⟩ | ⟨passed, -⟩
    · simp only [failed, cleared, radius] at result
      cases result
      rfl
    · simp [passed] at result
  · rw [setTarget, if_neg isSplit] at rejected
    split at rejected
    · cases rejected
    · cases rejected

/-- The running flag and the segment that is driven are not touched. -/
theorem idle_of_rejected (rejected : helper.setTarget call = some (next, -1)) :
    next.Idle ↔ helper.Idle := by
  rw [eq_of_rejected rejected]
  exact Iff.rfl

/-- Nothing has changed exactly if nothing was there to be changed. -/
theorem unchanged_of_rejected (rejected : helper.setTarget call = some (next, -1)) :
    helper.Unchanged next ↔
      helper.carRunningMode = call.target.mode ∧
      helper.maxSpeedAllowed = call.target.speed ∧
      helper.standardRadius = radiusAfter (helper.splitSettings call) call.geometry
        call.current call.target.pose call.target.direction helper.standardRadius ∧
      helper.subpath.size = 0 := by
  have left := eq_of_rejected rejected
  constructor
  · rintro ⟨others, size, -⟩
    have mode := congrArg carRunningMode others
    have speed := congrArg maxSpeedAllowed others
    have radius := congrArg standardRadius others
    rw [left] at mode speed radius size
    exact ⟨mode.symm, speed.symm, radius.symm, size.symm⟩
  · rintro ⟨mode, speed, radius, size⟩
    constructor
    · rw [left, ← mode, ← speed, ← radius]
    · rw [left, size]
    · intro i inside
      rw [size] at inside
      exact absurd inside (Nat.not_lt_zero i)

/-- For every state and every call, a rejected target leaves the helper consistent exactly if
there was nothing that it could disturb. -/
theorem rejectsCleanly_iff (helper : ForkliftHelper) (call : SetTargetCall) :
    helper.RejectsCleanly call ↔ (helper.Rejects call → helper.Undisturbed call) := by
  constructor
  · rintro clean ⟨next, rejected⟩
    rcases clean next rejected with unchanged | idle
    · exact .inr ((unchanged_of_rejected rejected).mp unchanged)
    · exact .inl ((idle_of_rejected rejected).mp idle)
  · intro undisturbed next rejected
    rcases undisturbed ⟨next, rejected⟩ with idle | same
    · exact .inr ((idle_of_rejected rejected).mpr idle)
    · exact .inl ((unchanged_of_rejected rejected).mpr same)

/-- The car drives forward to a target two metres ahead when a target to back up to is rejected,
because the car is already behind it. -/
theorem rejected_while_driving :
    ¬ ∀ (helper : ForkliftHelper) (call : SetTargetCall), helper.RejectsCleanly call := by
  intro all
  let start : ForkliftHelper := { standardRadius := 1000, savedStandardRadius := 1000 }
  let ahead : SetTargetCall :=
    { target := { mode := goForwardMode, xPos := 2000, speed := 500 }
      current := ⟨0, 0, 0⟩
      geometry := { xPos := -2000, yPos := 0 } }
  let back : SetTargetCall :=
    { target := { mode := goBackwardMode, xPos := 2000, speed := 300 }
      current := ⟨0, 0, 0⟩
      geometry := { xPos := -2000, yPos := 0 } }
  let driving := (start.setTarget ahead).elim start Prod.fst
  let next := (driving.setTarget back).elim driving Prod.fst
  have rejected : driving.setTarget back = some (next, -1) := by decide +kernel
  rcases all driving back next rejected with unchanged | idle
  · have size : driving.subpath.size = 1 := by decide +kernel
    have empty : next.subpath.size = 0 := by decide +kernel
    have same := unchanged.size
    rw [size, empty] at same
    cases same
  · exact absurd idle (by decide +kernel)

end ForkliftHelper

end DrivingControl.Controler

import DrivingControl.Controler.ForkliftTargets
import DrivingControl.Library.Run

/-!
# The segment before a precise stop

The removal of short segments keeps the last one for a target that asks for a precise
stop.  It reads `targetPoint.needStop`, which `SetTarget` assigns behind the call: what
is read belongs to the target that was accepted before.
-/

namespace DrivingControl.Controler

open DrivingControl.Library

/-- The length of the last segment before short ones are removed. -/
def finalLength (geometry : Geometry) (side : Pose) (targets : List (Pose × Int)) : Int :=
  ((measure geometry.uninitialized side (targets.map SubPaths.placed)).getLast?.map
    SubPath.distance).getD 0

section Segments

variable {direction : Direction} {settings : SplitSettings} {geometry : Geometry} {side : Pose}
  {parts : SubTargets}

/-- The last segment stays. -/
def KeepsFinal (settings : SplitSettings) (geometry : Geometry) (side : Pose)
    (parts : SubTargets) : Prop :=
  settings.needStop = true ∨ parts.size = 1 ∨ 200 < finalLength geometry side parts.targets

instance (settings : SplitSettings) (geometry : Geometry) (side : Pose) (parts : SubTargets) :
    Decidable (KeepsFinal settings geometry side parts) :=
  inferInstanceAs (Decidable (_ ∨ _ ∨ _))

/-- With a line behind the removal of short segments, the last one was not removed. -/
theorem Decomposed.keepsFinal
    (decomposed : Decomposed direction geometry.uninitialized side parts) {sub : SubPath}
    (last : (simplified settings geometry side parts.targets).getLast? = some sub)
    (line : sub.runmode = direction.way.line) : KeepsFinal settings geometry side parts := by
  by_cases several : 1 < parts.targets.length
  · rcases decomposed.ends with goal | approaches
    · rw [goal] at several
      exact absurd several (Nat.lt_irrefl 1)
    · rcases approaches.kept settings.needStop with
        ⟨front, before, final, ends, left, other, isLine, -⟩
      simp only [simplified, List.length_map, several, if_true, left] at last
      by_cases stays : (settings.needStop || final.isLong) = true
      · rcases (Bool.or_eq_true _ _).mp stays with stop | long
        · exact .inl stop
        · have drives : direction.Drives final.runmode := .inl isLine
          rw [SubPath.isLong, drives.not_rotates, Bool.false_or] at long
          right
          right
          rw [finalLength, ends]
          exact of_decide_eq_true long
      · rw [if_neg stays, List.getLast?_concat] at last
        cases last
        exact absurd line other
  · right
    left
    rw [decomposed.size, decomposed.eq_goal several]
    rfl

/-- A last segment that is not removed is the line to the target. -/
theorem Decomposed.final_goal
    (decomposed : Decomposed direction geometry.uninitialized side parts)
    (keeps : KeepsFinal settings geometry side parts) :
    ∃ last, (simplified settings geometry side parts.targets).getLast? = some last ∧
      last.runmode = direction.way.line ∧ last.target = ⟨0, 0, 0⟩ := by
  by_cases several : 1 < parts.targets.length
  · rcases decomposed.ends with goal | approaches
    · rw [goal] at several
      exact absurd several (Nat.lt_irrefl 1)
    · rcases approaches.kept settings.needStop with
        ⟨front, before, final, ends, left, -, isLine, origin⟩
      have stays : (settings.needStop || final.isLong) = true := by
        rw [Bool.or_eq_true]
        rcases keeps with stop | single | long
        · exact .inl stop
        · rw [← decomposed.size, single] at several
          exact absurd several (Nat.lt_irrefl 1)
        · right
          rw [finalLength, ends] at long
          rw [SubPath.isLong, Bool.or_eq_true]
          exact .inr (decide_eq_true long)
      refine ⟨final, ?_, isLine, origin⟩
      simp only [simplified, List.length_map, several, if_true, left, stays]
      simp
  · rw [decomposed.eq_goal several]
    exact ⟨_, rfl, rfl, rfl⟩

end Segments

theorem SubPaths.Holds.getLast?_eq_some {paths : SubPaths} {subs : List SubPath} {sub : SubPath}
    (holds : paths.Holds subs) :
    subs.getLast? = some sub ↔
      0 < paths.size ∧ paths.entries[paths.size - 1]? = some (some sub) := by
  rw [holds.size, List.getLast?_eq_getElem?]
  constructor
  · intro last
    rcases List.getElem?_eq_some_iff.mp last with ⟨inside, equal⟩
    refine ⟨by omega, ?_⟩
    rw [holds.filled _ inside, equal]
  · rintro ⟨positive, entry⟩
    have inside : subs.length - 1 < subs.length := by omega
    rw [holds.filled _ inside, Option.some.injEq, Option.some.injEq] at entry
    rw [List.getElem?_eq_getElem inside, entry]

/-- The last entry in use is the line that ends at the target of the call. -/
def EndsAtTarget (call : SetTargetCall) (paths : SubPaths) : Prop :=
  ∃ sub, (0 < paths.size ∧ paths.entries[paths.size - 1]? = some (some sub)) ∧
    sub.runmode = call.target.direction.way.line ∧
    sub.target = call.geometry.toWorld ⟨0, 0, 0⟩

/-- The line to the target is the same on both sides, and it ends at the target. -/
theorem target_driven (settings : SplitSettings) (geometry : Geometry) (mirrored : Bool)
    {direction : Direction} {sub : SubPath} (line : sub.runmode = direction.way.line)
    (origin : sub.target = ⟨0, 0, 0⟩) :
    (((sub.reflect mirrored).setSpeed settings.maxSpeedAllowed).toWorld geometry).target =
      geometry.toWorld ⟨0, 0, 0⟩ := by
  have drives : direction.Drives sub.runmode := .inl line
  have target : (sub.reflect mirrored).target = ⟨0, 0, 0⟩ := by
    rw [SubPath.reflect_eq drives.not_rotates]
    split
    · change sub.target.mirror = _
      rw [origin]
      rfl
    · exact origin
  have still : ((sub.reflect mirrored).setSpeed settings.maxSpeedAllowed).rotates = false := by
    rw [SubPath.rotates, runmode_setSpeed, SubPath.runmode_reflect]
    exact drives.not_rotates
  rw [SubPath.toWorld, still]
  exact congrArg geometry.toWorld target

namespace ForkliftHelper

/-- The branch of a call, and what is read for it, keep the last segment. -/
def KeepsFinal (call : SetTargetCall) (helper : ForkliftHelper) : Prop :=
  Controler.KeepsFinal (helper.splitSettings call) call.geometry
    (call.geometry.relative call.current call.target.pose).side
    (chosenSubTargets (helper.splitSettings call) call.geometry call.current call.target.pose
      call.target.direction helper.standardRadius)

instance (call : SetTargetCall) (helper : ForkliftHelper) : Decidable (helper.KeepsFinal call) :=
  inferInstanceAs (Decidable (Controler.KeepsFinal _ _ _ _))

variable {helper next : ForkliftHelper} {call : SetTargetCall}

/-- An accepted target ends with its line exactly if the last segment stays. -/
theorem endsAtTarget_iff (isSplit : call.target.IsSplit)
    (accepted : helper.setTarget call = some (next, 0)) :
    EndsAtTarget call next.subpath ↔ helper.KeepsFinal call := by
  rcases splitToSubTarget_spec (helper.splitSettings call) call.geometry call.current
    call.target.pose call.target.direction helper.standardRadius with
    ⟨parts, returns, -, outcome⟩
  have result := setTarget_split isSplit returns
  rw [accepted] at result
  rcases outcome with ⟨failed, -⟩ | ⟨passed, valid, holds⟩
  · simp [failed] at result
  · have decomposed := decomposed_chosen (helper.splitSettings call) call.geometry call.current
      call.target.pose call.target.direction helper.standardRadius valid
    have subpath : next.subpath = parts.subpath := by
      simp only [passed, ne_eq, not_true_eq_false, if_false, Option.some.injEq,
        Prod.mk.injEq] at result
      rw [result.1]
      rfl
    simp only [EndsAtTarget, subpath, ← holds.getLast?_eq_some, drivenSubPaths,
      List.getLast?_map]
    constructor
    · rintro ⟨sub, last, line, -⟩
      rcases Option.map_eq_some_iff.mp last with ⟨before, stays, rfl⟩
      rw [runmode_driven] at line
      exact decomposed.keepsFinal stays line
    · intro keeps
      rcases decomposed.final_goal keeps with ⟨last, stays, line, origin⟩
      refine ⟨_, by rw [stays, Option.map_some], ?_, ?_⟩
      · rw [runmode_driven, line]
      · exact target_driven (helper.splitSettings call) call.geometry _ line origin

end ForkliftHelper

/-! ## Sequences of targets -/

/-- A call of `SetTarget` as a step. -/
def setTargetStep : StepFn ForkliftHelper SetTargetCall := fun call helper =>
  (helper.setTarget call).map Prod.fst

/-- The call accepts a target that is split and asks for a precise stop. -/
def AcceptsPreciseStop (helper : ForkliftHelper) (call : SetTargetCall) : Prop :=
  call.target.IsSplit ∧ call.target.stopsPrecisely = true ∧
    ∃ next, helper.setTarget call = some (next, 0)

/-- For a precise stop the last sub-path is the line that ends at the target. -/
def StopsOnFinalLine (helper : ForkliftHelper) (call : SetTargetCall) (next : ForkliftHelper) :
    Prop :=
  AcceptsPreciseStop helper call → EndsAtTarget call next.subpath

/-- For a precise stop the target before asked for one too, or the target is reached by a
single line, or the line to it is longer than 200 mm. -/
def FinalLineStays (helper : ForkliftHelper) (call : SetTargetCall) (_ : ForkliftHelper) :
    Prop :=
  AcceptsPreciseStop helper call → helper.KeepsFinal call

/-- In every sequence of targets, each accepted target with a precise stop ends with its
straight segment exactly if that segment is not removed for being short. -/
theorem stopsOnFinalLine_iff (helper : ForkliftHelper) (calls : List SetTargetCall) :
    Along setTargetStep StopsOnFinalLine calls helper ↔
      Along setTargetStep FinalLineStays calls helper := by
  apply along_congr
  intro helper call next stepped
  apply imp_congr_right
  rintro ⟨isSplit, -, other, accepted⟩
  rw [setTargetStep, accepted] at stepped
  cases stepped
  exact ForkliftHelper.endsAtTarget_iff isSplit accepted

/-- The car turns on the spot, and the next target is a precise stop 150 mm ahead, for which it
has to turn again.  Only the rotation is left. -/
theorem final_line_removed :
    ¬ ∀ (helper : ForkliftHelper) (calls : List SetTargetCall),
      Along setTargetStep StopsOnFinalLine calls helper := by
  intro all
  let start : ForkliftHelper := { standardRadius := 1000, savedStandardRadius := 1000 }
  let turn : SetTargetCall :=
    { target := { mode := rotateLeftMode, angle := 30 }
      current := ⟨0, 0, 0⟩
      geometry := { xPos := 0, yPos := 0 } }
  let stop : SetTargetCall :=
    { target := { mode := goForwardMode, xPos := 150, speed := 500, action := actionStop }
      current := ⟨0, 0, 30⟩
      geometry := { xPos := -150, yPos := 0, angleDiff := 30 } }
  let turned := (start.setTarget turn).elim start Prod.fst
  let stopped := (turned.setTarget stop).elim turned Prod.fst
  have accepted : turned.setTarget stop = some (stopped, 0) := by decide +kernel
  have along := all start [turn, stop] turned (by decide +kernel)
  have steps : setTargetStep stop turned = some stopped := by rw [setTargetStep, accepted]; rfl
  have ends := (along.2 stopped steps).1 ⟨by decide, by decide, stopped, accepted⟩
  rcases ends with ⟨sub, ⟨-, entry⟩, line, -⟩
  have rotates : (stopped.subpath.entries[stopped.subpath.size - 1]?).map
      (fun found => (found.getD {}).runmode) = some rotateLeftMode := by decide +kernel
  rw [entry] at rotates
  have turns : sub.runmode = rotateLeftMode := Option.some.inj rotates
  rw [turns] at line
  exact absurd line (by decide)

end DrivingControl.Controler

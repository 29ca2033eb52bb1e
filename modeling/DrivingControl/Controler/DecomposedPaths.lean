import DrivingControl.Controler.SubPathBranches
import Mathlib.Tactic.Linarith

/-!
# Well-formed decompositions

`SplitToSubTarget` mirrors a car on the side of negative `yPos`, and mirrors the segments
back.  Their lengths are the same on both sides, so it is enough that the branches are
right on the side of positive `yPos`.  What a call leaves is then the list of a branch
without its short segments.
-/

namespace DrivingControl.Controler

variable {direction : Direction} {subs : List SubPath}

/-! ## The other side -/

namespace SubPath

/-- What is done to the segments of a car that was mirrored, and of one that was not. -/
def reflect (mirrored : Bool) (sub : SubPath) : SubPath :=
  if mirrored then sub.turnOpposite.mirror.halfTurn else sub.halfTurn

variable {sub : SubPath} {mirrored : Bool}

theorem turnOpposite_eq (drives : sub.rotates = false) : sub.turnOpposite = sub := by
  simp [turnOpposite, drives]

theorem halfTurn_eq (drives : sub.rotates = false) : sub.halfTurn = sub := by
  simp [halfTurn, drives]

theorem reflect_eq (drives : sub.rotates = false) :
    sub.reflect mirrored = if mirrored then { sub with target := sub.target.mirror } else sub := by
  have mirrors : sub.mirror = { sub with target := sub.target.mirror } := by
    simp [mirror, drives]
  have half : ({ sub with target := sub.target.mirror } : SubPath).halfTurn =
      { sub with target := sub.target.mirror } := halfTurn_eq drives
  rw [reflect, turnOpposite_eq drives, halfTurn_eq drives, mirrors, half]

@[simp] theorem runmode_turnOpposite (sub : SubPath) : sub.turnOpposite.runmode = sub.runmode := by
  rw [turnOpposite]
  split <;> rfl

@[simp] theorem runmode_mirror (sub : SubPath) : sub.mirror.runmode = sub.runmode := by
  rw [mirror]
  split <;> rfl

@[simp] theorem runmode_halfTurn (sub : SubPath) : sub.halfTurn.runmode = sub.runmode := by
  rw [halfTurn]
  split <;> rfl

@[simp] theorem runmode_reflect (sub : SubPath) (mirrored : Bool) :
    (sub.reflect mirrored).runmode = sub.runmode := by
  rw [reflect]
  split <;> simp

/-- The length that a copy gets is kept on the other side. -/
theorem reflect_measured (sub : SubPath) (mirrored : Bool) (distance speed : Int) :
    (sub.measured distance speed).reflect mirrored =
      (sub.reflect mirrored).measured distance speed := by
  have turn (sub : SubPath) :
      (sub.measured distance speed).turnOpposite = sub.turnOpposite.measured distance speed := by
    have same : (sub.measured distance speed).rotates = sub.rotates := rfl
    simp only [turnOpposite, same]
    split <;> rfl
  have turned (sub : SubPath) :
      (sub.measured distance speed).mirror = sub.mirror.measured distance speed := by
    have same : (sub.measured distance speed).rotates = sub.rotates := rfl
    simp only [mirror, same]
    split <;> rfl
  have half (sub : SubPath) :
      (sub.measured distance speed).halfTurn = sub.halfTurn.measured distance speed := by
    have same : (sub.measured distance speed).rotates = sub.rotates := rfl
    have angle : (sub.measured distance speed).target.angle = sub.target.angle := rfl
    simp only [halfTurn, same, angle]
    split <;> rfl
  rw [reflect, reflect, turn, turned, half, half]
  split <;> rfl

@[simp] theorem distance_reflect (sub : SubPath) (mirrored : Bool) :
    (sub.reflect mirrored).distance = sub.distance := by
  have same := congrArg SubPath.distance
    (reflect_measured sub mirrored sub.distance sub.speed)
  exact same

theorem isLong_reflect (sub : SubPath) (mirrored : Bool) :
    (sub.reflect mirrored).isLong = sub.isLong := by
  simp only [isLong, rotates, runmode_reflect, distance_reflect]

theorem rotates_reflect (sub : SubPath) (mirrored : Bool) :
    (sub.reflect mirrored).rotates = sub.rotates := by
  rw [rotates, runmode_reflect, rotates]

end SubPath

theorem distanceBetweenPose_mirror (mirrored : Bool) {start other stop : Pose}
    (x : other.xPos = start.xPos)
    (y : other.yPos = if mirrored then -start.yPos else start.yPos) :
    distanceBetweenPose other (if mirrored then stop.mirror else stop) =
      distanceBetweenPose start stop := by
  have square (left right : Int) : (-left + right) ^ 2 = (left - right) ^ 2 := by
    rw [← neg_sq (left - right)]
    congr 1
    omega
  cases mirrored with
  | false => simp [distanceBetweenPose, x, y]
  | true => simp [distanceBetweenPose, x, y, Pose.mirror, square]

/-- The lengths are those on the other side. -/
theorem measureFrom_reflect (uninitialized : Int) (mirrored : Bool) {start other : Pose}
    (x : other.xPos = start.xPos)
    (y : other.yPos = if mirrored then -start.yPos else start.yPos)
    (drives : ∀ sub ∈ subs, sub.rotates = false) :
    measureFrom uninitialized other (subs.map (SubPath.reflect mirrored)) =
      (measureFrom uninitialized start subs).map (SubPath.reflect mirrored) := by
  induction subs generalizing start other with
  | nil => rfl
  | cons first rest ih =>
      have here := drives first List.mem_cons_self
      have target : (first.reflect mirrored).target =
          if mirrored then first.target.mirror else first.target := by
        rw [SubPath.reflect_eq here]
        split <;> rfl
      rw [List.map_cons, measureFrom, measureFrom, List.map_cons, SubPath.reflect_measured, target,
        distanceBetweenPose_mirror mirrored x y]
      congr 1
      apply ih
      · cases mirrored <;> rfl
      · cases mirrored <;> rfl
      · exact fun sub mem => drives sub (List.mem_cons_of_mem first mem)

theorem runmodes_measureFrom (uninitialized : Int) (start : Pose) (subs : List SubPath) :
    (measureFrom uninitialized start subs).map SubPath.runmode =
      subs.map SubPath.runmode := by
  induction subs generalizing start with
  | nil => rfl
  | cons first rest ih =>
      rw [measureFrom, List.map_cons, ih, List.map_cons]
      rfl

theorem runmodes_measure (uninitialized : Int) (start : Pose) (subs : List SubPath) :
    (measure uninitialized start subs).map SubPath.runmode = subs.map SubPath.runmode := by
  cases subs with
  | nil => rfl
  | cons first rest =>
      rw [measure]
      split
      · rw [List.map_cons, runmodes_measureFrom, List.map_cons]
        rfl
      · exact runmodes_measureFrom ..

theorem length_measure (uninitialized : Int) (start : Pose) (subs : List SubPath) :
    (measure uninitialized start subs).length = subs.length := by
  have same := congrArg List.length (runmodes_measure uninitialized start subs)
  rwa [List.length_map, List.length_map] at same

/-- The same with a rotation at the beginning. -/
theorem measure_reflect (uninitialized : Int) (mirrored : Bool) {start other : Pose}
    (x : other.xPos = start.xPos)
    (y : other.yPos = if mirrored then -start.yPos else start.yPos)
    (shape : Shape direction subs) :
    measure uninitialized other (subs.map (SubPath.reflect mirrored)) =
      (measure uninitialized start subs).map (SubPath.reflect mirrored) := by
  cases subs with
  | nil => rfl
  | cons first rest =>
      have drives : ∀ sub ∈ rest, sub.rotates = false := fun sub mem =>
        (shape.tail sub mem).not_rotates
      rw [List.map_cons, measure, measure, SubPath.rotates_reflect]
      split
      · rw [measureFrom_reflect uninitialized mirrored x y drives, List.map_cons,
          SubPath.reflect_measured]
      next notTurned =>
        rw [← List.map_cons]
        apply measureFrom_reflect uninitialized mirrored x y
        exact List.forall_mem_cons.mpr ⟨Bool.eq_false_iff.mpr notTurned, drives⟩

theorem kept_map (needStop : Bool) (subs : List SubPath) {change : SubPath → SubPath}
    (long : ∀ sub, (change sub).isLong = sub.isLong) :
    kept needStop (subs.map change) = (kept needStop subs).map change := by
  have same : SubPath.isLong ∘ change = SubPath.isLong := funext long
  have sameLast : (fun last : SubPath => needStop || last.isLong) ∘ change =
      fun last => needStop || last.isLong := by
    funext last
    simp only [Function.comp_apply, long]
  rw [kept, kept, ← List.map_dropLast, List.filter_map, same, List.getLast?_map,
    Option.toList_map, List.filter_map, sameLast, List.map_append]

/-- The segments before they are mirrored back, with their lengths and without the short
ones. -/
def simplified (settings : SplitSettings) (geometry : Geometry) (side : Pose)
    (targets : List (Pose × Int)) : List SubPath :=
  let subs := targets.map SubPaths.placed
  if subs.length > 1 then kept settings.needStop (measure geometry.uninitialized side subs)
  else subs.map fun sub => { sub with distance := distanceBetweenPose side sub.target }

/-- The segments that a call leaves in `subpath`. -/
def drivenSubPaths (settings : SplitSettings) (geometry : Geometry) (mirrored : Bool)
    (side : Pose) (targets : List (Pose × Int)) : List SubPath :=
  (simplified settings geometry side targets).map fun sub =>
    ((sub.reflect mirrored).setSpeed settings.maxSpeedAllowed).toWorld geometry

/-! ## What a call leaves -/

/-- A change of rotations only, made to the first segment. -/
theorem holds_changeFirst {paths : SubPaths} {change : SubPath → SubPath}
    (holds : paths.Holds subs) (shape : Shape direction subs) (some : subs ≠ [])
    (fixes : ∀ sub, sub.rotates = false → change sub = sub) :
    (paths.changeFirst change).Holds (subs.map change) := by
  cases subs with
  | nil => exact absurd rfl some
  | cons first rest =>
      have same : rest.map change = rest.map id :=
        List.map_congr_left fun sub mem => fixes sub (shape.tail sub mem).not_rotates
      rw [List.map_id] at same
      rw [List.map_cons, same]
      exact holds.changeFirst

theorem holds_reflect {paths : SubPaths} (holds : paths.Holds subs)
    (shape : Shape direction subs) (present : subs ≠ []) (mirrored : Bool) :
    ∃ next, paths.mirror mirrored = some next ∧
      (next.changeFirst SubPath.halfTurn).Holds (subs.map (SubPath.reflect mirrored)) := by
  cases mirrored with
  | false =>
      refine ⟨paths, rfl, ?_⟩
      exact holds_changeFirst holds shape present fun sub => SubPath.halfTurn_eq
  | true =>
      have turned := holds_changeFirst holds shape present fun sub => SubPath.turnOpposite_eq
      have turnedShape := shape.map SubPath.runmode_turnOpposite
      rcases turned.changeAll SubPath.mirror with ⟨next, changed, mirrors⟩
      refine ⟨next, changed, ?_⟩
      have halved := holds_changeFirst mirrors (turnedShape.map SubPath.runmode_mirror)
        (by simpa using present) fun sub => SubPath.halfTurn_eq
      rw [List.map_map, List.map_map] at halved
      exact halved

theorem reflect_goal (direction : Direction) (mirrored : Bool) (distance : Int) :
    ({ SubPaths.placed direction.way.goal with distance } : SubPath).reflect mirrored =
      { SubPaths.placed direction.way.goal with distance } := by
  cases direction <;> cases mirrored <;> rfl

section Calls

variable (settings : SplitSettings) (geometry : Geometry) {pose : Pose} {parts : SubTargets}

/-- A single segment is the line to the target. -/
theorem Decomposed.eq_goal {uninitialized : Int} {side : Pose}
    (decomposed : Decomposed direction uninitialized side parts)
    (single : ¬ 1 < parts.targets.length) : parts.targets = [direction.way.goal] := by
  rcases decomposed.ends with goal | ⟨front, before, last, split, -⟩
  · exact goal
  · have length := congrArg List.length split
    rw [length_measure, List.length_map, List.length_append] at length
    exact absurd (length ▸ Nat.le_add_left 2 front.length) single

/-- The removal of short segments on the other side. -/
theorem simplify_spec {paths : SubPaths}
    (decomposed : Decomposed direction geometry.uninitialized pose.side parts)
    (holds : paths.Holds
      ((parts.targets.map SubPaths.placed).map (SubPath.reflect (pose.yPos < 0)))) :
    ∃ next, simplify settings geometry pose pose.side paths = some next ∧
      next.Holds ((simplified settings geometry pose.side parts.targets).map
        (SubPath.reflect (pose.yPos < 0))) := by
  have x : pose.xPos = pose.side.xPos := by
    rw [Pose.side]
    split <;> rfl
  have y : pose.yPos =
      if decide (pose.yPos < 0) then -pose.side.yPos else pose.side.yPos := by
    by_cases below : pose.yPos < 0 <;> simp [Pose.side, Pose.mirror, below]
  have size : paths.size = parts.targets.length := by
    rw [holds.size, List.length_map, List.length_map]
  have measured := measure_reflect geometry.uninitialized _ x y decomposed.shape
  simp only [simplify, holds.read, Option.bind_eq_bind, Option.bind_some, simplified, measured,
    size, List.length_map]
  split
  next several =>
    rw [kept_map settings.needStop _ fun sub => sub.isLong_reflect _]
    apply SubPaths.holds_copyFrom
    have fewer := (kept_sublist settings.needStop
      (measure geometry.uninitialized pose.side (parts.targets.map SubPaths.placed))).length_le
    rw [length_measure, List.length_map] at fewer
    rw [List.length_map]
    exact fewer.trans decomposed.le
  next single =>
    refine ⟨_, rfl, ?_⟩
    rw [decomposed.eq_goal single] at holds ⊢
    simp only [List.map_cons, List.map_nil] at holds ⊢
    have unmoved : (SubPaths.placed direction.way.goal).reflect (pose.yPos < 0) =
        SubPaths.placed direction.way.goal := reflect_goal direction _ 0
    rw [unmoved] at holds
    rw [reflect_goal]
    exact holds.changeFirst

theorem Decomposed.targets_ne_nil {uninitialized : Int} {side : Pose}
    (decomposed : Decomposed direction uninitialized side parts) : parts.targets ≠ [] := by
  intro empty
  have goal := decomposed.eq_goal (by simp [empty])
  rw [goal] at empty
  cases empty

theorem mirrorBack_spec {uninitialized : Int} {side : Pose}
    (decomposed : Decomposed direction uninitialized side parts) (mirrorFlag : Bool) :
    ∃ turned, parts.mirrorBack mirrorFlag = some turned ∧
      turned.Holds ((parts.targets.map SubPaths.placed).map (SubPath.reflect mirrorFlag)) := by
  rcases SubPaths.holds_setSubpaths parts.targets decomposed.le with ⟨paths, filled, holds⟩
  have present : parts.targets.map SubPaths.placed ≠ [] := by
    simpa using decomposed.targets_ne_nil
  rcases holds_reflect holds decomposed.shape present mirrorFlag with ⟨next, mirrors, turned⟩
  refine ⟨_, ?_, turned⟩
  rw [SubTargets.mirrorBack, SubTargets.fill, decomposed.size, filled, Option.bind_eq_bind,
    Option.bind_some, mirrors]
  rfl

theorem finish_spec {paths : SubPaths}
    (decomposed : Decomposed direction geometry.uninitialized pose.side parts)
    (holds : paths.Holds
      ((parts.targets.map SubPaths.placed).map (SubPath.reflect (pose.yPos < 0)))) :
    ∃ driven, finish settings geometry pose paths = some driven ∧
      driven.Holds (drivenSubPaths settings geometry (pose.yPos < 0) pose.side
        parts.targets) := by
  rcases simplify_spec settings geometry decomposed holds with ⟨simple, simplifies, kept⟩
  rcases kept.changeAll (SubPath.setSpeed settings.maxSpeedAllowed) with
    ⟨fast, sets, speeds⟩
  rcases speeds.changeAll (SubPath.toWorld geometry) with ⟨driven, places, ends⟩
  refine ⟨driven, ?_, ?_⟩
  · simp only [finish, simplifies, sets, places, Option.bind_eq_bind, Option.bind_some]
  · rw [List.map_map, List.map_map] at ends
    exact ends

variable (current target : Pose) (direction : Direction) (standardRadius : Int)

/-- The radius that a call leaves. -/
def radiusAfter : Int :=
  if current.Invalid ∨ target.Invalid then standardRadius
  else
    turningRadius direction geometry.circleRadius settings.savedStandardRadius
      (geometry.relative current target)

/-- The branch that is taken. -/
def chosenSubTargets : SubTargets :=
  direction.subTargets geometry (radiusAfter settings geometry current target direction
    standardRadius) (geometry.relative current target).side

theorem turningRadius_ge (circleRadius savedStandardRadius : Int) (pose : Pose) :
    1000 ≤ turningRadius direction circleRadius savedStandardRadius pose := by
  have least (radius : Int) :
      1000 ≤ if direction = .backward ∨ radius < 1000 then 1000 else radius := by
    split <;> omega
  exact least _

theorem mirror_angle {pose : Pose} (lower : 0 ≤ pose.angle) (upper : pose.angle < 360) :
    0 ≤ pose.mirror.angle ∧ pose.mirror.angle < 360 := by
  by_cases zero : pose.angle = 0
  · simp [Pose.mirror, zero]
  · have positive := lt_of_le_of_ne lower (Ne.symm zero)
    simp only [Pose.mirror, zero, if_false]
    constructor <;> linarith

/-- The relative heading is computed in `[0, 360)`, also on the other side. -/
theorem side_angle {current target : Pose} (valid : ¬(current.Invalid ∨ target.Invalid)) :
    0 ≤ (geometry.relative current target).side.angle ∧
      (geometry.relative current target).side.angle < 360 := by
  simp only [Pose.Invalid, not_or, not_le, not_lt, ge_iff_le] at valid
  rcases valid with ⟨⟨currentUpper, currentLower⟩, targetUpper, targetLower⟩
  have bounds : 0 ≤ relativeHeading current target ∧ relativeHeading current target < 360 := by
    simp only [relativeHeading]
    split
    · constructor <;> linarith
    · constructor <;> linarith
  rw [Pose.side]
  split
  · exact mirror_angle bounds.1 bounds.2
  · exact bounds

theorem side_yPos (pose : Pose) : 0 ≤ pose.side.yPos := by
  rw [Pose.side]
  split
  · simp only [Pose.mirror]
    omega
  · omega

theorem decomposed_chosen (valid : ¬(current.Invalid ∨ target.Invalid)) :
    Decomposed direction geometry.uninitialized (geometry.relative current target).side
      (chosenSubTargets settings geometry current target direction standardRadius) := by
  have wide : 1000 ≤ radiusAfter settings geometry current target direction standardRadius := by
    rw [radiusAfter, if_neg valid]
    exact turningRadius_ge ..
  rcases side_angle geometry valid with ⟨lower, upper⟩
  exact decomposed_subTargets geometry direction (by omega) (side_yPos _) lower upper

/-- A call writes and reads inside the array.  It fails and leaves no segment, or it returns 0
and leaves the segments of a branch. -/
theorem splitToSubTarget_spec :
    ∃ result, splitToSubTarget settings geometry current target direction standardRadius =
        some result ∧
      result.standardRadius =
        radiusAfter settings geometry current target direction standardRadius ∧
      (result.ret = -1 ∧ result.subpath = {} ∨
        result.ret = 0 ∧ ¬(current.Invalid ∨ target.Invalid) ∧
          result.subpath.Holds (drivenSubPaths settings geometry
            ((geometry.relative current target).yPos < 0)
            (geometry.relative current target).side
            (chosenSubTargets settings geometry current target direction
              standardRadius).targets)) := by
  by_cases valid : current.Invalid ∨ target.Invalid
  · refine ⟨⟨-1, standardRadius, {}⟩, if_pos valid, ?_, .inl ⟨rfl, rfl⟩⟩
    rw [radiusAfter, if_pos valid]
  · have decomposed := decomposed_chosen settings geometry current target direction
      standardRadius valid
    have radius : radiusAfter settings geometry current target direction standardRadius =
        turningRadius direction geometry.circleRadius settings.savedStandardRadius
          (geometry.relative current target) := if_neg valid
    rw [chosenSubTargets, radius] at decomposed
    simp only [splitToSubTarget, if_neg valid, chosenSubTargets, radius]
    split
    · exact ⟨_, rfl, rfl, .inl ⟨rfl, rfl⟩⟩
    · rcases mirrorBack_spec decomposed _ with ⟨turned, mirrors, holds⟩
      rcases finish_spec settings geometry decomposed holds with ⟨driven, finishes, ends⟩
      simp only [mirrors, holds.read, finishes, Option.bind_eq_bind, Option.bind_some]
      split
      · exact ⟨_, rfl, rfl, .inl ⟨rfl, rfl⟩⟩
      · exact ⟨_, rfl, rfl, .inr ⟨rfl, valid, ends⟩⟩

end Calls

/-! ## Every call -/

theorem runmode_setSpeed (maxSpeedAllowed : Int) (sub : SubPath) :
    (sub.setSpeed maxSpeedAllowed).runmode = sub.runmode := rfl

theorem runmode_toWorld (geometry : Geometry) (sub : SubPath) :
    (sub.toWorld geometry).runmode = sub.runmode := by
  rw [SubPath.toWorld]
  split <;> rfl

theorem runmode_driven (settings : SplitSettings) (geometry : Geometry) (mirrored : Bool)
    (sub : SubPath) :
    (((sub.reflect mirrored).setSpeed settings.maxSpeedAllowed).toWorld geometry).runmode =
      sub.runmode := by
  rw [runmode_toWorld, runmode_setSpeed, SubPath.runmode_reflect]

/-- What the removal of short segments leaves of an approach. -/
theorem Approaches.kept {measured : List SubPath} (approaches : Approaches direction measured)
    (needStop : Bool) :
    ∃ front before last, measured.getLast? = some last ∧
      kept needStop measured =
        front ++ before :: (if needStop || last.isLong then [last] else []) ∧
      before.runmode ≠ direction.way.line ∧ last.runmode = direction.way.line ∧
      last.target = ⟨0, 0, 0⟩ := by
  rcases approaches with ⟨front, before, last, split, long, other, both⟩
  refine ⟨front.filter SubPath.isLong, before, last, ?_, ?_, other, both⟩
  · rw [split]
    simp
  · have halves : front ++ [before, last] = (front ++ [before]) ++ [last] := by simp
    rw [split, Controler.kept, halves, List.dropLast_concat, List.getLast?_concat,
      List.filter_append]
    simp only [List.filter_cons, long, if_true, List.filter_nil, Option.toList_some,
      List.append_assoc, List.singleton_append]

/-- The removal of short segments leaves a list of the right shape that is not empty. -/
theorem Decomposed.shape_simplified {geometry : Geometry} {side : Pose} {parts : SubTargets}
    (decomposed : Decomposed direction geometry.uninitialized side parts)
    (settings : SplitSettings) :
    Shape direction (simplified settings geometry side parts.targets) ∧
      simplified settings geometry side parts.targets ≠ [] := by
  simp only [simplified]
  split
  next several =>
    have measured := decomposed.shape.of_runmodes
      (runmodes_measure geometry.uninitialized side (parts.targets.map SubPaths.placed))
    refine ⟨measured.kept settings.needStop, ?_⟩
    rcases decomposed.ends with goal | approaches
    · rw [goal] at several
      exact absurd several (Nat.lt_irrefl 1)
    · rcases approaches.kept settings.needStop with ⟨front, before, last, -, left, -⟩
      rw [left]
      simp
  next single =>
    constructor
    · exact decomposed.shape.map fun _ => rfl
    · simpa using decomposed.targets_ne_nil

/-- For every pair of poses, direction, radius and outcome of the helper functions, a call
stays inside the array, and it fails or leaves a well-formed decomposition. -/
theorem splitToSubTarget_wellFormed (settings : SplitSettings) (geometry : Geometry)
    (current target : Pose) (direction : Direction) (standardRadius : Int) :
    ∃ result, splitToSubTarget settings geometry current target direction standardRadius =
        some result ∧
      (result.ret ≠ 0 ∨ result.ret = 0 ∧ WellFormed direction result.subpath) := by
  rcases splitToSubTarget_spec settings geometry current target direction standardRadius with
    ⟨result, returns, -, ⟨failed, -⟩ | ⟨passed, valid, holds⟩⟩
  · exact ⟨result, returns, .inl (by rw [failed]; decide)⟩
  · have decomposed := decomposed_chosen settings geometry current target direction
      standardRadius valid
    rcases decomposed.shape_simplified settings with ⟨shape, some⟩
    refine ⟨result, returns, .inr ⟨passed, ?_⟩⟩
    apply (shape.map (runmode_driven settings geometry _)).wellFormed _ holds
    simpa using some

end DrivingControl.Controler

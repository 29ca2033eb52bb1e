import DrivingControl.Controler.PathDecomposition

/-!
# The branches of the decomposition

Every branch of `SplitToSubTarget` ends with the line to the target, and the segment
before that line is a rotation or an arc that begins more than 200 mm off the line.  So
the removal of short segments leaves at least that one.
-/

namespace DrivingControl.Controler

/-! ## Well-formed lists -/

/-- The run mode is one of the direction. -/
def Direction.Drives (direction : Direction) (runmode : Int) : Prop :=
  runmode = direction.way.line ∨ runmode = direction.way.arc

/-- Between one and five entries are in use, each of them filled; only the first one may be a
rotation, and all others drive in the direction. -/
structure WellFormed (direction : Direction) (paths : SubPaths) : Prop where
  pos : 1 ≤ paths.size
  le : paths.size ≤ 5
  filled : ∀ i, i < paths.size → ∃ sub, paths.entries[i]? = some (some sub) ∧
    (i = 0 ∧ sub.rotates = true ∨ direction.Drives sub.runmode)

/-- The run modes of a list: a rotation at most at the beginning. -/
structure Shape (direction : Direction) (subs : List SubPath) : Prop where
  head : ∀ first ∈ subs.head?, first.rotates = true ∨ direction.Drives first.runmode
  tail : ∀ sub ∈ subs.tail, direction.Drives sub.runmode

variable {direction : Direction} {subs : List SubPath}

theorem Direction.Drives.not_rotates {sub : SubPath} (drives : direction.Drives sub.runmode) :
    sub.rotates = false := by
  cases direction with
  | forward => rcases drives with line | arc <;> simp [SubPath.rotates, *] <;> decide
  | backward => rcases drives with line | arc <;> simp [SubPath.rotates, *] <;> decide

theorem shape_of_drives (drives : ∀ sub ∈ subs, direction.Drives sub.runmode) :
    Shape direction subs where
  head first mem := .inr (drives first (List.mem_of_mem_head? mem))
  tail sub mem := drives sub (List.mem_of_mem_tail mem)

theorem shape_cons {first : SubPath} {rest : List SubPath} (rotates : first.rotates = true)
    (drives : ∀ sub ∈ rest, direction.Drives sub.runmode) : Shape direction (first :: rest) where
  head other mem := by
    cases mem
    exact .inl rotates
  tail := drives

/-- A list of this shape fills the array well. -/
theorem Shape.wellFormed (shape : Shape direction subs) (some : subs ≠ []) {paths : SubPaths}
    (holds : paths.Holds subs) : WellFormed direction paths where
  pos := holds.size ▸ List.length_pos_iff.mpr some
  le := holds.size ▸ holds.le
  filled i inside := by
    rw [holds.size] at inside
    refine ⟨subs[i], holds.filled i inside, ?_⟩
    cases subs with
    | nil => exact absurd rfl some
    | cons first rest =>
        cases i with
        | zero =>
            rcases shape.head first rfl with rotates | drives
            · exact .inl ⟨rfl, rotates⟩
            · exact .inr drives
        | succ i => exact .inr (shape.tail _ (List.getElem_mem _))

/-- The shape is one of the run modes. -/
theorem Shape.of_runmodes (shape : Shape direction subs) {others : List SubPath}
    (same : others.map SubPath.runmode = subs.map SubPath.runmode) : Shape direction others := by
  cases others with
  | nil => exact ⟨nofun, nofun⟩
  | cons other rest =>
      cases subs with
      | nil => cases same
      | cons first subs =>
          rw [List.map_cons, List.map_cons, List.cons.injEq] at same
          constructor
          · rintro _ ⟨⟩
            rw [SubPath.rotates, same.1]
            exact shape.head first rfl
          · intro sub mem
            have known : sub.runmode ∈ subs.map SubPath.runmode :=
              same.2 ▸ List.mem_map_of_mem mem
            rcases List.mem_map.mp known with ⟨before, was, equal⟩
            rw [← equal]
            exact shape.tail before was

/-- Changes that keep the run modes keep the shape. -/
theorem Shape.map (shape : Shape direction subs) {change : SubPath → SubPath}
    (keeps : ∀ sub, (change sub).runmode = sub.runmode) :
    Shape direction (subs.map change) := by
  apply shape.of_runmodes
  rw [List.map_map]
  exact List.map_congr_left fun sub _ => keeps sub

theorem kept_sublist (needStop : Bool) (subs : List SubPath) :
    (kept needStop subs).Sublist subs := by
  have parts : subs.dropLast ++ subs.getLast?.toList = subs := by
    rcases List.eq_nil_or_concat subs with rfl | ⟨front, last, rfl⟩
    · rfl
    · simp
  calc (kept needStop subs).Sublist (subs.dropLast ++ subs.getLast?.toList) :=
        List.filter_sublist.append List.filter_sublist
    _ = subs := parts

/-- Dropping short segments keeps the shape: a rotation at the beginning stays. -/
theorem Shape.kept (shape : Shape direction subs) (needStop : Bool) :
    Shape direction (kept needStop subs) := by
  cases subs with
  | nil => exact shape
  | cons first rest =>
      rcases shape.head first rfl with rotates | drives
      · have long : first.isLong = true := by rw [SubPath.isLong, rotates, Bool.true_or]
        cases rest with
        | nil => simpa [Controler.kept, long] using shape
        | cons second rest =>
            have split : Controler.kept needStop (first :: second :: rest) =
                first :: Controler.kept needStop (second :: rest) := by
              simp [Controler.kept, long]
            rw [split]
            exact shape_cons rotates fun sub mem => shape.tail sub ((kept_sublist needStop _).mem mem)
      · apply shape_of_drives
        intro sub mem
        rcases List.mem_cons.mp ((kept_sublist needStop _).mem mem) with rfl | later
        · exact drives
        · exact shape.tail sub later

/-! ## The ends of the branches -/

/-- Poses that are more than 200 mm apart across the line of the target. -/
theorem distanceBetweenPose_gt {start stop : Pose} (apart : 200 < start.yPos - stop.yPos) :
    200 < distanceBetweenPose start stop := by
  have square : 201 * 201 ≤
      ((start.xPos - stop.xPos) ^ 2 + (start.yPos - stop.yPos) ^ 2).toNat := by
    have across : 201 ^ 2 ≤ (start.yPos - stop.yPos) ^ 2 :=
      pow_le_pow_left₀ (by decide) (by omega) 2
    have along := sq_nonneg (start.xPos - stop.xPos)
    omega
  have root := Nat.le_sqrt.mpr square
  rw [distanceBetweenPose]
  omega

/-- The last segment of a measured list is the line to the target, and the one before it is a
long one that is no line. -/
def Approaches (direction : Direction) (measured : List SubPath) : Prop :=
  ∃ front before last, measured = front ++ [before, last] ∧ before.isLong = true ∧
    before.runmode ≠ direction.way.line ∧ last.runmode = direction.way.line ∧
    last.target = ⟨0, 0, 0⟩

theorem Approaches.cons {measured : List SubPath} (approaches : Approaches direction measured)
    (first : SubPath) : Approaches direction (first :: measured) := by
  rcases approaches with ⟨front, before, last, split, both⟩
  exact ⟨first :: front, before, last, by rw [split, List.cons_append], both⟩

/-- What each branch gives. -/
structure Decomposed (direction : Direction) (uninitialized : Int) (side : Pose)
    (parts : SubTargets) : Prop where
  size : parts.size = parts.targets.length
  le : parts.targets.length ≤ 5
  shape : Shape direction (parts.targets.map SubPaths.placed)
  ends : parts.targets = [direction.way.goal] ∨
    Approaches direction (measure uninitialized side (parts.targets.map SubPaths.placed))

section Branches

variable {uninitialized : Int} {side : Pose} {targets : List (Pose × Int)}

theorem measure_of_drives {first : SubPath} {rest : List SubPath}
    (drives : direction.Drives first.runmode) :
    measure uninitialized side (first :: rest) =
      measureFrom uninitialized side (first :: rest) := by
  rw [measure, if_neg (Bool.eq_false_iff.mp drives.not_rotates)]

theorem decomposed_plain (drives : ∀ part ∈ targets, direction.Drives part.2)
    (le : targets.length ≤ 5)
    (approaches : Approaches direction
      (measureFrom uninitialized side (targets.map SubPaths.placed))) :
    Decomposed direction uninitialized side ⟨targets.length, targets⟩ where
  size := rfl
  le := le
  shape := shape_of_drives (List.forall_mem_map.mpr drives)
  ends := by
    right
    cases targets with
    | nil => exact approaches
    | cons first rest =>
        rw [List.map_cons, measure_of_drives (drives first List.mem_cons_self)]
        exact approaches

theorem decomposed_rotation (angleDiff : ℚ) (drives : ∀ part ∈ targets, direction.Drives part.2)
    (le : targets.length ≤ 4)
    (approaches : Approaches direction
      (measureFrom uninitialized side (targets.map SubPaths.placed))) :
    Decomposed direction uninitialized side
      ⟨targets.length + 1, rotation angleDiff :: targets⟩ where
  size := rfl
  le := Nat.succ_le_succ le
  shape := shape_cons rfl (List.forall_mem_map.mpr drives)
  ends := by
    right
    rw [List.map_cons, measure,
      if_pos (show (SubPaths.placed (rotation angleDiff)).rotates = true from rfl)]
    exact approaches.cons _

variable (geometry : Geometry) {radius : Int}

theorem Direction.arc_ne_line (direction : Direction) : direction.way.arc ≠ direction.way.line := by
  cases direction <;> decide

theorem Direction.rotation_ne_line (direction : Direction) :
    rotateLeftMode ≠ direction.way.line := by
  cases direction <;> decide

/-- Behind the end of one segment, more than 200 mm off the line of the target, an arc leads to
that line. -/
theorem approaches_arc (direction : Direction) {start : Pose} {arc : Pose}
    (off : 200 < start.yPos) (on : arc.yPos = 0) :
    Approaches direction (measureFrom uninitialized start
      ([(arc, direction.way.arc), direction.way.goal].map SubPaths.placed)) := by
  refine ⟨[], _, _, rfl, ?_, direction.arc_ne_line, rfl, rfl⟩
  have long : 200 < distanceBetweenPose start arc := distanceBetweenPose_gt (by omega)
  simp [SubPath.isLong, SubPaths.placed, SubPath.measured, long]

theorem approaches_cons {first : Pose × Int}
    (approaches : Approaches direction
      (measureFrom uninitialized first.1 (targets.map SubPaths.placed))) :
    Approaches direction
      (measureFrom uninitialized side ((first :: targets).map SubPaths.placed)) := by
  rw [List.map_cons, measureFrom]
  exact approaches.cons _

theorem decomposed_alongLine :
    Decomposed direction uninitialized side (direction.way.alongLine geometry) := by
  have goal : ∀ part ∈ [direction.way.goal], direction.Drives part.2 := by
    intro part mem
    cases List.mem_singleton.mp mem
    exact .inl rfl
  rw [Way.alongLine]
  split
  · constructor
    · rfl
    · exact (by decide : 2 ≤ 5)
    · exact shape_cons rfl (List.forall_mem_map.mpr goal)
    · right
      exact ⟨[], _, _, rfl, rfl, direction.rotation_ne_line, rfl, rfl⟩
  · exact ⟨rfl, (by decide : 1 ≤ 5), shape_of_drives (List.forall_mem_map.mpr goal), .inl rfl⟩

/-- A branch that ends with an arc that begins off the line of the target. -/
theorem decomposed_arcs (front : List (Pose × Int)) (arc : Pose)
    (drives : ∀ part ∈ front, direction.Drives part.2) (le : front.length ≤ 2)
    (approaches : Approaches direction (measureFrom uninitialized side
      ((front ++ [(arc, direction.way.arc), direction.way.goal]).map SubPaths.placed))) :
    Decomposed direction uninitialized side
      (if |geometry.angleDiff| > 20 then
        ⟨front.length + 3, rotation geometry.angleDiff ::
          (front ++ [(arc, direction.way.arc), direction.way.goal])⟩
      else ⟨front.length + 2, front ++ [(arc, direction.way.arc), direction.way.goal]⟩) := by
  have all : ∀ part ∈ front ++ [(arc, direction.way.arc), direction.way.goal],
      direction.Drives part.2 := by
    intro part mem
    rcases List.mem_append.mp mem with before | behind
    · exact drives part before
    · simp only [List.mem_cons, List.not_mem_nil, or_false] at behind
      rcases behind with rfl | rfl
      · exact .inr rfl
      · exact .inl rfl
  have length : (front ++ [(arc, direction.way.arc), direction.way.goal]).length =
      front.length + 2 := by simp
  split
  · have turned := decomposed_rotation geometry.angleDiff all (by omega) approaches
    rwa [length] at turned
  · have plain := decomposed_plain all (by omega) approaches
    rwa [length] at plain

variable {pose : Pose}

theorem decomposed_overArc (off : 200 < side.yPos) :
    Decomposed direction uninitialized side (direction.way.overArc geometry side) :=
  decomposed_arcs geometry [] _ (fun _ mem => nomatch mem) (Nat.zero_le 2)
    (approaches_arc direction off rfl)

theorem decomposed_overLineAcross (wide : 200 < radius) :
    Decomposed direction uninitialized side
      (direction.way.overLineAcross geometry radius pose) := by
  apply decomposed_arcs geometry [(⟨pose.xPos, radius, _⟩, _)] _ _ (by decide : 1 ≤ 2)
  · exact approaches_cons (approaches_arc direction wide rfl)
  · intro part mem
    cases List.mem_singleton.mp mem
    exact .inl rfl

theorem decomposed_overDistantArcs (wide : 200 < radius) :
    Decomposed direction uninitialized side
      (direction.way.overDistantArcs geometry radius pose) := by
  apply decomposed_arcs geometry [(_, direction.way.arc), (⟨_, radius, _⟩, direction.way.line)] _ _
    (by decide : 2 ≤ 2)
  · exact approaches_cons (approaches_cons (approaches_arc direction wide rfl))
  · intro part mem
    simp only [List.mem_cons, List.not_mem_nil, or_false] at mem
    rcases mem with rfl | rfl
    · exact .inr rfl
    · exact .inl rfl

theorem decomposed_overAdjacentArcs (wide : 200 < radius) :
    Decomposed direction uninitialized side
      (direction.way.overAdjacentArcs geometry radius pose) := by
  apply decomposed_arcs geometry [(⟨_, radius, _⟩, direction.way.arc)] _ _ (by decide : 1 ≤ 2)
  · exact approaches_cons (approaches_arc direction wide rfl)
  · intro part mem
    cases List.mem_singleton.mp mem
    exact .inr rfl

theorem decomposed_overInclinedArcs (wide : 200 < radius) :
    Decomposed direction uninitialized side
      (direction.way.overInclinedArcs geometry radius pose) := by
  have drives : ∀ part ∈ (direction.way.overInclinedArcs geometry radius pose).targets,
      direction.Drives part.2 := by
    intro part mem
    simp only [Way.overInclinedArcs, List.mem_cons, List.not_mem_nil, or_false] at mem
    rcases mem with rfl | rfl | rfl | rfl
    · exact .inr rfl
    · exact .inl rfl
    · exact .inr rfl
    · exact .inl rfl
  apply decomposed_plain drives
  · exact (by decide : 4 ≤ 5)
  · exact approaches_cons (approaches_cons (approaches_arc direction wide rfl))

theorem decomposed_headingAway (wide : 200 < radius) :
    Decomposed direction uninitialized side (direction.way.headingAway geometry radius side) := by
  rw [Way.headingAway]
  split
  · exact decomposed_overDistantArcs geometry wide
  · exact decomposed_overAdjacentArcs geometry wide

theorem decomposed_headingTowards (wide : 200 < radius) :
    Decomposed direction uninitialized side
      (direction.way.headingTowards geometry radius side) := by
  rw [Way.headingTowards]
  split
  · exact decomposed_overInclinedArcs geometry wide
  · exact decomposed_overAdjacentArcs geometry wide

/-- A car that is not on the side of negative `yPos` is in one of the branches. -/
theorem decomposed_subTargets (direction : Direction) (wide : 200 < radius)
    (above : 0 ≤ side.yPos) (lower : 0 ≤ side.angle) (upper : side.angle < 360) :
    Decomposed direction uninitialized side (direction.subTargets geometry radius side) := by
  have around : ¬(side.angle ≥ 90 ∧ side.angle ≤ 270) → ¬(side.angle ≥ 0 ∧ side.angle < 90) →
      side.angle > 270 ∧ side.angle < 360 := by
    intro notBeyond notBefore
    refine ⟨?_, upper⟩
    rcases lt_or_ge side.angle 90 with small | large
    · exact absurd ⟨lower, small⟩ notBefore
    · exact lt_of_not_ge fun beyond => notBeyond ⟨large, beyond⟩
  cases direction with
  | forward =>
      simp only [Direction.subTargets, forwardSubTargets]
      split
      · exact decomposed_alongLine geometry
      split
      next near => exact decomposed_overArc geometry near.2
      split
      · split
        · exact decomposed_overLineAcross geometry wide
        next notBeyond =>
          split
          · exact decomposed_headingAway geometry wide
          next notBefore =>
            rw [if_pos (around notBeyond notBefore)]
            exact decomposed_headingTowards geometry wide
      · omega
  | backward =>
      simp only [Direction.subTargets, backwardSubTargets]
      split
      · exact decomposed_alongLine geometry
      split
      next near => exact decomposed_overArc geometry near.2
      split
      · split
        · exact decomposed_overLineAcross geometry wide
        next notBeyond =>
          split
          · exact decomposed_headingAway geometry wide
          next notAhead =>
            have before : side.angle ≥ 0 ∧ side.angle < 90 := by
              apply Classical.byContradiction
              intro notBefore
              exact notAhead (around notBeyond notBefore)
            rw [if_pos before]
            exact decomposed_headingTowards geometry wide
      · omega

end Branches

end DrivingControl.Controler

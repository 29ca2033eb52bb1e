import DrivingControl.Controler.RoutePlanner
import Mathlib.Algebra.Order.Ring.Rat

/-!
# The array of sub-paths

The move helper keeps the segments of a target in `subpath`, an array of five entries,
of which `subpathSize` are in use.  Both are written separately: a branch of the
decomposition first sets the size by hand and then fills the entries by an index that
counts up.

An entry is `none` as `clearSubpath` leaves it, with all fields zero.  `Holds` relates
the array to the list of the segments in use.
-/

namespace DrivingControl.Controler

/-- `POSE`.  Headings are rational numbers, as floating point numbers are. -/
structure Pose where
  xPos : Int
  yPos : Int
  angle : ℚ
  deriving DecidableEq, Repr

/-- `SUBPATH`. -/
structure SubPath where
  target : Pose := ⟨0, 0, 0⟩
  runmode : Int := stopMode
  distance : Int := 0
  speed : Int := 0
  deriving DecidableEq, Repr

/-- `RotateLeftMode == runmode || RotateRightMode == runmode`. -/
def SubPath.rotates (sub : SubPath) : Bool :=
  sub.runmode == rotateLeftMode || sub.runmode == rotateRightMode

/-- `subpath` and `subpathSize`, as `clearSubpath` leaves them. -/
structure SubPaths where
  entries : Vector (Option SubPath) 5 := .replicate 5 none
  size : Nat := 0
  deriving DecidableEq, Repr

namespace SubPaths

/-- Write an entry.  There is no result behind the end of the array. -/
def setEntry (index : Nat) (change : SubPath → SubPath) (paths : SubPaths) : Option SubPaths :=
  if inside : index < 5 then
    some { paths with
      entries := paths.entries.set index (some (change (paths.entries[index].getD {}))) }
  else none

/-- Writes with an index that counts up. -/
def setEntries : Nat → List (SubPath → SubPath) → SubPaths → Option SubPaths
  | _, [], paths => some paths
  | index, change :: changes, paths =>
      (paths.setEntry index change).bind (setEntries (index + 1) changes)

/-- The calls of `setSubpath` with `subindex++`, from the first entry on. -/
def setSubpaths (targets : List (Pose × Int)) : SubPaths → Option SubPaths :=
  setEntries 0 (targets.map fun (target, mode) entry => { entry with target, runmode := mode })

/-- The copy of the segments that are kept. -/
def copyFrom (subs : List SubPath) : SubPaths → Option SubPaths :=
  setEntries 0 (subs.map fun sub _ => sub)

/-- A loop that changes the entries below `subpathSize`. -/
def changeAll (change : SubPath → SubPath) (paths : SubPaths) : Option SubPaths :=
  if paths.size ≤ 5 then
    some { paths with
      entries := paths.entries.mapIdx fun i entry =>
        if i < paths.size then entry.map change else entry }
  else none

/-- A change of `subpath[0]`. -/
def changeFirst (change : SubPath → SubPath) (paths : SubPaths) : SubPaths :=
  { paths with entries := paths.entries.set 0 (paths.entries[0].map change) }

/-- `subpath[0]`. -/
def first (paths : SubPaths) : SubPath := paths.entries[0].getD {}

/-- Write all of `subpath[0]`. -/
def writeFirst (sub : SubPath) (paths : SubPaths) : SubPaths :=
  { paths with entries := paths.entries.set 0 (some sub) }

/-- What a loop over the entries below `subpathSize` reads. -/
def read (paths : SubPaths) : Option (List SubPath) :=
  if paths.size ≤ 5 then
    some ((paths.entries.toList.take paths.size).map fun entry => entry.getD {})
  else none

/-- The entries below `subpathSize` are filled, and with these segments. -/
structure Holds (paths : SubPaths) (subs : List SubPath) : Prop where
  size : paths.size = subs.length
  le : subs.length ≤ 5
  filled : ∀ i (inside : i < subs.length), paths.entries[i]? = some (some subs[i])

variable {paths : SubPaths} {subs : List SubPath} {change : SubPath → SubPath}

theorem setEntries_spec (changes : List (SubPath → SubPath)) (index : Nat) (paths : SubPaths)
    (fits : index + changes.length ≤ 5)
    (cleared : ∀ i, index ≤ i → i < 5 → paths.entries[i]? = some none) :
    ∃ next, setEntries index changes paths = some next ∧ next.size = paths.size ∧
      (∀ i, i < index → next.entries[i]? = paths.entries[i]?) ∧
      ∀ i (inside : i < changes.length),
        next.entries[index + i]? = some (some (changes[i] {})) := by
  induction changes generalizing index paths with
  | nil => exact ⟨paths, rfl, rfl, fun _ _ => rfl, fun i inside => by simp at inside⟩
  | cons change changes ih =>
      rw [List.length_cons] at fits
      have inside : index < 5 := by omega
      have empty : paths.entries[index] = none := by
        simpa [inside] using cleared index (Nat.le_refl _) inside
      have written : paths.setEntry index change = some { paths with
          entries := paths.entries.set index (some (change {})) } := by
        rw [setEntry, dif_pos inside, empty]
        rfl
      rcases ih (index + 1) { paths with entries := paths.entries.set index (some (change {})) }
        (by omega) (fun i after below => by
          rw [Vector.getElem?_set_ne _ (by omega)]
          exact cleared i (by omega) below) with ⟨next, filled, size, before, behind⟩
      refine ⟨next, by rw [setEntries, written, Option.bind_some, filled], size, ?_, ?_⟩
      · intro i below
        rw [before i (by omega), Vector.getElem?_set_ne _ (by omega)]
      · intro i within
        cases i with
        | zero =>
            rw [Nat.add_zero, before index (Nat.lt_succ_self _)]
            simp [inside]
        | succ i =>
            have found := behind i (by simpa using within)
            rw [List.getElem_cons_succ, ← found]
            congr 1
            omega

/-- Up to five writes fill the cleared array. -/
theorem holds_setEntries (changes : List (SubPath → SubPath)) (fits : changes.length ≤ 5) :
    ∃ next, setEntries 0 changes { size := changes.length } = some next ∧
      next.Holds (changes.map fun change => change {}) := by
  rcases setEntries_spec changes 0 { size := changes.length } (by omega)
    (fun i _ below => by simp [below]) with ⟨next, filled, size, -, entries⟩
  refine ⟨next, filled, ?_⟩
  constructor
  · rw [size, List.length_map]
  · rwa [List.length_map]
  · intro i inside
    rw [List.length_map] at inside
    simpa using entries i inside

/-- The segment that `setSubpath` makes of a cleared entry. -/
def placed (part : Pose × Int) : SubPath := { target := part.1, runmode := part.2 }

theorem holds_setSubpaths (targets : List (Pose × Int)) (fits : targets.length ≤ 5) :
    ∃ next, setSubpaths targets { size := targets.length } = some next ∧
      next.Holds (targets.map placed) := by
  have filled := holds_setEntries
    (targets.map fun (target, mode) entry => { entry with target, runmode := mode })
    (by rwa [List.length_map])
  rw [List.length_map, List.map_map] at filled
  exact filled

theorem holds_copyFrom (subs : List SubPath) (fits : subs.length ≤ 5) :
    ∃ next, copyFrom subs { size := subs.length } = some next ∧ next.Holds subs := by
  have filled := holds_setEntries (subs.map fun sub _ => sub) (by rwa [List.length_map])
  rw [List.length_map, List.map_map] at filled
  simpa [copyFrom, Function.comp_def] using filled

theorem Holds.changeAll (holds : paths.Holds subs) (change : SubPath → SubPath) :
    ∃ next, paths.changeAll change = some next ∧ next.Holds (subs.map change) := by
  refine ⟨_, if_pos (holds.size ▸ holds.le), ?_⟩
  constructor
  · rw [List.length_map]
    exact holds.size
  · rw [List.length_map]
    exact holds.le
  · intro i inside
    rw [List.length_map] at inside
    have filled := holds.filled i inside
    rw [List.getElem_map, Vector.getElem?_mapIdx, filled, holds.size]
    simp [inside]

theorem Holds.changeFirst {first : SubPath} (holds : paths.Holds (first :: subs)) :
    (paths.changeFirst change).Holds (change first :: subs) := by
  constructor
  · exact holds.size
  · exact holds.le
  · intro i inside
    cases i with
    | zero =>
        have filled := holds.filled 0 (by simp)
        have entry : paths.entries[0] = some first := by simpa using filled
        simp [SubPaths.changeFirst, entry]
    | succ i =>
        rw [SubPaths.changeFirst, Vector.getElem?_set_ne _ (by omega)]
        exact holds.filled (i + 1) inside

theorem Holds.read (holds : paths.Holds subs) : paths.read = some subs := by
  rw [SubPaths.read, if_pos (holds.size ▸ holds.le), holds.size]
  congr 1
  apply List.ext_getElem?
  intro i
  rw [List.getElem?_map, List.getElem?_take, Vector.getElem?_toList]
  split
  next inside => rw [holds.filled i inside, List.getElem?_eq_getElem inside]; rfl
  next outside => rw [List.getElem?_eq_none (by omega)]; rfl

end SubPaths

end DrivingControl.Controler

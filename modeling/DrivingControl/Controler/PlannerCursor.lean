import DrivingControl.Controler.LastStation

/-!
# The planner's cursor

The cursor is two indices, that of the target and that of the last station.  Every call on
the planner that replaces the path or moves the cursor keeps the last index one behind the
target, whether or not the path file can be opened.

A move to the next station and one back are meant to leave no trace.  They restore the
cursor, but both note the last station, and at the first way point nothing takes the note
back.
-/

namespace DrivingControl.Controler

open DrivingControl.Comm DrivingControl.Library

namespace RoutePlanner

variable {router other : RoutePlanner}

/-! ## Consistency -/

/-- The target is a way point of the path, or the start when there is none, and the last
index is one behind it. -/
structure Consistent (router : RoutePlanner) : Prop extends Coupled router where
  within : router.targetPathId < max 1 router.pathList.length

/-- At the start of any path the cursor is consistent. -/
theorem consistent_of_start (target : router.targetPathId = 0) (last : router.lastPathId = -1) :
    router.Consistent := by
  constructor
  · constructor <;> omega
  · omega

theorem consistent_onGetNewPath (fileOpens : Bool) (list : List StationInfo)
    (router : RoutePlanner) : (router.onGetNewPath fileOpens list).1.Consistent := by
  apply consistent_of_start
  · exact targetPathId_onGetNewPath router fileOpens list
  · rw [onGetNewPath, savePathInfo]
    cases fileOpens <;> rfl

theorem consistent_resetPathList (router : RoutePlanner) : router.resetPathList.Consistent :=
  consistent_of_start rfl rfl

/-- The settings that a reload takes its cursor from were written by its reset. -/
theorem consistent_reloadPathList (fileOpens : Bool) (router : RoutePlanner) :
    (router.reloadPathList fileOpens).Consistent := by
  rw [reloadPathList, loadPathInfo]
  split
  · exact consistent_of_start rfl rfl
  · split
    · exact consistent_of_start rfl rfl
    · exact consistent_of_start rfl rfl

/-- Every operation on the planner between two paths keeps the cursor consistent. -/
theorem Consistent.move (consistent : router.Consistent) (move : Move router other) :
    other.Consistent := by
  refine ⟨consistent.toCoupled.move move, ?_⟩
  have within := consistent.within
  have length := congrArg List.length move.ids
  rw [length_ids, length_ids] at length
  rw [length]
  cases move with
  | next =>
      rw [moveToNextStation]
      split
      · exact within
      · split
        · rw [targetPathId_noteLastStation]
          dsimp only
          omega
        · rw [targetPathId_noteLastStation]
          exact within
  | back =>
      rw [moveToLastStation]
      split
      · exact within
      · split
        · rw [targetPathId_noteLastStation]
          dsimp only
          omega
        · rw [targetPathId_noteLastStation]
          exact within
  | rewrite change sameId => exact within
  | report taskReports => exact within
  | inform informed =>
      rw [Informed] at informed
      rw [informed]
      exact within

/-- The target is missing exactly when there is no path. -/
theorem Consistent.getTargetStation_eq_none (consistent : router.Consistent) :
    router.getTargetStation = none ↔ router.pathList = [] := by
  have nonneg := consistent.nonneg
  have within := consistent.within
  rw [getTargetStation, if_pos nonneg, List.getElem?_eq_none_iff, ← List.length_eq_zero_iff]
  omega

/-! ## Runs of calls -/

/-- A call that replaces the path or moves the cursor, with whether the path file can be
opened. -/
inductive CursorCall where
  | onGetNewPath (fileOpens : Bool) (list : List StationInfo)
  | moveToNextStation
  | moveToLastStation
  | resetPathList
  | reloadPathList (fileOpens : Bool)

def cursorCall : CursorCall → RoutePlanner → RoutePlanner
  | .onGetNewPath fileOpens list, router => (router.onGetNewPath fileOpens list).1
  | .moveToNextStation, router => router.moveToNextStation.1
  | .moveToLastStation, router => router.moveToLastStation.1
  | .resetPathList, router => router.resetPathList
  | .reloadPathList fileOpens, router => router.reloadPathList fileOpens

def cursorCalls (history : List CursorCall) (router : RoutePlanner) : RoutePlanner :=
  history.foldl (fun router next => router.cursorCall next) router

/-- The planner that the constructor leaves, with what is in the settings and in the path
file. -/
def constructed (setting : PathSetting) (file : Option (List WayPoint)) : RoutePlanner :=
  { setting, file }

theorem Consistent.cursorCall (consistent : router.Consistent) (next : CursorCall) :
    (router.cursorCall next).Consistent := by
  cases next with
  | onGetNewPath fileOpens list => exact consistent_onGetNewPath fileOpens list router
  | moveToNextStation => exact consistent.move .next
  | moveToLastStation => exact consistent.move .back
  | resetPathList => exact consistent_resetPathList router
  | reloadPathList fileOpens => exact consistent_reloadPathList fileOpens router

theorem Consistent.cursorCalls (consistent : router.Consistent) (history : List CursorCall) :
    (router.cursorCalls history).Consistent := by
  induction history generalizing router with
  | nil => exact consistent
  | cons next rest ih => exact ih (consistent.cursorCall next)

/-- From its construction on the cursor fits the path, and there is a target exactly when
there is a path. -/
theorem cursorCalls_consistent (setting : PathSetting) (file : Option (List WayPoint))
    (history : List CursorCall) :
    let router := (constructed setting file).cursorCalls history
    (router.pathList = [] → router.targetPathId = 0 ∧ router.lastPathId = -1) ∧
      (router.pathList ≠ [] → 0 ≤ router.targetPathId ∧
        router.targetPathId < router.pathList.length ∧
        router.lastPathId = router.targetPathId - 1) ∧
      (router.getTargetStation = none ↔ router.pathList = []) := by
  intro router
  have start : (constructed setting file).Consistent := consistent_of_start rfl rfl
  have consistent : router.Consistent := start.cursorCalls history
  have nonneg := consistent.nonneg
  have within := consistent.within
  have last := consistent.last
  refine ⟨fun empty => ?_, fun path => ?_, consistent.getTargetStation_eq_none⟩
  · rw [empty, List.length_nil] at within
    omega
  · have positive := List.length_pos_iff.mpr path
    omega

/-! ## A look ahead -/

/-- The cursor and the last station of the first planner are those of the second one, and
are what its settings hold. -/
structure Restores (router other : RoutePlanner) : Prop where
  targetPathId : other.targetPathId = router.targetPathId
  lastPathId : other.lastPathId = router.lastPathId
  lastStationPoint : other.lastStationPoint = router.lastStationPoint
  setting : other.setting = other.savedSetting

/-- A move to the next station and one back restore the planner. -/
def PeekRestores (router : RoutePlanner) : Prop :=
  router.moveToNextStation.2 = true →
    Restores router router.moveToNextStation.1.moveToLastStation.1

/-- The target stands before the last way point. -/
def CanMoveOn (router : RoutePlanner) : Prop :=
  router.pathList ≠ [] ∧ router.targetPathId < router.pathList.length - 1

theorem moveToNextStation_iff : router.moveToNextStation.2 = true ↔ router.CanMoveOn := by
  rw [moveToNextStation, CanMoveOn]
  split
  next empty => exact iff_of_false Bool.false_ne_true fun both => both.1 empty
  next path =>
    split
    next before => exact iff_of_true rfl ⟨path, before⟩
    next atEnd => exact iff_of_false Bool.false_ne_true fun both => atEnd both.2

theorem setting_moveToLastStation (path : router.pathList ≠ []) :
    router.moveToLastStation.1.setting = router.moveToLastStation.1.savedSetting := by
  have noted : ∀ router : RoutePlanner,
      router.noteLastStation.setting = router.noteLastStation.savedSetting := by
    intro router
    rw [noteLastStation_eq]
    rfl
  rw [moveToLastStation, if_neg path]
  split
  · exact noted _
  · exact noted router

section Peek

variable (canMoveOn : router.CanMoveOn)

include canMoveOn

theorem targetPathId_moveToNextStation :
    router.moveToNextStation.1.targetPathId = router.targetPathId + 1 := by
  rw [moveToNextStation, if_neg canMoveOn.1, if_pos canMoveOn.2]
  exact targetPathId_noteLastStation _

/-- The move on leaves the station noted that it has left. -/
theorem leftNoted_of_canMoveOn (nonneg : 0 ≤ router.targetPathId) :
    router.moveToNextStation.1.LeftNoted := by
  have before := canMoveOn.2
  rw [moveToNextStation, if_neg canMoveOn.1, if_pos before]
  apply Coupled.leftNoted
  · exact ⟨by simp only; omega, by simp only; omega⟩
  · rw [length_ids]
    simp only
    omega
  · simp only
    omega

theorem pathList_ne_nil_of_canMoveOn : router.moveToNextStation.1.pathList ≠ [] := by
  rw [pathList_moveToNextStation]
  exact canMoveOn.1

/-- A negative target is not come back to. -/
theorem targetPathId_peek_of_neg (negative : router.targetPathId < 0) :
    router.moveToNextStation.1.moveToLastStation.1.targetPathId ≠ router.targetPathId := by
  have on := targetPathId_moveToNextStation canMoveOn
  rw [moveToLastStation, if_neg (pathList_ne_nil_of_canMoveOn canMoveOn), if_neg (by omega),
    targetPathId_noteLastStation]
  omega

/-- The look ahead restores the planner exactly if the station before the target was noted,
at the first way point the first one. -/
theorem restores_peek_iff :
    Restores router router.moveToNextStation.1.moveToLastStation.1 ↔ router.LeftNoted := by
  have on := targetPathId_moveToNextStation canMoveOn
  have path := pathList_ne_nil_of_canMoveOn canMoveOn
  have sameIds : router.moveToNextStation.1.moveToLastStation.1.ids = router.ids :=
    (Move.ids .back).trans (Move.ids .next)
  have left (nonneg : 0 ≤ router.targetPathId) :=
    (leftNoted_of_canMoveOn canMoveOn nonneg).move .back
  constructor
  · intro restores
    have nonneg : 0 ≤ router.targetPathId := by
      apply Int.not_lt.mp
      intro negative
      exact targetPathId_peek_of_neg canMoveOn negative restores.targetPathId
    have coupled := (left nonneg).last
    have noted := (left nonneg).noted
    rw [restores.targetPathId, restores.lastPathId] at coupled
    rw [restores.targetPathId, restores.lastStationPoint, sameIds] at noted
    exact ⟨⟨nonneg, coupled⟩, noted⟩
  · intro before
    have nonneg := before.nonneg
    have target : router.moveToNextStation.1.moveToLastStation.1.targetPathId =
        router.targetPathId := by
      rw [targetPathId_moveToLastStation path (by omega)]
      omega
    have noted := (left nonneg).noted
    rw [target, sameIds, before.noted] at noted
    constructor
    · exact target
    · rw [(left nonneg).last, target, before.last]
    · exact (Option.some.inj noted).symm
    · exact setting_moveToLastStation path

end Peek

theorem peekRestores_iff : router.PeekRestores ↔ (router.CanMoveOn → router.LeftNoted) := by
  rw [PeekRestores, moveToNextStation_iff]
  exact forall_congr' restores_peek_iff

/-- What is done with a planner: the calls that replace the path or move the cursor, the
start of the program, and what the car does in between. -/
inductive PlannerCall where
  | cursor (call : CursorCall)
  | start (fileOpens : Bool)
  | cleanLastStationPoint
  | rewriteTarget (action liftHeight : Int)
  | onActionFinished (lastLiftHeight : Int)
  | updateCarInfo (x y angle speed power status : Int)

/-- A null target that is finished ends the program. -/
def plannerStep : StepFn RoutePlanner PlannerCall
  | .cursor call, router => some (router.cursorCall call)
  | .start fileOpens, router => some (router.start fileOpens)
  | .cleanLastStationPoint, router => some router.cleanLastStationPoint
  | .rewriteTarget action liftHeight, router =>
      some (router.updateTarget ({ · with action, liftHeight }))
  | .onActionFinished lastLiftHeight, router =>
      (router.onActionFinished lastLiftHeight).map Prod.fst
  | .updateCarInfo x y angle speed power status, router =>
      some (router.updateCarInfo x y angle speed power status)

/-- A look ahead restores the planner in every state of a run exactly if, whenever the
target stands before the last way point, the cursor is consistent and the station before
the target is noted, at the first way point the first one. -/
theorem along_peekRestores_iff (setting : PathSetting) (file : Option (List WayPoint))
    (labels : List PlannerCall) :
    Along plannerStep (fun _ _ next => next.PeekRestores) labels (constructed setting file) ↔
      Along plannerStep (fun _ _ next => next.CanMoveOn → next.LeftNoted) labels
        (constructed setting file) :=
  along_congr (fun _ _ _ _ => peekRestores_iff) labels (constructed setting file)

/-- A new path of the stations 7 and 8: the look ahead from the first one leaves station 7
noted, which the car has not reached. -/
theorem first_station_noted :
    ¬ ∀ (setting : PathSetting) (file : Option (List WayPoint)) (labels : List PlannerCall),
      Along plannerStep (fun _ _ next => next.PeekRestores) labels (constructed setting file) := by
  intro restores
  let station (id : UInt16) : StationInfo :=
    { id, xPos := 0, yPos := 0, pathAngle := 0, turnRadius := 0, mode := 1, action := 0,
      liftHeight := 0xFFFF }
  have along := restores {} none [.cursor (.onGetNewPath true [station 7, station 8])]
  exact absurd ((along _ rfl).1 rfl).lastStationPoint (by decide)

end RoutePlanner

end DrivingControl.Controler

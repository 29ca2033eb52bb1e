import DrivingControl.Comm.SchProtocol

/-!
# The route planner

`CAgvRoutePlanner` holds the way points of a path, a cursor on the current target
and the last station, and the record that is reported to the server.  The cursor is
written to the settings whenever it moves, and the path to a file when it is
installed.

Angles of way points are in hundredths of a degree.  The text of the path file is
modelled by the way points it spells; the load of the text itself refines this one.
-/

namespace DrivingControl.Controler

open DrivingControl.Comm

/-! ## Run modes and actions -/

/-- `RunMode`. -/
def stopMode : Int := 0
def goForwardMode : Int := 1
def goBackwardMode : Int := 2
def rotateLeftMode : Int := 5
def rotateRightMode : Int := 6
def forwardToArcMode : Int := 7
def backwardToArcMode : Int := 8
def carryGoods : Int := 10

/-- `ArrivedAcation`. -/
def actionRun : Int := 0
def actionStop : Int := 1
def actionSpeedDown : Int := 2
def actionResumeSpeed : Int := 3
def actionLiftUpDown : Int := 4
def actionCharge : Int := 5

/-- `WayPoint`. -/
structure WayPoint where
  id : Int
  cardId : Int := 0
  xPos : Int := 0
  yPos : Int := 0
  angle : Int := 0
  radius : Int := 0
  runMode : Int
  action : Int
  liftHeight : Int := -1
  actionFinish : Bool := false
  deriving DecidableEq, Repr

/-- The way point that `OnGetNewPath` makes of a station. -/
def WayPoint.ofStation (info : StationInfo) : WayPoint where
  id := info.id.toNat
  xPos := info.xPos.toInt32.toInt
  yPos := info.yPos.toInt32.toInt
  angle := info.pathAngle.toNat
  runMode := info.mode.toNat
  action := info.action.toNat
  liftHeight := if info.liftHeight = 0xFFFF then -1 else info.liftHeight.toNat

/-! ## The planner -/

/-- The settings that follow the cursor, in memory and in the settings file. -/
structure PathSetting where
  pathPointCount : Int := 0
  targetPointId : Int := 0
  lastPointId : Int := -1
  /-- The value under `TargetPoinId`, which is the name `savePathInfo` writes. -/
  savedTargetPoinId : Option Int := none
  /-- The value under `LastPointId`. -/
  savedLastPointId : Option Int := none
  deriving DecidableEq, Repr

/-- `curStatus` of the scheduler, which is reported to the server. -/
structure ReportStatus where
  status : UInt8 := 0
  powerLevel : UInt8 := 0
  speed : UInt8 := 0
  xPos : UInt32 := 0
  yPos : UInt32 := 0
  carAngle : UInt16 := 0
  lastPoint : UInt16 := 0
  deriving DecidableEq, Repr

/-- `CAgvRoutePlanner`. -/
structure RoutePlanner where
  pathList : List WayPoint := []
  targetPathId : Int := 0
  lastPathId : Int := -1
  lastStationPoint : Int := 0
  xPos : Int := 0
  yPos : Int := 0
  carAngle : Int := 0
  setting : PathSetting := {}
  /-- The path file, if there is one. -/
  file : Option (List WayPoint) := none
  curStatus : ReportStatus := {}
  /-- The task reports sent to the server, oldest first. -/
  taskReports : List (Int × Int) := []
  deriving DecidableEq, Repr

namespace RoutePlanner

/-- `GetTargetStation`; `none` is the null pointer. -/
def getTargetStation (router : RoutePlanner) : Option WayPoint :=
  if 0 ≤ router.targetPathId then router.pathList[router.targetPathId.toNat]? else none

/-- `GetLastStation`; `none` is the null pointer. -/
def getLastStation (router : RoutePlanner) : Option WayPoint :=
  if 0 ≤ router.lastPathId then router.pathList[router.lastPathId.toNat]? else none

/-- `clearPathList`. -/
def clearPathList (router : RoutePlanner) : RoutePlanner :=
  { router with pathList := [], targetPathId := 0, lastPathId := -1 }

/-- `savePathInfo`.  With `all` the path file is written too; if it cannot be opened,
the settings file is not updated. -/
def savePathInfo (fileOpens all : Bool) (router : RoutePlanner) : RoutePlanner :=
  let setting := { router.setting with
    pathPointCount := router.pathList.length
    targetPointId := router.targetPathId
    lastPointId := router.lastPathId }
  if all && !fileOpens then { router with setting }
  else
    { router with
      file := if all then some router.pathList else router.file
      setting := { setting with
        savedTargetPoinId := some router.targetPathId
        savedLastPointId := some router.lastPathId } }

/-- `loadPathInfo`.  A way point is cleared before its fields are read, and the file
holds neither its radius nor whether its action is finished. -/
def loadPathInfo (fileOpens : Bool) (router : RoutePlanner) : RoutePlanner :=
  match router.file with
  | none => router.clearPathList
  | some points =>
      if fileOpens then
        { router with
          pathList := points.map fun point =>
            { point with radius := 0, actionFinish := false }
          setting := { router.setting with pathPointCount := points.length }
          targetPathId := router.setting.targetPointId
          lastPathId := router.setting.lastPointId }
      else router.clearPathList

/-- `OnGetNewPath`, without the event it sends, and the value it returns. -/
def onGetNewPath (fileOpens : Bool) (list : List StationInfo) (router : RoutePlanner) :
    RoutePlanner × Int :=
  let router := { router.clearPathList with pathList := list.map WayPoint.ofStation }
  (router.savePathInfo fileOpens true, list.length)

/-- `ResetPathList`. -/
def resetPathList (router : RoutePlanner) : RoutePlanner :=
  router.clearPathList.savePathInfo true false

/-- `ReloadPathList`. -/
def reloadPathList (fileOpens : Bool) (router : RoutePlanner) : RoutePlanner :=
  router.resetPathList.loadPathInfo fileOpens

/-- `Start`, as far as it concerns the path. -/
def start (fileOpens : Bool) (router : RoutePlanner) : RoutePlanner :=
  router.loadPathInfo fileOpens

/-- The end of both moves of the cursor: the last station is noted and the cursor
saved. -/
def noteLastStation (router : RoutePlanner) : RoutePlanner :=
  match router.getLastStation with
  | none => router.savePathInfo true false
  | some last => { router with lastStationPoint := last.id }.savePathInfo true false

/-- `MoveToNextStation`. -/
def moveToNextStation (router : RoutePlanner) : RoutePlanner × Bool :=
  if router.pathList = [] then (router, false)
  else if router.targetPathId < router.pathList.length - 1 then
    ({ router with
        lastPathId := router.targetPathId
        targetPathId := router.targetPathId + 1 }.noteLastStation, true)
  else (router.noteLastStation, false)

/-- `MoveToLastStation`. -/
def moveToLastStation (router : RoutePlanner) : RoutePlanner × Bool :=
  if router.pathList = [] then (router, false)
  else if router.targetPathId ≥ 1 then
    ({ router with
        targetPathId := router.targetPathId - 1
        lastPathId := router.targetPathId - 2 }.noteLastStation, true)
  else (router.noteLastStation, false)

/-- The look at the way point behind the target that the car takes: the cursor moves
on and back. -/
def peekNextStation (router : RoutePlanner) : RoutePlanner × Option WayPoint :=
  let moved := router.moveToNextStation
  if moved.2 then (moved.1.moveToLastStation.1, moved.1.getTargetStation)
  else (moved.1, none)

/-- `CleanLastStationPoint`. -/
def cleanLastStationPoint (router : RoutePlanner) : RoutePlanner :=
  { router with lastStationPoint := 0 }

/-- A change of the way point behind the pointer to the target. -/
def updateTarget (change : WayPoint → WayPoint) (router : RoutePlanner) : RoutePlanner :=
  { router with pathList := router.pathList.modify router.targetPathId.toNat change }

/-- The report of `OnActionFinished`: the forks went down or up to the height. -/
def taskReport (lastLiftHeight : Int) (target : WayPoint) : List (Int × Int) :=
  if target.liftHeight ≥ 0 ∧ target.action = actionLiftUpDown then
    if target.liftHeight < lastLiftHeight then [(target.id, 2)]
    else if target.liftHeight > lastLiftHeight then [(target.id, 1)]
    else []
  else []

/-- `OnActionFinished` and the value it returns; `none` when there is no target. -/
def onActionFinished (lastLiftHeight : Int) (router : RoutePlanner) :
    Option (RoutePlanner × Int) :=
  match router.getTargetStation with
  | none => none
  | some target =>
      if target.actionFinish then some (router, 1)
      else
        some ({ router.updateTarget ({ · with actionFinish := true }) with
          taskReports := router.taskReports ++ taskReport lastLiftHeight target }, 0)

/-- `UpdateCarInfo`. -/
def updateCarInfo (x y angle speed power status : Int) (router : RoutePlanner) :
    RoutePlanner :=
  { router with
    xPos := x
    yPos := y
    carAngle := angle
    curStatus := {
      status := .ofInt status
      powerLevel := .ofInt power
      speed := .ofInt speed
      xPos := .ofInt x
      yPos := .ofInt y
      carAngle := .ofInt angle
      lastPoint := .ofInt router.lastStationPoint } }

/-! ## The cursor -/

/-- The way point behind the target. -/
def nextStation (router : RoutePlanner) : Option WayPoint :=
  if 0 ≤ router.targetPathId then router.pathList[router.targetPathId.toNat + 1]? else none

variable (router : RoutePlanner)

@[simp] theorem pathList_savePathInfo (fileOpens all : Bool) :
    (router.savePathInfo fileOpens all).pathList = router.pathList := by
  rw [savePathInfo]
  dsimp only
  split <;> rfl

@[simp] theorem targetPathId_savePathInfo (fileOpens all : Bool) :
    (router.savePathInfo fileOpens all).targetPathId = router.targetPathId := by
  rw [savePathInfo]
  dsimp only
  split <;> rfl

@[simp] theorem pathList_onGetNewPath (fileOpens : Bool) (list : List StationInfo) :
    (router.onGetNewPath fileOpens list).1.pathList = list.map WayPoint.ofStation :=
  pathList_savePathInfo _ fileOpens true

@[simp] theorem targetPathId_onGetNewPath (fileOpens : Bool) (list : List StationInfo) :
    (router.onGetNewPath fileOpens list).1.targetPathId = 0 :=
  targetPathId_savePathInfo _ fileOpens true

@[simp] theorem pathList_noteLastStation :
    router.noteLastStation.pathList = router.pathList := by
  rw [noteLastStation]
  split <;> simp

@[simp] theorem targetPathId_noteLastStation :
    router.noteLastStation.targetPathId = router.targetPathId := by
  rw [noteLastStation]
  split <;> simp

@[simp] theorem pathList_moveToNextStation :
    router.moveToNextStation.1.pathList = router.pathList := by
  rw [moveToNextStation]
  split
  · rfl
  · split <;> simp

@[simp] theorem pathList_moveToLastStation :
    router.moveToLastStation.1.pathList = router.pathList := by
  rw [moveToLastStation]
  split
  · rfl
  · split <;> simp

@[simp] theorem pathList_peekNextStation :
    router.peekNextStation.1.pathList = router.pathList := by
  unfold peekNextStation
  dsimp only
  split <;> simp

variable {router}

/-- Two planners with the same path and cursor. -/
structure SameRoute (router other : RoutePlanner) : Prop where
  pathList : other.pathList = router.pathList
  targetPathId : other.targetPathId = router.targetPathId

namespace SameRoute

variable {other last : RoutePlanner}

theorem refl (router : RoutePlanner) : SameRoute router router := ⟨rfl, rfl⟩

theorem trans (first : SameRoute router other) (second : SameRoute other last) :
    SameRoute router last :=
  ⟨second.pathList.trans first.pathList, second.targetPathId.trans first.targetPathId⟩

theorem getTargetStation (same : SameRoute router other) :
    other.getTargetStation = router.getTargetStation := by
  simp only [RoutePlanner.getTargetStation, same.pathList, same.targetPathId]

theorem nextStation (same : SameRoute router other) :
    other.nextStation = router.nextStation := by
  simp only [RoutePlanner.nextStation, same.pathList, same.targetPathId]

end SameRoute

section Target

variable {target : WayPoint} (present : router.getTargetStation = some target)

include present

theorem targetPathId_nonneg : 0 ≤ router.targetPathId := by
  rw [getTargetStation] at present
  split at present
  next valid => exact valid
  next => cases present

theorem getElem?_targetPathId : router.pathList[router.targetPathId.toNat]? = some target := by
  rw [getTargetStation] at present
  split at present
  next => exact present
  next => cases present

theorem pathList_ne_nil : router.pathList ≠ [] := by
  intro empty
  have element := getElem?_targetPathId present
  simp [empty] at element

/-- At the last way point the cursor stays. -/
theorem moveToNextStation_none (last : router.nextStation = none) :
    router.moveToNextStation.2 = false ∧
      router.moveToNextStation.1.targetPathId = router.targetPathId := by
  have nonneg := targetPathId_nonneg present
  rw [nextStation, if_pos nonneg, List.getElem?_eq_none_iff] at last
  rw [moveToNextStation, if_neg (pathList_ne_nil present), if_neg (by omega)]
  exact ⟨rfl, targetPathId_noteLastStation _⟩

/-- Before the last way point the cursor moves to the next one. -/
theorem moveToNextStation_some {next : WayPoint} (follows : router.nextStation = some next) :
    router.moveToNextStation.2 = true ∧
      router.moveToNextStation.1.targetPathId = router.targetPathId + 1 ∧
      router.moveToNextStation.1.getTargetStation = some next := by
  have nonneg := targetPathId_nonneg present
  rw [nextStation, if_pos nonneg] at follows
  have within := (List.getElem?_eq_some_iff.mp follows).1
  have moved : router.targetPathId < router.pathList.length - 1 := by omega
  have cursor : router.moveToNextStation.1.targetPathId = router.targetPathId + 1 := by
    rw [moveToNextStation, if_neg (pathList_ne_nil present), if_pos moved]
    exact targetPathId_noteLastStation _
  refine ⟨?_, cursor, ?_⟩
  · rw [moveToNextStation, if_neg (pathList_ne_nil present), if_pos moved]
  · rw [getTargetStation, cursor, if_pos (by omega), pathList_moveToNextStation,
      show (router.targetPathId + 1).toNat = router.targetPathId.toNat + 1 by omega, follows]

end Target

/-- Behind the first way point the cursor moves back by one. -/
theorem targetPathId_moveToLastStation (nonempty : router.pathList ≠ [])
    (positive : router.targetPathId ≥ 1) :
    router.moveToLastStation.1.targetPathId = router.targetPathId - 1 := by
  rw [moveToLastStation, if_neg nonempty, if_pos positive]
  exact targetPathId_noteLastStation _

/-- The look at the next way point sees it and leaves the cursor where it was. -/
theorem peekNextStation_eq {target : WayPoint}
    (present : router.getTargetStation = some target) :
    router.peekNextStation.2 = router.nextStation ∧
      router.peekNextStation.1.targetPathId = router.targetPathId := by
  rw [peekNextStation]
  cases follows : router.nextStation with
  | none =>
      rcases moveToNextStation_none present follows with ⟨stays, cursor⟩
      simp [stays, cursor]
  | some next =>
      rcases moveToNextStation_some present follows with ⟨moves, cursor, seen⟩
      have nonneg := targetPathId_nonneg present
      have nonempty : router.moveToNextStation.1.pathList ≠ [] := by
        rw [pathList_moveToNextStation]
        exact pathList_ne_nil present
      have back := targetPathId_moveToLastStation nonempty (by omega)
      simp only [moves, if_true, seen, back, cursor]
      exact ⟨trivial, by omega⟩

end RoutePlanner

end DrivingControl.Controler

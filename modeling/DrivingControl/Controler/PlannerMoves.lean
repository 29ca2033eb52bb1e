import DrivingControl.Controler.CarTargets
import Mathlib.Logic.Relation

/-!
# The moves of the planner

Between two events that load a path the car only moves the planner's cursor, rewrites the
target and updates what is reported.  `Moves` says that this is all that was done; what
each of these operations keeps is kept by every event.
-/

namespace DrivingControl.Controler

open DrivingControl.Comm DrivingControl.Event

namespace RoutePlanner

/-! ## Operations -/

/-- Only what is reported about the car differs. -/
def Informed (router other : RoutePlanner) : Prop :=
  other = { router with
    xPos := other.xPos
    yPos := other.yPos
    carAngle := other.carAngle
    curStatus := other.curStatus }

variable {router other last : RoutePlanner}

theorem Informed.refl (router : RoutePlanner) : Informed router router := rfl

theorem Informed.trans (first : Informed router other) (second : Informed other last) :
    Informed router last := by
  rw [Informed] at first second ⊢
  rw [first] at second
  exact second

/-- One operation of the car on the planner. -/
inductive Move (router : RoutePlanner) : RoutePlanner → Prop
  | next : Move router router.moveToNextStation.1
  | back : Move router router.moveToLastStation.1
  | rewrite (change : WayPoint → WayPoint) (sameId : ∀ path, (change path).id = path.id) :
      Move router (router.updateTarget change)
  | report (taskReports : List (Int × Int)) : Move router { router with taskReports }
  | inform {other : RoutePlanner} (informed : Informed router other) : Move router other

/-- Any number of operations. -/
def Moves : RoutePlanner → RoutePlanner → Prop := Relation.ReflTransGen Move

theorem Moves.refl (router : RoutePlanner) : Moves router router :=
  Relation.ReflTransGen.refl

theorem Moves.trans (first : Moves router other) (second : Moves other last) :
    Moves router last :=
  Relation.ReflTransGen.trans first second

theorem Move.moves (move : Move router other) : Moves router other := .single move

theorem Informed.moves (informed : Informed router other) : Moves router other :=
  (Move.inform informed).moves

/-- What every operation keeps, any number of them keep. -/
theorem Moves.keeps {invariant : RoutePlanner → Prop}
    (kept : ∀ {router other : RoutePlanner}, invariant router → Move router other →
      invariant other)
    (moves : Moves router other) (initial : invariant router) : invariant other := by
  induction moves with
  | refl => exact initial
  | tail _ move ih => exact kept ih move

/-! ## What the operations keep -/

/-- The station at which the cursor notes the last station. -/
def notedStation (router : RoutePlanner) : Int :=
  (router.getLastStation.map (·.id)).getD router.lastStationPoint

/-- The settings behind a move of the cursor. -/
def savedSetting (router : RoutePlanner) : PathSetting where
  pathPointCount := router.pathList.length
  targetPointId := router.targetPathId
  lastPointId := router.lastPathId
  savedTargetPoinId := some router.targetPathId
  savedLastPointId := some router.lastPathId

theorem noteLastStation_eq (router : RoutePlanner) :
    router.noteLastStation =
      { router with lastStationPoint := router.notedStation, setting := router.savedSetting } := by
  rw [noteLastStation, notedStation]
  cases router.getLastStation with
  | none => rfl
  | some last => rfl

@[simp] theorem file_noteLastStation (router : RoutePlanner) :
    router.noteLastStation.file = router.file := by
  rw [noteLastStation_eq]

@[simp] theorem file_moveToNextStation (router : RoutePlanner) :
    router.moveToNextStation.1.file = router.file := by
  rw [moveToNextStation]
  split
  · rfl
  · split <;> simp

@[simp] theorem file_moveToLastStation (router : RoutePlanner) :
    router.moveToLastStation.1.file = router.file := by
  rw [moveToLastStation]
  split
  · rfl
  · split <;> simp

theorem Move.file (move : Move router other) : other.file = router.file := by
  cases move with
  | next => exact file_moveToNextStation router
  | back => exact file_moveToLastStation router
  | rewrite change sameId => rfl
  | report taskReports => rfl
  | inform informed =>
      rw [Informed] at informed
      rw [informed]

/-- The operations leave the path file. -/
theorem Moves.file (moves : Moves router other) : other.file = router.file :=
  @Moves.keeps router other (fun other => other.file = router.file)
    (fun same move => move.file.trans same) moves rfl

/-- The stations of the path. -/
def ids (router : RoutePlanner) : List Int := router.pathList.map (·.id)

theorem Move.ids (move : Move router other) : other.ids = router.ids := by
  cases move with
  | next => rw [RoutePlanner.ids, pathList_moveToNextStation, RoutePlanner.ids]
  | back => rw [RoutePlanner.ids, pathList_moveToLastStation, RoutePlanner.ids]
  | rewrite change sameId =>
      apply List.ext_getElem?
      intro i
      simp only [RoutePlanner.ids, updateTarget, List.getElem?_map, List.getElem?_modify]
      cases router.pathList[i]? with
      | none => rfl
      | some path =>
          simp only [Option.map_some]
          split
          · exact congrArg some (sameId path)
          · rfl
  | report taskReports => rfl
  | inform informed =>
      rw [Informed] at informed
      rw [informed]
      rfl

/-- The operations leave the stations of the path. -/
theorem Moves.ids (moves : Moves router other) : other.ids = router.ids :=
  @Moves.keeps router other (fun other => other.ids = router.ids)
    (fun same move => move.ids.trans same) moves rfl

/-- The settings hold the cursor. -/
structure CursorSaved (router : RoutePlanner) : Prop where
  target : router.setting.targetPointId = router.targetPathId
  last : router.setting.lastPointId = router.lastPathId

theorem cursorSaved_noteLastStation (router : RoutePlanner) :
    router.noteLastStation.CursorSaved := by
  rw [noteLastStation_eq]
  exact ⟨rfl, rfl⟩

theorem CursorSaved.move (saved : router.CursorSaved) (move : Move router other) :
    other.CursorSaved := by
  cases move with
  | next =>
      rw [moveToNextStation]
      split
      · exact saved
      · split
        · exact cursorSaved_noteLastStation _
        · exact cursorSaved_noteLastStation _
  | back =>
      rw [moveToLastStation]
      split
      · exact saved
      · split
        · exact cursorSaved_noteLastStation _
        · exact cursorSaved_noteLastStation _
  | rewrite change sameId => exact ⟨saved.target, saved.last⟩
  | report taskReports => exact ⟨saved.target, saved.last⟩
  | inform informed =>
      rw [Informed] at informed
      rw [informed]
      exact ⟨saved.target, saved.last⟩

/-- The last station is the one before the target. -/
structure Coupled (router : RoutePlanner) : Prop where
  nonneg : 0 ≤ router.targetPathId
  last : router.lastPathId = router.targetPathId - 1

theorem Coupled.noteLastStation (coupled : router.Coupled) : router.noteLastStation.Coupled := by
  rw [noteLastStation_eq]
  exact ⟨coupled.nonneg, coupled.last⟩

theorem Coupled.move (coupled : router.Coupled) (move : Move router other) :
    other.Coupled := by
  have nonneg := coupled.nonneg
  cases move with
  | next =>
      rw [moveToNextStation]
      split
      · exact coupled
      · split
        · exact Coupled.noteLastStation ⟨by simp only; omega, by simp only; omega⟩
        · exact coupled.noteLastStation
  | back =>
      rw [moveToLastStation]
      split
      · exact coupled
      · split
        next behind =>
          exact Coupled.noteLastStation ⟨by simp only; omega, by simp only; omega⟩
        next => exact coupled.noteLastStation
  | rewrite change sameId => exact ⟨nonneg, coupled.last⟩
  | report taskReports => exact ⟨nonneg, coupled.last⟩
  | inform informed =>
      rw [Informed] at informed
      rw [informed]
      exact ⟨nonneg, coupled.last⟩

/-! ## The functions of the car -/

theorem moves_peekNextStation (router : RoutePlanner) :
    Moves router.moveToNextStation.1 router.peekNextStation.1 := by
  unfold peekNextStation
  dsimp only
  split
  · exact Move.back.moves
  · exact .refl _

theorem moves_whetherJumpCurPoint (readings : Readings) (cur : WayPoint)
    (router : RoutePlanner) :
    Moves router.moveToNextStation.1 (router.whetherJumpCurPoint readings cur).1 := by
  unfold whetherJumpCurPoint
  dsimp only
  split
  · exact moves_peekNextStation router
  · exact moves_peekNextStation router

theorem takeHeight_id (cur next : WayPoint) : (takeHeight cur next).id = next.id := by
  rw [takeHeight]
  split <;> rfl

/-- The test for a jump has moved the cursor on, whatever it finds. -/
theorem moves_jumpCurPoint {readings : Readings} {isfirst : Bool}
    (found : router.jumpCurPoint readings isfirst = some other) :
    Moves router.moveToNextStation.1 other := by
  rw [jumpCurPoint] at found
  split at found
  · cases found
  next cur present =>
    have tested := moves_whetherJumpCurPoint readings cur router
    dsimp only at found
    split at found
    · have moved := tested.trans Move.next.moves
      split at found
      · cases found
      · split at found
        · cases found
          exact moved.trans Move.back.moves
        · cases found
          exact moved.trans (Move.rewrite _ (takeHeight_id cur)).moves
    · cases found
      exact tested

theorem moves_stopAtTurn (path : WayPoint) (router : RoutePlanner) :
    Moves router (router.stopAtTurn path) := by
  have peeked := Move.next.moves.trans (moves_peekNextStation router)
  have stopped : Moves router
      (router.peekNextStation.1.updateTarget ({ · with action := actionStop })) :=
    peeked.trans (Move.rewrite _ (by intro _; rfl)).moves
  rw [stopAtTurn]
  dsimp only
  split
  · split
    · exact stopped
    · split
      · exact stopped
      · exact peeked
  · exact .refl _

theorem moves_getRunAction (readings : Readings) (router : RoutePlanner) :
    Moves router (router.getRunAction readings) := by
  have peeked := Move.next.moves.trans (moves_peekNextStation router)
  unfold getRunAction
  dsimp only
  split
  · exact peeked
  · exact peeked.trans (Move.rewrite _ (by intro _; rfl)).moves

end RoutePlanner

namespace AgvCar

open RoutePlanner

variable {readings : Readings} {car next : AgvCar} {path : WayPoint}

theorem moves_liftOnTheWay (path : WayPoint) (car : AgvCar) :
    Moves car.router (car.liftOnTheWay path).router := by
  rw [liftOnTheWay]
  dsimp only
  split
  · exact (Move.rewrite _ (by intro _; rfl)).moves
  · exact .refl _

theorem moves_preparePoint (readings : Readings) (path : WayPoint) (car : AgvCar) :
    Moves car.router (car.preparePoint readings path).router := by
  have turned := moves_stopAtTurn path car.router
  rw [preparePoint]
  dsimp only
  split
  · exact turned.trans (moves_getRunAction readings _)
  next target present =>
    exact (turned.trans (moves_liftOnTheWay target { car with
      currentPathId := path.id
      carRunMode := path.runMode
      router := car.router.stopAtTurn path
      controler := car.controler.setTargetHeight path.liftHeight })).trans
        (moves_getRunAction readings _)

@[simp] theorem router_afterIssue (result : CarControler × Option Int) (car : AgvCar) :
    (car.afterIssue result).1.router = car.router := by
  rw [afterIssue]
  split <;> rfl

@[simp] theorem router_sendPoint (readings : Readings) (path : WayPoint) (car : AgvCar) :
    (car.sendPoint readings path).1.router = car.router := by
  rw [sendPoint]
  split
  · exact router_afterIssue _ _
  · rfl

theorem moves_goToPoint {result : AgvCar × Int}
    (went : car.goToPoint readings = some result) : Moves car.router result.1.router := by
  rw [goToPoint] at went
  split at went
  · cases went
  next path present =>
    dsimp only at went
    split at went
    · cases went
    · cases went
      rw [router_sendPoint]
      exact moves_preparePoint readings path car

/-- `GoToNextPoint` moves the cursor on first, for good or to look ahead. -/
theorem moves_goToNextPoint {isfirst : Bool} {result : AgvCar × Int}
    (went : car.goToNextPoint readings isfirst = some result) :
    Moves car.router.moveToNextStation.1 result.1.router := by
  unfold goToNextPoint at went
  dsimp only at went
  split at went
  · cases went
    exact .refl _
  · split at went
    · cases went
    next router found =>
      have goes : Moves router result.1.router := moves_goToPoint went
      refine .trans ?_ goes
      cases isfirst with
      | true => exact moves_jumpCurPoint found
      | false => exact Move.next.moves.trans (moves_jumpCurPoint found)

/-! ## The other functions of the car -/

/-- The car has at most updated what is reported. -/
def Informs (car next : AgvCar) : Prop := Informed car.router next.router

theorem Informs.refl (car : AgvCar) : Informs car car := rfl

theorem Informs.trans {last : AgvCar} (first : Informs car next) (second : Informs next last) :
    Informs car last :=
  Informed.trans first second

theorem informs_of_router (same : next.router = car.router) : Informs car next := by
  rw [Informs]
  rw [same]
  exact .refl _

theorem informs_requeueBarriers (car : AgvCar) : Informs car car.requeueBarriers := by
  have keepsIf : ∀ (present : Bool) (event : EventList) (car : AgvCar),
      (if present then car.sendUrgentEvent event 0 else car).router = car.router := by
    intro present event car
    split <;> rfl
  apply informs_of_router
  simp only [requeueBarriers, keepsIf]

theorem informs_afterStart (readings : Readings) (car : AgvCar) :
    Informs car (car.afterStart readings) := by
  rw [afterStart]
  split
  · exact .refl car
  · exact informs_requeueBarriers car

theorem informs_resetLastTargetStation (readings : Readings) (car : AgvCar) :
    Informs car (car.resetLastTargetStation readings) :=
  informs_of_router (router_afterIssue _ car)

theorem informs_afterNextPoint (ret : Int) (car : AgvCar) :
    Informs car (car.afterNextPoint ret) := by
  rw [afterNextPoint]
  split
  · exact informs_requeueBarriers _
  · split
    · exact .refl car
    · split
      · exact .refl car
      · exact .refl car

/-- The end of a start that has sent a target. -/
theorem informs_running (readings : Readings) (car : AgvCar) :
    Informs car (afterStart readings
      ({ car with stopButton := false }.setCarStatus .running car.carRunMode)) :=
  informs_afterStart readings _

theorem informs_doPathPointAction (path : WayPoint) (car : AgvCar) :
    Informs car (car.doPathPointAction path).1 := by
  rw [doPathPointAction]
  dsimp only
  split
  · exact .refl car
  · split
    · exact rfl
    · split
      · split <;> exact rfl
      · split
        · exact rfl
        · exact .refl car

theorem informs_barrierStatus (event : EventList) (car : AgvCar) :
    Informs car (car.barrierStatus event) := by
  simp only [barrierStatus]
  split <;> exact rfl

theorem informs_onBarrierMessage (readings : Readings) (event : EventList) (dev : Int)
    (car : AgvCar) : Informs car (car.onBarrierMessage readings event dev) := by
  have flagged : Informs car (car.barrierFlags event) := by
    apply informs_of_router
    have only : car.barrierFlags event = _ := onlyError_barrierFlags event car
    rw [only]
  rw [onBarrierMessage]
  split
  · exact .refl car
  · refine flagged.trans ?_
    rw [actOnBarrier]
    split
    · exact .refl _
    · dsimp only
      split
      · exact (informs_resetLastTargetStation readings _).trans (informs_barrierStatus event _)
      · exact informs_barrierStatus event _

/-! ## Events that leave the cursor -/

theorem informs_on10msTimer (readings : Readings) (car : AgvCar) :
    Informs car (car.on10msTimer readings) := by
  rw [on10msTimer]
  split <;> exact rfl

theorem informs_checkBattery (readings : Readings) (car : AgvCar) :
    Informs car (car.checkBattery readings) := by
  rw [checkBattery]
  split
  · split <;> exact rfl
  · exact rfl

theorem informs_checkInit (car : AgvCar) : Informs car car.checkInit := by
  rw [checkInit]
  split <;> exact rfl

theorem informs_onTurnCharge (on : Bool) (param : Int) (car : AgvCar) :
    Informs car (car.onTurnCharge on param) := by
  rw [onTurnCharge]
  split <;> exact rfl

theorem informs_onPathMagError (param : Int) (car : AgvCar) :
    Informs car (car.onPathMagError param) := by
  rw [onPathMagError]
  split <;> exact rfl

variable {evt : AgvEvent} {target : WayPoint}

/-- An event that neither moves the cursor nor loads a path informs at most.  To enter
manual mode forgets the last station. -/
theorem informs_of_quiet (quiet : sendsTarget evt.event = false)
    (stays : loadsPath evt.event = false) (other : evt.event ≠ .evKeyManualMode)
    (handled : car.handleEvent readings evt = some next) : Informs car next := by
  cases handlesQuiet_of_quiet quiet stays handled with
  | manualMode kind => exact absurd kind other
  | tick => exact informs_on10msTimer readings car
  | second => exact (informs_checkBattery readings car).trans (informs_checkInit _)
  | turnCharge on => exact informs_onTurnCharge on evt.param car
  | pathMagError => exact informs_onPathMagError evt.param car
  | networkError =>
      rw [onNetworkError]
      split <;> exact rfl
  | _ => exact rfl

/-! ## Events that move the cursor -/

/-- Whether a start goes to the first way point. -/
def startsFirst (car : AgvCar) : Bool :=
  decide (car.operateMode = .autoMode ∧ car.router.pathList ≠ [] ∧ car.router.targetPathId = 0)

/-- A start that goes to the first way point moves the cursor. -/
theorem moves_startRun (first : car.startsFirst = true)
    (handled : car.startRun readings = some next) :
    Moves car.router.moveToNextStation.1 next.router := by
  simp only [startsFirst, decide_eq_true_iff] at first
  rcases first with ⟨automatic, nonempty, cursor⟩
  rw [startRun] at handled
  rw [if_pos automatic, if_neg nonempty, if_pos cursor] at handled
  split at handled
  · cases handled
  next went =>
    have moves := moves_goToNextPoint went
    split at handled
    · cases handled
      exact moves
    · cases handled
      exact moves.trans (informs_running readings _).moves

/-- Every other start informs at most. -/
theorem informs_startRun (later : car.startsFirst = false)
    (handled : car.startRun readings = some next) : Informs car next := by
  simp only [startsFirst, decide_eq_false_iff_not] at later
  rw [startRun] at handled
  by_cases automatic : car.operateMode = .autoMode
  · rw [if_pos automatic] at handled
    by_cases nothing : car.router.pathList = []
    · rw [if_pos nothing] at handled
      cases handled
      exact .refl car
    · rw [if_neg nothing, if_neg fun cursor => later ⟨automatic, nothing, cursor⟩] at handled
      cases handled
      exact (informs_resetLastTargetStation readings car).trans (informs_running readings _)
  · rw [if_neg automatic] at handled
    cases handled
    exact informs_afterStart readings car

theorem moves_finishing (target : WayPoint) (car : AgvCar) :
    Moves car.router (car.finishing target) :=
  (Move.rewrite _ (by intro _; rfl)).moves.trans (Move.report _).moves

/-- The end of an action moves the cursor. -/
theorem moves_onStationActionFinished (present : car.router.getTargetStation = some target)
    (unfinished : target.actionFinish = false)
    (handled : car.onStationActionFinished readings = some next) :
    Moves (car.finishing target).moveToNextStation.1 next.router := by
  rw [onStationActionFinished_next readings present unfinished] at handled
  obtain ⟨result, went, equal⟩ := Option.map_eq_some_iff.mp handled
  subst equal
  have moves := moves_goToNextPoint went
  exact moves.trans (informs_afterNextPoint result.2 result.1).moves

theorem moves_of_finished (handled : car.onStationActionFinished readings = some next) :
    Moves car.router next.router := by
  cases endsAction_onStationActionFinished handled with
  | again target present finished same =>
      subst same
      exact .refl _
  | goesOn target present unfinished result went same =>
      exact ((moves_finishing target car).trans Move.next.moves).trans
        (moves_onStationActionFinished present unfinished handled)

/-- Every event that loads no path and does not enter manual mode only moves the cursor,
rewrites the target and updates what is reported. -/
theorem moves_handleEvent (stays : loadsPath evt.event = false)
    (other : evt.event ≠ .evKeyManualMode)
    (handled : car.handleEvent readings evt = some next) : Moves car.router next.router := by
  cases sending : sendsTarget evt.event with
  | false => exact (informs_of_quiet sending stays other handled).moves
  | true =>
      cases handlesTarget_of_sendsTarget sending handled with
      | start kind automatic started =>
          cases first : car.startsFirst with
          | true => exact Move.next.moves.trans (moves_startRun first started)
          | false => exact (informs_startRun first started).moves
      | arrival kind arrived =>
          rw [onArrivedStation] at arrived
          split at arrived
          · cases arrived
          next target present =>
            have performs := (informs_doPathPointAction target car).moves
            dsimp only at arrived
            split at arrived
            · exact performs.trans (moves_of_finished arrived)
            · cases arrived
              exact performs
      | lift kind lifting finished => exact moves_of_finished finished
      | barrier kind automatic same =>
          exact same ▸ (informs_onBarrierMessage readings _ evt.param car).moves
      | startIgnored kind manual same => exact same ▸ .refl _
      | liftIgnored kind other same => exact same ▸ .refl _
      | barrierIgnored kind manual same => exact same ▸ .refl _

end AgvCar

end DrivingControl.Controler

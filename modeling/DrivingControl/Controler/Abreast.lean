import DrivingControl.Controler.PlannerMoves
import DrivingControl.Controler.PlannerTarget
import DrivingControl.Controler.RouterBlind

/-!
# Cars with the same path ahead

The way points behind the car no longer matter: two cars that differ in these, and in what
their planners report, do the same in every event.  They send the same targets and perform
the same actions, and stay abreast.
-/

namespace DrivingControl.Controler

open DrivingControl.Comm DrivingControl.Event

namespace RoutePlanner

/-- The paths are the same from the target on. -/
structure SameAhead (router other : RoutePlanner) : Prop where
  targetPathId : other.targetPathId = router.targetPathId
  length : other.pathList.length = router.pathList.length
  ahead : ∀ i : Nat, router.targetPathId ≤ i → other.pathList[i]? = router.pathList[i]?

variable {router other after otherAfter : RoutePlanner} {path target : WayPoint}

namespace SameAhead

theorem of_sameRoute (same : SameRoute router other) : SameAhead router other where
  targetPathId := same.targetPathId
  length := by rw [same.pathList]
  ahead i _ := by rw [same.pathList]

/-- What keeps path and cursor keeps the path ahead. -/
theorem routes (same : SameAhead router other) (route : SameRoute router after)
    (otherRoute : SameRoute other otherAfter) : SameAhead after otherAfter where
  targetPathId := by rw [otherRoute.targetPathId, same.targetPathId, route.targetPathId]
  length := by rw [otherRoute.pathList, same.length, route.pathList]
  ahead i here := by
    rw [otherRoute.pathList, route.pathList]
    apply same.ahead
    rwa [← route.targetPathId]

theorem getTargetStation (same : SameAhead router other) :
    other.getTargetStation = router.getTargetStation := by
  simp only [RoutePlanner.getTargetStation, same.targetPathId]
  split
  · exact same.ahead _ (by omega)
  · rfl

theorem nextStation (same : SameAhead router other) :
    other.nextStation = router.nextStation := by
  simp only [RoutePlanner.nextStation, same.targetPathId]
  split
  · exact same.ahead _ (by omega)
  · rfl

theorem pathList_eq_nil (same : SameAhead router other) :
    other.pathList = [] ↔ router.pathList = [] := by
  rw [← List.length_eq_zero_iff, ← List.length_eq_zero_iff, same.length]

/-- Both targets are rewritten to the same way point. -/
theorem rewrites (same : SameAhead router other) (first : RewritesTarget router after path)
    (second : RewritesTarget other otherAfter path) : SameAhead after otherAfter where
  targetPathId := by rw [second.targetPathId, same.targetPathId, first.targetPathId]
  length := by
    rw [second.pathList, first.pathList, List.length_set, List.length_set, same.length]
  ahead i here := by
    rw [first.targetPathId] at here
    rw [second.pathList, first.pathList, same.targetPathId, List.getElem?_set,
      List.getElem?_set, same.ahead i here, same.length]

theorem finishStation (same : SameAhead router other)
    (present : router.getTargetStation = some target) :
    SameAhead router.finishStation other.finishStation :=
  same.rewrites (rewritesTarget_finishStation present)
    (rewritesTarget_finishStation (same.getTargetStation.trans present))

theorem jumpsTarget (same : SameAhead router other) (readings : Readings) :
    other.jumpsTarget readings = router.jumpsTarget readings := by
  simp only [RoutePlanner.jumpsTarget]
  rw [same.getTargetStation, same.nextStation]

/-- The next way point is chosen, and changed by a jump, in the same way. -/
theorem chooseNext (same : SameAhead router other) (readings : Readings) :
    SameAhead (router.chooseNext readings) (other.chooseNext readings) := by
  have moved : SameAhead { router with targetPathId := router.targetPathId + 1 }
      { other with targetPathId := other.targetPathId + 1 } := by
    refine ⟨congrArg (· + 1) same.targetPathId, same.length, fun i here => ?_⟩
    simp only at here
    exact same.ahead i (by omega)
  unfold RoutePlanner.chooseNext
  dsimp only
  rw [moved.getTargetStation, moved.nextStation, moved.jumpsTarget readings]
  split
  · split
    · refine ⟨?_, ?_, fun i here => ?_⟩
      · simp only [same.targetPathId]
      · simp only [List.length_set, same.length]
      · simp only at here
        simp only [List.getElem?_set, same.targetPathId, same.length, same.ahead i (by omega)]
    · exact moved
  · exact moved

end SameAhead

end RoutePlanner

namespace AgvCar

open RoutePlanner

variable {readings : Readings} {car other : AgvCar} {path target : WayPoint}

/-- The cars differ in their planners only, and have the same path ahead. -/
structure Abreast (car other : AgvCar) : Prop where
  rest : other = car.withRouter other.router
  ahead : car.router.SameAhead other.router

namespace Abreast

/-- What does not look at the planner keeps them abreast. -/
theorem blind {act : AgvCar → AgvCar} (abreast : Abreast car other) (ignores : RouterBlind act) :
    Abreast (act car) (act other) := by
  rcases ignores car other.router with ⟨router, -, equal⟩
  rw [← abreast.rest] at equal
  refine ⟨?_, abreast.ahead.routes (ignores.sameRoute car) (ignores.sameRoute other)⟩
  rw [equal]
  rfl

/-- Other planners with the same path ahead. -/
theorem withRouter (abreast : Abreast car other) {router otherRouter : RoutePlanner}
    (same : SameAhead router otherRouter) :
    Abreast { car with router } { other with router := otherRouter } := by
  refine ⟨?_, same⟩
  have rest := abreast.rest
  rw [rest]
  rfl

/-- A change that leaves the planner alone. -/
theorem changed (abreast : Abreast car other) {act : AgvCar → AgvCar}
    (commutes : ∀ router car, act (car.withRouter router) = (act car).withRouter router) :
    Abreast (act car) (act other) :=
  abreast.blind (routerBlind_of_commutes commutes)

/-- The same controller in both. -/
theorem withControler (abreast : Abreast car other) (controler : CarControler) :
    Abreast { car with controler } { other with controler } := by
  refine ⟨?_, abreast.ahead⟩
  have rest := abreast.rest
  rw [rest]
  rfl

end Abreast

/-- Two results of a function of the car with a second result. -/
def AbreastTo (result otherResult : AgvCar × Int) : Prop :=
  Abreast result.1 otherResult.1 ∧ otherResult.2 = result.2

/-! ## Going to a way point -/

theorem abreast_preparePoint (readings : Readings) (abreast : Abreast car other)
    (present : car.router.getTargetStation = some path) :
    Abreast (car.preparePoint readings path) (other.preparePoint readings path) := by
  have same := abreast.ahead
  have seen := same.getTargetStation.trans present
  have rewritten := rewritesTarget_preparePoint readings seen
  rw [same.nextStation] at rewritten
  refine ⟨?_, same.rewrites (rewritesTarget_preparePoint readings present) rewritten⟩
  have turned := (rewritesTarget_stopAtTurn present).present present
  have otherTurned := (rewritesTarget_stopAtTurn seen).present seen
  rw [same.nextStation] at otherTurned
  simp only [preparePoint]
  simp only [turned, otherTurned]
  have rest := abreast.rest
  generalize other.router = router at rest ⊢
  subst rest
  simp only [liftOnTheWay]
  simp only [CarControler.compareSourcePathMag, Bool.false_eq_true, or_false]
  split <;> rfl

theorem abreast_sendPoint (abreast : Abreast car other) (path : WayPoint) :
    AbreastTo (car.sendPoint readings path) (other.sendPoint readings path) := by
  have rest := abreast.rest
  have ahead := abreast.ahead
  generalize other.router = router at rest ahead
  subst rest
  simp only [sendPoint]
  split
  · change AbreastTo (car.afterIssue _) ((car.withRouter router).afterIssue
      (car.controler.setTargetStation readings.split (car.pathMag readings path)))
    simp only [afterIssue]
    split
    · exact ⟨⟨rfl, ahead⟩, rfl⟩
    · exact ⟨⟨rfl, ahead⟩, rfl⟩
  · exact ⟨⟨rfl, ahead⟩, rfl⟩

theorem abreast_goToPoint (abreast : Abreast car other) :
    Option.Rel AbreastTo (car.goToPoint readings) (other.goToPoint readings) := by
  simp only [goToPoint]
  rw [abreast.ahead.getTargetStation]
  cases present : car.router.getTargetStation with
  | none => exact .none
  | some path =>
      have prepared := abreast_preparePoint readings abreast present
      dsimp only
      rw [prepared.ahead.getTargetStation]
      cases (car.preparePoint readings path).router.getTargetStation with
      | none => exact .none
      | some path => exact .some (abreast_sendPoint prepared path)

theorem abreast_goToNextPoint_first (readings : Readings) (abreast : Abreast car other)
    (present : car.router.getTargetStation = some target) :
    Option.Rel AbreastTo (car.goToNextPoint readings true) (other.goToNextPoint readings true) := by
  rcases goToNextPoint_first readings present with ⟨router, same, went⟩
  rcases goToNextPoint_first readings (abreast.ahead.getTargetStation.trans present) with
    ⟨otherRouter, otherSame, otherWent⟩
  rw [went, otherWent]
  exact abreast_goToPoint (abreast.withRouter (abreast.ahead.routes same otherSame))

theorem abreast_goToNextPoint_next (readings : Readings) (abreast : Abreast car other)
    (present : car.router.getTargetStation = some target) :
    Option.Rel AbreastTo (car.goToNextPoint readings false)
      (other.goToNextPoint readings false) := by
  have seen := abreast.ahead.getTargetStation.trans present
  cases follows : car.router.nextStation with
  | none =>
      rcases goToNextPoint_last readings present follows with ⟨router, same, went⟩
      rcases goToNextPoint_last readings seen (abreast.ahead.nextStation.trans follows) with
        ⟨otherRouter, otherSame, otherWent⟩
      rw [went, otherWent]
      exact .some ⟨abreast.withRouter (abreast.ahead.routes same otherSame), rfl⟩
  | some following =>
      rcases goToNextPoint_next readings present follows with ⟨router, same, went⟩
      rcases goToNextPoint_next readings seen (abreast.ahead.nextStation.trans follows) with
        ⟨otherRouter, otherSame, otherWent⟩
      have chosen := abreast.ahead.chooseNext readings
      rw [went, otherWent]
      exact abreast_goToPoint (abreast.withRouter (chosen.routes same otherSame))

/-! ## The end of an action -/

/-- Behind `GoToNextPoint` the cars go on with the same result. -/
theorem abreast_afterNextPoint {went otherWent : Option (AgvCar × Int)}
    (abreast : Option.Rel AbreastTo went otherWent) :
    Option.Rel Abreast (went.map fun pair => pair.1.afterNextPoint pair.2)
      (otherWent.map fun pair => pair.1.afterNextPoint pair.2) := by
  cases abreast with
  | none => exact .none
  | @some result otherResult both =>
      rcases both with ⟨cars, ret⟩
      refine .some ?_
      dsimp only
      rw [ret]
      exact cars.blind (routerBlind_afterNextPoint result.2)

theorem abreast_onStationActionFinished (abreast : Abreast car other) :
    Option.Rel Abreast (car.onStationActionFinished readings)
      (other.onStationActionFinished readings) := by
  have same := abreast.ahead.getTargetStation
  cases present : car.router.getTargetStation with
  | none =>
      simp only [onStationActionFinished, onActionFinished, present, same]
      exact .none
  | some target =>
      have seen := same.trans present
      cases finished : target.actionFinish with
      | true =>
          simp only [onStationActionFinished, onActionFinished, present, seen, finished, if_true]
          exact .some abreast
      | false =>
          rw [onStationActionFinished_next readings present finished,
            onStationActionFinished_next readings seen finished]
          have marked := rewritesTarget_finishStation present
          have finished : SameAhead (car.finishing target) (other.finishing target) :=
            (abreast.ahead.finishStation present).routes ⟨rfl, rfl⟩ ⟨rfl, rfl⟩
          let reset : AgvCar → AgvCar := fun car => { car with currentPathAction := 0 }
          have finishing := (abreast.withRouter finished).changed
            (show ∀ router car, reset (car.withRouter router) = (reset car).withRouter router
              from fun _ _ => rfl)
          have route : SameRoute car.router.finishStation (car.finishing target) := ⟨rfl, rfl⟩
          have went := abreast_goToNextPoint_next readings finishing
            (route.getTargetStation.trans (marked.present present))
          exact abreast_afterNextPoint went

/-! ## Arrivals -/

theorem abreast_doPathPointAction (abreast : Abreast car other) (path : WayPoint) :
    AbreastTo (car.doPathPointAction path) (other.doPathPointAction path) := by
  have rest := abreast.rest
  have ahead := abreast.ahead
  generalize other.router = router at rest ahead
  subst rest
  let noted : AgvCar := { car with
    currentPathAction := path.action
    performed := car.performed ++ [(car.router.targetPathId, path.action)] }
  have both : Abreast noted (noted.withRouter router) := ⟨rfl, ahead⟩
  have otherNoted : ({ car.withRouter router with
      currentPathAction := path.action
      performed := (car.withRouter router).performed ++
        [((car.withRouter router).router.targetPathId, path.action)] } : AgvCar) =
      noted.withRouter router := by
    simp only [AgvCar.withRouter, ahead.targetPathId, noted]
  have stopped := both.blind routerBlind_stopCar
  unfold doPathPointAction
  dsimp only
  rw [otherNoted]
  have sameControler : (noted.withRouter router).stopCar.controler = noted.stopCar.controler := by
    rw [stopped.rest]
    rfl
  split
  · exact ⟨both, rfl⟩
  · split
    · exact ⟨stopped, rfl⟩
    · split
      · rw [sameControler]
        split
        · exact ⟨stopped.withControler _, rfl⟩
        · exact ⟨stopped.withControler _, rfl⟩
      · split
        · rw [sameControler]
          exact ⟨stopped.withControler _, rfl⟩
        · exact ⟨both, rfl⟩

theorem abreast_onArrivedStation (abreast : Abreast car other) :
    Option.Rel Abreast (car.onArrivedStation readings) (other.onArrivedStation readings) := by
  simp only [onArrivedStation]
  rw [abreast.ahead.getTargetStation]
  cases car.router.getTargetStation with
  | none => exact .none
  | some path =>
      rcases abreast_doPathPointAction abreast path with ⟨performed, ret⟩
      dsimp only
      rw [ret]
      split
      · exact abreast_onStationActionFinished performed
      · exact .some performed

theorem abreast_onLiftArrivedHeight (abreast : Abreast car other) :
    Option.Rel Abreast (car.onLiftArrivedHeight readings)
      (other.onLiftArrivedHeight readings) := by
  have action : other.currentPathAction = car.currentPathAction := by
    rw [abreast.rest]
    rfl
  simp only [onLiftArrivedHeight]
  rw [action]
  split
  · exact abreast_onStationActionFinished abreast
  · exact .some abreast

theorem abreast_startRun (abreast : Abreast car other) :
    Option.Rel Abreast (car.startRun readings) (other.startRun readings) := by
  have mode : other.operateMode = car.operateMode := by
    rw [abreast.rest]
    rfl
  simp only [startRun]
  simp only [mode, abreast.ahead.pathList_eq_nil, abreast.ahead.targetPathId]
  split
  · split
    · exact .some abreast
    next nonempty =>
      split
      next cursor =>
        rcases getTargetStation_first cursor nonempty with ⟨path, present⟩
        have went := abreast_goToNextPoint_first readings abreast present
        generalize car.goToNextPoint readings true = result at went ⊢
        generalize other.goToNextPoint readings true = otherResult at went ⊢
        cases went with
        | none => exact .none
        | @some result otherResult both =>
            rcases both with ⟨cars, ret⟩
            dsimp only
            rw [ret]
            split
            · exact .some (cars.blind (routerBlind_sendImportantEvent .evPathMagError 0))
            · exact .some (cars.blind (routerBlind_running readings))
      next =>
        have resumed := abreast.blind (routerBlind_resetLastTargetStation readings)
        exact .some (resumed.blind (routerBlind_running readings))
  · exact .some (abreast.blind (routerBlind_afterStart readings))

/-! ## Loading a path -/

variable {evt : AgvEvent}

/-- Reloading a path, only the path file counts. -/
theorem sameAhead_reloadPathList (fileOpens : Bool) {router other : RoutePlanner}
    (file : other.file = router.file) :
    SameAhead (router.reloadPathList fileOpens) (other.reloadPathList fileOpens) := by
  rcases reloadPathList_spec fileOpens router with ⟨cursor, points⟩
  rcases reloadPathList_spec fileOpens other with ⟨otherCursor, otherPoints⟩
  refine .of_sameRoute ⟨?_, otherCursor.trans cursor.symm⟩
  rw [points, otherPoints, file]

theorem abreast_onGetNewPath (abreast : Abreast car other) :
    Abreast (car.onGetNewPath readings) (other.onGetNewPath readings) := by
  have rest := abreast.rest
  generalize other.router = router at rest
  subst rest
  constructor
  · unfold onGetNewPath
    dsimp only [RoutePlanner.onGetNewPath]
    split <;> rfl
  · refine .of_sameRoute ⟨?_, ?_⟩
    · rw [(route_onGetNewPath readings _).pathList, (route_onGetNewPath readings car).pathList]
      simp
    · rw [(route_onGetNewPath readings _).targetPathId,
        (route_onGetNewPath readings car).targetPathId]
      simp

theorem abreast_onPathFinished (abreast : Abreast car other)
    (file : other.router.file = car.router.file) :
    Abreast (car.onPathFinished readings) (other.onPathFinished readings) := by
  have stopped := (abreast.blind routerBlind_stopCar).blind
    (routerBlind_setCarStatus .normal mp3Normal)
  have same : SameAhead
      ((car.stopCar.setCarStatus .normal mp3Normal).router.reloadPathList readings.fileOpens)
      ((other.stopCar.setCarStatus .normal mp3Normal).router.reloadPathList readings.fileOpens) :=
    sameAhead_reloadPathList readings.fileOpens file
  have reloaded := stopped.withRouter same
  unfold onPathFinished
  dsimp only
  split
  · exact reloaded.blind (routerBlind_sendEvent .evKeyStart 0)
  · exact reloaded

theorem abreast_onKeyAutoMode (abreast : Abreast car other)
    (file : other.router.file = car.router.file) :
    Abreast (car.onKeyAutoMode readings) (other.onKeyAutoMode readings) := by
  have rest := abreast.rest
  have ahead := abreast.ahead
  generalize other.router = router at rest ahead file
  subst rest
  have mode : (car.withRouter router).operateMode = car.operateMode := rfl
  simp only [onKeyAutoMode]
  rw [mode]
  split
  · exact ⟨rfl, sameAhead_reloadPathList readings.fileOpens file⟩
  · exact ⟨rfl, ahead⟩

/-- A planner that starts reads its path file and goes on where the settings say. -/
theorem sameAhead_start (fileOpens : Bool) {router other : RoutePlanner}
    (same : SameAhead router other) (file : other.file = router.file)
    (saved : router.CursorSaved) (otherSaved : other.CursorSaved) :
    SameAhead (router.start fileOpens) (other.start fileOpens) := by
  simp only [start, loadPathInfo]
  rw [file]
  cases router.file with
  | none => exact .of_sameRoute ⟨rfl, rfl⟩
  | some points =>
      dsimp only
      split
      · refine .of_sameRoute ⟨rfl, ?_⟩
        simp only [saved.target, otherSaved.target]
        exact same.targetPathId
      · exact .of_sameRoute ⟨rfl, rfl⟩

/-! ## All events -/

/-- Two cars abreast whose planners keep the same path file and have saved their cursors
handle every event alike, and stay abreast. -/
theorem abreast_handleEvent (abreast : Abreast car other)
    (file : other.router.file = car.router.file) (saved : car.router.CursorSaved)
    (otherSaved : other.router.CursorSaved) :
    Option.Rel Abreast (car.handleEvent readings evt) (other.handleEvent readings evt) := by
  have mode : other.operateMode = car.operateMode := by
    rw [abreast.rest]
    rfl
  by_cases special : followsPath evt.event = true ∨ loadsPath evt.event = true
  · simp only [handleEvent]
    cases named : evt.event with
    | evKeyStart | evApplyPath =>
        simp only [mode]
        split
        · exact abreast_startRun abreast
        · exact .some abreast
    | evNextPathPoint =>
        exact abreast_onArrivedStation abreast
    | evLiftArrived =>
        exact abreast_onLiftArrivedHeight abreast
    | evGetNewPath =>
        dsimp only
        split
        · exact .some abreast
        · exact .some (abreast_onGetNewPath abreast)
    | evPathFinished =>
        exact .some (abreast_onPathFinished abreast file)
    | evKeyAutoMode =>
        exact .some (abreast_onKeyAutoMode abreast file)
    | evNetworkOK =>
        have cleared : Abreast (car.clearErrorFlag errorNetWork)
            (other.clearErrorFlag errorNetWork) :=
          abreast.blind (routerBlind_clearErrorFlag errorNetWork)
        exact .some (cleared.withRouter
          (sameAhead_start readings.fileOpens cleared.ahead file saved otherSaved))
    | _ => simp [named, followsPath, loadsPath] at special
  · simp only [not_or, Bool.not_eq_true] at special
    rcases handlesBlind_handleEvent readings special.1 special.2 with never | ⟨act, blind, handles⟩
    · rw [never, never]
      exact .none
    · rw [handles, handles]
      exact .some (abreast.blind blind)

end AgvCar

end DrivingControl.Controler

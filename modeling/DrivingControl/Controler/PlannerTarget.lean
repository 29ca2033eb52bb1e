import DrivingControl.Controler.CarTargets

/-!
# The planner's target

For each event `nextTarget` says from the state before it which station is the target
of the planner behind it.  A target that is sent is this one, unless it is the saved one
sent again.
-/

namespace DrivingControl.Controler

open DrivingControl.Comm DrivingControl.Event

namespace RoutePlanner

/-- The station of the target. -/
def targetId (router : RoutePlanner) : Option Int := router.getTargetStation.map (·.id)

/-- The station of the target behind the end of an action. -/
def targetIdBehind (readings : Readings) (router : RoutePlanner) : Option Int :=
  match router.getTargetStation with
  | none => none
  | some target =>
      if target.actionFinish ∨ router.nextStation = none then router.targetId
      else (router.goOn readings).targetId

variable {router other : RoutePlanner} {path target : WayPoint}

theorem SameRoute.targetId (same : SameRoute router other) :
    other.targetId = router.targetId := by
  rw [RoutePlanner.targetId, RoutePlanner.targetId, same.getTargetStation]

theorem SameRoute.targetIdBehind (same : SameRoute router other) (readings : Readings) :
    other.targetIdBehind readings = router.targetIdBehind readings := by
  simp only [RoutePlanner.targetIdBehind]
  rw [same.getTargetStation, same.nextStation, same.targetId, (same.goOn readings).targetId]

theorem targetId_eq (present : router.getTargetStation = some target) :
    router.targetId = some target.id := by
  rw [targetId, present]
  rfl

/-- Rewriting the target leaves its station. -/
theorem RewritesTarget.targetId (rewrites : RewritesTarget router other path)
    (present : router.getTargetStation = some target) (same : path.id = target.id) :
    other.targetId = router.targetId := by
  rw [targetId_eq (rewrites.present present), targetId_eq present, same]

/-- Reloading a path begins it again. -/
theorem reloadPathList_spec (fileOpens : Bool) (router : RoutePlanner) :
    (router.reloadPathList fileOpens).targetPathId = 0 ∧
      (router.reloadPathList fileOpens).pathList =
        if fileOpens then
          (router.file.getD []).map fun point =>
            { point with radius := 0, actionFinish := false }
        else [] := by
  cases file : router.file with
  | none => cases fileOpens <;>
      simp [reloadPathList, resetPathList, loadPathInfo, savePathInfo, clearPathList, file]
  | some points => cases fileOpens <;>
      simp [reloadPathList, resetPathList, loadPathInfo, savePathInfo, clearPathList, file]

/-- Only the path file counts when a path is reloaded. -/
theorem targetId_reloadPathList (fileOpens : Bool) (same : other.file = router.file) :
    (other.reloadPathList fileOpens).targetId = (router.reloadPathList fileOpens).targetId := by
  rcases reloadPathList_spec fileOpens router with ⟨cursor, points⟩
  rcases reloadPathList_spec fileOpens other with ⟨cursorOther, pointsOther⟩
  refine SameRoute.targetId ⟨?_, cursorOther.trans cursor.symm⟩
  rw [points, pointsOther, same]

end RoutePlanner

namespace AgvCar

open RoutePlanner CarControler

/-- The station of the planner's target behind an event. -/
def nextTarget (readings : Readings) (evt : AgvEvent) (car : AgvCar) : Option Int :=
  match evt.event with
  | .evGetNewPath =>
      if evt.data = .null then car.router.targetId
      else (car.router.onGetNewPath readings.fileOpens readings.stationList).1.targetId
  | .evPathFinished => (car.router.reloadPathList readings.fileOpens).targetId
  | .evKeyAutoMode =>
      if car.operateMode = .autoMode then car.router.targetId
      else (car.router.reloadPathList readings.fileOpens).targetId
  | .evNetworkOK => (car.router.start readings.fileOpens).targetId
  | .evNextPathPoint =>
      match car.router.getTargetStation with
      | none => none
      | some target =>
          if car.completes target then car.router.targetIdBehind readings
          else car.router.targetId
  | .evLiftArrived =>
      if car.currentPathAction = actionLiftUpDown then car.router.targetIdBehind readings
      else car.router.targetId
  | _ => car.router.targetId

variable {readings : Readings} {car next : AgvCar} {evt : AgvEvent} {path target : WayPoint}

/-- The planner's target behind the end of an action. -/
theorem Finishes.targetId (finishes : Finishes readings car next) :
    next.router.targetId = car.router.targetIdBehind readings := by
  rw [targetIdBehind]
  cases finishes with
  | again target present finished same => simp [present, finished, same]
  | last target present unfinished last keeps =>
      simp only [present, last, or_true, if_true]
      rw [keeps.route.targetId]
      exact (rewritesTarget_finishStation present).targetId present rfl
  | goes target path present unfinished chosen departs =>
      have follows := nextStation_ne_none present chosen
      simp only [present, unfinished, follows, or_self, Bool.false_eq_true, if_false]
      exact departs.rewrites.targetId chosen rfl

theorem nextTarget_start (kind : evt.event = .evKeyStart ∨ evt.event = .evApplyPath) :
    car.nextTarget readings evt = car.router.targetId := by
  rcases kind with kind | kind <;> rw [nextTarget, kind]

theorem nextTarget_barrier (kind : IsBarrier evt.event) :
    car.nextTarget readings evt = car.router.targetId := by
  rcases kind with kind | kind | kind | kind | kind <;> rw [nextTarget, kind]

theorem nextTarget_of_quiet (quiet : sendsTarget evt.event = false)
    (stays : loadsPath evt.event = false) :
    car.nextTarget readings evt = car.router.targetId := by
  rw [nextTarget]
  cases named : evt.event with
  | evNextPathPoint | evLiftArrived => simp [named, sendsTarget] at quiet
  | evGetNewPath | evPathFinished | evKeyAutoMode | evNetworkOK =>
      simp [named, loadsPath] at stays
  | _ => rfl

/-- `nextTarget` says which station is the planner's target behind an event. -/
theorem targetId_handleEvent (handled : car.handleEvent readings evt = some next) :
    next.router.targetId = car.nextTarget readings evt := by
  cases sending : sendsTarget evt.event with
  | true =>
      cases handlesTarget_of_sendsTarget sending handled with
      | start kind automatic started =>
          rw [nextTarget_start kind]
          cases starts_startRun automatic started with
          | empty nothing same => rw [same]
          | first path cursor present departs => exact departs.rewrites.targetId present rfl
          | resumes nonempty cursor resends status => exact resends.route.targetId
      | startIgnored kind manual same => rw [nextTarget_start kind, same]
      | arrival kind arrived =>
          rcases onArrivedStation_eq_some arrived with ⟨target, present, finished⟩
          have performs := performs_doPathPointAction target car
          simp only [nextTarget, kind]
          rcases finished with ⟨done, finishes⟩ | ⟨moving, same⟩
          · simp only [present, done, if_true]
            rw [finishes.targetId, performs.route.targetIdBehind]
          · simp only [present, moving, Bool.false_eq_true, if_false]
            rw [same, performs.route.targetId]
      | lift kind lifting finished =>
          simp only [nextTarget, kind]
          rw [if_pos lifting]
          exact (finishes_onStationActionFinished finished).targetId
      | liftIgnored kind other same =>
          simp only [nextTarget, kind]
          rw [if_neg other, same]
      | barrier kind automatic same =>
          rw [nextTarget_barrier kind, same]
          exact (resends_onBarrierMessage readings evt.event evt.param car).route.targetId
      | barrierIgnored kind manual same => rw [nextTarget_barrier kind, same]
  | false =>
      cases loads : loadsPath evt.event with
      | false =>
          rw [nextTarget_of_quiet sending loads]
          exact (keeps_of_quiet sending loads handled).route.targetId
      | true =>
          cases handlesPath_of_loadsPath loads handled with
          | nullPath kind null => simp only [nextTarget, kind, null, if_true]
          | newPath kind present =>
              simp only [nextTarget, kind]
              rw [if_neg present]
              exact (route_onGetNewPath readings car).targetId
          | pathFinished kind =>
              simp only [nextTarget, kind, onPathFinished]
              split
              · exact targetId_reloadPathList readings.fileOpens rfl
              · exact targetId_reloadPathList readings.fileOpens rfl
          | autoMode kind =>
              simp only [nextTarget, kind, onKeyAutoMode]
              by_cases automatic : car.operateMode = .autoMode
              · rw [if_neg (not_not_intro automatic), if_pos automatic]
              · rw [if_pos automatic, if_neg automatic]
                exact targetId_reloadPathList readings.fileOpens rfl
          | networkOK kind =>
              simp only [nextTarget, kind]
              rfl

/-! ## The station that is sent -/

theorem station_sentPoint {router : RoutePlanner} (sent : router.sentPoint readings = some path) :
    router.targetId = some path.id := by
  rw [sentPoint] at sent
  cases present : router.getTargetStation with
  | none => simp [present] at sent
  | some target =>
      simp only [present] at sent
      split at sent
      · cases sent
        exact (targetId_eq present).trans rfl
      · cases sent

theorem station_pointBehind {router : RoutePlanner}
    (sent : router.pointBehind readings = some path) :
    router.targetIdBehind readings = some path.id := by
  rw [pointBehind] at sent
  rw [targetIdBehind]
  cases present : router.getTargetStation with
  | none => simp [present] at sent
  | some target =>
      simp only [present] at sent ⊢
      split at sent
      · cases sent
      next unfinished =>
        have follows : router.nextStation ≠ none := by
          intro last
          simp [sentPoint, (goOn_absent readings present last).2] at sent
        rw [if_neg (by simp [unfinished, follows])]
        exact station_sentPoint sent

/-- A target that is sent is the planner's target behind the event, or the saved one while
the planner keeps its target. -/
theorem station_sentBy {entry : Issued} (sent : car.sentBy readings evt = some entry) :
    entry.resumed = false ∧ car.nextTarget readings evt = some entry.target.station ∨
      entry.resumed = true ∧ car.nextTarget readings evt = car.router.targetId ∧
        entry.target.station = car.controler.lastPathMag.station := by
  have ofPoint : ∀ (charging : Bool) (point : Option WayPoint) (station : Option Int),
      (∀ path, point = some path → station = some path.id) →
      point.map (car.pointEntry readings charging) = some entry →
      entry.resumed = false ∧ station = some entry.target.station := by
    intro charging point station equal found
    rcases Option.map_eq_some_iff.mp found with ⟨path, isPath, rfl⟩
    exact ⟨rfl, equal path isPath⟩
  have ofSaved : car.controler.resumedEntry readings.split = some entry →
      entry.resumed = true ∧ entry.target.station = car.controler.lastPathMag.station := by
    intro found
    rw [resumedEntry] at found
    split at found
    · cases found
    · cases found
      exact ⟨rfl, rfl⟩
  rw [sentBy] at sent
  rw [nextTarget]
  cases named : evt.event with
  | evKeyStart | evApplyPath =>
      simp only [named, sentByStart] at sent ⊢
      split at sent
      · cases sent
      · split at sent
        · exact .inl (ofPoint _ _ _ (fun path found => station_sentPoint found) sent)
        · exact .inr ⟨(ofSaved sent).1, trivial, (ofSaved sent).2⟩
  | evNextPathPoint =>
      simp only [named, sentByArrival] at sent ⊢
      cases present : car.router.getTargetStation with
      | none => simp [present] at sent
      | some target =>
          simp only [present] at sent ⊢
          split at sent
          next done =>
            rw [if_pos done]
            exact .inl (ofPoint _ _ _ (fun path found => station_pointBehind found) sent)
          next => cases sent
  | evLiftArrived =>
      simp only [named, sentByLift] at sent ⊢
      split at sent
      next lifting =>
        rw [if_pos lifting]
        exact .inl (ofPoint _ _ _ (fun path found => station_pointBehind found) sent)
      next => cases sent
  | evNearBarrier | evMidBarrier | evFarBarrier | evBarrierTouched | evBarrierOk =>
      simp only [named, sentByBarrier] at sent ⊢
      split at sent
      · exact .inr ⟨(ofSaved sent).1, trivial, (ofSaved sent).2⟩
      · cases sent
  | _ => simp [named] at sent

end AgvCar

end DrivingControl.Controler

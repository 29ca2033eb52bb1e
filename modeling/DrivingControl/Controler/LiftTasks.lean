import DrivingControl.Controler.LiftCompletion

/-!
# The reports of lift tasks

`OnActionFinished` reports a lift by comparing its height with the height the forks had when
`StopCar` was last called, not with the one they had when `GoToNextPoint` sent the car to
the way point.  A history variable remembers the latter.

The one report that is due is sent exactly if the forks were on the same side of the height
at both times.
-/

namespace DrivingControl.Controler

open DrivingControl.Comm DrivingControl.Event DrivingControl.Library

/-! ## The program beside the tasks -/

/-- The task of the way point that the car was sent to. -/
structure LiftTask where
  /-- The height of the forks when the car was sent. -/
  height : Int
  /-- Whether the action was finished since. -/
  finished : Bool := false
  deriving DecidableEq, Repr

/-- The reports that are due when a lift is finished: one, when it is finished first. -/
def LiftTask.due (target : WayPoint) (task : LiftTask) : List (Int × Int) :=
  if task.finished then []
  else if target.liftHeight > task.height then [(target.id, 1)]
  else [(target.id, 2)]

namespace AgvCar

/-- The way point whose action an event finishes. -/
def completesPoint (evt : AgvEvent) (car : AgvCar) : Option WayPoint :=
  (car.finishesPoint evt).filter fun target => !target.actionFinish

/-- The way point whose lift to a height an event finishes. -/
def completesLift (evt : AgvEvent) (car : AgvCar) : Option WayPoint :=
  (car.completesPoint evt).filter fun target =>
    target.action = actionLiftUpDown ∧ target.liftHeight ≥ 0

/-- The height of the forks when `StopCar` was last called before an action is finished.
An arrival calls it, unless the car is stopped. -/
def stopHeight (evt : AgvEvent) (car : AgvCar) : Int :=
  if evt.event = .evNextPathPoint ∧ car.carInfo.status ≠ .stopped then
    car.controler.lifter.currentHeight
  else car.controler.lastLiftHeight

/-- What an event reports. -/
def reportsBy (evt : AgvEvent) (car : AgvCar) : List (Int × Int) :=
  match car.completesPoint evt with
  | none => []
  | some target => RoutePlanner.taskReport (car.stopHeight evt) target

end AgvCar

/-- The task behind a step. -/
def observeTask (car : AgvCar) (label : CarStep) (next : AgvCar) (task : Option LiftTask) :
    Option LiftTask :=
  match label with
  | .handle evt readings =>
      let entries := next.controler.issued.drop car.controler.issued.length
      if entries.any fun entry => !entry.resumed && entry.accepted then
        some { height := car.controler.lifter.plausibleHeight }
      else if car.leavesPoint readings evt ||
          AgvCar.goesOn evt && (car.preparesPoint readings evt).isSome then none
      else if (car.completesPoint evt).isSome then task.map ({ · with finished := true })
      else task
  | _ => task

/-- The program beside the task of the planner's target. -/
def taskStep : StepFn (AgvCar × Option LiftTask) CarStep := monitored queuedStep observeTask

/-- A lift over at least 50 reports what is due when it is finished, and nothing is reported
at any other time. -/
def ReportsTask (paired : AgvCar × Option LiftTask) (label : CarStep)
    (next : AgvCar × Option LiftTask) : Prop :=
  match label with
  | .handle evt _ =>
      match paired.1.completesLift evt with
      | none => next.1.router.taskReports = paired.1.router.taskReports
      | some target =>
          ∀ task ∈ paired.2, 50 ≤ (target.liftHeight - task.height).natAbs →
            next.1.router.taskReports = paired.1.router.taskReports ++ task.due target
  | _ => next.1.router.taskReports = paired.1.router.taskReports

/-- When a lift is finished first, the forks were on the same side of its height when the
car was sent to it and when it was last stopped.  When it is finished again, the forks were
at its height when the car was last stopped. -/
def StopsOnSameSide (paired : AgvCar × Option LiftTask) (label : CarStep)
    (_ : AgvCar × Option LiftTask) : Prop :=
  match label with
  | .handle evt _ =>
      ∀ target ∈ paired.1.completesLift evt,
        ∀ task ∈ paired.2, 50 ≤ (target.liftHeight - task.height).natAbs →
          (target.liftHeight - paired.1.stopHeight evt).sign =
            if task.finished then 0 else (target.liftHeight - task.height).sign
  | _ => True

instance (paired : AgvCar × Option LiftTask) (label : CarStep)
    (next : AgvCar × Option LiftTask) : Decidable (ReportsTask paired label next) :=
  match label with
  | .handle evt _ =>
      match found : paired.1.completesLift evt with
      | none =>
          decidable_of_iff (next.1.router.taskReports = paired.1.router.taskReports)
            (by simp [ReportsTask, found])
      | some target =>
          decidable_of_iff (∀ task ∈ paired.2,
              50 ≤ (target.liftHeight - task.height).natAbs →
              next.1.router.taskReports = paired.1.router.taskReports ++ task.due target)
            (by simp [ReportsTask, found])
  | .post _ | .loop _ | .arrive | .halt | .lifter _ _ => inferInstanceAs (Decidable (_ = _))

namespace RoutePlanner

variable {readings : Readings} {router other : RoutePlanner} {target : WayPoint}

/-! ## What is reported -/

theorem Informed.taskReports (informed : Informed router other) :
    other.taskReports = router.taskReports := by
  rw [Informed] at informed
  rw [informed]

/-- A lift to a height is reported by the side of it that the forks come from. -/
theorem taskReport_eq_due_iff (lift : target.action = actionLiftUpDown)
    (height : target.liftHeight ≥ 0) (stopped : Int) (task : LiftTask)
    (far : 50 ≤ (target.liftHeight - task.height).natAbs) :
    taskReport stopped target = task.due target ↔
      (target.liftHeight - stopped).sign =
        if task.finished then 0 else (target.liftHeight - task.height).sign := by
  have side : (target.liftHeight - task.height).sign =
      if target.liftHeight > task.height then 1 else -1 := by
    split
    · exact Int.sign_eq_one_of_pos (by omega)
    · exact Int.sign_eq_neg_one_of_neg (by omega)
  rw [taskReport, if_pos ⟨height, lift⟩, LiftTask.due, side]
  rcases Int.lt_trichotomy target.liftHeight stopped with below | level | above
  · rw [if_pos below, Int.sign_eq_neg_one_of_neg (by omega)]
    split
    · simp
    · split <;> simp
  · rw [if_neg (by omega), if_neg (by omega), Int.sign_eq_zero_iff_zero.mpr (by omega)]
    split
    · simp
    · split <;> simp
  · rw [if_neg (by omega), if_pos above, Int.sign_eq_one_of_pos (by omega)]
    split
    · simp
    · split <;> simp

theorem sameReports_preparePoint (readings : Readings) (path : WayPoint) (car : AgvCar) :
    car.router.SameReports (car.preparePoint readings path).router := by
  let turned : AgvCar := { car with
    currentPathId := path.id
    carRunMode := path.runMode
    router := car.router.stopAtTurn path
    controler := car.controler.setTargetHeight path.liftHeight }
  have turns : car.router.SameReports turned.router := sameReports_stopAtTurn path car.router
  have onTheWay : ∀ target : WayPoint,
      turned.router.SameReports (turned.liftOnTheWay target).router := by
    intro target
    rw [AgvCar.liftOnTheWay]
    split
    · exact sameReports_updateTarget _ _
    · exact .refl _
  rw [AgvCar.preparePoint]
  dsimp only
  split
  · exact turns.trans (sameReports_getRunAction readings _)
  next target present =>
    exact (turns.trans (onTheWay target)).trans (sameReports_getRunAction readings _)

theorem sameReports_goToPoint {car : AgvCar} {result : AgvCar × Int}
    (went : car.goToPoint readings = some result) : car.router.SameReports result.1.router := by
  rw [AgvCar.goToPoint] at went
  split at went
  · cases went
  next path present =>
    dsimp only at went
    split at went
    · cases went
    · cases went
      rw [AgvCar.router_sendPoint]
      exact sameReports_preparePoint readings path car

/-- To go to a way point reports nothing. -/
theorem sameReports_goToNextPoint {car : AgvCar} {isfirst : Bool} {result : AgvCar × Int}
    (went : car.goToNextPoint readings isfirst = some result) :
    car.router.SameReports result.1.router := by
  have moved := sameReports_moveToNextStation car.router
  unfold AgvCar.goToNextPoint at went
  dsimp only at went
  split at went
  · cases went
    exact moved
  · split at went
    · cases went
    next router found =>
      have jumped := sameReports_jumpCurPoint found
      have goes : router.SameReports result.1.router := sameReports_goToPoint went
      cases isfirst with
      | true => exact jumped.trans goes
      | false => exact (moved.trans jumped).trans goes

end RoutePlanner

namespace AgvCar

open RoutePlanner

variable {readings : Readings} {evt : AgvEvent} {car next : AgvCar} {target : WayPoint}

theorem taskReports_startRun (handled : car.startRun readings = some next) :
    next.router.taskReports = car.router.taskReports := by
  cases first : car.startsFirst with
  | false => exact (informs_startRun first handled).taskReports
  | true =>
      simp only [startsFirst, decide_eq_true_iff] at first
      rcases first with ⟨automatic, nonempty, cursor⟩
      rw [startRun, if_pos automatic, if_neg nonempty, if_pos cursor] at handled
      split at handled
      · cases handled
      next went =>
        have same := (sameReports_goToNextPoint went).taskReports
        split at handled
        · cases handled
          exact same
        · cases handled
          exact (Informed.taskReports (informs_running readings _)).trans same

/-- The end of an action reports its task, if it was not finished before. -/
theorem taskReports_onStationActionFinished (present : car.router.getTargetStation = some target)
    (handled : car.onStationActionFinished readings = some next) :
    next.router.taskReports = car.router.taskReports ++
      if target.actionFinish then [] else taskReport car.controler.lastLiftHeight target := by
  cases endsAction_onStationActionFinished handled with
  | again other also finished same =>
      cases present.symm.trans also
      subst same
      simp [finished]
  | goesOn other also unfinished result went same =>
      cases present.symm.trans also
      subst same
      have reported := (sameReports_goToNextPoint went).taskReports
      rw [Informed.taskReports (informs_afterNextPoint result.2 result.1), reported, unfinished]
      simp [finishing]

/-- `StopCar` takes the height of the forks, unless the car is stopped. -/
theorem lastLiftHeight_stopCar (car : AgvCar) :
    car.stopCar.controler.lastLiftHeight =
      if car.carInfo.status = .stopped then car.controler.lastLiftHeight
      else car.controler.lifter.currentHeight := by
  by_cases stopped : car.carInfo.status = .stopped
  · rw [if_pos stopped, stopCar]
    exact congrArg CarControler.lastLiftHeight (controler_setCarStatus_stopped mp3Mute stopped)
  · have acts : actsOn .stopped { car with stopButton := true } = true := by
      simpa [actsOn] using Ne.symm stopped
    rw [if_neg stopped, stopCar, setCarStatus, if_pos acts]
    rfl

/-- An arrival stops the car before a lift is finished. -/
theorem taskReport_doPathPointAction (named : evt.event = .evNextPathPoint)
    (target : WayPoint) (car : AgvCar) :
    taskReport (car.doPathPointAction target).1.controler.lastLiftHeight target =
      taskReport (car.stopHeight evt) target := by
  by_cases lift : target.action = actionLiftUpDown
  · let noted : AgvCar := { car with
      currentPathAction := target.action
      performed := car.performed ++ [(car.router.targetPathId, target.action)] }
    have stopped : (car.doPathPointAction target).1.controler.lastLiftHeight =
        noted.stopCar.controler.lastLiftHeight := by
      rw [doPathPointAction]
      dsimp only
      rw [if_neg (by rw [lift]; decide), if_neg (by rw [lift]; decide), if_pos lift]
      split <;> rfl
    rw [stopped, lastLiftHeight_stopCar, stopHeight]
    by_cases still : car.carInfo.status = .stopped
    · rw [if_pos still, if_neg fun both => both.2 still]
    · rw [if_neg still, if_pos ⟨named, still⟩]
  · simp [taskReport, lift]

theorem reportsBy_of_finishesPoint (reached : car.finishesPoint evt = some target) :
    car.reportsBy evt =
      if target.actionFinish then [] else taskReport (car.stopHeight evt) target := by
  rw [reportsBy, completesPoint]
  rw [reached, Option.filter_some]
  cases target.actionFinish with
  | true => rfl
  | false => rfl

/-- To load a path reports nothing. -/
theorem taskReports_of_loadsPath (loads : loadsPath evt.event = true)
    (handled : car.handleEvent readings evt = some next) :
    next.router.taskReports = car.router.taskReports := by
  cases handlesPath_of_loadsPath loads handled with
  | nullPath kind null => rfl
  | newPath kind present =>
      have installed := (sameReports_onGetNewPath readings.fileOpens readings.stationList
        car.router).taskReports
      unfold onGetNewPath
      dsimp only
      split <;> exact installed
  | pathFinished kind =>
      unfold onPathFinished
      dsimp only
      split <;> exact (sameReports_reloadPathList readings.fileOpens _).taskReports
  | autoMode kind =>
      rw [onKeyAutoMode]
      split
      · exact (sameReports_reloadPathList readings.fileOpens _).taskReports
      · rfl
  | networkOK kind => exact (sameReports_loadPathInfo readings.fileOpens _).taskReports

theorem finishesPoint_start (kind : evt.event = .evKeyStart ∨ evt.event = .evApplyPath) :
    car.finishesPoint evt = none := by
  rcases kind with kind | kind <;> simp [finishesPoint, kind]

theorem finishesPoint_barrier (kind : IsBarrier evt.event) :
    car.finishesPoint evt = none := by
  rcases kind with kind | kind | kind | kind | kind <;> simp [finishesPoint, kind]

/-- What an event reports. -/
theorem taskReports_handleEvent (handled : car.handleEvent readings evt = some next) :
    next.router.taskReports = car.router.taskReports ++ car.reportsBy evt := by
  have silent : car.finishesPoint evt = none → car.reportsBy evt = [] := by
    intro nothing
    simp [reportsBy, completesPoint, nothing]
  cases sends : sendsTarget evt.event with
  | true =>
      cases handlesTarget_of_sendsTarget sends handled with
      | arrival kind arrived =>
          rw [onArrivedStation] at arrived
          cases present : car.router.getTargetStation with
          | none => simp [present] at arrived
          | some target =>
              have informs := Informed.taskReports (informs_doPathPointAction target car)
              have route := (performs_doPathPointAction target car).route
              simp only [present] at arrived
              split at arrived
              next done =>
                have reached : car.finishesPoint evt = some target := by
                  simp [finishesPoint, kind, present, done]
                rw [taskReports_onStationActionFinished (route.getTargetStation.trans present)
                  arrived, informs, reportsBy_of_finishesPoint reached,
                  taskReport_doPathPointAction kind]
              next moving =>
                cases arrived
                rw [silent (by simp [finishesPoint, kind, present, moving]), List.append_nil]
                exact informs
      | lift kind lifting finished =>
          cases present : car.router.getTargetStation with
          | none => simp [onStationActionFinished, onActionFinished, present] at finished
          | some target =>
              have reached : car.finishesPoint evt = some target := by
                simp [finishesPoint, kind, present, lifting]
              have height : car.stopHeight evt = car.controler.lastLiftHeight :=
                if_neg fun both => by simp [kind] at both
              rw [taskReports_onStationActionFinished present finished,
                reportsBy_of_finishesPoint reached, height]
      | liftIgnored kind other same =>
          rw [silent (by simp [finishesPoint, kind, other]), same, List.append_nil]
      | start kind automatic started =>
          rw [silent (finishesPoint_start kind), List.append_nil]
          exact taskReports_startRun started
      | startIgnored kind manual same =>
          rw [silent (finishesPoint_start kind), same, List.append_nil]
      | barrier kind automatic same =>
          rw [silent (finishesPoint_barrier kind), same, List.append_nil]
          exact Informed.taskReports (informs_onBarrierMessage readings _ evt.param car)
      | barrierIgnored kind manual same =>
          rw [silent (finishesPoint_barrier kind), same, List.append_nil]
  | false =>
      have nothing : car.finishesPoint evt = none := by
        rw [finishesPoint]
        split
        next named => simp [named, sendsTarget] at sends
        next named => simp [named, sendsTarget] at sends
        next => rfl
      rw [silent nothing, List.append_nil]
      cases loads : loadsPath evt.event with
      | true => exact taskReports_of_loadsPath loads handled
      | false =>
          by_cases manual : evt.event = .evKeyManualMode
          · simp only [handleEvent, manual, Option.some.injEq, onKeyManualMode] at handled
            subst handled
            split <;> rfl
          · exact Informed.taskReports (informs_of_quiet sends loads manual handled)

/-- What an event reports does not depend on the events that wait. -/
theorem reportsBy_events (evt : AgvEvent) (events : EventHelper) (car : AgvCar) :
    reportsBy evt { car with events } = car.reportsBy evt := by
  have done : ∀ (car : AgvCar) (target : WayPoint),
      decide ((car.doPathPointAction target).2 = 0) = car.completes target := by
    intro car target
    rw [Bool.eq_iff_iff, decide_eq_true_iff]
    exact (performs_doPathPointAction target car).ret
  have reached : finishesPoint evt { car with events } = car.finishesPoint evt := by
    simp only [finishesPoint]
    simp only [done]
    rfl
  rw [reportsBy, completesPoint]
  rw [reached]
  rfl

/-- An event that finishes no lift to a height reports nothing. -/
theorem reportsBy_of_completesLift_none (nothing : car.completesLift evt = none) :
    car.reportsBy evt = [] := by
  rw [reportsBy]
  cases reached : car.completesPoint evt with
  | none => rfl
  | some target =>
      rw [completesLift, reached, Option.filter_eq_none_iff] at nothing
      have other := nothing target rfl
      exact if_neg fun both => other (decide_eq_true ⟨both.2, both.1⟩)

end AgvCar

/-! ## Runs -/

/-- A step reports its task as it is due exactly if the car was stopped while the forks
were on the side of the height that they came from. -/
theorem reportsTask_iff_stopsOnSameSide {paired next : AgvCar × Option LiftTask}
    {label : CarStep} (stepped : taskStep label paired = some next) :
    ReportsTask paired label next ↔ StopsOnSameSide paired label next := by
  have moved := (monitored_eq_some stepped).1
  rcases paired with ⟨car, task⟩
  by_cases handles : label.isHandle = true
  · cases label with
    | handle evt readings =>
        rcases queuedStep_handle moved with ⟨rest, popped, handled⟩
        have reported : next.1.router.taskReports = car.router.taskReports ++ car.reportsBy evt :=
          (AgvCar.taskReports_handleEvent handled).trans
            (congrArg _ (AgvCar.reportsBy_events evt rest car))
        dsimp only [ReportsTask, StopsOnSameSide]
        cases completes : car.completesLift evt with
        | none =>
            rw [reported, AgvCar.reportsBy_of_completesLift_none completes, List.append_nil]
            simp
        | some target =>
            obtain ⟨first, lifts⟩ := Option.filter_eq_some_iff.mp completes
            obtain ⟨lift, height⟩ := of_decide_eq_true lifts
            have reports : car.reportsBy evt =
                RoutePlanner.taskReport (car.stopHeight evt) target := by
              rw [AgvCar.reportsBy, first]
            rw [reported, reports]
            simp only [Option.mem_some_iff, forall_eq']
            apply forall_congr'
            intro task
            apply imp_congr_right
            intro _
            apply imp_congr_right
            intro far
            rw [List.append_cancel_left_eq]
            exact RoutePlanner.taskReport_eq_due_iff lift height _ task far
    | _ => cases handles
  · have same := (AgvCar.background_carStep (Bool.eq_false_iff.mpr handles)
      (carStep_of_queuedStep (Bool.eq_false_iff.mpr handles) moved)).router
    have silent : next.1.router.taskReports = car.router.taskReports :=
      congrArg RoutePlanner.taskReports same
    cases label with
    | handle evt readings => exact absurd rfl handles
    | _ => exact iff_of_true silent trivial

/-- In every run, whatever the order of its steps and the state before it, every lift over at
least 50 is reported once and in its direction exactly if the car is always stopped while
the forks are on the side of the height that they came from. -/
theorem along_reportsTask_iff (labels : List CarStep) (start : AgvCar × Option LiftTask) :
    Along taskStep ReportsTask labels start ↔ Along taskStep StopsOnSameSide labels start :=
  along_congr (fun _ _ _ => reportsTask_iff_stopsOnSameSide) labels start

/-- A lift that begins when the car has stopped is reported. -/
example : (run taskStep (queuedDeparture [liftAhead 1 1000] ++
    [.loop 1, .arrive, handleArrival 1, .lifter 980 0, handleLift 1000]) (AgvCar.init, none)).map
      (·.1.router.taskReports) = some [(1, 1)] := by
  decide

/-- A way point has a lift height and another action.  The forks go up while the car drives
to it, and nothing is reported. -/
theorem lift_on_the_way_not_reported :
    ¬ ∀ labels : List CarStep, Along taskStep ReportsTask labels (AgvCar.init, none) := by
  intro reports
  have silent := reports (queuedDeparture [{ stationAhead 1 1 with liftHeight := 1000 }] ++
    [.lifter 1000 2, .loop 1, .arrive, handleArrival 1])
  exact absurd silent (by decide)

end DrivingControl.Controler

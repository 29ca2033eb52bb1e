import DrivingControl.Controler.CarEvents

/-!
# The queue is only written

The handlers queue events and never look into the queue: with another queue before them they
do the same and queue the same events.
-/

namespace DrivingControl.Controler

open DrivingControl.Comm DrivingControl.Event

namespace AgvCar

/-- The car with another queue. -/
def withEvents (events : EventHelper) (car : AgvCar) : AgvCar := { car with events }

@[simp] theorem router_withEvents (events : EventHelper) (car : AgvCar) :
    (car.withEvents events).router = car.router := rfl

/-- A function of the car that only queues events. -/
def QueueBlind (act : AgvCar → AgvCar) : Prop :=
  ∀ car : AgvCar, ∃ (next : AgvCar) (sent : List AgvEvent), ∀ events,
    act (car.withEvents events) = next.withEvents (events.pushAll sent)

/-- A function that may end the program, and has a second result. -/
def QueueBlindTo {β : Type} (act : AgvCar → Option (AgvCar × β)) : Prop :=
  ∀ car : AgvCar, ∃ (result : Option (AgvCar × β)) (sent : List AgvEvent), ∀ events,
    act (car.withEvents events) =
      result.map fun pair => (pair.1.withEvents (events.pushAll sent), pair.2)

variable {act after : AgvCar → AgvCar}

theorem queueBlind_comp (first : QueueBlind act) (second : QueueBlind after) :
    QueueBlind fun car => after (act car) := by
  intro car
  rcases first car with ⟨next, sent, blind⟩
  rcases second next with ⟨last, more, blindAfter⟩
  refine ⟨last, sent ++ more, fun events => ?_⟩
  dsimp only
  rw [blind, blindAfter, EventHelper.pushAll, EventHelper.pushAll, EventHelper.pushAll,
    List.foldl_append]

/-- What does not touch the queue. -/
theorem queueBlind_of_commutes
    (commutes : ∀ events car, act (car.withEvents events) = (act car).withEvents events) :
    QueueBlind act :=
  fun car => ⟨act car, [], fun events => commutes events car⟩

theorem queueBlind_sendUrgentEvent (event : EventList) (param : Int) :
    QueueBlind (sendUrgentEvent event param) :=
  fun car => ⟨car, [{ event, param, priority := urgent }], fun _ => rfl⟩

theorem queueBlind_sendImportantEvent (event : EventList) (param : Int) :
    QueueBlind (sendImportantEvent event param) :=
  fun car => ⟨car, [{ event, param, priority := important }], fun _ => rfl⟩

theorem queueBlind_sendEvent (event : EventList) (param : Int) :
    QueueBlind (sendEvent event param) :=
  fun car => ⟨car, [{ event, param }], fun _ => rfl⟩

theorem queueBlind_id : QueueBlind fun car => car := queueBlind_of_commutes fun _ _ => rfl

/-- A function that is called under a condition on the rest of the car. -/
theorem queueBlind_ite {condition : AgvCar → Prop} [DecidablePred condition]
    (ignores : ∀ events car, condition (car.withEvents events) = condition car)
    (first : QueueBlind act) (second : QueueBlind after) :
    QueueBlind fun car => if condition car then act car else after car := by
  intro car
  by_cases holds : condition car
  · rcases first car with ⟨next, sent, same⟩
    refine ⟨next, sent, fun events => ?_⟩
    dsimp only
    rw [if_pos ((ignores events car).mpr holds)]
    exact same events
  · rcases second car with ⟨next, sent, same⟩
    refine ⟨next, sent, fun events => ?_⟩
    dsimp only
    rw [if_neg fun other => holds ((ignores events car).mp other)]
    exact same events

/-! ## The parts of a start -/

theorem queueBlind_requeueBarriers : QueueBlind requeueBarriers := by
  have requeue : ∀ (flag : Nat) (event : EventList), QueueBlind fun car =>
      if car.isHaveError flag then car.sendUrgentEvent event 0 else car :=
    fun flag event =>
      queueBlind_ite (fun _ _ => rfl) (queueBlind_sendUrgentEvent event 0) queueBlind_id
  have nearMid := queueBlind_comp (requeue errorIrNear .evNearBarrier)
    (requeue errorIrMid .evMidBarrier)
  have allThree := queueBlind_comp nearMid (requeue errorIrFar .evFarBarrier)
  exact allThree

theorem queueBlind_afterStart (readings : Readings) : QueueBlind (afterStart readings) := by
  by_cases clear : readings.laserStuta = 0
  · rw [afterStart_clear clear]
    exact queueBlind_of_commutes fun _ _ => rfl
  · rw [afterStart_barrier clear]
    exact queueBlind_requeueBarriers

/-- The end of a start: the car runs. -/
theorem queueBlind_running (readings : Readings) :
    QueueBlind fun car => afterStart readings
      ({ car with stopButton := false }.setCarStatus .running car.carRunMode) :=
  have runs : QueueBlind fun car =>
      { car with stopButton := false }.setCarStatus .running car.carRunMode :=
    queueBlind_of_commutes fun _ _ => rfl
  queueBlind_comp runs (queueBlind_afterStart readings)

/-- Sending a target that the rest of the car names. -/
theorem queueBlind_afterIssue (issue : AgvCar → CarControler × Option Int)
    (ignores : ∀ events car, issue (car.withEvents events) = issue car) :
    QueueBlindTo fun car => some (car.afterIssue (issue car)) := by
  intro car
  cases failed : (issue car).2 with
  | none =>
      refine ⟨some ({ car with controler := (issue car).1 }, 0), [], fun events => ?_⟩
      simp only [ignores, afterIssue, failed]
      rfl
  | some errorCode =>
      refine ⟨some ({ car with controler := (issue car).1 }, -1),
        [{ event := .evPathMagError, param := errorCode, priority := important }],
        fun events => ?_⟩
      simp only [ignores, afterIssue, failed]
      rfl

theorem preparePoint_withEvents (readings : Readings) (path : WayPoint) (events : EventHelper)
    (car : AgvCar) :
    (car.withEvents events).preparePoint readings path =
      (car.preparePoint readings path).withEvents events := by
  simp only [preparePoint]
  dsimp only [withEvents]
  split
  · rfl
  · unfold liftOnTheWay
    dsimp only
    split <;> rfl

theorem queueBlind_sendPoint (readings : Readings) (path : WayPoint) :
    QueueBlindTo fun car => some (car.sendPoint readings path) := by
  simp only [sendPoint]
  by_cases drivable : isDrivable path = true
  · simp only [drivable, if_true]
    exact queueBlind_afterIssue _ fun _ _ => rfl
  · simp only [drivable, Bool.false_eq_true, if_false]
    exact fun car => ⟨some (car, -1), [], fun _ => rfl⟩

theorem queueBlind_goToPoint (readings : Readings) : QueueBlindTo (goToPoint readings) := by
  intro car
  simp only [goToPoint]
  simp only [preparePoint_withEvents]
  cases present : car.router.getTargetStation with
  | none => exact ⟨none, [], fun events => by simp [withEvents, present]⟩
  | some path =>
      cases prepared : (car.preparePoint readings path).router.getTargetStation with
      | none => exact ⟨none, [], fun events => by simp [withEvents, present, prepared]⟩
      | some target =>
          rcases queueBlind_sendPoint readings target (car.preparePoint readings path) with
            ⟨result, sent, blind⟩
          refine ⟨result, sent, fun events => ?_⟩
          rw [← blind events]
          simp [withEvents, present, prepared]

theorem queueBlind_goToNextPoint (readings : Readings) (isfirst : Bool) :
    QueueBlindTo (goToNextPoint readings isfirst) := by
  intro car
  cases ends : !isfirst && !car.router.moveToNextStation.2 with
  | true =>
      refine ⟨some ({ car with router := car.router.moveToNextStation.1 }, 1), [],
        fun events => ?_⟩
      simp only [goToNextPoint, router_withEvents, ends, if_true]
      rfl
  | false =>
      cases jumped : (if isfirst then car.router else
          car.router.moveToNextStation.1).jumpCurPoint readings isfirst with
      | none =>
          refine ⟨none, [], fun events => ?_⟩
          simp only [goToNextPoint, router_withEvents, ends, Bool.false_eq_true, if_false, jumped,
            Option.map_none]
      | some router =>
          rcases queueBlind_goToPoint readings { car with router } with ⟨result, sent, blind⟩
          refine ⟨result, sent, fun events => ?_⟩
          rw [← blind events]
          simp only [goToNextPoint, router_withEvents, ends, Bool.false_eq_true, if_false, jumped]
          rfl

theorem queueBlind_resetLastTargetStation (readings : Readings) :
    QueueBlind (resetLastTargetStation readings) := by
  intro car
  rcases queueBlind_afterIssue (fun car => car.controler.resetLastTargetStation readings.split)
    (fun _ _ => rfl) car with ⟨result, sent, blind⟩
  cases result with
  | none => exact (nomatch blind car.events)
  | some pair =>
      exact ⟨pair.1, sent, fun events => congrArg Prod.fst (Option.some.inj (blind events))⟩

/-! ## Starts -/

/-- A handler that only queues events, and may end the program. -/
def HandlesQueueBlind (handle : AgvCar → Option AgvCar) : Prop :=
  ∀ car : AgvCar, ∃ (result : Option AgvCar) (sent : List AgvEvent), ∀ events,
    handle (car.withEvents events) = result.map (·.withEvents (events.pushAll sent))

theorem handlesQueueBlind_some (blind : QueueBlind act) :
    HandlesQueueBlind fun car => some (act car) := by
  intro car
  rcases blind car with ⟨next, sent, same⟩
  exact ⟨some next, sent, fun events => congrArg some (same events)⟩

theorem handlesQueueBlind_none : HandlesQueueBlind fun _ => none :=
  fun _ => ⟨none, [], fun _ => rfl⟩

/-- A handler that is called under a condition on the rest of the car. -/
theorem handlesQueueBlind_ite {condition : AgvCar → Prop} [DecidablePred condition]
    {first second : AgvCar → Option AgvCar}
    (ignores : ∀ events car, condition (car.withEvents events) = condition car)
    (blind : HandlesQueueBlind first) (otherBlind : HandlesQueueBlind second) :
    HandlesQueueBlind fun car => if condition car then first car else second car := by
  intro car
  by_cases holds : condition car
  · rcases blind car with ⟨result, sent, same⟩
    exact ⟨result, sent, fun events =>
      (if_pos ((ignores events car).mpr holds)).trans (same events)⟩
  · rcases otherBlind car with ⟨result, sent, same⟩
    exact ⟨result, sent, fun events =>
      (if_neg fun other => holds ((ignores events car).mp other)).trans (same events)⟩

/-- A start does the same with another queue, and queues the same events. -/
theorem queueBlind_startRun (readings : Readings) : HandlesQueueBlind (startRun readings) := by
  intro car
  by_cases automatic : car.operateMode = .autoMode
  · have mode : ∀ events, (car.withEvents events).operateMode = .autoMode := fun _ => automatic
    by_cases nothing : car.router.pathList = []
    · refine ⟨some car, [], fun events => ?_⟩
      simp only [startRun, mode, router_withEvents, nothing, if_true]
      rfl
    · by_cases cursor : car.router.targetPathId = 0
      · rcases queueBlind_goToNextPoint readings true car with ⟨result, sent, blind⟩
        rcases result with _ | ⟨next, ret⟩
        · refine ⟨none, [], fun events => ?_⟩
          simp only [startRun, mode, router_withEvents, nothing, cursor, blind, if_true, if_false,
            Option.map_none]
        · have ends : QueueBlind fun car =>
              if ret ≠ 0 then car.sendImportantEvent .evPathMagError 0
              else afterStart readings
                ({ car with stopButton := false }.setCarStatus .running car.carRunMode) := by
            by_cases failed : ret ≠ 0
            · simp only [if_pos failed]
              exact queueBlind_sendImportantEvent .evPathMagError 0
            · simp only [if_neg failed]
              exact queueBlind_running readings
          rcases ends next with ⟨last, more, blindEnd⟩
          refine ⟨some last, sent ++ more, fun events => ?_⟩
          have both := blindEnd (events.pushAll sent)
          rw [EventHelper.pushAll, EventHelper.pushAll, ← List.foldl_append] at both
          simp only [startRun, mode, router_withEvents, nothing, cursor, blind, if_true, if_false,
            Option.map_some]
          rw [← apply_ite some]
          exact congrArg some both
      · have starts := queueBlind_comp (queueBlind_resetLastTargetStation readings)
          (queueBlind_running readings)
        rcases starts car with ⟨next, sent, blind⟩
        refine ⟨some next, sent, fun events => ?_⟩
        simp only [startRun, mode, router_withEvents, nothing, cursor, if_true, if_false]
        exact congrArg some (blind events)
  · have mode : ∀ events, (car.withEvents events).operateMode ≠ .autoMode := fun _ => automatic
    rcases queueBlind_afterStart readings car with ⟨next, sent, blind⟩
    refine ⟨some next, sent, fun events => ?_⟩
    rw [startRun, if_neg (mode events)]
    exact congrArg some (blind events)

/-! ## Arrivals -/

theorem doPathPointAction_withEvents (path : WayPoint) (events : EventHelper) (car : AgvCar) :
    (car.withEvents events).doPathPointAction path =
      Prod.map (withEvents events) id (car.doPathPointAction path) := by
  let noted : AgvCar := { car with
    currentPathAction := path.action
    performed := car.performed ++ [(car.router.targetPathId, path.action)] }
  have otherNoted : ({ car.withEvents events with
      currentPathAction := path.action
      performed := (car.withEvents events).performed ++
        [((car.withEvents events).router.targetPathId, path.action)] } : AgvCar) =
      noted.withEvents events := rfl
  have stopped : (noted.withEvents events).stopCar = noted.stopCar.withEvents events := rfl
  unfold doPathPointAction
  dsimp only
  rw [otherNoted, stopped]
  split
  · rfl
  · split
    · rfl
    · split
      · change (if (noted.stopCar.controler.lifter.liftIsArrived path.liftHeight).2 then _
          else _) = _
        split <;> rfl
      · split <;> rfl

theorem queueBlind_afterNextPoint (ret : Int) : QueueBlind fun car => car.afterNextPoint ret := by
  have runs : QueueBlind fun car =>
      { car with stopButton := false }.setCarStatus .running car.carRunMode :=
    queueBlind_of_commutes fun _ _ => rfl
  simp only [afterNextPoint]
  split
  · exact queueBlind_comp runs queueBlind_requeueBarriers
  · split
    · exact queueBlind_sendImportantEvent .evPathFinished 0
    · split
      · exact queueBlind_sendImportantEvent .evPathMagError 0
      · exact queueBlind_id

theorem handlesQueueBlind_onStationActionFinished (readings : Readings) :
    HandlesQueueBlind (onStationActionFinished readings) := by
  intro car
  have height : ∀ events, (car.withEvents events).controler.lastLiftHeight =
      car.controler.lastLiftHeight := fun _ => rfl
  cases finished : car.router.onActionFinished car.controler.lastLiftHeight with
  | none =>
      refine ⟨none, [], fun events => ?_⟩
      simp only [onStationActionFinished, router_withEvents, height, finished, Option.map_none]
  | some ended =>
      rcases ended with ⟨router, ret⟩
      by_cases again : ret ≠ 0
      · refine ⟨some { car with router }, [], fun events => ?_⟩
        simp only [onStationActionFinished, router_withEvents, height, finished, if_pos again]
        rfl
      · rcases queueBlind_goToNextPoint readings false
          { car with router, currentPathAction := 0 } with ⟨result, sent, blind⟩
        have went : ∀ events, goToNextPoint readings false { car.withEvents events with
            router
            currentPathAction := 0 } = result.map fun pair =>
              (pair.1.withEvents (events.pushAll sent), pair.2) := blind
        rcases result with _ | ⟨next, ret⟩
        · refine ⟨none, [], fun events => ?_⟩
          simp only [onStationActionFinished, router_withEvents, height, finished, if_neg again,
            went, Option.map_none]
        · rcases queueBlind_afterNextPoint ret next with ⟨last, more, blindEnd⟩
          refine ⟨some last, sent ++ more, fun events => ?_⟩
          have both := blindEnd (events.pushAll sent)
          rw [EventHelper.pushAll, EventHelper.pushAll, ← List.foldl_append] at both
          simp only [onStationActionFinished, router_withEvents, height, finished, if_neg again,
            went, Option.map_some]
          exact congrArg some both

theorem handlesQueueBlind_onArrivedStation (readings : Readings) :
    HandlesQueueBlind (onArrivedStation readings) := by
  intro car
  cases present : car.router.getTargetStation with
  | none =>
      refine ⟨none, [], fun events => ?_⟩
      simp only [onArrivedStation, router_withEvents, present, Option.map_none]
  | some path =>
      by_cases done : (car.doPathPointAction path).2 = 0
      · rcases handlesQueueBlind_onStationActionFinished readings
          (car.doPathPointAction path).1 with ⟨result, sent, blind⟩
        refine ⟨result, sent, fun events => ?_⟩
        simp only [onArrivedStation, router_withEvents, present, doPathPointAction_withEvents,
          Prod.map, id, if_pos done]
        exact blind events
      · refine ⟨some (car.doPathPointAction path).1, [], fun events => ?_⟩
        simp only [onArrivedStation, router_withEvents, present, doPathPointAction_withEvents,
          Prod.map, id, if_neg done]
        rfl

theorem handlesQueueBlind_onLiftArrivedHeight (readings : Readings) :
    HandlesQueueBlind (onLiftArrivedHeight readings) :=
  handlesQueueBlind_ite (fun _ _ => rfl) (handlesQueueBlind_onStationActionFinished readings)
    (handlesQueueBlind_some queueBlind_id)

/-! ## All events -/

theorem queueBlind_on10msTimer (readings : Readings) : QueueBlind (on10msTimer readings) := by
  have stops : QueueBlind fun car => { car with controler := car.controler.stopCar } :=
    queueBlind_of_commutes fun _ _ => rfl
  exact queueBlind_ite (fun _ _ => rfl)
    (queueBlind_comp stops (queueBlind_sendUrgentEvent .evLostPosition 0)) queueBlind_id

theorem queueBlind_checkBattery (readings : Readings) : QueueBlind (checkBattery readings) :=
  queueBlind_ite (fun _ _ => rfl)
    (queueBlind_ite (fun _ _ => rfl) (queueBlind_of_commutes fun _ _ => rfl)
      (queueBlind_of_commutes fun _ _ => rfl))
    (queueBlind_of_commutes fun _ _ => rfl)

theorem queueBlind_checkInit : QueueBlind checkInit := by
  have completes : QueueBlind fun car => { car with isInitComplete := true } :=
    queueBlind_of_commutes fun _ _ => rfl
  exact queueBlind_ite (fun _ _ => rfl)
    (queueBlind_comp completes (queueBlind_sendEvent .evSysReady 0)) queueBlind_id

theorem queueBlind_onNetworkError (readings : Readings) :
    QueueBlind (onNetworkError readings) := by
  have flags : QueueBlind (setErrorFlag errorNetWork) := queueBlind_of_commutes fun _ _ => rfl
  have announces : QueueBlind fun car =>
      if readings.isConnected then car.sendImportantEvent .evSchedulerOffline 0 else car :=
    queueBlind_ite (fun _ _ => rfl) (queueBlind_sendImportantEvent .evSchedulerOffline 0)
      queueBlind_id
  have both := queueBlind_comp flags announces
  exact both

theorem queueBlind_onKeyAutoMode (readings : Readings) : QueueBlind (onKeyAutoMode readings) :=
  queueBlind_ite (fun _ _ => rfl) (queueBlind_of_commutes fun _ _ => rfl) queueBlind_id

theorem queueBlind_onKeyManualMode : QueueBlind onKeyManualMode :=
  queueBlind_ite (fun _ _ => rfl) (queueBlind_of_commutes fun _ _ => rfl) queueBlind_id

theorem queueBlind_stopCar : QueueBlind stopCar := queueBlind_of_commutes fun _ _ => rfl

theorem queueBlind_onTurnCharge (on : Bool) (param : Int) :
    QueueBlind (onTurnCharge on param) :=
  queueBlind_ite (fun _ _ => rfl) (queueBlind_of_commutes fun _ _ => rfl) queueBlind_id

theorem queueBlind_onGetNewPath (readings : Readings) : QueueBlind (onGetNewPath readings) := by
  have installs : QueueBlind fun car =>
      { car with router := (car.router.onGetNewPath readings.fileOpens readings.stationList).1 } :=
    queueBlind_of_commutes fun _ _ => rfl
  have stops : QueueBlind (setCarStatus .stopped mp3Mute) := queueBlind_of_commutes fun _ _ => rfl
  exact queueBlind_ite (fun _ _ => rfl)
    (queueBlind_comp (queueBlind_comp installs (queueBlind_sendEvent .evApplyPath 0)) stops)
    installs

theorem queueBlind_onPathMagError (param : Int) : QueueBlind (onPathMagError param) :=
  queueBlind_ite (fun _ _ => rfl) queueBlind_stopCar (queueBlind_of_commutes fun _ _ => rfl)

theorem queueBlind_onPathFinished (readings : Readings) :
    QueueBlind (onPathFinished readings) := by
  have reloads : QueueBlind fun car =>
      let car := car.stopCar.setCarStatus .normal mp3Normal
      { car with router := car.router.reloadPathList readings.fileOpens } :=
    queueBlind_of_commutes fun _ _ => rfl
  have starts : QueueBlind fun car =>
      if readings.isAutoLoop then car.sendEvent .evKeyStart 0 else car :=
    queueBlind_ite (fun _ _ => rfl) (queueBlind_sendEvent .evKeyStart 0) queueBlind_id
  have both := queueBlind_comp reloads starts
  exact both

theorem queueBlind_barrierFlags (event : EventList) : QueueBlind (barrierFlags event) := by
  cases event with
  | _ => exact queueBlind_of_commutes fun _ _ => rfl

theorem queueBlind_barrierStatus (event : EventList) : QueueBlind (barrierStatus event) := by
  cases event with
  | _ => exact queueBlind_of_commutes fun _ _ => rfl

theorem queueBlind_onBarrierMessage (readings : Readings) (event : EventList) (dev : Int) :
    QueueBlind (onBarrierMessage readings event dev) := by
  have notes : QueueBlind fun car => { car with lastEvent := event } :=
    queueBlind_of_commutes fun _ _ => rfl
  have resets : QueueBlind fun car =>
      if isStopping car.lastEvent && !isStopping event then car.resetLastTargetStation readings
      else car :=
    queueBlind_ite (fun _ _ => rfl) (queueBlind_resetLastTargetStation readings) queueBlind_id
  have acts : QueueBlind (actOnBarrier readings event) :=
    queueBlind_ite (fun _ _ => rfl) notes
      (queueBlind_comp (queueBlind_comp resets notes) (queueBlind_barrierStatus event))
  have flagged := queueBlind_comp (queueBlind_barrierFlags event) acts
  have ignores : ∀ (events : EventHelper) (car : AgvCar),
      ((car.withEvents events).ignoresBarrier dev || (car.withEvents events).hidesBarrier event) =
        (car.ignoresBarrier dev || car.hidesBarrier event) := fun _ _ => rfl
  have both : QueueBlind fun car =>
      if car.ignoresBarrier dev || car.hidesBarrier event then car else _ :=
    queueBlind_ite (fun events car => by rw [ignores]) queueBlind_id flagged
  exact both

/-- Every event is handled without a look into the queue. -/
theorem handlesQueueBlind_handleEvent (readings : Readings) (evt : AgvEvent) :
    HandlesQueueBlind (handleEvent readings evt) := by
  rcases evt with ⟨event, param, priority, data⟩
  have always : ∀ {act : AgvCar → AgvCar},
      (∀ events car, act (car.withEvents events) = (act car).withEvents events) →
        HandlesQueueBlind fun car => some (act car) :=
    fun commutes => handlesQueueBlind_some (queueBlind_of_commutes commutes)
  have onlyIf : ∀ {condition : AgvCar → Prop} [DecidablePred condition] {act : AgvCar → AgvCar},
      (∀ events car, condition (car.withEvents events) = condition car) → QueueBlind act →
        HandlesQueueBlind fun car => some (if condition car then act car else car) :=
    fun ignores blind => handlesQueueBlind_some (queueBlind_ite ignores blind queueBlind_id)
  cases event with
  | ev10msTimer => exact handlesQueueBlind_some (queueBlind_on10msTimer readings)
  | ev1sTimer =>
      exact handlesQueueBlind_some
        (queueBlind_comp (queueBlind_checkBattery readings) queueBlind_checkInit)
  | evBattery =>
      cases data with
      | batteryMag vol cap ele => exact always fun _ _ => rfl
      | _ => exact handlesQueueBlind_none
  | evNetworkError => exact handlesQueueBlind_some (queueBlind_onNetworkError readings)
  | evSchedulerOffline => exact onlyIf (fun _ _ => rfl) queueBlind_stopCar
  | evPosition =>
      cases data with
      | _ => exact always fun _ _ => rfl
  | evLostPosition => exact onlyIf (fun _ _ => rfl) (queueBlind_of_commutes fun _ _ => rfl)
  | evKeyAutoMode => exact handlesQueueBlind_some (queueBlind_onKeyAutoMode readings)
  | evKeyManualMode => exact handlesQueueBlind_some queueBlind_onKeyManualMode
  | evKeyStart | evApplyPath =>
      exact handlesQueueBlind_ite (fun _ _ => rfl) (queueBlind_startRun readings)
        (handlesQueueBlind_some queueBlind_id)
  | evKeyStop => exact onlyIf (fun _ _ => rfl) queueBlind_stopCar
  | evTurnOnCharge => exact handlesQueueBlind_some (queueBlind_onTurnCharge true param)
  | evTurnOffCharge => exact handlesQueueBlind_some (queueBlind_onTurnCharge false param)
  | evGetNewPath =>
      have installs : QueueBlind fun car =>
          if data = .null then car else car.onGetNewPath readings :=
        queueBlind_ite (fun _ _ => rfl) queueBlind_id (queueBlind_onGetNewPath readings)
      exact handlesQueueBlind_some installs
  | evNextPathPoint => exact handlesQueueBlind_onArrivedStation readings
  | evPathMagError => exact handlesQueueBlind_some (queueBlind_onPathMagError param)
  | evPathFinished => exact handlesQueueBlind_some (queueBlind_onPathFinished readings)
  | evLiftArrived => exact handlesQueueBlind_onLiftArrivedHeight readings
  | evNearBarrier | evMidBarrier | evFarBarrier | evBarrierTouched | evBarrierOk =>
      exact onlyIf (fun _ _ => rfl) (queueBlind_onBarrierMessage readings _ param)
  | _ => exact always fun _ _ => rfl

/-! ## The other threads -/

/-- The height and the switches of a status frame queue the same events behind any others. -/
theorem noteHeight_pushAll (height : Int) (lifter : Lifter) :
    ∃ (noted : Lifter) (sent : List AgvEvent), ∀ events,
      lifter.noteHeight height events = (noted, events.pushAll sent) := by
  by_cases same : height = lifter.currentHeight
  · exact ⟨lifter, [], fun events => if_pos same⟩
  · let moved : Lifter := { lifter with currentHeight := height }
    by_cases aims : lifter.targetHeight ≥ 0
    · cases arrived : (moved.liftIsArrived lifter.targetHeight).2 with
      | true =>
          refine ⟨(moved.liftIsArrived lifter.targetHeight).1,
            [{ event := .evLiftArrived, param := lifter.targetHeight }], fun events => ?_⟩
          simp only [Lifter.noteHeight, if_neg same, if_pos aims]
          exact congrArg (Prod.mk _) (if_pos arrived)
      | false =>
          refine ⟨(moved.liftIsArrived lifter.targetHeight).1, [], fun events => ?_⟩
          simp only [Lifter.noteHeight, if_neg same, if_pos aims]
          exact congrArg (Prod.mk _) (if_neg (Bool.eq_false_iff.mp arrived))
    · refine ⟨moved, [], fun events => ?_⟩
      simp only [Lifter.noteHeight, if_neg same, if_neg aims]
      rfl

theorem noteStatus_pushAll (lstatus : Int) (lifter : Lifter) :
    ∃ (noted : Lifter) (sent : List AgvEvent), ∀ events,
      lifter.noteStatus lstatus events = (noted, events.pushAll sent) := by
  by_cases bottom : lstatus = 1 ∧ lifter.liftStatus ≠ 1
  · exact ⟨_, [{ event := .evLiftAtBottom, param := lifter.targetHeight }],
      fun events => if_pos bottom⟩
  · by_cases top : lstatus = 2 ∧ lifter.liftStatus ≠ 2
    · exact ⟨_, [{ event := .evLiftArrived, param := lifter.targetHeight }],
        fun events => (if_neg bottom).trans (if_pos top)⟩
    · by_cases between : lstatus ≠ 1 ∧ lstatus ≠ 2
      · exact ⟨_, [], fun events => (if_neg bottom).trans ((if_neg top).trans (if_pos between))⟩
      · exact ⟨_, [], fun events => (if_neg bottom).trans ((if_neg top).trans (if_neg between))⟩

theorem queueBlind_onLifterStatus (height : UInt16) (lstatus : UInt8) :
    QueueBlind (onLifterStatus height lstatus) := by
  intro car
  rcases noteHeight_pushAll height.toNat car.controler.lifter with ⟨moved, sent, first⟩
  rcases noteStatus_pushAll lstatus.toNat moved with ⟨noted, more, second⟩
  refine ⟨{ car with controler := { car.controler with lifter := noted } }, sent ++ more,
    fun events => ?_⟩
  have parsed : car.controler.lifter.parseStatus height lstatus events =
      (noted, events.pushAll (sent ++ more)) := by
    simp only [Lifter.parseStatus, first, second]
    rw [EventHelper.pushAll, EventHelper.pushAll, EventHelper.pushAll, List.foldl_append]
  have same : (car.withEvents events).onLifterStatus height lstatus =
      { car with
        controler := { car.controler with
          lifter := (car.controler.lifter.parseStatus height lstatus events).1 }
        events := (car.controler.lifter.parseStatus height lstatus events).2 } := rfl
  rw [same, parsed]
  rfl

theorem queueBlind_loop (ret : Int) : QueueBlind (loop ret) := by
  intro car
  by_cases automatic : car.controler.operateMode = .autoMode
  · let looped := car.controler.moveHelper.loopRunning ret
    let moved : AgvCar := { car with controler := { car.controler with moveHelper := looped.1 } }
    cases failed : looped.2 with
    | none =>
        refine ⟨moved, [], fun events => ?_⟩
        refine (if_pos automatic).trans ?_
        dsimp only [withEvents]
        rw [failed]
        rfl
    | some errorCode =>
        refine ⟨moved, [{ event := .evPathMagError, param := errorCode, priority := important }],
          fun events => ?_⟩
        refine (if_pos automatic).trans ?_
        dsimp only [withEvents]
        rw [failed]
        rfl
  · exact ⟨car, [], fun events => if_neg automatic⟩

/-- Every step of the program only writes the queue. -/
theorem handlesQueueBlind_carStep (label : CarStep) : HandlesQueueBlind (carStep label) := by
  cases label with
  | handle evt readings => exact handlesQueueBlind_handleEvent readings evt
  | post evt => exact fun car => ⟨some car, [evt], fun _ => rfl⟩
  | loop ret =>
      exact handlesQueueBlind_ite (fun _ _ => rfl) handlesQueueBlind_none
        (handlesQueueBlind_some (queueBlind_loop ret))
  | arrive =>
      have arrives : QueueBlind finishTarget := fun car =>
        ⟨{ car with controler := { car.controler with
            moveHelper := car.controler.moveHelper.finishTarget.1 } },
          [{ event := .evNextPathPoint, param := car.controler.moveHelper.finishTarget.2,
             priority := important }], fun _ => rfl⟩
      exact handlesQueueBlind_ite (fun _ _ => rfl) (handlesQueueBlind_some arrives)
        handlesQueueBlind_none
  | halt =>
      have stops : QueueBlind fun car => { car with controler := car.controler.stopCar } :=
        queueBlind_of_commutes fun _ _ => rfl
      exact handlesQueueBlind_ite (fun _ _ => rfl) (handlesQueueBlind_some stops)
        handlesQueueBlind_none
  | lifter height lstatus =>
      exact handlesQueueBlind_some (queueBlind_onLifterStatus height lstatus)

end AgvCar

end DrivingControl.Controler

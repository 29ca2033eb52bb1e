import DrivingControl.Controler.CarActs
import DrivingControl.Controler.Resumption

/-!
# The lifter under the handlers

No handler moves the forks or queues their arrival, and the height that the lifter reports
an arrival for is only chosen with the way point that `GoToNextPoint` prepares.  Behind
such an event it is the lift height of the planner's target.
-/

namespace DrivingControl.Controler

open DrivingControl.Comm DrivingControl.Event

namespace Lifter

/-- The forks are where they were, and a height that is given is the target height. -/
structure Aims (height : Option Int) (lifter next : Lifter) : Prop where
  plausibleHeight : next.plausibleHeight = lifter.plausibleHeight
  targetHeight : next.targetHeight = height.getD lifter.targetHeight

variable {height : Option Int} {lifter next last : Lifter}

theorem Aims.refl (lifter : Lifter) : Aims none lifter lifter := ⟨rfl, rfl⟩

theorem aims_of_eq (same : next = lifter) : Aims none lifter next := same ▸ .refl lifter

theorem Aims.after (rests : Aims none lifter next) (aims : Aims height next last) :
    Aims height lifter last := by
  constructor
  · exact aims.plausibleHeight.trans rests.plausibleHeight
  · rw [aims.targetHeight, rests.targetHeight, Option.getD_none]

theorem Aims.before (aims : Aims height lifter next) (rests : Aims none next last) :
    Aims height lifter last :=
  ⟨rests.plausibleHeight.trans aims.plausibleHeight, rests.targetHeight.trans aims.targetHeight⟩

/-- Whether a height is arrived at depends on where the forks are. -/
theorem Aims.isArrived (aims : Aims height lifter next) (wanted : Int) :
    next.isArrived wanted = lifter.isArrived wanted := by
  simp only [Lifter.isArrived, aims.plausibleHeight]

theorem aims_send (command : LiftCommand) (lifter : Lifter) :
    Aims none lifter (lifter.send command) := ⟨rfl, rfl⟩

theorem aims_setLiftHeight (wanted : Int) (lifter : Lifter) :
    Aims none lifter (lifter.setLiftHeight wanted) := by
  rw [setLiftHeight]
  split
  · exact aims_send _ lifter
  · split
    · exact aims_send _ lifter
    · exact .refl lifter

/-- An implausible height counts as 0, and is 0 once it is corrected. -/
theorem plausibleHeight_le (lifter : Lifter) : lifter.plausibleHeight ≤ 60000 := by
  rw [plausibleHeight]
  split <;> omega

theorem aims_liftIsArrived (wanted : Int) (lifter : Lifter) :
    Aims none lifter (lifter.liftIsArrived wanted).1 := by
  have bounded := plausibleHeight_le lifter
  refine ⟨?_, rfl⟩
  change (if lifter.plausibleHeight > 60000 then 0 else lifter.plausibleHeight) = _
  rw [if_neg (by omega)]

end Lifter

/-! ## Lift arrivals -/

/-- The number of lift arrivals in a queue. -/
def liftArrivals (events : EventHelper) : Nat :=
  events.count fun event => event.event == .evLiftArrived

theorem liftArrivals_congr {events other : EventHelper}
    (same : ∀ priority, other.ofKind (· == .evLiftArrived) priority =
      events.ofKind (· == .evLiftArrived) priority) :
    liftArrivals other = liftArrivals events := by
  simp only [EventHelper.ofKind] at same
  simp only [liftArrivals, EventHelper.count, List.countP_eq_length_filter, same]

theorem liftArrivals_sendEvent (event : EventList) (param : Int) (events : EventHelper) :
    liftArrivals (events.sendEvent event param) =
      liftArrivals events + if event = .evLiftArrived then 1 else 0 := by
  simp only [liftArrivals, EventHelper.sendEvent, EventHelper.count_pushEvent,
    EventHelper.stored, beq_iff_eq]

theorem liftArrivals_pushEvent {event : AgvEvent} (other : event.event ≠ .evLiftArrived)
    (events : EventHelper) : liftArrivals (events.pushEvent event) = liftArrivals events := by
  rw [liftArrivals, EventHelper.count_pushEvent, if_neg (by simpa [EventHelper.stored] using other)]
  rfl

section Popped

variable {event : AgvEvent} {events rest : EventHelper}
  (popped : events.popEvent = some (event, rest))

include popped

theorem liftArrivals_popEvent : liftArrivals rest ≤ liftArrivals events := by
  rw [liftArrivals, liftArrivals, EventHelper.count_popEvent _ popped]
  exact Nat.le_add_right _ _

theorem liftArrivals_of_popEvent (lift : event.event = .evLiftArrived) :
    0 < liftArrivals events := by
  rw [liftArrivals, EventHelper.count_popEvent _ popped, if_pos (beq_iff_eq.mpr lift)]
  exact Nat.succ_pos _

end Popped

/-! ## The target of the planner -/

namespace RoutePlanner

variable {router other : RoutePlanner}

/-- The lift height of the target. -/
def liftHeight (router : RoutePlanner) : Option Int :=
  router.getTargetStation.map (·.liftHeight)

theorem SameRoute.preparedBehind (same : SameRoute router other) (readings : Readings) :
    other.preparedBehind readings = router.preparedBehind readings := by
  have behind : ∀ path : WayPoint, (other.goOn readings).asSent readings path =
      (router.goOn readings).asSent readings path := by
    intro path
    rw [asSent, asSent, (same.goOn readings).nextStation]
  simp only [RoutePlanner.preparedBehind, preparedPoint, same.getTargetStation,
    (same.goOn readings).getTargetStation, behind]

theorem SameRoute.liftHeight (same : SameRoute router other) :
    other.liftHeight = router.liftHeight := by
  rw [RoutePlanner.liftHeight, RoutePlanner.liftHeight, same.getTargetStation]

/-- Rewriting the target leaves its lift height. -/
theorem RewritesTarget.liftHeight {target path : WayPoint}
    (rewrites : RewritesTarget router other path)
    (present : router.getTargetStation = some target) :
    other.liftHeight = some path.liftHeight := by
  rw [RoutePlanner.liftHeight, rewrites.present present]
  rfl

end RoutePlanner

namespace AgvCar

open RoutePlanner

variable {readings : Readings} {evt : AgvEvent} {car next : AgvCar} {path target : WayPoint}

/-! ## Operations -/

@[simp] theorem lifter_stopCar (car : AgvCar) :
    car.stopCar.controler.lifter = car.controler.lifter :=
  lifter_setCarStatus .stopped mp3Mute { car with stopButton := true }

@[simp] theorem lifter_requeueBarriers (car : AgvCar) :
    car.requeueBarriers.controler.lifter = car.controler.lifter := by
  have lifterIf : ∀ (present : Bool) (event : EventList) (car : AgvCar),
      (if present then car.sendUrgentEvent event 0 else car).controler.lifter =
        car.controler.lifter := by
    intro present event car
    split <;> rfl
  simp only [requeueBarriers, lifterIf]

@[simp] theorem lifter_afterStart (readings : Readings) (car : AgvCar) :
    (car.afterStart readings).controler.lifter = car.controler.lifter := by
  rw [afterStart]
  split
  · rfl
  · exact lifter_requeueBarriers car

@[simp] theorem lifter_afterIssue (result : CarControler × Option Int) (car : AgvCar) :
    (car.afterIssue result).1.controler.lifter = result.1.lifter := by
  rw [afterIssue]
  split <;> rfl

@[simp] theorem lifter_resetLastTargetStation (readings : Readings) (car : AgvCar) :
    (car.resetLastTargetStation readings).controler.lifter = car.controler.lifter := by
  rw [resetLastTargetStation, lifter_afterIssue, CarControler.resetLastTargetStation]
  split <;> rfl

@[simp] theorem lifter_sendPoint (readings : Readings) (path : WayPoint) (car : AgvCar) :
    (car.sendPoint readings path).1.controler.lifter = car.controler.lifter := by
  rw [sendPoint]
  split
  · exact lifter_afterIssue _ car
  · rfl

@[simp] theorem lifter_afterNextPoint (ret : Int) (car : AgvCar) :
    (car.afterNextPoint ret).controler.lifter = car.controler.lifter := by
  rw [afterNextPoint]
  split
  · simp
  · split
    · rfl
    · split <;> rfl

/-! ## Handlers -/

theorem lifter_on10msTimer (readings : Readings) (car : AgvCar) :
    (car.on10msTimer readings).controler.lifter = car.controler.lifter := by
  rw [on10msTimer]
  split <;> rfl

theorem lifter_checkBattery (readings : Readings) (car : AgvCar) :
    (car.checkBattery readings).controler.lifter = car.controler.lifter := by
  rw [checkBattery]
  split
  · split
    · simp
    · rfl
  · rfl

theorem lifter_checkInit (car : AgvCar) :
    car.checkInit.controler.lifter = car.controler.lifter := by
  rw [checkInit]
  split <;> rfl

theorem lifter_onKeyManualMode (car : AgvCar) :
    car.onKeyManualMode.controler.lifter = car.controler.lifter := by
  rw [onKeyManualMode]
  split
  · simp
  · rfl

theorem lifter_onTurnCharge (on : Bool) (param : Int) (car : AgvCar) :
    (car.onTurnCharge on param).controler.lifter = car.controler.lifter := by
  rw [onTurnCharge]
  split
  · exact lifter_stopCar car
  · rfl

theorem lifter_onGetNewPath (readings : Readings) (car : AgvCar) :
    (car.onGetNewPath readings).controler.lifter = car.controler.lifter := by
  unfold onGetNewPath
  dsimp only
  split
  · rw [lifter_setCarStatus]
    rfl
  · rfl

theorem lifter_onPathMagError (param : Int) (car : AgvCar) :
    (car.onPathMagError param).controler.lifter = car.controler.lifter := by
  rw [onPathMagError]
  split <;> simp

theorem lifter_onPathFinished (readings : Readings) (car : AgvCar) :
    (car.onPathFinished readings).controler.lifter = car.controler.lifter := by
  have stopped : (car.stopCar.setCarStatus .normal mp3Normal).controler.lifter =
      car.controler.lifter := by simp
  unfold onPathFinished
  dsimp only
  split <;> exact stopped

theorem lifter_barrierStatus (event : EventList) (car : AgvCar) :
    (car.barrierStatus event).controler.lifter = car.controler.lifter := by
  simp only [barrierStatus]
  split <;> simp

theorem lifter_onBarrierMessage (readings : Readings) (event : EventList) (dev : Int)
    (car : AgvCar) :
    (car.onBarrierMessage readings event dev).controler.lifter = car.controler.lifter := by
  have flagged : (car.barrierFlags event).controler.lifter = car.controler.lifter := by
    rw [onlyError_barrierFlags event car]
  rw [onBarrierMessage]
  split
  · rfl
  · rw [actOnBarrier]
    split
    · exact flagged
    · dsimp only
      rw [lifter_barrierStatus]
      split
      · exact (lifter_resetLastTargetStation readings _).trans flagged
      · exact flagged

/-- Entering automatic mode may start the lifter's search for its zero. -/
theorem aims_onKeyAutoMode (readings : Readings) (car : AgvCar) :
    Lifter.Aims none car.controler.lifter (car.onKeyAutoMode readings).controler.lifter := by
  have entered : ({ car with
      operateMode := .autoMode
      controler := { car.controler with operateMode := .autoMode } }.setCarStatus .normal
        mp3Mute).controler.lifter = car.controler.lifter := lifter_setCarStatus _ _ _
  rw [onKeyAutoMode]
  split
  · dsimp only
    split
    · exact Lifter.aims_of_eq entered
    · exact .after (Lifter.aims_of_eq entered) (Lifter.aims_send .init _)
  · exact .refl _

/-! ## Way points -/

/-- `GoToNextPoint` makes the lift height of the way point the target height. -/
theorem aims_preparePoint (readings : Readings) (path : WayPoint) (car : AgvCar) :
    Lifter.Aims (some path.liftHeight) car.controler.lifter
      (car.preparePoint readings path).controler.lifter := by
  have onTheWay : ∀ (target : WayPoint) (car : AgvCar),
      Lifter.Aims none car.controler.lifter (car.liftOnTheWay target).controler.lifter := by
    intro target car
    have checked := Lifter.aims_liftIsArrived target.liftHeight car.controler.lifter
    rw [liftOnTheWay]
    dsimp only
    split
    · split
      · exact checked
      · exact checked.after (Lifter.aims_setLiftHeight _ _)
    · exact .refl _
  let turned : AgvCar := { car with
    currentPathId := path.id
    carRunMode := path.runMode
    router := car.router.stopAtTurn path
    controler := car.controler.setTargetHeight path.liftHeight }
  have aimed : Lifter.Aims (some path.liftHeight) car.controler.lifter
      turned.controler.lifter := ⟨rfl, rfl⟩
  rw [preparePoint]
  dsimp only
  split
  · exact aimed
  next target present => exact aimed.before (onTheWay target turned)

theorem aims_goToPoint {result : AgvCar × Int} (present : car.router.getTargetStation = some path)
    (went : car.goToPoint readings = some result) :
    Lifter.Aims (some path.liftHeight) car.controler.lifter result.1.controler.lifter := by
  simp only [goToPoint, present] at went
  split at went
  · cases went
  · cases went
    rw [lifter_sendPoint]
    exact aims_preparePoint readings path car

/-- The end of an action aims at the lift height of the way point behind. -/
theorem aims_onStationActionFinished
    (handled : car.onStationActionFinished readings = some next) :
    Lifter.Aims ((car.router.preparedBehind readings).map (·.liftHeight))
      car.controler.lifter next.controler.lifter := by
  cases endsAction_onStationActionFinished handled with
  | again target present finished same =>
      subst same
      simp only [preparedBehind, present, finished, if_true]
      exact .refl _
  | goesOn target present unfinished result went same =>
      subst same
      simp only [preparedBehind, present, unfinished, Bool.false_eq_true, if_false,
        lifter_afterNextPoint]
      let finishing : AgvCar := { car with
        router := car.finishing target
        currentPathAction := 0 }
      have route : SameRoute car.router.finishStation finishing.router := ⟨rfl, rfl⟩
      cases follows : car.router.nextStation with
      | none =>
          rcases goToNextPoint_finished route present readings follows with
            ⟨router, same, stayed⟩
          cases went.symm.trans stayed
          rw [preparedPoint, (goOn_absent readings present follows).2]
          exact .refl _
      | some following =>
          rcases goToNextPoint_goOn route present readings follows with
            ⟨router, path, chosen, found, goes⟩
          have gone : goToPoint readings { finishing with router } = some result :=
            goes.symm.trans went
          have aims := aims_goToPoint (chosen.getTargetStation.trans found) gone
          rw [preparedPoint, found]
          exact aims

theorem aims_doPathPointAction (path : WayPoint) (car : AgvCar) :
    Lifter.Aims none car.controler.lifter (car.doPathPointAction path).1.controler.lifter := by
  let noted : AgvCar := { car with
    currentPathAction := path.action
    performed := car.performed ++ [(car.router.targetPathId, path.action)] }
  have stopped := Lifter.aims_of_eq (lifter_stopCar noted)
  have checked := stopped.after (Lifter.aims_liftIsArrived path.liftHeight _)
  rw [doPathPointAction]
  dsimp only
  split
  · exact .refl _
  · split
    · exact stopped
    · split
      · split
        · exact checked
        · exact checked.after (Lifter.aims_setLiftHeight _ _)
      · split
        · exact stopped
        · exact .refl _

theorem aims_onArrivedStation (handled : car.onArrivedStation readings = some next) :
    Lifter.Aims (match car.router.getTargetStation with
        | none => none
        | some target =>
            if car.completes target then
              (car.router.preparedBehind readings).map (·.liftHeight)
            else none)
      car.controler.lifter next.controler.lifter := by
  rw [onArrivedStation] at handled
  cases present : car.router.getTargetStation with
  | none => simp [present] at handled
  | some target =>
      have performs := performs_doPathPointAction target car
      have aims := aims_doPathPointAction target car
      simp only [present] at handled ⊢
      by_cases done : car.completes target = true
      · rw [if_pos (performs.ret.mpr done)] at handled
        have behind := aims.after (aims_onStationActionFinished handled)
        rw [if_pos done]
        rwa [SameRoute.preparedBehind performs.route readings] at behind
      · rw [if_neg fun ret => done (performs.ret.mp ret)] at handled
        cases handled
        rw [if_neg done]
        exact aims

/-- A start aims at the lift height of the first way point. -/
theorem aims_startRun (automatic : car.operateMode = .autoMode)
    (handled : car.startRun readings = some next) :
    Lifter.Aims (if car.router.targetPathId = 0 then
        (car.router.preparedPoint readings).map (·.liftHeight) else none)
      car.controler.lifter next.controler.lifter := by
  rw [startRun, if_pos automatic] at handled
  by_cases nothing : car.router.pathList = []
  · rw [if_pos nothing] at handled
    cases handled
    have absent : car.router.getTargetStation = none := by simp [getTargetStation, nothing]
    simp only [preparedPoint, absent, Option.map_none, ite_self]
    exact .refl _
  · rw [if_neg nothing] at handled
    by_cases cursor : car.router.targetPathId = 0
    · rw [if_pos cursor] at handled ⊢
      rcases getTargetStation_first cursor nothing with ⟨path, present⟩
      rcases goToNextPoint_first readings present with ⟨router, same, goes⟩
      have seen : router.getTargetStation = some path := same.getTargetStation.trans present
      have aims : ∀ result, goToPoint readings { car with router } = some result →
          Lifter.Aims (some path.liftHeight) car.controler.lifter result.1.controler.lifter :=
        fun result gone => @aims_goToPoint readings { car with router } path result seen gone
      rw [goes] at handled
      rw [preparedPoint, present]
      split at handled
      · cases handled
      next result ret gone =>
        have reached := aims _ gone
        split at handled
        · cases handled
          exact reached
        · cases handled
          exact reached.before (Lifter.aims_of_eq (by simp))
    · rw [if_neg cursor] at handled ⊢
      cases handled
      exact Lifter.aims_of_eq (by simp)

/-! ## Events -/

/-- An event that sends no target sets no target height. -/
theorem aims_of_quiet (quiet : sendsTarget evt.event = false)
    (handled : car.handleEvent readings evt = some next) :
    Lifter.Aims none car.controler.lifter next.controler.lifter := by
  cases loads : loadsPath evt.event with
  | true =>
      cases handlesPath_of_loadsPath loads handled with
      | newPath kind present => exact Lifter.aims_of_eq (lifter_onGetNewPath readings car)
      | pathFinished kind => exact Lifter.aims_of_eq (lifter_onPathFinished readings car)
      | autoMode kind => exact aims_onKeyAutoMode readings car
      | nullPath kind null => exact .refl _
      | networkOK kind => exact .refl _
  | false =>
      cases handlesQuiet_of_quiet quiet loads handled with
      | tick => exact Lifter.aims_of_eq (lifter_on10msTimer readings car)
      | second =>
          exact Lifter.aims_of_eq
            ((lifter_checkInit _).trans (lifter_checkBattery readings car))
      | status status mp3 => exact Lifter.aims_of_eq (lifter_setCarStatus _ _ car)
      | stop => exact Lifter.aims_of_eq (lifter_stopCar car)
      | lostPosition =>
          exact Lifter.aims_of_eq (lifter_setCarStatus _ _ (car.setErrorFlag errorPosition))
      | manualMode kind => exact Lifter.aims_of_eq (lifter_onKeyManualMode car)
      | turnCharge on => exact Lifter.aims_of_eq (lifter_onTurnCharge on evt.param car)
      | pathMagError => exact Lifter.aims_of_eq (lifter_onPathMagError evt.param car)
      | networkError =>
          rw [onNetworkError]
          split <;> exact .refl _
      | _ => exact .refl _

/-- An event that prepares a way point aims at its lift height, and no other one aims. -/
theorem aims_handleEvent (handled : car.handleEvent readings evt = some next) :
    Lifter.Aims ((car.preparesPoint readings evt).map (·.liftHeight)) car.controler.lifter
      next.controler.lifter := by
  cases sending : sendsTarget evt.event with
  | true =>
      cases handlesTarget_of_sendsTarget sending handled with
      | start kind automatic started =>
          have aims := aims_startRun automatic started
          rw [preparesPoint_start kind]
          by_cases cursor : car.router.targetPathId = 0
          · rw [if_pos cursor] at aims
            rwa [if_pos ⟨automatic, cursor⟩]
          · rw [if_neg cursor] at aims
            rwa [if_neg fun both => cursor both.2]
      | startIgnored kind manual same =>
          rw [preparesPoint_start kind, if_neg fun both => manual both.1, same]
          exact .refl _
      | arrival kind arrived =>
          have aims := aims_onArrivedStation arrived
          simp only [preparesPoint, kind]
          cases present : car.router.getTargetStation with
          | none =>
              simp only [present] at aims
              exact aims
          | some target =>
              simp only [present] at aims ⊢
              split
              next done => rwa [if_pos done] at aims
              next moving => rwa [if_neg moving] at aims
      | lift kind lifting finished =>
          simp only [preparesPoint, kind]
          rw [if_pos lifting]
          exact aims_onStationActionFinished finished
      | liftIgnored kind other same =>
          simp only [preparesPoint, kind]
          rw [if_neg other, same]
          exact .refl _
      | barrier kind automatic same =>
          rw [preparesPoint_barrier kind, same]
          exact Lifter.aims_of_eq (lifter_onBarrierMessage readings _ evt.param car)
      | barrierIgnored kind manual same =>
          rw [preparesPoint_barrier kind, same]
          exact .refl _
  | false =>
      rw [preparesPoint_of_quiet sending]
      exact aims_of_quiet sending handled

/-- The number of lift arrivals that wait for the car. -/
def liftArrivals (car : AgvCar) : Nat := Controler.liftArrivals car.events

/-- The lift's arrivals are queued by the lifter alone. -/
theorem liftArrivals_handleEvent (handled : car.handleEvent readings evt = some next) :
    next.liftArrivals = car.liftArrivals := by
  cases ordinary : exceptional evt.event with
  | false =>
      apply liftArrivals_congr
      apply (acts_handleEvent ordinary handled).ofKind
      intro event isLift
      rw [beq_iff_eq] at isLift
      rw [isLift]
      rfl
  | true =>
      cases handlesExceptional_of_exceptional ordinary handled with
      | autoMode kind =>
          rw [onKeyAutoMode]
          split <;> rfl
      | manualMode kind =>
          rw [onKeyManualMode]
          split <;> rfl
      | sensorOnline kind => rfl
      | sensorOffline kind => rfl
      | networkError kind =>
          exact liftArrivals_congr (ofKind_onNetworkError rfl readings car)

/-! ## The planner's target -/

/-- Whether the planner is at another way point, or one with another lift height, behind
an event that loads a path. -/
def leavesPoint (readings : Readings) (evt : AgvEvent) (car : AgvCar) : Bool :=
  car.replacesPath readings evt ||
    decide (evt.event = .evNetworkOK ∧
      (car.router.start readings.fileOpens).liftHeight ≠ car.router.liftHeight)

/-- Whether an event makes the planner go on to the way point behind its target. -/
def goesOn (evt : AgvEvent) : Bool :=
  evt.event == .evNextPathPoint || evt.event == .evLiftArrived

theorem Finishes.liftHeight (finishes : Finishes readings car next) :
    next.router.liftHeight =
      ((car.router.preparedBehind readings).map (·.liftHeight)).or car.router.liftHeight := by
  rw [preparedBehind]
  cases finishes with
  | again target present finished same => simp [present, finished, same]
  | last target present unfinished last keeps =>
      have kept := (rewritesTarget_finishStation present).liftHeight present
      simp only [present, unfinished, preparedPoint, (goOn_absent readings present last).2]
      rw [keeps.route.liftHeight]
      refine kept.trans ?_
      rw [RoutePlanner.liftHeight, present]
      rfl
  | goes target path present unfinished chosen departs =>
      simp only [present, unfinished, preparedPoint, chosen]
      exact departs.rewrites.liftHeight chosen

/-- The lift height of the planner's target is that of the prepared way point, and the same
behind every event that prepares none and leaves the planner at its way point. -/
theorem liftHeight_handleEvent (stays : car.leavesPoint readings evt = false)
    (handled : car.handleEvent readings evt = some next) :
    next.router.liftHeight =
      ((car.preparesPoint readings evt).map (·.liftHeight)).or car.router.liftHeight := by
  cases sending : sendsTarget evt.event with
  | true =>
      cases handlesTarget_of_sendsTarget sending handled with
      | start kind automatic started =>
          rw [preparesPoint_start kind]
          cases starts_startRun automatic started with
          | empty nothing same => simp [same, preparedPoint, getTargetStation, nothing]
          | first path cursor present departs =>
              rw [if_pos ⟨automatic, cursor⟩, preparedPoint, present]
              exact departs.rewrites.liftHeight present
          | resumes nonempty cursor resends status =>
              rw [if_neg fun both => cursor both.2]
              exact resends.route.liftHeight
      | startIgnored kind manual same =>
          rw [preparesPoint_start kind, if_neg fun both => manual both.1, same]
          rfl
      | arrival kind arrived =>
          rcases onArrivedStation_eq_some arrived with ⟨target, present, finished⟩
          have performs := performs_doPathPointAction target car
          simp only [preparesPoint, kind]
          rcases finished with ⟨done, finishes⟩ | ⟨moving, same⟩
          · simp only [present, done, if_true]
            rw [finishes.liftHeight, performs.route.liftHeight, performs.route.preparedBehind]
          · simp only [present, moving, Bool.false_eq_true, if_false]
            rw [same, performs.route.liftHeight]
            rfl
      | lift kind lifting finished =>
          simp only [preparesPoint, kind]
          rw [if_pos lifting]
          exact (finishes_onStationActionFinished finished).liftHeight
      | liftIgnored kind other same =>
          simp only [preparesPoint, kind]
          rw [if_neg other, same]
          rfl
      | barrier kind automatic same =>
          rw [preparesPoint_barrier kind, same]
          exact (resends_onBarrierMessage readings evt.event evt.param car).route.liftHeight
      | barrierIgnored kind manual same =>
          rw [preparesPoint_barrier kind, same]
          rfl
  | false =>
      rw [preparesPoint_of_quiet sending]
      cases loads : loadsPath evt.event with
      | false => exact (keeps_of_quiet sending loads handled).route.liftHeight
      | true =>
          cases handlesPath_of_loadsPath loads handled with
          | nullPath kind null => rfl
          | newPath kind present => simp [leavesPoint, replacesPath, kind, present] at stays
          | pathFinished kind => simp [leavesPoint, replacesPath, kind] at stays
          | autoMode kind =>
              have automatic : car.operateMode = .autoMode := by
                simpa [leavesPoint, replacesPath, kind] using stays
              rw [onKeyAutoMode, if_neg (not_not_intro automatic)]
              rfl
          | networkOK kind =>
              simp only [leavesPoint, kind, Bool.or_eq_false_iff, decide_eq_false_iff_not,
                true_and] at stays
              exact Decidable.of_not_not stays.2

/-- A start prepares the planner's target. -/
theorem liftHeight_of_prepares (start : goesOn evt = false)
    (prepared : car.preparesPoint readings evt = some path) :
    car.router.liftHeight = some path.liftHeight := by
  rw [preparesPoint] at prepared
  cases named : evt.event with
  | evKeyStart | evApplyPath =>
      simp only [named] at prepared
      split at prepared
      · obtain ⟨target, present, same⟩ := Option.map_eq_some_iff.mp prepared
        rw [liftHeight, present, ← same]
        rfl
      · cases prepared
  | evNextPathPoint | evLiftArrived => simp [goesOn, named] at start
  | _ => simp [named] at prepared

end AgvCar

end DrivingControl.Controler

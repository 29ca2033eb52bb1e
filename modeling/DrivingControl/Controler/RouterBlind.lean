import DrivingControl.Controler.CarTargets

/-!
# Handlers that do not look at the planner

Most handlers pass the planner on and at most update what it reports.  With another
planner before them they do the same, and leave the path and the cursor of this one.
-/

namespace DrivingControl.Controler

open DrivingControl.Comm DrivingControl.Event

namespace AgvCar

open RoutePlanner

/-- The car with another planner. -/
def withRouter (router : RoutePlanner) (car : AgvCar) : AgvCar := { car with router }

/-- A function of the car that only passes the planner on, with its path and cursor. -/
def RouterBlind (act : AgvCar → AgvCar) : Prop :=
  ∀ (car : AgvCar) (router : RoutePlanner), ∃ other, SameRoute router other ∧
    act (car.withRouter router) = (act car).withRouter other

variable {act after : AgvCar → AgvCar}

/-- The path and the cursor are those before. -/
theorem RouterBlind.sameRoute (blind : RouterBlind act) (car : AgvCar) :
    SameRoute car.router (act car).router := by
  rcases blind car car.router with ⟨other, same, equal⟩
  have passed : (act car).router = other := congrArg AgvCar.router equal
  rw [passed]
  exact same

theorem routerBlind_comp (first : RouterBlind act) (second : RouterBlind after) :
    RouterBlind fun car => after (act car) := by
  intro car router
  rcases first car router with ⟨other, same, equal⟩
  rcases second (act car) other with ⟨last, sameLast, equalLast⟩
  refine ⟨last, same.trans sameLast, ?_⟩
  dsimp only
  rw [equal, equalLast]

/-- What leaves the planner alone. -/
theorem routerBlind_of_commutes
    (commutes : ∀ router car, act (car.withRouter router) = (act car).withRouter router) :
    RouterBlind act :=
  fun car router => ⟨router, .refl router, commutes router car⟩

/-- What updates the report of the planner. -/
theorem routerBlind_of_route (route : ∀ car, SameRoute car.router (act car).router)
    (rest : ∀ router car, act (car.withRouter router) =
      (act car).withRouter (act (car.withRouter router)).router) : RouterBlind act :=
  fun car router => ⟨_, route (car.withRouter router), rest router car⟩

theorem routerBlind_id : RouterBlind fun car => car :=
  routerBlind_of_commutes fun _ _ => rfl

/-- A function that is called under a condition on the rest of the car. -/
theorem routerBlind_ite {condition : AgvCar → Prop} [DecidablePred condition]
    (ignores : ∀ router car, condition (car.withRouter router) = condition car)
    (first : RouterBlind act) (second : RouterBlind after) :
    RouterBlind fun car => if condition car then act car else after car := by
  intro car router
  dsimp only
  by_cases holds : condition car
  · rw [if_pos holds, if_pos ((ignores router car).mpr holds)]
    exact first car router
  · rw [if_neg holds, if_neg fun other => holds ((ignores router car).mp other)]
    exact second car router

theorem routerBlind_foldl {acts : Nat → AgvCar → AgvCar} (blind : ∀ i, RouterBlind (acts i))
    (list : List Nat) : RouterBlind fun car => list.foldl (fun car i => acts i car) car := by
  induction list with
  | nil => exact routerBlind_id
  | cons i list ih => exact routerBlind_comp (blind i) ih

/-! ## Status -/

theorem routerBlind_setCarStatus (status : CarStatus) (para : Int) :
    RouterBlind (setCarStatus status para) :=
  routerBlind_of_route (fun _ => ⟨rfl, rfl⟩) fun _ _ => rfl

/-- The parameter of a status may come from the car. -/
theorem routerBlind_setRunning :
    RouterBlind fun car => { car with stopButton := false }.setCarStatus .running car.carRunMode :=
  routerBlind_of_route (fun _ => ⟨rfl, rfl⟩) fun _ _ => rfl

theorem routerBlind_stopCar : RouterBlind stopCar :=
  routerBlind_of_route (fun _ => ⟨rfl, rfl⟩) fun _ _ => rfl

theorem routerBlind_setErrorFlag (flag : Nat) : RouterBlind (setErrorFlag flag) :=
  routerBlind_of_commutes fun _ _ => rfl

theorem routerBlind_clearErrorFlag (flag : Nat) : RouterBlind (clearErrorFlag flag) :=
  routerBlind_of_commutes fun _ _ => rfl

theorem routerBlind_sendEvent (event : EventList) (param : Int) :
    RouterBlind (sendEvent event param) :=
  routerBlind_of_commutes fun _ _ => rfl

theorem routerBlind_sendUrgentEvent (event : EventList) (param : Int) :
    RouterBlind (sendUrgentEvent event param) :=
  routerBlind_of_commutes fun _ _ => rfl

theorem routerBlind_sendImportantEvent (event : EventList) (param : Int) :
    RouterBlind (sendImportantEvent event param) :=
  routerBlind_of_commutes fun _ _ => rfl

/-! ## Start and barriers -/

theorem routerBlind_requeueBarriers : RouterBlind requeueBarriers := by
  have requeue : ∀ (flag : Nat) (event : EventList), RouterBlind fun car =>
      if car.isHaveError flag then car.sendUrgentEvent event 0 else car :=
    fun flag event =>
      routerBlind_ite (fun _ _ => rfl) (routerBlind_sendUrgentEvent event 0) routerBlind_id
  have nearMid := routerBlind_comp (requeue errorIrNear .evNearBarrier)
    (requeue errorIrMid .evMidBarrier)
  have allThree := routerBlind_comp nearMid (requeue errorIrFar .evFarBarrier)
  exact allThree

theorem routerBlind_afterStart (readings : Readings) : RouterBlind (afterStart readings) := by
  by_cases clear : readings.laserStuta = 0
  · rw [afterStart_clear clear]
    exact routerBlind_foldl routerBlind_clearErrorFlag [errorIrMid, errorIrFar, errorIrNear]
  · rw [afterStart_barrier clear]
    exact routerBlind_requeueBarriers

theorem routerBlind_afterIssue {issue : AgvCar → CarControler × Option Int}
    (ignores : ∀ router car, issue (car.withRouter router) = issue car) :
    RouterBlind fun car => (car.afterIssue (issue car)).1 := by
  apply routerBlind_of_commutes
  intro router car
  rw [ignores]
  simp only [afterIssue]
  split <;> rfl

theorem routerBlind_resetLastTargetStation (readings : Readings) :
    RouterBlind (resetLastTargetStation readings) :=
  routerBlind_afterIssue fun _ _ => rfl

/-- The end of a start that has sent a target. -/
theorem routerBlind_running (readings : Readings) :
    RouterBlind fun car => afterStart readings
      ({ car with stopButton := false }.setCarStatus .running car.carRunMode) :=
  routerBlind_comp routerBlind_setRunning (routerBlind_afterStart readings)

theorem routerBlind_afterNextPoint (ret : Int) : RouterBlind fun car => car.afterNextPoint ret := by
  simp only [afterNextPoint]
  split
  · exact routerBlind_comp routerBlind_setRunning routerBlind_requeueBarriers
  · split
    · exact routerBlind_sendImportantEvent .evPathFinished 0
    · split
      · exact routerBlind_sendImportantEvent .evPathMagError 0
      · exact routerBlind_id

theorem routerBlind_barrierFlags (event : EventList) : RouterBlind (barrierFlags event) := by
  rcases barrierFlags_eq event with ⟨sets, clears, -, equal⟩
  rw [equal]
  exact routerBlind_comp (routerBlind_foldl routerBlind_setErrorFlag sets)
    (routerBlind_foldl routerBlind_clearErrorFlag clears)

theorem routerBlind_barrierStatus (event : EventList) : RouterBlind (barrierStatus event) := by
  unfold barrierStatus
  split
  · exact routerBlind_of_route (fun _ => ⟨rfl, rfl⟩) fun _ _ => rfl
  · exact routerBlind_setCarStatus .error mp3Near
  · exact routerBlind_setCarStatus .warning mp3Mid
  · exact routerBlind_setCarStatus .warning mp3Far
  · exact routerBlind_setCarStatus .error mp3Touch
  · exact routerBlind_id

theorem routerBlind_actOnBarrier (readings : Readings) (event : EventList) :
    RouterBlind (actOnBarrier readings event) := by
  have notes : RouterBlind fun car => { car with lastEvent := event } :=
    routerBlind_of_commutes fun _ _ => rfl
  have resets : RouterBlind fun car =>
      if isStopping car.lastEvent && !isStopping event then car.resetLastTargetStation readings
      else car :=
    routerBlind_ite (fun _ _ => rfl) (routerBlind_resetLastTargetStation readings) routerBlind_id
  have acts := routerBlind_comp (routerBlind_comp resets notes) (routerBlind_barrierStatus event)
  have both : RouterBlind fun car => if car.stopButton then _ else _ :=
    routerBlind_ite (fun _ _ => rfl) notes acts
  exact both

theorem routerBlind_onBarrierMessage (readings : Readings) (event : EventList) (dev : Int) :
    RouterBlind (onBarrierMessage readings event dev) := by
  have acts := routerBlind_comp (routerBlind_barrierFlags event)
    (routerBlind_actOnBarrier readings event)
  have both : RouterBlind fun car =>
      if car.ignoresBarrier dev || car.hidesBarrier event then car else _ :=
    routerBlind_ite (fun _ _ => rfl) routerBlind_id acts
  exact both

/-! ## Events -/

theorem routerBlind_on10msTimer (readings : Readings) : RouterBlind (on10msTimer readings) :=
  routerBlind_ite (fun _ _ => rfl) (routerBlind_of_commutes fun _ _ => rfl) routerBlind_id

theorem routerBlind_checkBattery (readings : Readings) : RouterBlind (checkBattery readings) :=
  routerBlind_ite (fun _ _ => rfl)
    (routerBlind_ite (fun _ _ => rfl)
      (routerBlind_of_route (fun _ => ⟨rfl, rfl⟩) fun _ _ => rfl)
      (routerBlind_of_commutes fun _ _ => rfl))
    (routerBlind_of_commutes fun _ _ => rfl)

theorem routerBlind_checkInit : RouterBlind checkInit :=
  routerBlind_ite (fun _ _ => rfl) (routerBlind_of_commutes fun _ _ => rfl) routerBlind_id

theorem routerBlind_onStationMessage (readings : Readings) (x y angle : Int) :
    RouterBlind (onStationMessage readings x y angle) :=
  routerBlind_of_route (fun _ => ⟨rfl, rfl⟩) fun _ _ => rfl

theorem routerBlind_onKeyManualMode : RouterBlind onKeyManualMode :=
  routerBlind_ite (fun _ _ => rfl)
    (routerBlind_of_route (fun _ => ⟨rfl, rfl⟩) fun _ _ => rfl) routerBlind_id

theorem routerBlind_onTurnCharge (on : Bool) (param : Int) :
    RouterBlind (onTurnCharge on param) :=
  routerBlind_ite (fun _ _ => rfl)
    (routerBlind_of_route (fun _ => ⟨rfl, rfl⟩) fun _ _ => rfl) routerBlind_id

theorem routerBlind_onPathMagError (param : Int) : RouterBlind (onPathMagError param) :=
  routerBlind_ite (fun _ _ => rfl) routerBlind_stopCar
    (routerBlind_comp routerBlind_stopCar (routerBlind_setCarStatus .error mp3PathMagFault))

theorem routerBlind_onNetworkError (readings : Readings) :
    RouterBlind (onNetworkError readings) := by
  have announces : RouterBlind fun car =>
      if readings.isConnected then car.sendImportantEvent .evSchedulerOffline 0 else car :=
    routerBlind_ite (fun _ _ => rfl) (routerBlind_sendImportantEvent .evSchedulerOffline 0)
      routerBlind_id
  have both := routerBlind_comp (routerBlind_setErrorFlag errorNetWork) announces
  exact both

/-- A handler that always returns and does not look at the planner, or never returns. -/
def HandlesBlind (handle : AgvCar → Option AgvCar) : Prop :=
  (∀ car, handle car = none) ∨ ∃ act, RouterBlind act ∧ ∀ car, handle car = some (act car)

theorem handlesBlind_some (blind : RouterBlind act) : HandlesBlind fun car => some (act car) :=
  .inr ⟨act, blind, fun _ => rfl⟩

/-- The events that go on along the path. -/
def followsPath : EventList → Bool
  | .evKeyStart | .evApplyPath | .evNextPathPoint | .evLiftArrived => true
  | _ => false

/-- Every event that neither goes on along the path nor loads one is handled without a look
at the planner. -/
theorem handlesBlind_handleEvent (readings : Readings) {evt : AgvEvent}
    (other : followsPath evt.event = false) (stays : loadsPath evt.event = false) :
    HandlesBlind (handleEvent readings evt) := by
  rcases evt with ⟨event, param, priority, data⟩
  have onlyIf : ∀ {condition : AgvCar → Prop} [DecidablePred condition] {act : AgvCar → AgvCar},
      (∀ router car, condition (car.withRouter router) = condition car) → RouterBlind act →
        HandlesBlind fun car => some (if condition car then act car else car) :=
    fun ignores blind => handlesBlind_some (routerBlind_ite ignores blind routerBlind_id)
  cases event with
  | evKeyStart | evApplyPath | evNextPathPoint | evLiftArrived => cases other
  | evGetNewPath | evPathFinished | evKeyAutoMode | evNetworkOK => cases stays
  | ev10msTimer => exact handlesBlind_some (routerBlind_on10msTimer readings)
  | ev1sTimer =>
      exact handlesBlind_some
        (routerBlind_comp (routerBlind_checkBattery readings) routerBlind_checkInit)
  | evSysReady => exact handlesBlind_some (routerBlind_setCarStatus .init 0)
  | evBattery =>
      cases data with
      | batteryMag vol cap ele =>
          exact handlesBlind_some (routerBlind_of_commutes fun _ _ => rfl)
      | _ => exact .inl fun _ => rfl
  | evNetworkError => exact handlesBlind_some (routerBlind_onNetworkError readings)
  | evSchedulerOffline => exact onlyIf (fun _ _ => rfl) routerBlind_stopCar
  | evPosition =>
      have cleared := routerBlind_clearErrorFlag errorPosition
      cases data with
      | position x y angle =>
          exact handlesBlind_some
            (routerBlind_comp cleared (routerBlind_onStationMessage readings x y angle))
      | _ => exact handlesBlind_some cleared
  | evLostPosition =>
      exact onlyIf (fun _ _ => rfl) (routerBlind_comp (routerBlind_setErrorFlag errorPosition)
        (routerBlind_setCarStatus .error mp3NavigatorFault))
  | evSensorOnline => exact handlesBlind_some (routerBlind_clearErrorFlag errorSensorLost)
  | evSensorOffline => exact handlesBlind_some (routerBlind_setErrorFlag errorSensorLost)
  | evLifterInit => exact handlesBlind_some (routerBlind_of_commutes fun _ _ => rfl)
  | evKeyManualMode => exact handlesBlind_some routerBlind_onKeyManualMode
  | evKeyStop => exact onlyIf (fun _ _ => rfl) routerBlind_stopCar
  | evTurnOnCharge => exact handlesBlind_some (routerBlind_onTurnCharge true param)
  | evTurnOffCharge => exact handlesBlind_some (routerBlind_onTurnCharge false param)
  | evPathMagError => exact handlesBlind_some (routerBlind_onPathMagError param)
  | evNearBarrier | evMidBarrier | evFarBarrier | evBarrierTouched | evBarrierOk =>
      exact onlyIf (fun _ _ => rfl) (routerBlind_onBarrierMessage readings _ param)
  | evUrgentStop => exact handlesBlind_some (routerBlind_setCarStatus .error mp3Urgent)
  | evSetSpeed => exact handlesBlind_some (routerBlind_of_commutes fun _ _ => rfl)
  | _ => exact handlesBlind_some routerBlind_id

end AgvCar

end DrivingControl.Controler

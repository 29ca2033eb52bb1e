import DrivingControl.Controler.SensorFlag

/-!
# Battery and obstacles in the car

The battery's values and the three flags of an obstacle's distance are set by the handlers of
their own events.  The start of a run can clear the flags, and every other handler leaves both
as they are.
-/

namespace DrivingControl.Controler

open DrivingControl.Event

/-- The battery's values and the levels of an obstacle that the car has. -/
structure Gauges where
  vol : Int := 0
  cap : Int := 0
  ele : Int := 0
  near : Bool := false
  mid : Bool := false
  far : Bool := false
  deriving DecidableEq, Repr

namespace Gauges

/-- The values of the battery. -/
def battery (gauges : Gauges) : Int × Int × Int := (gauges.vol, gauges.cap, gauges.ele)

/-- No level is set. -/
def cleared (gauges : Gauges) : Gauges := { gauges with near := false, mid := false, far := false }

/-- What `SetErrorFlag` does to the levels. -/
def set (flag : Nat) (gauges : Gauges) : Gauges :=
  { gauges with
    near := decide (errorIrNear = flag) || gauges.near
    mid := decide (errorIrMid = flag) || gauges.mid
    far := decide (errorIrFar = flag) || gauges.far }

/-- What `ClearErrorFlag` does to the levels. -/
def clear (flag : Nat) (gauges : Gauges) : Gauges :=
  { gauges with
    near := !decide (errorIrNear = flag) && gauges.near
    mid := !decide (errorIrMid = flag) && gauges.mid
    far := !decide (errorIrFar = flag) && gauges.far }

end Gauges

namespace AgvCar

def gauges (car : AgvCar) : Gauges where
  vol := car.batteryVoltage
  cap := car.batteryCapacity
  ele := car.carElectricity
  near := car.isHaveError errorIrNear
  mid := car.isHaveError errorIrMid
  far := car.isHaveError errorIrFar

variable {readings : Readings} {car next : AgvCar} {evt : AgvEvent}

/-! ## Operations -/

@[simp] theorem gauges_setErrorFlag (flag : Nat) (car : AgvCar) :
    (car.setErrorFlag flag).gauges = car.gauges.set flag := by
  have near : errorIrNear < 32 := by decide
  have mid : errorIrMid < 32 := by decide
  have far : errorIrFar < 32 := by decide
  rw [gauges]
  simp only [isHaveError_setErrorFlag near, isHaveError_setErrorFlag mid,
    isHaveError_setErrorFlag far]
  rfl

@[simp] theorem gauges_clearErrorFlag (flag : Nat) (car : AgvCar) :
    (car.clearErrorFlag flag).gauges = car.gauges.clear flag := by
  have near : errorIrNear < 32 := by decide
  have mid : errorIrMid < 32 := by decide
  have far : errorIrFar < 32 := by decide
  rw [gauges]
  simp only [isHaveError_clearErrorFlag near, isHaveError_clearErrorFlag mid,
    isHaveError_clearErrorFlag far]
  rfl

@[simp] theorem gauges_requeueBarriers (car : AgvCar) :
    car.requeueBarriers.gauges = car.gauges := by
  have queuesIf : ∀ (present : Bool) (event : EventList) (car : AgvCar),
      (if present then car.sendUrgentEvent event 0 else car).gauges = car.gauges := by
    intro present event car
    split <;> rfl
  simp only [requeueBarriers, queuesIf]

/-! ## The way to the next point -/

@[simp] theorem gauges_afterIssue (result : CarControler × Option Int) (car : AgvCar) :
    (car.afterIssue result).1.gauges = car.gauges := by
  rw [afterIssue]
  split <;> rfl

@[simp] theorem gauges_sendPoint (readings : Readings) (path : WayPoint) (car : AgvCar) :
    (car.sendPoint readings path).1.gauges = car.gauges := by
  rw [sendPoint]
  split
  · exact gauges_afterIssue _ car
  · rfl

@[simp] theorem gauges_preparePoint (readings : Readings) (path : WayPoint) (car : AgvCar) :
    (car.preparePoint readings path).gauges = car.gauges := by
  have lifts : ∀ (target : WayPoint) (car : AgvCar),
      (car.liftOnTheWay target).gauges = car.gauges := by
    intro target car
    rw [liftOnTheWay]
    dsimp only
    split <;> rfl
  rw [preparePoint]
  dsimp only
  split
  · rfl
  next target present => exact lifts target _

theorem gauges_goToPoint {result : AgvCar × Int} (went : car.goToPoint readings = some result) :
    result.1.gauges = car.gauges := by
  rw [goToPoint] at went
  split at went
  · cases went
  next path present =>
    dsimp only at went
    split at went
    · cases went
    · cases went
      rw [gauges_sendPoint, gauges_preparePoint]

theorem gauges_goToNextPoint {isfirst : Bool} {result : AgvCar × Int}
    (went : car.goToNextPoint readings isfirst = some result) :
    result.1.gauges = car.gauges := by
  rw [goToNextPoint] at went
  split at went
  · cases went
    rfl
  · split at went
    · cases went
    next router found =>
      have goes := gauges_goToPoint went
      exact goes

@[simp] theorem gauges_afterNextPoint (ret : Int) (car : AgvCar) :
    (car.afterNextPoint ret).gauges = car.gauges := by
  rw [afterNextPoint]
  split
  · rw [gauges_requeueBarriers]
    rfl
  · split
    · rfl
    · split <;> rfl

theorem gauges_onStationActionFinished
    (handled : car.onStationActionFinished readings = some next) :
    next.gauges = car.gauges := by
  rw [onStationActionFinished] at handled
  split at handled
  · cases handled
  · split at handled
    · cases handled
      rfl
    · split at handled
      · cases handled
      next result ret went =>
        cases handled
        rw [gauges_afterNextPoint, gauges_goToNextPoint went]
        rfl

@[simp] theorem gauges_doPathPointAction (path : WayPoint) (car : AgvCar) :
    (car.doPathPointAction path).1.gauges = car.gauges := by
  rw [doPathPointAction]
  dsimp only
  split
  · rfl
  · split
    · rfl
    · split
      · split <;> rfl
      · split <;> rfl

theorem gauges_onArrivedStation (handled : car.onArrivedStation readings = some next) :
    next.gauges = car.gauges := by
  rw [onArrivedStation] at handled
  split at handled
  · cases handled
  next path present =>
    dsimp only at handled
    split at handled
    · rw [gauges_onStationActionFinished handled, gauges_doPathPointAction]
    · cases handled
      exact gauges_doPathPointAction path car

/-! ## Starts and barriers -/

@[simp] theorem gauges_resetLastTargetStation (readings : Readings) (car : AgvCar) :
    (car.resetLastTargetStation readings).gauges = car.gauges :=
  gauges_afterIssue _ car

/-- A start that finds no barrier clears the three flags. -/
theorem gauges_afterStart (readings : Readings) (car : AgvCar) :
    (car.afterStart readings).gauges =
      if readings.laserStuta = 0 then car.gauges.cleared else car.gauges := by
  rw [afterStart]
  split
  · simp only [gauges_clearErrorFlag]
    rfl
  · exact gauges_requeueBarriers car

/-- The start of a run comes to its end, where it finds the gauges as they were, or does
not. -/
theorem gauges_startRun (handled : car.startRun readings = some next) :
    next.gauges = car.gauges ∨
      readings.laserStuta = 0 ∧ next.gauges = car.gauges.cleared := by
  have ends : ∀ other : AgvCar, other.gauges = car.gauges →
      (other.afterStart readings).gauges = car.gauges ∨
        readings.laserStuta = 0 ∧ (other.afterStart readings).gauges = car.gauges.cleared := by
    intro other same
    rw [gauges_afterStart, same]
    split
    next clear => exact .inr ⟨clear, rfl⟩
    next => exact .inl rfl
  rw [startRun] at handled
  split at handled
  · split at handled
    · cases handled
      exact .inl rfl
    · split at handled
      · split at handled
        · cases handled
        next result code went =>
          have goes := gauges_goToNextPoint went
          split at handled
          · cases handled
            exact .inl goes
          · cases handled
            exact ends _ goes
      · cases handled
        exact ends _ (gauges_resetLastTargetStation readings car)
  · cases handled
    exact ends car rfl

/-- The end of a barrier's handler leaves its flags. -/
@[simp] theorem gauges_actOnBarrier (readings : Readings) (event : EventList) (car : AgvCar) :
    (car.actOnBarrier readings event).gauges = car.gauges := by
  have statused : ∀ car : AgvCar, (car.barrierStatus event).gauges = car.gauges := by
    intro car
    simp only [barrierStatus]
    split <;> rfl
  have noted : ∀ car : AgvCar, { car with lastEvent := event }.gauges = car.gauges :=
    fun car => rfl
  rw [actOnBarrier]
  split
  · exact noted car
  · rw [statused, noted]
    split
    · exact gauges_resetLastTargetStation readings car
    · rfl

/-- The flags of a barrier event. -/
theorem gauges_barrierFlags (event : EventList) (car : AgvCar) :
    (car.barrierFlags event).gauges =
      match event with
      | .evBarrierOk => car.gauges.cleared
      | .evNearBarrier => { car.gauges.cleared with near := true }
      | .evMidBarrier => { car.gauges.cleared with mid := true }
      | .evFarBarrier => { car.gauges.cleared with far := true }
      | _ => car.gauges := by
  cases event with
  | evBarrierOk | evNearBarrier | evMidBarrier | evFarBarrier | evBarrierTouched =>
      simp only [barrierFlags, List.range, List.range.loop, List.foldl_cons, List.foldl_nil,
        gauges_setErrorFlag, gauges_clearErrorFlag]
      rfl
  | _ => rfl

/-! ## Events -/

theorem gauges_on10msTimer (readings : Readings) (car : AgvCar) :
    (car.on10msTimer readings).gauges = car.gauges := by
  rw [on10msTimer]
  split <;> rfl

theorem gauges_second (readings : Readings) (car : AgvCar) :
    (car.checkBattery readings).checkInit.gauges = car.gauges := by
  have completes : ∀ car : AgvCar, car.checkInit.gauges = car.gauges := by
    intro car
    rw [checkInit]
    split <;> rfl
  rw [completes, checkBattery]
  split
  · split <;> rfl
  · rfl

theorem gauges_onKeyAutoMode (readings : Readings) (car : AgvCar) :
    (car.onKeyAutoMode readings).gauges = car.gauges := by
  rw [onKeyAutoMode]
  split <;> rfl

theorem gauges_onKeyManualMode (car : AgvCar) : car.onKeyManualMode.gauges = car.gauges := by
  rw [onKeyManualMode]
  split <;> rfl

theorem gauges_onTurnCharge (on : Bool) (param : Int) (car : AgvCar) :
    (car.onTurnCharge on param).gauges = car.gauges := by
  rw [onTurnCharge]
  split <;> rfl

theorem gauges_onGetNewPath (readings : Readings) (car : AgvCar) :
    (car.onGetNewPath readings).gauges = car.gauges := by
  rw [onGetNewPath]
  split <;> rfl

theorem gauges_onPathMagError (param : Int) (car : AgvCar) :
    (car.onPathMagError param).gauges = car.gauges := by
  rw [onPathMagError]
  split <;> rfl

theorem gauges_onPathFinished (readings : Readings) (car : AgvCar) :
    (car.onPathFinished readings).gauges = car.gauges := by
  rw [onPathFinished]
  split <;> rfl

/-- What a handler does to the gauges. -/
inductive HandlesGauges (readings : Readings) (evt : AgvEvent) (car next : AgvCar) : Prop where
  | battery {vol cap ele : Int} (kind : evt.event = .evBattery)
      (data : evt.data = .batteryMag vol cap ele)
      (same : next.gauges = { car.gauges with vol, cap, ele })
  | started (kind : evt.event = .evKeyStart ∨ evt.event = .evApplyPath)
      (clear : readings.laserStuta = 0) (same : next.gauges = car.gauges.cleared)
  | barrier (kind : IsBarrier evt.event) (automatic : car.operateMode = .autoMode)
      (matters : car.ignoresBarrier evt.param = false)
      (seen : car.hidesBarrier evt.event = false)
      (same : next.gauges = (car.barrierFlags evt.event).gauges)
  | kept (other : evt.event ≠ .evBattery) (same : next.gauges = car.gauges)

/-- The events of barriers, and those that can send a target. -/
theorem handlesGauges_of_sendsTarget (sends : sendsTarget evt.event = true)
    (handled : car.handleEvent readings evt = some next) :
    HandlesGauges readings evt car next := by
  have other : evt.event ≠ .evBattery := by
    intro named
    simp [named, sendsTarget] at sends
  cases handlesTarget_of_sendsTarget sends handled with
  | start kind automatic started =>
      rcases gauges_startRun started with same | ⟨clear, same⟩
      · exact .kept other same
      · exact .started kind clear same
  | arrival kind arrived => exact .kept other (gauges_onArrivedStation arrived)
  | lift kind lifting finished => exact .kept other (gauges_onStationActionFinished finished)
  | barrier kind automatic same =>
      subst same
      rw [onBarrierMessage]
      split
      · exact .kept other rfl
      next heard =>
        simp only [Bool.or_eq_true, not_or, Bool.not_eq_true] at heard
        exact .barrier kind automatic heard.1 heard.2 (gauges_actOnBarrier readings _ _)
  | startIgnored kind manual same => exact .kept other (by rw [same])
  | liftIgnored kind lifting same => exact .kept other (by rw [same])
  | barrierIgnored kind manual same => exact .kept other (by rw [same])

theorem handlesGauges_of_loadsPath (loads : loadsPath evt.event = true)
    (handled : car.handleEvent readings evt = some next) :
    HandlesGauges readings evt car next := by
  have other : evt.event ≠ .evBattery := by
    intro named
    simp [named, loadsPath] at loads
  apply HandlesGauges.kept other
  cases handlesPath_of_loadsPath loads handled with
  | newPath kind present => exact gauges_onGetNewPath readings car
  | nullPath kind null => rfl
  | pathFinished kind => exact gauges_onPathFinished readings car
  | autoMode kind => exact gauges_onKeyAutoMode readings car
  | networkOK kind =>
      change (car.clearErrorFlag errorNetWork).gauges = car.gauges
      rw [gauges_clearErrorFlag]
      rfl

/-- Every other event but that of the battery leaves the gauges. -/
theorem gauges_of_quiet (quiet : sendsTarget evt.event = false)
    (stays : loadsPath evt.event = false) (other : evt.event ≠ .evBattery)
    (handled : car.handleEvent readings evt = some next) : next.gauges = car.gauges := by
  have position : (car.clearErrorFlag errorPosition).gauges = car.gauges :=
    gauges_clearErrorFlag errorPosition car
  have lost : (car.setErrorFlag errorPosition).gauges = car.gauges :=
    gauges_setErrorFlag errorPosition car
  rw [handleEvent] at handled
  cases named : evt.event with
  | evKeyStart | evApplyPath | evNextPathPoint | evLiftArrived | evNearBarrier
  | evMidBarrier | evFarBarrier | evBarrierTouched | evBarrierOk =>
      simp [named, sendsTarget] at quiet
  | evGetNewPath | evPathFinished | evKeyAutoMode | evNetworkOK =>
      simp [named, loadsPath] at stays
  | evBattery => exact absurd named other
  | evPosition =>
      simp only [named] at handled
      split at handled
      · cases handled
        exact position
      · cases handled
        exact position
  | evSchedulerOffline | evKeyStop =>
      simp only [named, Option.some.injEq] at handled
      subst handled
      split <;> rfl
  | evLostPosition =>
      simp only [named, Option.some.injEq] at handled
      subst handled
      split
      · exact lost
      · rfl
  | ev10msTimer =>
      simp only [named, Option.some.injEq] at handled
      exact handled ▸ gauges_on10msTimer readings car
  | ev1sTimer =>
      simp only [named, Option.some.injEq] at handled
      exact handled ▸ gauges_second readings car
  | evNetworkError =>
      simp only [named, Option.some.injEq] at handled
      subst handled
      rw [onNetworkError]
      split <;> exact gauges_setErrorFlag _ car
  | evSensorOffline =>
      simp only [named, Option.some.injEq] at handled
      exact handled ▸ gauges_setErrorFlag _ car
  | evSensorOnline =>
      simp only [named, Option.some.injEq] at handled
      exact handled ▸ gauges_clearErrorFlag _ car
  | evKeyManualMode =>
      simp only [named, Option.some.injEq] at handled
      exact handled ▸ gauges_onKeyManualMode car
  | evTurnOnCharge | evTurnOffCharge =>
      simp only [named, Option.some.injEq] at handled
      exact handled ▸ gauges_onTurnCharge _ evt.param car
  | evPathMagError =>
      simp only [named, Option.some.injEq] at handled
      exact handled ▸ gauges_onPathMagError evt.param car
  | _ =>
      simp only [named, Option.some.injEq] at handled
      exact handled ▸ rfl

/-- Every event. -/
theorem handlesGauges_handleEvent (handled : car.handleEvent readings evt = some next) :
    HandlesGauges readings evt car next := by
  cases sends : sendsTarget evt.event with
  | true => exact handlesGauges_of_sendsTarget sends handled
  | false =>
      cases loads : loadsPath evt.event with
      | true => exact handlesGauges_of_loadsPath loads handled
      | false =>
          by_cases battery : evt.event = .evBattery
          · rw [handleEvent] at handled
            simp only [battery] at handled
            split at handled
            next vol cap ele data =>
              cases handled
              exact .battery battery data rfl
            next => cases handled
          · exact .kept battery (gauges_of_quiet sends loads battery handled)

/-- Only the battery's event changes the battery's values. -/
theorem battery_of_handlesGauges (other : evt.event ≠ .evBattery)
    (handles : HandlesGauges readings evt car next) :
    next.gauges.battery = car.gauges.battery := by
  cases handles with
  | battery kind data same => exact absurd kind other
  | started kind clear same =>
      rw [same]
      rfl
  | barrier kind automatic matters seen same =>
      rw [same, gauges_barrierFlags]
      split <;> rfl
  | kept others same => exact congrArg Gauges.battery same

/-- The other threads leave the gauges. -/
theorem gauges_background {label : CarStep} (background : label.isHandle = false)
    (stepped : carStep label car = some next) : next.gauges = car.gauges := by
  cases label with
  | handle evt readings => cases background
  | post evt =>
      cases stepped
      rfl
  | loop ret =>
      simp only [carStep] at stepped
      split at stepped
      · cases stepped
      · cases stepped
        rw [loop]
        dsimp only
        split
        · split <;> rfl
        · rfl
  | arrive =>
      simp only [carStep] at stepped
      split at stepped
      · cases stepped
        rfl
      · cases stepped
  | halt =>
      simp only [carStep] at stepped
      split at stepped
      · cases stepped
        rfl
      · cases stepped
  | lifter height lstatus =>
      cases stepped
      rfl

end AgvCar

end DrivingControl.Controler

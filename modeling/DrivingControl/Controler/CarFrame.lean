import DrivingControl.Controler.CarEvents

/-!
# What the handlers leave unchanged

Most events only change the status of the car, stop it or touch its flags.  `Calm`
says that no target was sent and no action performed, `Keeps` that the path and the
cursor are the same too.  Only the events that start the car, arrivals and barriers are
not calm, and four more load a path.
-/

namespace DrivingControl.Controler

open DrivingControl.Comm DrivingControl.Event

namespace AgvCar

/-- A car with the status `StatusStopped` has no target, and will have the status again
when a barrier is gone. -/
def Idle (car : AgvCar) : Prop :=
  car.carInfo.status = .stopped →
    car.controler.moveHelper.isRunning = false ∧ car.lastCarInfo.status = .stopped

/-- Nothing was sent to the move helper but a stop, no action was performed, and the
arrivals that wait are the same. -/
structure Calm (car next : AgvCar) : Prop where
  issued : next.controler.issued = car.controler.issued
  lastPathMag : next.controler.lastPathMag = car.controler.lastPathMag
  moveHelper : next.controler.moveHelper = car.controler.moveHelper ∨
    next.controler.moveHelper = car.controler.moveHelper.clearTarget
  performed : next.performed = car.performed
  currentPathAction : next.currentPathAction = car.currentPathAction
  arrivals : car.events.SameArrivals next.events
  idle : car.Idle → next.Idle

/-- Moreover the path and the cursor are the same. -/
structure Keeps (car next : AgvCar) : Prop extends Calm car next where
  route : car.router.SameRoute next.router

variable {car next last : AgvCar}

theorem Calm.refl (car : AgvCar) : Calm car car :=
  ⟨rfl, rfl, .inl rfl, rfl, rfl, .refl _, id⟩

theorem Calm.trans (first : Calm car next) (second : Calm next last) : Calm car last where
  issued := second.issued.trans first.issued
  lastPathMag := second.lastPathMag.trans first.lastPathMag
  moveHelper := by
    rcases first.moveHelper with kept | cleared
    · rw [← kept]
      exact second.moveHelper
    · rcases second.moveHelper with kept | again
      · exact .inr (kept.trans cleared)
      · rw [again, cleared]
        exact .inr rfl
  performed := second.performed.trans first.performed
  currentPathAction := second.currentPathAction.trans first.currentPathAction
  arrivals := first.arrivals.trans second.arrivals
  idle idle := second.idle (first.idle idle)

theorem Keeps.refl (car : AgvCar) : Keeps car car := ⟨.refl car, .refl _⟩

theorem Keeps.trans (first : Keeps car next) (second : Keeps next last) : Keeps car last :=
  ⟨first.toCalm.trans second.toCalm, first.route.trans second.route⟩

/-- The fields that sending, driving and stopping are about. -/
def relevant (car : AgvCar) :=
  (car.controler.issued, car.controler.lastPathMag, car.controler.moveHelper,
    car.router.pathList, car.router.targetPathId, car.events, car.performed,
    car.currentPathAction, car.carInfo.status, car.lastCarInfo.status)

/-- The other fields do not matter. -/
theorem Keeps.of_relevant (same : next.relevant = car.relevant) : Keeps car next := by
  simp only [relevant, Prod.mk.injEq] at same
  rcases same with ⟨issued, saved, helper, points, cursor, events, performed, action, status, kept⟩
  refine ⟨⟨issued, saved, .inl helper, performed, action, ?_, ?_⟩, ⟨points, cursor⟩⟩
  · rw [events]
    exact .refl _
  · simp only [Idle]
    rw [helper, status, kept]
    exact id

/-! ## Operations -/

/-- What an event that is not an arrival does to the car when it is queued. -/
theorem keeps_pushEvent (car : AgvCar) {event : AgvEvent} (other : event.isArrival = false) :
    Keeps car { car with events := car.events.pushEvent event } where
  toCalm := { Calm.refl car with arrivals := EventHelper.sameArrivals_pushEvent other _ }
  route := .refl _

theorem keeps_sendEvent (car : AgvCar) (event : EventList) (param : Int)
    (other : event ≠ .evNextPathPoint) : Keeps car (car.sendEvent event param) :=
  keeps_pushEvent car (by simpa [AgvEvent.isArrival] using other)

theorem keeps_sendImportantEvent (car : AgvCar) (event : EventList) (param : Int)
    (other : event ≠ .evNextPathPoint) : Keeps car (car.sendImportantEvent event param) :=
  keeps_pushEvent car (by simpa [AgvEvent.isArrival] using other)

theorem keeps_sendUrgentEvent (car : AgvCar) (event : EventList) (param : Int)
    (other : event ≠ .evNextPathPoint) : Keeps car (car.sendUrgentEvent event param) :=
  keeps_pushEvent car (by simpa [AgvEvent.isArrival] using other)

theorem keeps_setErrorFlag (flag : Nat) (car : AgvCar) : Keeps car (car.setErrorFlag flag) :=
  .of_relevant rfl

theorem keeps_clearErrorFlag (flag : Nat) (car : AgvCar) :
    Keeps car (car.clearErrorFlag flag) :=
  .of_relevant rfl

/-- Entering a status keeps what the controller sent, and at most stops. -/
theorem calm_statusControler (status : CarStatus) (controler : CarControler) :
    (statusControler status controler).issued = controler.issued ∧
      (statusControler status controler).lastPathMag = controler.lastPathMag ∧
      (statusControler status controler).chargeSwitch = controler.chargeSwitch ∧
      (statusControler status controler).lifter = controler.lifter ∧
      ((statusControler status controler).moveHelper = controler.moveHelper ∨
        (statusControler status controler).moveHelper = controler.moveHelper.clearTarget) := by
  cases status with
  | stopped => exact ⟨rfl, rfl, rfl, rfl, .inr rfl⟩
  | error => exact ⟨rfl, rfl, rfl, rfl, .inr rfl⟩
  | _ => exact ⟨rfl, rfl, rfl, rfl, .inl rfl⟩

/-- `SetCarStatus` skips the status `StatusStopped` when the car has it already. -/
theorem controler_setCarStatus_stopped (para : Int)
    (present : car.carInfo.status = .stopped) :
    (car.setCarStatus .stopped para).controler = car.controler := by
  simp [setCarStatus, actsOn, present]

/-- A status is only skipped when the car has it already. -/
theorem idle_setCarStatus (status : CarStatus) (para : Int) (car : AgvCar) (idle : car.Idle) :
    (car.setCarStatus status para).Idle := by
  intro stopped
  change status = .stopped at stopped
  subst stopped
  by_cases present : car.carInfo.status = .stopped
  · rw [controler_setCarStatus_stopped para present]
    exact ⟨(idle present).1, rfl⟩
  · have acts : car.actsOn .stopped = true := by simpa [actsOn] using Ne.symm present
    simp only [setCarStatus, acts]
    exact ⟨rfl, rfl⟩

theorem keeps_setCarStatus (status : CarStatus) (para : Int) (car : AgvCar) :
    Keeps car (car.setCarStatus status para) := by
  rcases calm_statusControler status car.controler with ⟨issued, saved, -, -, helper⟩
  refine ⟨⟨?_, ?_, ?_, rfl, rfl, .refl _, idle_setCarStatus status para car⟩, ⟨rfl, rfl⟩⟩
  · simp only [setCarStatus]
    split
    · exact issued
    · rfl
  · simp only [setCarStatus]
    split
    · exact saved
    · rfl
  · simp only [setCarStatus]
    split
    · exact helper
    · exact .inl rfl

@[simp] theorem chargeSwitch_setCarStatus (status : CarStatus) (para : Int) (car : AgvCar) :
    (car.setCarStatus status para).controler.chargeSwitch = car.controler.chargeSwitch := by
  simp only [setCarStatus]
  split
  · exact (calm_statusControler status car.controler).2.2.1
  · rfl

@[simp] theorem lifter_setCarStatus (status : CarStatus) (para : Int) (car : AgvCar) :
    (car.setCarStatus status para).controler.lifter = car.controler.lifter := by
  simp only [setCarStatus]
  split
  · exact (calm_statusControler status car.controler).2.2.2.1
  · rfl

theorem keeps_stopCar (car : AgvCar) : Keeps car car.stopCar := by
  have pressed : Keeps car { car with stopButton := true } :=
    .of_relevant rfl
  exact pressed.trans (keeps_setCarStatus .stopped mp3Mute _)

theorem keeps_requeueBarriers (car : AgvCar) : Keeps car car.requeueBarriers := by
  have keepsIf : ∀ (present : Bool) (event : EventList) (car : AgvCar),
      event ≠ .evNextPathPoint →
      Keeps car (if present then car.sendUrgentEvent event 0 else car) := by
    intro present event car other
    split
    · exact keeps_sendUrgentEvent car event 0 other
    · exact .refl car
  exact ((keepsIf _ .evNearBarrier car (by decide)).trans
    (keepsIf _ .evMidBarrier _ (by decide))).trans (keepsIf _ .evFarBarrier _ (by decide))

theorem keeps_afterStart (readings : Readings) (car : AgvCar) :
    Keeps car (car.afterStart readings) := by
  rw [afterStart]
  split
  · exact ((keeps_clearErrorFlag _ _).trans (keeps_clearErrorFlag _ _)).trans
      (keeps_clearErrorFlag _ _)
  · exact keeps_requeueBarriers car

/-! ## Handlers -/

theorem keeps_on10msTimer (readings : Readings) (car : AgvCar) :
    Keeps car (car.on10msTimer readings) := by
  rw [on10msTimer]
  split
  · have stopped : Keeps car { car with controler := car.controler.stopCar } :=
      ⟨⟨rfl, rfl, .inr rfl, rfl, rfl, .refl _, fun idle stopped => ⟨rfl, (idle stopped).2⟩⟩,
        ⟨rfl, rfl⟩⟩
    exact stopped.trans (keeps_sendUrgentEvent _ .evLostPosition 0 (by decide))
  · exact .refl car

theorem keeps_checkBattery (readings : Readings) (car : AgvCar) :
    Keeps car (car.checkBattery readings) := by
  have counted : ∀ times, Keeps car { car with lowBatteryAlarmTimes := times } :=
    fun _ => .of_relevant rfl
  rw [checkBattery]
  split
  · split
    · exact (counted 0).trans (keeps_setCarStatus _ _ _)
    · exact counted _
  · exact counted 0

theorem keeps_checkInit (car : AgvCar) : Keeps car car.checkInit := by
  rw [checkInit]
  split
  · have completed : Keeps car { car with isInitComplete := true } :=
      .of_relevant rfl
    exact completed.trans (keeps_sendEvent _ .evSysReady 0 (by decide))
  · exact .refl car

theorem keeps_onNetworkError (readings : Readings) (car : AgvCar) :
    Keeps car (car.onNetworkError readings) := by
  have flagged := keeps_setErrorFlag errorNetWork car
  rw [onNetworkError]
  split
  · exact flagged.trans (keeps_sendImportantEvent _ .evSchedulerOffline 0 (by decide))
  · exact flagged

theorem keeps_onStationMessage (readings : Readings) (x y angle : Int) (car : AgvCar) :
    Keeps car (car.onStationMessage readings x y angle) :=
  .of_relevant rfl

theorem keeps_onKeyManualMode (car : AgvCar) : Keeps car car.onKeyManualMode := by
  rw [onKeyManualMode]
  split
  · refine .trans ?_ (keeps_setCarStatus .stopped mp3Mute _)
    exact .of_relevant rfl
  · exact .refl car

theorem keeps_onTurnCharge (on : Bool) (param : Int) (car : AgvCar) :
    Keeps car (car.onTurnCharge on param) := by
  rw [onTurnCharge]
  split
  · exact (keeps_stopCar car).trans (.of_relevant rfl)
  · exact .refl car

theorem keeps_onPathMagError (param : Int) (car : AgvCar) :
    Keeps car (car.onPathMagError param) := by
  rw [onPathMagError]
  split
  · exact keeps_stopCar car
  · exact (keeps_stopCar car).trans (keeps_setCarStatus _ _ _)

theorem calm_onKeyAutoMode (readings : Readings) (car : AgvCar) :
    Calm car (car.onKeyAutoMode readings) := by
  rw [onKeyAutoMode]
  split
  · let entered : AgvCar := { car with
      operateMode := .autoMode
      controler := { car.controler with operateMode := .autoMode } }
    have first : Calm car entered := ⟨rfl, rfl, .inl rfl, rfl, rfl, .refl _, id⟩
    refine (first.trans (keeps_setCarStatus .normal mp3Mute entered).toCalm).trans ?_
    refine ⟨?_, ?_, ?_, rfl, rfl, .refl _, fun idle stopped => ⟨?_, (idle stopped).2⟩⟩
    · dsimp only
      split <;> rfl
    · dsimp only
      split <;> rfl
    · dsimp only
      split <;> exact .inr rfl
    · dsimp only
      split <;> rfl
  · exact .refl car

theorem calm_onGetNewPath (readings : Readings) (car : AgvCar) :
    Calm car (car.onGetNewPath readings) := by
  unfold onGetNewPath
  dsimp only
  split
  · let installed : AgvCar :=
      { car with router := (car.router.onGetNewPath readings.fileOpens readings.stationList).1 }
    have first : Calm car installed := ⟨rfl, rfl, .inl rfl, rfl, rfl, .refl _, id⟩
    exact (first.trans (keeps_sendEvent installed .evApplyPath 0 (by decide)).toCalm).trans
      (keeps_setCarStatus .stopped mp3Mute _).toCalm
  · exact ⟨rfl, rfl, .inl rfl, rfl, rfl, .refl _, id⟩

/-- Installing a path does no more to it than the planner does. -/
theorem route_onGetNewPath (readings : Readings) (car : AgvCar) :
    (car.router.onGetNewPath readings.fileOpens readings.stationList).1.SameRoute
      (car.onGetNewPath readings).router := by
  unfold onGetNewPath
  dsimp only
  split <;> exact ⟨rfl, rfl⟩

theorem calm_onPathFinished (readings : Readings) (car : AgvCar) :
    Calm car (car.onPathFinished readings) := by
  let stopped := car.stopCar.setCarStatus .normal mp3Normal
  let reloaded : AgvCar := { stopped with router := stopped.router.reloadPathList readings.fileOpens }
  have first : Calm car reloaded :=
    ((keeps_stopCar car).trans (keeps_setCarStatus .normal mp3Normal _)).toCalm.trans
      ⟨rfl, rfl, .inl rfl, rfl, rfl, .refl _, id⟩
  unfold onPathFinished
  dsimp only
  split
  · exact first.trans (keeps_sendEvent reloaded .evKeyStart 0 (by decide)).toCalm
  · exact first

/-! ## The other threads -/

/-- What the other threads do to the car: they send no target and leave the path. -/
structure Background (car next : AgvCar) : Prop where
  moveHelper : car.controler.moveHelper.Rests next.controler.moveHelper
  issued : next.controler.issued = car.controler.issued
  lastPathMag : next.controler.lastPathMag = car.controler.lastPathMag
  router : next.router = car.router
  performed : next.performed = car.performed
  carInfo : next.carInfo = car.carInfo
  lastCarInfo : next.lastCarInfo = car.lastCarInfo

theorem background_loop (ret : Int) (car : AgvCar) : Background car (car.loop ret) := by
  have rests := MoveHelper.rests_loopRunning ret car.controler.moveHelper
  rw [loop]
  dsimp only
  split
  · split
    · exact ⟨rests, rfl, rfl, rfl, rfl, rfl, rfl⟩
    · exact ⟨rests, rfl, rfl, rfl, rfl, rfl, rfl⟩
  · exact ⟨.refl _, rfl, rfl, rfl, rfl, rfl, rfl⟩

/-- Every step but the handling of an event is one of the other threads. -/
theorem background_carStep {label : CarStep} (other : label.isHandle = false)
    (stepped : carStep label car = some next) : Background car next := by
  cases label with
  | handle evt readings => cases other
  | post evt =>
      cases stepped
      exact ⟨.refl _, rfl, rfl, rfl, rfl, rfl, rfl⟩
  | loop ret =>
      simp only [carStep] at stepped
      split at stepped
      · cases stepped
      · cases stepped
        exact background_loop ret car
  | arrive =>
      simp only [carStep] at stepped
      split at stepped
      · cases stepped
        exact ⟨⟨rfl, id⟩, rfl, rfl, rfl, rfl, rfl, rfl⟩
      · cases stepped
  | halt =>
      simp only [carStep] at stepped
      split at stepped
      · cases stepped
        exact ⟨MoveHelper.rests_clearTarget _, rfl, rfl, rfl, rfl, rfl, rfl⟩
      · cases stepped
  | lifter height lstatus =>
      cases stepped
      exact ⟨.refl _, rfl, rfl, rfl, rfl, rfl, rfl⟩

/-- The events that a status frame queues. -/
theorem events_parseStatus (height : UInt16) (lstatus : UInt8) (lifter : Lifter)
    (events : EventHelper) :
    ∃ queued, (lifter.parseStatus height lstatus events).2 = events.pushAll queued ∧
      ∀ event ∈ queued, event.event = .evLiftArrived ∨ event.event = .evLiftAtBottom := by
  have noted : ∀ height : Int, ∃ queued,
      (lifter.noteHeight height events).2 = events.pushAll queued ∧
        ∀ event ∈ queued, event.event = .evLiftArrived := by
    intro height
    rw [Lifter.noteHeight]
    split
    · exact ⟨[], rfl, by simp⟩
    · dsimp only
      split
      · split
        · exact ⟨[{ event := .evLiftArrived, param := lifter.targetHeight }], rfl, by simp⟩
        · exact ⟨[], rfl, by simp⟩
      · exact ⟨[], rfl, by simp⟩
  have switched : ∀ (lstatus : Int) (lifter : Lifter) (events : EventHelper), ∃ queued,
      (lifter.noteStatus lstatus events).2 = events.pushAll queued ∧
        ∀ event ∈ queued, event.event = .evLiftArrived ∨ event.event = .evLiftAtBottom := by
    intro lstatus lifter events
    rw [Lifter.noteStatus]
    split
    · exact ⟨[{ event := .evLiftAtBottom, param := lifter.targetHeight }], rfl, by simp⟩
    · split
      · exact ⟨[{ event := .evLiftArrived, param := lifter.targetHeight }], rfl, by simp⟩
      · split <;> exact ⟨[], rfl, by simp⟩
  rcases noted height.toNat with ⟨first, pushed, arrivals⟩
  rcases switched lstatus.toNat (lifter.noteHeight height.toNat events).1
    (lifter.noteHeight height.toNat events).2 with ⟨second, pushedAgain, reports⟩
  refine ⟨first ++ second, ?_, ?_⟩
  · rw [EventHelper.pushAll, List.foldl_append]
    rw [pushed] at pushedAgain
    exact (congrArg (fun events => (Lifter.noteStatus lstatus.toNat _ events).2) pushed).trans
      pushedAgain
  · intro event member
    rcases List.mem_append.mp member with early | late
    · exact .inl (arrivals event early)
    · exact reports event late

/-- What another thread does to the queue. -/
theorem events_carStep {label : CarStep} (other : label.isHandle = false)
    (stepped : carStep label car = some next) :
    ∃ queued, next.events = car.events.pushAll queued ∧
      ∀ event ∈ queued, label.queues event.event = true := by
  cases label with
  | handle evt readings => cases other
  | post evt =>
      cases stepped
      exact ⟨[evt], rfl, by simp [CarStep.queues]⟩
  | loop ret =>
      simp only [carStep] at stepped
      split at stepped
      · cases stepped
      · cases stepped
        rw [loop]
        dsimp only
        split
        · split
          · exact ⟨[], rfl, by simp⟩
          next errorCode failed =>
            exact ⟨[{ event := .evPathMagError, param := errorCode, priority := important }],
              rfl, by simp [CarStep.queues]⟩
        · exact ⟨[], rfl, by simp⟩
  | arrive =>
      simp only [carStep] at stepped
      split at stepped
      · cases stepped
        exact ⟨[{
          event := .evNextPathPoint
          param := car.controler.moveHelper.finishTarget.2
          priority := important }], rfl, by simp [CarStep.queues]⟩
      · cases stepped
  | halt =>
      simp only [carStep] at stepped
      split at stepped
      · cases stepped
        exact ⟨[], rfl, by simp⟩
      · cases stepped
  | lifter height lstatus =>
      cases stepped
      rcases events_parseStatus height lstatus car.controler.lifter car.events with
        ⟨queued, pushed, reports⟩
      refine ⟨queued, pushed, fun event member => ?_⟩
      simpa [CarStep.queues] using reports event member

/-- What the other threads queue of their own. -/
def backgroundEvents : List EventList :=
  [.evPathMagError, .evNextPathPoint, .evLiftArrived, .evLiftAtBottom]

/-- Another thread posts an event, or queues one of its own. -/
theorem queues_cases {label : CarStep} {event : EventList} (queues : label.queues event = true) :
    (∃ evt, label = .post evt ∧ evt.event = event) ∨ event ∈ backgroundEvents := by
  cases label with
  | handle evt readings => cases queues
  | post evt => exact .inl ⟨evt, rfl, beq_iff_eq.mp queues⟩
  | loop ret =>
      rw [beq_iff_eq.mp queues]
      exact .inr (by decide)
  | arrive =>
      rw [beq_iff_eq.mp queues]
      exact .inr (by decide)
  | halt => cases queues
  | lifter height lstatus =>
      rcases Bool.or_eq_true_iff.mp queues with arrived | bottom
      · rw [beq_iff_eq.mp arrived]
        exact .inr (by decide)
      · rw [beq_iff_eq.mp bottom]
        exact .inr (by decide)

/-- The events of a kind that another thread does not queue stay. -/
theorem ofKind_carStep {label : CarStep} {kind : EventList → Bool}
    (other : label.isHandle = false) (stepped : carStep label car = some next)
    (foreign : ∀ event, label.queues event = true → kind event = false) (priority : Nat) :
    next.events.ofKind kind priority = car.events.ofKind kind priority := by
  rcases events_carStep other stepped with ⟨queued, pushed, queues⟩
  rw [pushed]
  exact EventHelper.ofKind_pushAll_of_not (fun event member =>
    foreign event.event (queues event member)) car.events priority

/-! ## Events -/

/-- The events that can send a target. -/
def sendsTarget : EventList → Bool
  | .evKeyStart | .evApplyPath | .evNextPathPoint | .evLiftArrived | .evNearBarrier
  | .evMidBarrier | .evFarBarrier | .evBarrierTouched | .evBarrierOk => true
  | _ => false

/-- The events that install or reload a path. -/
def loadsPath : EventList → Bool
  | .evGetNewPath | .evPathFinished | .evKeyAutoMode | .evNetworkOK => true
  | _ => false

/-- The event is one of the five that a barrier queues. -/
def IsBarrier (event : EventList) : Prop :=
  event = .evNearBarrier ∨ event = .evMidBarrier ∨ event = .evFarBarrier ∨
    event = .evBarrierTouched ∨ event = .evBarrierOk

/-- What an event that can send a target does. -/
inductive HandlesTarget (readings : Readings) (evt : AgvEvent) (car next : AgvCar) : Prop where
  | start (kind : evt.event = .evKeyStart ∨ evt.event = .evApplyPath)
      (automatic : car.operateMode = .autoMode) (started : car.startRun readings = some next)
  | startIgnored (kind : evt.event = .evKeyStart ∨ evt.event = .evApplyPath)
      (manual : car.operateMode ≠ .autoMode) (same : next = car)
  | arrival (kind : evt.event = .evNextPathPoint)
      (arrived : car.onArrivedStation readings = some next)
  | lift (kind : evt.event = .evLiftArrived) (lifting : car.currentPathAction = actionLiftUpDown)
      (finished : car.onStationActionFinished readings = some next)
  | liftIgnored (kind : evt.event = .evLiftArrived)
      (other : car.currentPathAction ≠ actionLiftUpDown) (same : next = car)
  | barrier (kind : IsBarrier evt.event) (automatic : car.operateMode = .autoMode)
      (same : next = car.onBarrierMessage readings evt.event evt.param)
  | barrierIgnored (kind : IsBarrier evt.event) (manual : car.operateMode ≠ .autoMode)
      (same : next = car)

/-- What an event that installs or reloads a path does. -/
inductive HandlesPath (readings : Readings) (evt : AgvEvent) (car : AgvCar) : AgvCar → Prop where
  | newPath (kind : evt.event = .evGetNewPath) (present : evt.data ≠ .null) :
      HandlesPath readings evt car (car.onGetNewPath readings)
  | nullPath (kind : evt.event = .evGetNewPath) (null : evt.data = .null) :
      HandlesPath readings evt car car
  | pathFinished (kind : evt.event = .evPathFinished) :
      HandlesPath readings evt car (car.onPathFinished readings)
  | autoMode (kind : evt.event = .evKeyAutoMode) :
      HandlesPath readings evt car (car.onKeyAutoMode readings)
  | networkOK (kind : evt.event = .evNetworkOK) :
      HandlesPath readings evt car
        { car.clearErrorFlag errorNetWork with
          router := (car.clearErrorFlag errorNetWork).router.start readings.fileOpens }

/-- What every other event does. -/
inductive HandlesQuiet (readings : Readings) (evt : AgvEvent) (car : AgvCar) : AgvCar → Prop where
  | tick : HandlesQuiet readings evt car (car.on10msTimer readings)
  | second : HandlesQuiet readings evt car (car.checkBattery readings).checkInit
  | status (status : CarStatus) (mp3 : Int) :
      HandlesQuiet readings evt car (car.setCarStatus status mp3)
  | battery (vol cap ele : Int) : HandlesQuiet readings evt car
      { car with batteryVoltage := vol, batteryCapacity := cap, carElectricity := ele }
  | networkError (kind : evt.event = .evNetworkError) :
      HandlesQuiet readings evt car (car.onNetworkError readings)
  | stop : HandlesQuiet readings evt car car.stopCar
  | position (x y angle : Int) : HandlesQuiet readings evt car
      ((car.clearErrorFlag errorPosition).onStationMessage readings x y angle)
  | noPosition : HandlesQuiet readings evt car (car.clearErrorFlag errorPosition)
  | lostPosition : HandlesQuiet readings evt car
      ((car.setErrorFlag errorPosition).setCarStatus .error mp3NavigatorFault)
  | sensorOnline (kind : evt.event = .evSensorOnline) :
      HandlesQuiet readings evt car (car.clearErrorFlag errorSensorLost)
  | sensorOffline (kind : evt.event = .evSensorOffline) :
      HandlesQuiet readings evt car (car.setErrorFlag errorSensorLost)
  | lifterInit : HandlesQuiet readings evt car { car with isLifterInit := true }
  | manualMode (kind : evt.event = .evKeyManualMode) :
      HandlesQuiet readings evt car car.onKeyManualMode
  | turnCharge (on : Bool) : HandlesQuiet readings evt car (car.onTurnCharge on evt.param)
  | pathMagError : HandlesQuiet readings evt car (car.onPathMagError evt.param)
  | setSpeed : HandlesQuiet readings evt car { car with speedFormServer := evt.param }
  | ignored : HandlesQuiet readings evt car car

section Handled

variable {readings : Readings} {evt : AgvEvent}

theorem handlesTarget_of_sendsTarget (sends : sendsTarget evt.event = true)
    (handled : car.handleEvent readings evt = some next) :
    HandlesTarget readings evt car next := by
  rw [handleEvent] at handled
  cases named : evt.event with
  | evKeyStart | evApplyPath =>
      simp only [named] at handled
      split at handled
      next automatic => exact .start (by simp [named]) automatic handled
      next manual => exact .startIgnored (by simp [named]) manual (Option.some.inj handled).symm
  | evNextPathPoint =>
      simp only [named] at handled
      exact .arrival named handled
  | evLiftArrived =>
      simp only [named, onLiftArrivedHeight] at handled
      split at handled
      next lifting => exact .lift named lifting handled
      next other => exact .liftIgnored named other (Option.some.inj handled).symm
  | evNearBarrier | evMidBarrier | evFarBarrier | evBarrierTouched | evBarrierOk =>
      simp only [named] at handled
      split at handled
      next automatic =>
        have same : next = car.onBarrierMessage readings evt.event evt.param := by
          rw [named]
          exact (Option.some.inj handled).symm
        exact .barrier (by simp [IsBarrier, named]) automatic same
      next manual =>
        exact .barrierIgnored (by simp [IsBarrier, named]) manual (Option.some.inj handled).symm
  | _ => simp [named, sendsTarget] at sends

theorem handlesPath_of_loadsPath (loads : loadsPath evt.event = true)
    (handled : car.handleEvent readings evt = some next) : HandlesPath readings evt car next := by
  rw [handleEvent] at handled
  cases named : evt.event with
  | evGetNewPath =>
      simp only [named, Option.some.injEq] at handled
      subst handled
      split
      next null => exact .nullPath named null
      next present => exact .newPath named present
  | evPathFinished =>
      simp only [named, Option.some.injEq] at handled
      exact handled ▸ .pathFinished named
  | evKeyAutoMode =>
      simp only [named, Option.some.injEq] at handled
      exact handled ▸ .autoMode named
  | evNetworkOK =>
      simp only [named, Option.some.injEq] at handled
      exact handled ▸ .networkOK named
  | _ => simp [named, loadsPath] at loads

theorem handlesQuiet_of_quiet (quiet : sendsTarget evt.event = false)
    (stays : loadsPath evt.event = false)
    (handled : car.handleEvent readings evt = some next) : HandlesQuiet readings evt car next := by
  rw [handleEvent] at handled
  cases named : evt.event with
  | evKeyStart | evApplyPath | evNextPathPoint | evLiftArrived | evNearBarrier
  | evMidBarrier | evFarBarrier | evBarrierTouched | evBarrierOk =>
      simp [named, sendsTarget] at quiet
  | evGetNewPath | evPathFinished | evKeyAutoMode | evNetworkOK =>
      simp [named, loadsPath] at stays
  | evBattery =>
      simp only [named] at handled
      split at handled
      · cases handled
        exact .battery _ _ _
      · cases handled
  | evPosition =>
      simp only [named] at handled
      split at handled
      · cases handled
        exact .position _ _ _
      · cases handled
        exact .noPosition
  | evSchedulerOffline | evKeyStop =>
      simp only [named, Option.some.injEq] at handled
      subst handled
      split
      · exact .stop
      · exact .ignored
  | evLostPosition =>
      simp only [named, Option.some.injEq] at handled
      subst handled
      split
      · exact .lostPosition
      · exact .ignored
  | ev10msTimer =>
      simp only [named, Option.some.injEq] at handled
      exact handled ▸ .tick
  | ev1sTimer =>
      simp only [named, Option.some.injEq] at handled
      exact handled ▸ .second
  | evSysReady | evUrgentStop =>
      simp only [named, Option.some.injEq] at handled
      exact handled ▸ .status _ _
  | evNetworkError =>
      simp only [named, Option.some.injEq] at handled
      exact handled ▸ .networkError named
  | evSensorOnline =>
      simp only [named, Option.some.injEq] at handled
      exact handled ▸ .sensorOnline named
  | evSensorOffline =>
      simp only [named, Option.some.injEq] at handled
      exact handled ▸ .sensorOffline named
  | evLifterInit =>
      simp only [named, Option.some.injEq] at handled
      exact handled ▸ .lifterInit
  | evKeyManualMode =>
      simp only [named, Option.some.injEq] at handled
      exact handled ▸ .manualMode named
  | evTurnOnCharge | evTurnOffCharge =>
      simp only [named, Option.some.injEq] at handled
      exact handled ▸ .turnCharge _
  | evPathMagError =>
      simp only [named, Option.some.injEq] at handled
      exact handled ▸ .pathMagError
  | evSetSpeed =>
      simp only [named, Option.some.injEq] at handled
      exact handled ▸ .setSpeed
  | _ =>
      simp only [named, Option.some.injEq] at handled
      exact handled ▸ .ignored

/-- An event that loads a path sends no target. -/
theorem calm_of_loadsPath (loads : loadsPath evt.event = true)
    (handled : car.handleEvent readings evt = some next) : Calm car next := by
  cases handlesPath_of_loadsPath loads handled with
  | newPath kind present => exact calm_onGetNewPath readings car
  | nullPath kind null => exact .refl car
  | pathFinished kind => exact calm_onPathFinished readings car
  | autoMode kind => exact calm_onKeyAutoMode readings car
  | networkOK kind =>
      exact (keeps_clearErrorFlag errorNetWork car).toCalm.trans
        ⟨rfl, rfl, .inl rfl, rfl, rfl, .refl _, id⟩

/-- Every other event that sends no target keeps path and cursor. -/
theorem keeps_of_quiet (quiet : sendsTarget evt.event = false)
    (stays : loadsPath evt.event = false)
    (handled : car.handleEvent readings evt = some next) : Keeps car next := by
  cases handlesQuiet_of_quiet quiet stays handled with
  | tick => exact keeps_on10msTimer readings car
  | second => exact (keeps_checkBattery readings car).trans (keeps_checkInit _)
  | status status mp3 => exact keeps_setCarStatus status mp3 car
  | battery vol cap ele => exact .of_relevant rfl
  | networkError => exact keeps_onNetworkError readings car
  | stop => exact keeps_stopCar car
  | position x y angle =>
      exact (keeps_clearErrorFlag errorPosition car).trans (keeps_onStationMessage readings _ _ _ _)
  | noPosition => exact keeps_clearErrorFlag errorPosition car
  | lostPosition =>
      exact (keeps_setErrorFlag errorPosition car).trans (keeps_setCarStatus _ _ _)
  | sensorOnline kind => exact keeps_clearErrorFlag errorSensorLost car
  | sensorOffline kind => exact keeps_setErrorFlag errorSensorLost car
  | lifterInit => exact .of_relevant rfl
  | manualMode kind => exact keeps_onKeyManualMode car
  | turnCharge on => exact keeps_onTurnCharge on evt.param car
  | pathMagError => exact keeps_onPathMagError evt.param car
  | setSpeed => exact .of_relevant rfl
  | ignored => exact .refl car

/-- An event that sends no target is calm. -/
theorem calm_of_quiet (quiet : sendsTarget evt.event = false)
    (handled : car.handleEvent readings evt = some next) : Calm car next := by
  cases loads : loadsPath evt.event with
  | true => exact calm_of_loadsPath loads handled
  | false => exact (keeps_of_quiet quiet loads handled).toCalm

end Handled

end AgvCar

end DrivingControl.Controler

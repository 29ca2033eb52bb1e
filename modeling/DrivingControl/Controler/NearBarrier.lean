import DrivingControl.Controler.CarGauges
import DrivingControl.Controler.Stopping

/-!
# A near obstacle

A near barrier stops the car, but its flag stays set while the car is started again, drives on
behind a station or goes to the next one.  Each of these queues the event of the barrier once
more, and urgently.  So a car for which a near obstacle is noted drives only while that event
waits in the urgent queue, and no longer than until it is handled.

The exception is the car that the end of a barrier revives while its status is `StatusStopped`:
neither the stop key nor the event stops it.
-/

namespace DrivingControl.Controler

open DrivingControl.Comm DrivingControl.Event DrivingControl.Library

/-- The event of a near barrier as `StartRun` queues it again. -/
def nearAgain : AgvEvent := { event := .evNearBarrier, param := 0, priority := urgent }

namespace AgvCar

open RoutePlanner CarControler

/-- The motion thread takes its turns, and there is a target. -/
def IsDriving (car : AgvCar) : Prop :=
  car.operateMode = .autoMode ∧ car.controler.moveHelper.isRunning = true

/-- A near obstacle is noted and the car drives all the same. -/
def DrivesNear (car : AgvCar) : Prop := car.gauges.near = true ∧ car.IsDriving

/-- A stopped car has no target, with the status or with the stop button, and a car that
drives at a near obstacle has its event still before it. -/
structure Guarded (car : AgvCar) : Prop where
  idle : car.Idle
  released : car.stopButton = true → car.controler.moveHelper.isRunning = false
  waits : car.DrivesNear → nearAgain ∈ car.events.eventList urgent

theorem guarded_init (router : RoutePlanner) : { init with router }.Guarded where
  idle stopped := by cases stopped
  released _ := rfl
  waits drives := by cases drives.2.1

variable {readings : Readings} {car next : AgvCar} {evt : AgvEvent}

/-! ## Operations -/

theorem Calm.isRunning (calm : Calm car next)
    (running : next.controler.moveHelper.isRunning = true) :
    car.controler.moveHelper.isRunning = true := by
  rcases calm.moveHelper with kept | cleared
  · rw [← kept]
    exact running
  · rw [cleared] at running
    cases running

theorem Calm.resting (calm : Calm car next)
    (resting : car.controler.moveHelper.isRunning = false) :
    next.controler.moveHelper.isRunning = false :=
  Bool.eq_false_iff.mpr fun running => by simp [calm.isRunning running] at resting

/-- What leaves the mode, the flag and the urgent events, and sends no target. -/
structure Unmoved (car next : AgvCar) : Prop extends Calm car next where
  mode : next.operateMode = car.operateMode
  near : next.gauges.near = car.gauges.near
  queued : car.events.eventList urgent <+: next.events.eventList urgent

theorem Unmoved.guarded (unmoved : Unmoved car next) (guarded : car.Guarded)
    (button : next.stopButton = car.stopButton ∨
      next.controler.moveHelper.isRunning = false) : next.Guarded where
  idle := unmoved.idle guarded.idle
  released pressed := by
    rcases button with same | resting
    · rw [same] at pressed
      exact unmoved.toCalm.resting (guarded.released pressed)
    · exact resting
  waits drives := by
    obtain ⟨near, automatic, running⟩ := drives
    rw [unmoved.near] at near
    rw [unmoved.mode] at automatic
    exact unmoved.queued.subset (guarded.waits ⟨near, automatic, unmoved.isRunning running⟩)

/-- A car that does not drive needs no more than that it is idle. -/
theorem guarded_of_resting (idle : car.Idle)
    (resting : car.controler.moveHelper.isRunning = false) : car.Guarded where
  idle := idle
  released _ := resting
  waits drives := by simp [drives.2.2] at resting

/-- The stop button stops an idle car. -/
theorem resting_stopCar (idle : car.Idle) :
    car.stopCar.controler.moveHelper.isRunning = false :=
  ((keeps_stopCar car).idle idle rfl).1

theorem guarded_stopCar (guarded : car.Guarded) : car.stopCar.Guarded :=
  guarded_of_resting ((keeps_stopCar car).idle guarded.idle) (resting_stopCar guarded.idle)

theorem prefix_pushEvent (event : AgvEvent) (helper : EventHelper) (priority : Nat) :
    helper.eventList priority <+: (helper.pushEvent event).eventList priority := by
  simp only [EventHelper.pushEvent, pushLevel]
  split
  · exact List.prefix_append _ _
  · exact List.prefix_refl _

theorem prefix_onNetworkError (readings : Readings) (car : AgvCar) :
    car.events.eventList urgent <+: (car.onNetworkError readings).events.eventList urgent := by
  rw [onNetworkError]
  split
  · exact prefix_pushEvent { event := .evSchedulerOffline, priority := important } _ urgent
  · exact List.prefix_refl _

/-- The operations of the handlers keep the mode and what waits. -/
theorem Acts.keeps_queued (acts : Acts car next) :
    next.operateMode = car.operateMode ∧
      car.events.eventList urgent <+: next.events.eventList urgent := by
  induction acts with
  | refl => exact ⟨rfl, List.prefix_refl _⟩
  | tail _ act ih =>
      obtain ⟨mode, queued⟩ := ih
      cases act with
      | queue event own => exact ⟨mode, queued.trans (prefix_pushEvent event _ urgent)⟩
      | note noted =>
          rw [Noted] at noted
          rw [noted]
          exact ⟨mode, queued⟩
      | _ => exact ⟨mode, queued⟩

/-! ## Going to a way point -/

/-- What `GoToNextPoint` leaves, and what a failure leaves. -/
structure GoneTo (car : AgvCar) (result : AgvCar × Int) : Prop where
  carInfo : result.1.carInfo = car.carInfo
  lastCarInfo : result.1.lastCarInfo = car.lastCarInfo
  mode : result.1.operateMode = car.operateMode
  button : result.1.stopButton = car.stopButton
  queued : car.events.eventList urgent <+: result.1.events.eventList urgent
  rests : result.2 ≠ 0 → result.1.controler.moveHelper.isRunning = true →
    car.controler.moveHelper.isRunning = true

theorem goneTo_sendPoint (readings : Readings) (path : WayPoint) (car : AgvCar) :
    GoneTo car (car.sendPoint readings path) := by
  rw [sendPoint]
  split
  next drivable =>
    let target := car.pathMag readings path
    have called := sends_setTargetStation readings.split target car.controler
    have answers : (car.controler.setTargetStation readings.split target).2 = none ↔
        MoveHelper.Accepts readings.split target := issue_snd_eq_none _ _ _ _
    rw [afterIssue]
    cases answer : (car.controler.setTargetStation readings.split target).2 with
    | none => exact ⟨rfl, rfl, rfl, rfl, List.prefix_refl _, fun failed => absurd rfl failed⟩
    | some errorCode =>
        have rejects : ¬ MoveHelper.Accepts readings.split target := by
          intro accepts
          simp [answers.mpr accepts] at answer
        have drives := called.moveHelper
        have rests : car.controler.moveHelper.Rests
            (car.controler.setTargetStation readings.split target).1.moveHelper := by
          simpa [entry, rejects, DrivesAfter] using drives
        exact ⟨rfl, rfl, rfl, rfl, prefix_pushEvent _ _ urgent, fun _ => rests.isRunning⟩
  next stays => exact ⟨rfl, rfl, rfl, rfl, List.prefix_refl _, fun _ => id⟩

theorem goneTo_goToPoint {result : AgvCar × Int} (went : car.goToPoint readings = some result) :
    GoneTo car result := by
  rw [goToPoint] at went
  split at went
  · cases went
  next path present =>
    dsimp only at went
    split at went
    · cases went
    next sent found =>
      cases went
      obtain ⟨router, lifter, prepared⟩ := preparePoint_eq readings path car
      have sends := goneTo_sendPoint readings sent (car.preparePoint readings path)
      rw [prepared] at sends ⊢
      exact ⟨sends.carInfo, sends.lastCarInfo, sends.mode, sends.button, sends.queued,
        sends.rests⟩

theorem goneTo_goToNextPoint {isfirst : Bool} {result : AgvCar × Int}
    (went : car.goToNextPoint readings isfirst = some result) : GoneTo car result := by
  rw [goToNextPoint] at went
  split at went
  · cases went
    exact ⟨rfl, rfl, rfl, rfl, List.prefix_refl _, fun _ => id⟩
  · split at went
    · cases went
    next router found =>
      have goes := goneTo_goToPoint went
      exact ⟨goes.carInfo, goes.lastCarInfo, goes.mode, goes.button, goes.queued, goes.rests⟩

/-- A failure to go on leaves the car guarded. -/
theorem GoneTo.guarded {result : AgvCar × Int} (gone : GoneTo car result)
    (near : result.1.gauges = car.gauges) (failed : result.2 ≠ 0) (guarded : car.Guarded) :
    result.1.Guarded where
  idle stopped := by
    rw [gone.carInfo] at stopped
    rw [gone.lastCarInfo]
    obtain ⟨resting, kept⟩ := guarded.idle stopped
    exact ⟨Bool.eq_false_iff.mpr fun running => by simp [gone.rests failed running] at resting,
      kept⟩
  released pressed := by
    rw [gone.button] at pressed
    have resting := guarded.released pressed
    exact Bool.eq_false_iff.mpr fun running => by simp [gone.rests failed running] at resting
  waits drives := by
    obtain ⟨noted, automatic, running⟩ := drives
    rw [near] at noted
    rw [gone.mode] at automatic
    exact gone.queued.subset (guarded.waits ⟨noted, automatic, gone.rests failed running⟩)

/-! ## Starts -/

/-- What waits behind the barriers that are queued again. -/
theorem mem_requeueBarriers (near : car.gauges.near = true) :
    nearAgain ∈ car.requeueBarriers.events.eventList urgent := by
  have queuesIf : ∀ (present : Bool) (event : EventList) (car : AgvCar),
      car.events.eventList urgent <+:
        (if present then car.sendUrgentEvent event 0 else car).events.eventList urgent := by
    intro present event car
    split
    · exact prefix_pushEvent _ _ urgent
    · exact List.prefix_refl _
  have noted : car.isHaveError errorIrNear = true := near
  have queued : nearAgain ∈ (car.sendUrgentEvent .evNearBarrier 0).events.eventList urgent :=
    List.mem_append_right _ (List.mem_singleton.mpr rfl)
  rw [requeueBarriers, if_pos noted]
  exact ((queuesIf _ .evMidBarrier _).trans (queuesIf _ .evFarBarrier _)).subset queued

/-- A car that runs again has its near barrier before it, if one is noted. -/
theorem guarded_of_started (running : next.carInfo.status = .running)
    (button : next.stopButton = false)
    (waits : next.gauges.near = true → nearAgain ∈ next.events.eventList urgent) :
    next.Guarded where
  idle stopped := by
    rw [running] at stopped
    cases stopped
  released pressed := by
    rw [button] at pressed
    cases pressed
  waits drives := waits drives.1

theorem guarded_requeueBarriers (running : car.carInfo.status = .running)
    (button : car.stopButton = false) : car.requeueBarriers.Guarded := by
  have buttonIf : ∀ (present : Bool) (event : EventList) (car : AgvCar),
      (if present then car.sendUrgentEvent event 0 else car).stopButton = car.stopButton := by
    intro present event car
    split <;> rfl
  apply guarded_of_started
  · rw [status_requeueBarriers, running]
  · simp only [requeueBarriers, buttonIf, button]
  · rw [gauges_requeueBarriers]
    exact mem_requeueBarriers

theorem guarded_afterStart (running : car.carInfo.status = .running)
    (button : car.stopButton = false) : (car.afterStart readings).Guarded := by
  by_cases clear : readings.laserStuta = 0
  · have cleared : (car.afterStart readings).gauges.near = false := by
      rw [gauges_afterStart, if_pos clear]
      rfl
    rw [afterStart_clear clear] at cleared ⊢
    exact guarded_of_started running button fun near => by cases near.symm.trans cleared
  · rw [afterStart_barrier clear]
    exact guarded_requeueBarriers running button

theorem guarded_startRun (guarded : car.Guarded) (automatic : car.operateMode = .autoMode)
    (started : car.startRun readings = some next) : next.Guarded := by
  rw [startRun, if_pos automatic] at started
  split at started
  · cases started
    exact guarded
  · split at started
    · split at started
      · cases started
      next result code went =>
        have gone := goneTo_goToNextPoint went
        split at started
        next failed =>
          cases started
          have left := gone.guarded (gauges_goToNextPoint went) failed guarded
          have queued := keeps_sendImportantEvent result .evPathMagError 0 (by decide)
          have unmoved : Unmoved result (result.sendImportantEvent .evPathMagError 0) :=
            ⟨queued.toCalm, rfl, rfl, prefix_pushEvent _ _ urgent⟩
          exact unmoved.guarded left (.inl rfl)
        next =>
          cases started
          exact guarded_afterStart rfl rfl
    · cases started
      exact guarded_afterStart rfl rfl

/-! ## Arrivals -/

theorem guarded_afterNextPoint {result : AgvCar × Int} (gone : GoneTo car result)
    (near : result.1.gauges = car.gauges) (guarded : car.Guarded) :
    (result.1.afterNextPoint result.2).Guarded := by
  have queues : ∀ (event : EventList), event ≠ .evNextPathPoint → result.2 ≠ 0 →
      (result.1.sendImportantEvent event 0).Guarded := by
    intro event other failed
    have queued := keeps_sendImportantEvent result.1 event 0 other
    have unmoved : Unmoved result.1 (result.1.sendImportantEvent event 0) :=
      ⟨queued.toCalm, rfl, rfl, prefix_pushEvent _ _ urgent⟩
    exact unmoved.guarded (gone.guarded near failed guarded) (.inl rfl)
  rw [afterNextPoint]
  split
  · exact guarded_requeueBarriers rfl rfl
  next failed =>
    split
    · exact queues .evPathFinished (by decide) failed
    · split
      · exact queues .evPathMagError (by decide) failed
      · exact gone.guarded near failed guarded

theorem guarded_onStationActionFinished (guarded : car.Guarded)
    (handled : car.onStationActionFinished readings = some next) : next.Guarded := by
  cases endsAction_onStationActionFinished handled with
  | again target present finished same =>
      rw [same]
      exact guarded
  | goesOn target present unfinished result went same =>
      have reset : Guarded { car with router := car.finishing target, currentPathAction := 0 } :=
        ⟨guarded.idle, guarded.released, guarded.waits⟩
      rw [same]
      exact guarded_afterNextPoint (goneTo_goToNextPoint went) (gauges_goToNextPoint went) reset

theorem guarded_doPathPointAction (path : WayPoint) (guarded : car.Guarded) :
    (car.doPathPointAction path).1.Guarded := by
  let noted : AgvCar := { car with
    currentPathAction := path.action
    performed := car.performed ++ [(car.router.targetPathId, path.action)] }
  have same : noted.Guarded := ⟨guarded.idle, guarded.released, guarded.waits⟩
  have stopped := guarded_stopCar same
  have resting := resting_stopCar same.idle
  have commands : ∀ controler : CarControler,
      controler.moveHelper = noted.stopCar.controler.moveHelper →
      { noted.stopCar with controler }.Guarded := by
    intro controler kept
    apply guarded_of_resting
    · intro status
      exact ⟨kept ▸ resting, (stopped.idle status).2⟩
    · exact kept ▸ resting
  rw [doPathPointAction]
  dsimp only
  split
  · exact same
  · split
    · exact stopped
    · split
      · split
        · exact commands _ rfl
        · exact commands _ rfl
      · split
        · exact commands _ rfl
        · exact same

theorem guarded_onArrivedStation (guarded : car.Guarded)
    (handled : car.onArrivedStation readings = some next) : next.Guarded := by
  rw [onArrivedStation] at handled
  split at handled
  · cases handled
  next path present =>
    have performed := guarded_doPathPointAction path guarded
    dsimp only at handled
    split at handled
    · exact guarded_onStationActionFinished performed handled
    · cases handled
      exact performed

/-! ## Barriers -/

/-- A near barrier or a touch stops a car whose stop button is not set. -/
theorem resting_barrierStatus {event : EventList} (stopping : isStopping event = true)
    (car : AgvCar) : (car.barrierStatus event).controler.moveHelper.isRunning = false := by
  simp only [isStopping, Bool.or_eq_true, beq_iff_eq] at stopping
  rcases stopping with named | named
  · rw [named]
    rfl
  · rw [named]
    rfl

/-- Behind the event of a stopping barrier the car rests. -/
theorem resting_actOnBarrier {event : EventList} (stopping : isStopping event = true)
    (released : car.stopButton = true → car.controler.moveHelper.isRunning = false) :
    (car.actOnBarrier readings event).controler.moveHelper.isRunning = false := by
  rw [actOnBarrier]
  split
  next pressed => exact released pressed
  next => exact resting_barrierStatus stopping _

/-- With no near obstacle noted a barrier event leaves little to show. -/
theorem stopButton_actOnBarrier (event : EventList) (car : AgvCar) :
    (car.actOnBarrier readings event).stopButton = car.stopButton := by
  have resets : (car.resetLastTargetStation readings).stopButton = car.stopButton := by
    rw [resetLastTargetStation, afterIssue]
    split <;> rfl
  have statused : ∀ car : AgvCar, (car.barrierStatus event).stopButton = car.stopButton := by
    intro car
    simp only [barrierStatus]
    split <;> rfl
  rw [actOnBarrier]
  split
  · rfl
  · rw [statused]
    split
    · exact resets
    · rfl

/-- A pressed button leaves the car as it is, but for the flags. -/
theorem moveHelper_actOnBarrier (event : EventList) (pressed : car.stopButton = true) :
    (car.actOnBarrier readings event).controler = car.controler := by
  rw [actOnBarrier, if_pos pressed]

theorem guarded_onBarrierMessage (guarded : car.Guarded) (automatic : car.operateMode = .autoMode)
    (barrier : IsBarrier evt.event) (fails : ¬ car.Revives readings evt) :
    (car.onBarrierMessage readings evt.event evt.param).Guarded := by
  have idle := idle_onBarrierMessage guarded.idle automatic barrier fails
  have queued := (acts_onBarrierMessage readings evt.event evt.param car).keeps_queued
  rw [onBarrierMessage] at idle queued ⊢
  split
  · exact guarded
  next heard =>
    rw [if_neg heard] at idle queued
    have flagged : car.barrierFlags evt.event = _ := onlyError_barrierFlags evt.event car
    have button : (car.barrierFlags evt.event).stopButton = car.stopButton := by rw [flagged]
    have helper : (car.barrierFlags evt.event).controler = car.controler := by rw [flagged]
    have released : (car.barrierFlags evt.event).stopButton = true →
        (car.barrierFlags evt.event).controler.moveHelper.isRunning = false := by
      rw [button, helper]
      exact guarded.released
    by_cases stopping : isStopping evt.event = true
    · exact guarded_of_resting idle (resting_actOnBarrier stopping released)
    · refine ⟨idle, ?_, ?_⟩
      · intro pressed
        rw [stopButton_actOnBarrier] at pressed
        rw [moveHelper_actOnBarrier _ pressed]
        exact released pressed
      · -- a middle or far barrier is only heard with no near one noted, and the end clears it
        intro drives
        have near := drives.1
        rw [gauges_actOnBarrier, gauges_barrierFlags] at near
        rcases barrier with named | named | named | named | named
        · simp [named, isStopping] at stopping
        · rw [named] at near
          cases near
        · rw [named] at near
          cases near
        · simp [named, isStopping] at stopping
        · rw [named] at near
          cases near

/-! ## The other events -/

/-- What an event without a target does to the stop button of an idle car. -/
theorem button_of_quiet (idle : car.Idle) (handles : HandlesQuiet readings evt car next)
    (manual : evt.event ≠ .evKeyManualMode) :
    next.stopButton = car.stopButton ∨ next.controler.moveHelper.isRunning = false := by
  have stopped := resting_stopCar idle
  cases handles with
  | tick =>
      rw [on10msTimer]
      split <;> exact .inl rfl
  | second =>
      rw [checkInit, checkBattery]
      split <;> split <;> first | exact .inl rfl | (split <;> exact .inl rfl)
  | stop => exact .inr stopped
  | turnCharge on =>
      rw [onTurnCharge]
      split
      · exact .inr stopped
      · exact .inl rfl
  | pathMagError =>
      rw [onPathMagError]
      split
      · exact .inr stopped
      · exact .inr ((keeps_setCarStatus _ _ _).toCalm.resting stopped)
  | manualMode kind => exact absurd kind manual
  | networkError =>
      rw [onNetworkError]
      split <;> exact .inl rfl
  | _ => exact .inl rfl

theorem button_of_path (idle : car.Idle) (handles : HandlesPath readings evt car next)
    (other : evt.event ≠ .evKeyAutoMode) :
    next.stopButton = car.stopButton ∨ next.controler.moveHelper.isRunning = false := by
  cases handles with
  | newPath kind present =>
      rw [onGetNewPath]
      split <;> exact .inl rfl
  | pathFinished kind =>
      have stopped := (keeps_setCarStatus .normal mp3Normal _).toCalm.resting
        (resting_stopCar idle)
      rw [onPathFinished]
      split <;> exact .inr stopped
  | autoMode kind => exact absurd kind other
  | _ => exact .inl rfl

/-- The two keys of the mode leave a car that does not drive. -/
theorem guarded_of_exceptional (guarded : car.Guarded) (calm : Calm car next)
    (near : next.gauges.near = car.gauges.near)
    (handles : HandlesExceptional readings evt car next) : next.Guarded := by
  have idle := calm.idle guarded.idle
  cases handles with
  | autoMode kind =>
      by_cases entered : car.operateMode = .autoMode
      · rw [onKeyAutoMode, if_neg (not_not.mpr entered)]
        exact guarded
      · apply guarded_of_resting idle
        rw [onKeyAutoMode, if_pos entered]
        dsimp only
        split <;> rfl
  | manualMode kind =>
      rw [onKeyManualMode] at idle ⊢
      split
      next entered =>
        rw [if_pos entered] at idle
        exact guarded_of_resting idle (idle rfl).1
      · exact guarded
  | sensorOnline kind | sensorOffline kind =>
      have unmoved : Unmoved car _ := ⟨calm, rfl, near, List.prefix_refl _⟩
      exact unmoved.guarded guarded (.inl rfl)
  | networkError kind =>
      have same : (car.onNetworkError readings).operateMode = car.operateMode ∧
          (car.onNetworkError readings).stopButton = car.stopButton := by
        rw [onNetworkError]
        split <;> exact ⟨rfl, rfl⟩
      have unmoved : Unmoved car _ := ⟨calm, same.1, near, prefix_onNetworkError readings car⟩
      exact unmoved.guarded guarded (.inl same.2)

theorem guarded_of_quiet (guarded : car.Guarded) (quiet : sendsTarget evt.event = false)
    (handled : car.handleEvent readings evt = some next) : next.Guarded := by
  have calm := calm_of_quiet quiet handled
  have near : next.gauges.near = car.gauges.near := by
    cases handlesGauges_handleEvent handled with
    | battery kind data same => rw [same]
    | started kind clear same =>
        rcases kind with named | named <;> simp [named, sendsTarget] at quiet
    | barrier kind automatic matters seen same =>
        rcases kind with named | named | named | named | named <;>
          simp [named, sendsTarget] at quiet
    | kept other same => rw [same]
  cases ordinary : exceptional evt.event with
  | true =>
      exact guarded_of_exceptional guarded calm near
        (handlesExceptional_of_exceptional ordinary handled)
  | false =>
      have kept := (acts_handleEvent ordinary handled).keeps_queued
      have unmoved : Unmoved car next := ⟨calm, kept.1, near, kept.2⟩
      apply unmoved.guarded guarded
      cases loads : loadsPath evt.event with
      | true =>
          apply button_of_path guarded.idle (handlesPath_of_loadsPath loads handled)
          intro named
          simp [named, exceptional] at ordinary
      | false =>
          apply button_of_quiet guarded.idle (handlesQuiet_of_quiet quiet loads handled)
          intro named
          simp [named, exceptional] at ordinary

/-- Every event keeps the car guarded unless it revives it. -/
theorem guarded_handleEvent (guarded : car.Guarded) (fails : ¬ car.Revives readings evt)
    (handled : car.handleEvent readings evt = some next) : next.Guarded := by
  cases sending : sendsTarget evt.event with
  | true =>
      cases handlesTarget_of_sendsTarget sending handled with
      | start kind automatic started => exact guarded_startRun guarded automatic started
      | arrival kind arrived => exact guarded_onArrivedStation guarded arrived
      | lift kind lifting finished => exact guarded_onStationActionFinished guarded finished
      | barrier kind automatic same =>
          rw [same]
          exact guarded_onBarrierMessage guarded automatic kind fails
      | startIgnored kind manual same | liftIgnored kind other same
      | barrierIgnored kind manual same =>
          rw [same]
          exact guarded
  | false => exact guarded_of_quiet guarded sending handled

/-- The event that was queued again is heard, and stops the car. -/
theorem guarded_nearAgain (idle : car.Idle)
    (released : car.stopButton = true → car.controler.moveHelper.isRunning = false)
    (handled : car.handleEvent readings nearAgain = some next) :
    next.Guarded ∧ ¬ next.IsDriving := by
  cases handlesTarget_of_sendsTarget rfl handled with
  | barrier kind automatic same =>
      have message : next = (car.barrierFlags .evNearBarrier).actOnBarrier readings
          .evNearBarrier := same
      have kept : next.Idle := by
        rw [same]
        exact idle_onBarrierMessage idle automatic kind fun revives => by cases revives.1
      have resting : next.controler.moveHelper.isRunning = false := by
        rw [message]
        exact resting_actOnBarrier rfl released
      refine ⟨guarded_of_resting kept resting, fun drives => ?_⟩
      rw [drives.2] at resting
      cases resting
  | barrierIgnored kind manual same =>
      rw [same]
      have stays : ¬ car.IsDriving := fun drives => manual drives.1
      exact ⟨⟨idle, released, fun drives => absurd drives.2 stays⟩, stays⟩
  | start kind automatic started => rcases kind with named | named <;> cases named
  | startIgnored kind manual same => rcases kind with named | named <;> cases named
  | arrival kind arrived => cases kind
  | lift kind lifting finished => cases kind
  | liftIgnored kind other same => cases kind

/-- The handlers only append to the urgent events. -/
theorem queued_handleEvent (handled : car.handleEvent readings evt = some next) :
    car.events.eventList urgent <+: next.events.eventList urgent := by
  cases ordinary : exceptional evt.event with
  | false => exact (acts_handleEvent ordinary handled).keeps_queued.2
  | true =>
      cases handlesExceptional_of_exceptional ordinary handled with
      | autoMode kind =>
          rw [onKeyAutoMode]
          split <;> exact List.prefix_refl _
      | manualMode kind =>
          rw [onKeyManualMode]
          split <;> exact List.prefix_refl _
      | sensorOnline kind | sensorOffline kind => exact List.prefix_refl _
      | networkError kind => exact prefix_onNetworkError readings car

/-! ## Steps -/

/-- What is taken is the event that was queued again, or the others stay before the car. -/
theorem guarded_popped {rest : EventHelper} (guarded : car.Guarded)
    (taken : car.events.popEvent = some (evt, rest)) (other : evt ≠ nearAgain) :
    Guarded { car with events := rest } where
  idle := guarded.idle
  released := guarded.released
  waits drives := by
    obtain ⟨ahead, bound, stands⟩ := List.mem_iff_getElem.mp (guarded.waits drives)
    obtain ⟨⟨element, others⟩, popped, equal⟩ := Option.map_eq_some_iff.mp taken
    cases equal
    rcases ahead_of_popBelow (List.getElem?_eq_some_iff.mpr ⟨bound, stands⟩) popped with
      ⟨-, first⟩ | ⟨left, -, behind⟩
    · exact absurd first other
    · exact List.mem_of_getElem? behind

/-- The other threads keep the car guarded and only append to the urgent events. -/
theorem guarded_background {label : CarStep} (guarded : car.Guarded)
    (other : label.isHandle = false) (stepped : carStep label car = some next) :
    next.Guarded ∧ car.events.eventList urgent <+: next.events.eventList urgent := by
  have background := background_carStep other stepped
  have gauges := gauges_background other stepped
  have rests := background.moveHelper.isRunning
  obtain ⟨sent, pushed, -⟩ := events_carStep other stepped
  have queued : car.events.eventList urgent <+: next.events.eventList urgent := by
    rw [pushed, EventHelper.eventList_pushAll]
    exact List.prefix_append _ _
  have kept : next.operateMode = car.operateMode ∧ next.stopButton = car.stopButton := by
    cases label with
    | handle evt readings => cases other
    | post evt =>
        cases stepped
        exact ⟨rfl, rfl⟩
    | loop ret =>
        simp only [carStep] at stepped
        split at stepped
        · cases stepped
        · cases stepped
          rw [loop]
          dsimp only
          split
          · split <;> exact ⟨rfl, rfl⟩
          · exact ⟨rfl, rfl⟩
    | arrive | halt =>
        simp only [carStep] at stepped
        split at stepped
        · cases stepped
          exact ⟨rfl, rfl⟩
        · cases stepped
    | lifter height lstatus =>
        cases stepped
        exact ⟨rfl, rfl⟩
  refine ⟨⟨fun stopped => ?_, fun pressed => ?_, fun drives => ?_⟩, queued⟩
  · rw [background.carInfo] at stopped
    rw [background.lastCarInfo]
    obtain ⟨resting, status⟩ := guarded.idle stopped
    exact ⟨Bool.eq_false_iff.mpr fun running => by simp [rests running] at resting, status⟩
  · rw [kept.2] at pressed
    have resting := guarded.released pressed
    exact Bool.eq_false_iff.mpr fun running => by simp [rests running] at resting
  · obtain ⟨near, automatic, running⟩ := drives
    rw [gauges] at near
    rw [kept.1] at automatic
    exact queued.subset (guarded.waits ⟨near, automatic, rests running⟩)

/-- Every step that revives no car keeps it guarded. -/
theorem guarded_queuedStep {label : CarStep} (guarded : car.Guarded)
    (stepped : queuedStep label car = some next) (met : NotRevived car label next) :
    next.Guarded := by
  cases handling : label.isHandle with
  | false => exact (guarded_background guarded handling (carStep_of_queuedStep handling stepped)).1
  | true =>
      cases label with
      | handle evt readings =>
          obtain ⟨rest, taken, handled⟩ := queuedStep_handle stepped
          have idle : Idle { car with events := rest } := guarded.idle
          by_cases again : evt = nearAgain
          · subst again
            exact (guarded_nearAgain idle guarded.released handled).1
          · exact guarded_handleEvent (guarded_popped guarded taken again) met handled
      | _ => cases handling

/-- How many urgent events stand before that of the near barrier. -/
def NearBehind (car : AgvCar) (ahead : Nat) : Prop :=
  car.Guarded ∧ (car.events.eventList urgent)[ahead]? = some nearAgain

theorem stands_of_prefix {element : AgvEvent} {events more : List AgvEvent} {ahead : Nat}
    (queued : events <+: more) (stands : events[ahead]? = some element) :
    more[ahead]? = some element := by
  obtain ⟨behind, rfl⟩ := queued
  rw [List.getElem?_append_left (List.getElem?_eq_some_iff.mp stands).1, stands]

/-- With every event that is handled the barrier's own comes forward, and last it stops the
car. -/
theorem nearBehind_queuedStep {label : CarStep} {ahead : Nat} (behind : car.NearBehind ahead)
    (stepped : queuedStep label car = some next) (met : NotRevived car label next) :
    ¬ next.DrivesNear ∨
      ∃ left, next.NearBehind left ∧ left + label.isHandle.toNat ≤ ahead := by
  obtain ⟨guarded, stands⟩ := behind
  cases handling : label.isHandle with
  | false =>
      obtain ⟨kept, queued⟩ :=
        guarded_background guarded handling (carStep_of_queuedStep handling stepped)
      exact .inr ⟨ahead, ⟨kept, stands_of_prefix queued stands⟩, Nat.le_refl _⟩
  | true =>
      have kept := guarded_queuedStep guarded stepped met
      cases label with
      | handle evt readings =>
          obtain ⟨rest, taken, handled⟩ := queuedStep_handle stepped
          obtain ⟨⟨element, others⟩, popped, equal⟩ := Option.map_eq_some_iff.mp taken
          cases equal
          rcases ahead_of_popBelow stands popped with ⟨-, same⟩ | ⟨left, position, waits⟩
          · subst same
            have idle : Idle { car with events := ⟨others⟩ } := guarded.idle
            have stopped := (guarded_nearAgain idle guarded.released handled).2
            exact .inl fun drives => stopped drives.2
          · have queued := queued_handleEvent handled
            exact .inr ⟨left, ⟨kept, stands_of_prefix queued waits⟩, Nat.le_of_eq position.symm⟩
      | _ => cases handling

instance (car : AgvCar) : Decidable car.DrivesNear := inferInstanceAs (Decidable (_ ∧ _ ∧ _))

instance (readings : Readings) (evt : AgvEvent) (car : AgvCar) :
    Decidable (car.Revives readings evt) :=
  inferInstanceAs (Decidable (_ ∧ _ ∧ _ ∧ _ ∧ _))

end AgvCar

instance (car : AgvCar) (label : CarStep) (next : AgvCar) :
    Decidable (NotRevived car label next) :=
  match label with
  | .handle evt readings => inferInstanceAs (Decidable (¬ car.Revives readings evt))
  | .post _ | .loop _ | .arrive | .halt | .lifter _ _ => inferInstanceAs (Decidable True)

/-! ## Runs -/

/-- In every run that revives no stopped car, with any path stored at the start, a car that drives
with a near obstacle noted has the event of the barrier in the urgent queue, and behind as many
handled events as stand up to it the car does not drive at the obstacle any more. -/
theorem near_obstacle_stops (router : RoutePlanner) (front back : List CarStep)
    (car last : AgvCar)
    (unrevived : Along queuedStep NotRevived (front ++ back) { AgvCar.init with router })
    (reached : run queuedStep front { AgvCar.init with router } = some car)
    (drives : car.DrivesNear) (continued : run queuedStep back car = some last) :
    ∃ ahead, (car.events.eventList urgent)[ahead]? = some nearAgain ∧
      (ahead < back.countP CarStep.isHandle →
        ∃ begun rest stopped, back = begun ++ rest ∧
          run queuedStep begun car = some stopped ∧ ¬ stopped.DrivesNear) := by
  obtain ⟨before, behind⟩ := along_append unrevived
  have guarded : car.Guarded :=
    invariant_of_guard
      (fun _ _ _ guarded stepped met => AgvCar.guarded_queuedStep guarded stepped met)
      (AgvCar.guarded_init router) before reached
  obtain ⟨ahead, stands⟩ := List.mem_iff_getElem?.mp (guarded.waits drives)
  refine ⟨ahead, stands, fun many => ?_⟩
  exact exists_done_of_countdown
    (fun _ _ _ _ waiting stepped met => AgvCar.nearBehind_queuedStep waiting stepped met)
    ⟨guarded, stands⟩ (behind car reached) continued many

/-- A near barrier has stopped the car, and the start key is pressed with the barrier there. -/
def startAtBarrier : List CarStep :=
  [.post { event := .evKeyAutoMode }, .handle { event := .evKeyAutoMode } {},
    .post { event := .evGetNewPath, data := .stationList },
    .handle { event := .evGetNewPath, data := .stationList }
      { stationList := [stationAhead 1 1] },
    .handle { event := .evApplyPath } {},
    .post { event := .evNearBarrier, priority := urgent }, .handle nearAgain {},
    .post { event := .evKeyStart }, .handle { event := .evKeyStart } { laserStuta := 1 }]

theorem near_obstacle_stops_start :
    ∃ car last : AgvCar, car.DrivesNear ∧ ¬ last.DrivesNear ∧
      ∃ ahead, (car.events.eventList urgent)[ahead]? = some nearAgain ∧
        (ahead < 1 → ∃ begun rest stopped, [CarStep.handle nearAgain {}] = begun ++ rest ∧
          run queuedStep begun car = some stopped ∧ ¬ stopped.DrivesNear) := by
  have moves : ((run queuedStep startAtBarrier .init).map fun car => decide car.DrivesNear) =
      some true := by decide
  have halts : ((run queuedStep (startAtBarrier ++ [.handle nearAgain {}]) .init).map
      fun last => decide last.DrivesNear) = some false := by decide
  obtain ⟨car, reached, drives⟩ := Option.map_eq_some_iff.mp moves
  obtain ⟨last, ended, stops⟩ := Option.map_eq_some_iff.mp halts
  rw [run_append, reached, Option.bind_some] at ended
  have driving := of_decide_eq_true drives
  exact ⟨car, last, driving, of_decide_eq_false stops,
    near_obstacle_stops AgvCar.init.router startAtBarrier [.handle nearAgain {}] car last
      (by decide) reached driving ended⟩

end DrivingControl.Controler

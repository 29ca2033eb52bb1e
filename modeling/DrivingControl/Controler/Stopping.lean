import DrivingControl.Controler.CarTargets

/-!
# Stopping

A car with the status `StatusStopped` should have no active target.  The target is only
cleared when the status changes, so a target that is sent to a car with this status
stays.  One event does that: a barrier goes while the car has been stopped by a new path
and the stop button is not set.
-/

namespace DrivingControl.Controler

open DrivingControl.Comm DrivingControl.Event DrivingControl.Library

/-- A stopped car has no target, and none is left behind the stop key. -/
def StopsTarget (car : AgvCar) (label : CarStep) (next : AgvCar) : Prop :=
  (next.carInfo.status = .stopped → next.controler.moveHelper.isRunning = false) ∧
    match label with
    | .handle evt _ =>
        evt.event = .evKeyStop → car.operateMode = .autoMode →
          next.controler.moveHelper.isRunning = false
    | _ => True

/-- The target `ResetLastTargetStation` sends is accepted. -/
def CarControler.ResumeAccepted (split : PathMag → Split) (controler : CarControler) : Prop :=
  controler.lastPathMag.station ≠ 0 ∧
    MoveHelper.Accepts split
      { controler.lastPathMag with liftHeight := controler.lastPathMag.action }

instance (split : PathMag → Split) (controler : CarControler) :
    Decidable (controler.ResumeAccepted split) :=
  inferInstanceAs (Decidable (_ ∧ _))

/-- The end of a barrier gives a car with the status `StatusStopped` a target. -/
def AgvCar.Revives (readings : Readings) (evt : AgvEvent) (car : AgvCar) : Prop :=
  evt.event = .evBarrierOk ∧ car.operateMode = .autoMode ∧
    car.recovers .evBarrierOk evt.param = true ∧ car.carInfo.status = .stopped ∧
    car.controler.ResumeAccepted readings.split

/-- No barrier ends in a car with the status `StatusStopped` that would go on. -/
def NotRevived (car : AgvCar) (label : CarStep) (_ : AgvCar) : Prop :=
  match label with
  | .handle evt readings => ¬ car.Revives readings evt
  | _ => True

instance (car : AgvCar) (label : CarStep) (next : AgvCar) :
    Decidable (StopsTarget car label next) :=
  match label with
  | .handle _ _ => inferInstanceAs (Decidable ((_ → _) ∧ (_ → _ → _)))
  | .post _ | .loop _ | .arrive | .halt | .lifter _ _ =>
      inferInstanceAs (Decidable ((_ → _) ∧ True))

namespace AgvCar

open CarControler

variable {readings : Readings} {car next : AgvCar} {evt : AgvEvent}

/-! ## Barriers -/

/-- A target that is not accepted leaves a stopped car idle. -/
theorem idle_resetLastTargetStation (readings : Readings) (idle : car.Idle)
    (fails : car.carInfo.status = .stopped → ¬ car.controler.ResumeAccepted readings.split) :
    (car.resetLastTargetStation readings).Idle := by
  rcases resends_resetLastTargetStation readings car with ⟨resends, info, lastInfo⟩
  have drives := resends.sends.moveHelper
  intro stopped
  rw [info] at stopped
  rcases idle stopped with ⟨resting, kept⟩
  refine ⟨Bool.eq_false_iff.mpr fun running => ?_, by rw [lastInfo, kept]⟩
  have rests : car.controler.moveHelper.Rests
      (car.resetLastTargetStation readings).controler.moveHelper := by
    rw [resumedEntry] at drives
    split at drives
    · exact drives
    next saved =>
      have rejects : ¬ MoveHelper.Accepts readings.split _ :=
        fun accepts => fails stopped ⟨saved, accepts⟩
      simpa [entry, rejects, DrivesAfter] using drives
  simp [rests.isRunning running] at resting

/-- The status of a barrier other than the end of one is never `StatusStopped`. -/
theorem idle_actOnBarrier (readings : Readings) (event : EventList)
    (barrier : IsBarrier event) (idle : car.Idle)
    (fails : event = .evBarrierOk →
      (!car.stopButton && isStopping car.lastEvent && !isStopping event) = true →
      car.carInfo.status = .stopped → ¬ car.controler.ResumeAccepted readings.split) :
    (car.actOnBarrier readings event).Idle := by
  have acts : ∀ car : AgvCar, car.Idle →
      ({ car with lastEvent := event }.barrierStatus event).Idle :=
    fun car idle => (keeps_barrierStatus event _).idle idle
  rw [actOnBarrier]
  by_cases pressed : car.stopButton = true
  · rw [if_pos pressed]
    exact idle
  · rw [if_neg pressed]
    by_cases goesOn : (isStopping car.lastEvent && !isStopping event) = true
    · simp only [if_pos goesOn]
      rcases barrier with rfl | rfl | rfl | rfl | rfl
      · simp [isStopping] at goesOn
      · intro (stopped : CarStatus.warning = .stopped)
        cases stopped
      · intro (stopped : CarStatus.warning = .stopped)
        cases stopped
      · simp [isStopping] at goesOn
      · exact acts _ (idle_resetLastTargetStation readings idle
          (fails rfl (by simpa [pressed] using goesOn)))
    · simp only [if_neg goesOn]
      exact acts car idle

/-- A barrier event keeps a stopped car idle unless it revives it. -/
theorem idle_onBarrierMessage (idle : car.Idle) (automatic : car.operateMode = .autoMode)
    (barrier : IsBarrier evt.event) (fails : ¬ car.Revives readings evt) :
    (car.onBarrierMessage readings evt.event evt.param).Idle := by
  rw [onBarrierMessage]
  cases filtered : car.ignoresBarrier evt.param || car.hidesBarrier evt.event with
  | true => exact idle
  | false =>
      have flagged : car.barrierFlags evt.event = _ := onlyError_barrierFlags evt.event car
      simp only [Bool.false_eq_true, if_false]
      generalize (car.barrierFlags evt.event).carInfo.error = error at flagged
      rw [flagged]
      refine idle_actOnBarrier readings evt.event barrier idle ?_
      intro ends goesOn stopped accepted
      refine fails ⟨ends, automatic, ?_, stopped, accepted⟩
      rw [ends] at filtered goesOn
      simpa [recovers, filtered] using goesOn

theorem isRunning_resetLastTargetStation
    (accepted : car.controler.ResumeAccepted readings.split) :
    (car.resetLastTargetStation readings).controler.moveHelper.isRunning = true := by
  have running := (MoveHelper.setTarget_accepted readings.split _ car.controler.moveHelper
    accepted.2).1
  rw [resetLastTargetStation, afterIssue, CarControler.resetLastTargetStation]
  rw [if_neg accepted.1]
  split <;> exact running

theorem running_actOnBarrier (stopped : car.carInfo.status = .stopped)
    (kept : car.lastCarInfo.status = .stopped) (released : car.stopButton = false)
    (stopping : isStopping car.lastEvent = true)
    (accepted : car.controler.ResumeAccepted readings.split) :
    (car.actOnBarrier readings .evBarrierOk).carInfo.status = .stopped ∧
      (car.actOnBarrier readings .evBarrierOk).controler.moveHelper.isRunning = true := by
  have running := isRunning_resetLastTargetStation accepted
  rcases resends_resetLastTargetStation readings car with ⟨-, info, lastInfo⟩
  have goesOn : (isStopping car.lastEvent && !isStopping .evBarrierOk) = true := by
    rw [stopping]
    rfl
  rw [actOnBarrier]
  rw [if_neg (by simp [released])]
  simp only [if_pos goesOn, barrierStatus]
  rw [lastInfo, kept, controler_setCarStatus_stopped _ (by rw [info, stopped])]
  exact ⟨rfl, running⟩

/-- A revived car has a target and the status `StatusStopped`. -/
theorem running_of_revives (idle : car.Idle) (revives : car.Revives readings evt)
    (handled : car.handleEvent readings evt = some next) :
    next.carInfo.status = .stopped ∧ next.controler.moveHelper.isRunning = true := by
  rcases revives with ⟨ends, automatic, recovering, stopped, accepted⟩
  simp only [recovers, Bool.and_eq_true, Bool.not_eq_true'] at recovering
  rcases recovering with ⟨⟨⟨passes, released⟩, stopping⟩, -⟩
  have answered : next = (car.barrierFlags .evBarrierOk).actOnBarrier readings .evBarrierOk := by
    simpa [handleEvent, ends, automatic, onBarrierMessage, passes] using handled.symm
  have flagged : car.barrierFlags .evBarrierOk = _ := onlyError_barrierFlags .evBarrierOk car
  rw [answered, flagged]
  exact running_actOnBarrier stopped (idle stopped).2 released stopping accepted

/-- Every event keeps a stopped car idle unless it revives it. -/
theorem idle_handleEvent (idle : car.Idle) (fails : ¬ car.Revives readings evt)
    (handled : car.handleEvent readings evt = some next) : next.Idle := by
  by_cases sending : sendsTarget evt.event = true
  · cases handlesTarget_of_sendsTarget sending handled with
    | start kind automatic started => exact (starts_startRun automatic started).idle idle
    | arrival kind arrived =>
        rcases onArrivedStation_eq_some arrived with ⟨target, present, finished⟩
        have performs := performs_doPathPointAction target car
        rcases finished with ⟨done, finishes⟩ | ⟨moving, same⟩
        · exact finishes.idle (performs.idle idle)
        · exact same ▸ performs.idle idle
    | lift kind lifting finished => exact (finishes_onStationActionFinished finished).idle idle
    | barrier kind automatic same => exact same ▸ idle_onBarrierMessage idle automatic kind fails
    | startIgnored kind manual same => exact same ▸ idle
    | liftIgnored kind other same => exact same ▸ idle
    | barrierIgnored kind manual same => exact same ▸ idle
  · exact (calm_of_quiet (Bool.eq_false_iff.mpr sending) handled).idle idle

end AgvCar

/-! ## Runs -/

/-- The motion thread and the lifter keep a stopped car idle. -/
theorem idle_carStep {label : CarStep} {car next : AgvCar} (idle : car.Idle)
    (stepped : carStep label car = some next) (fails : NotRevived car label next) :
    next.Idle := by
  cases label with
  | handle evt readings => exact AgvCar.idle_handleEvent idle fails stepped
  | _ =>
      have background := AgvCar.background_carStep rfl stepped
      intro stopped
      rw [background.carInfo] at stopped
      rcases idle stopped with ⟨resting, kept⟩
      refine ⟨Bool.eq_false_iff.mpr fun running => ?_, by rw [background.lastCarInfo, kept]⟩
      simp [background.moveHelper.isRunning running] at resting

/-- One step of an idle car. -/
theorem stopsTarget_iff_notRevived (car : AgvCar) (label : CarStep) (next : AgvCar)
    (idle : car.Idle) (stepped : carStep label car = some next) :
    StopsTarget car label next ↔ NotRevived car label next := by
  constructor
  · intro stops
    cases label with
    | handle evt readings =>
        intro revives
        rcases AgvCar.running_of_revives idle revives stepped with ⟨stopped, running⟩
        simp [stops.1 stopped] at running
    | _ => trivial
  · intro fails
    have resting := idle_carStep idle stepped fails
    refine ⟨fun stopped => (resting stopped).1, ?_⟩
    cases label with
    | handle evt readings =>
        intro stop automatic
        have stopped : next = car.stopCar := by
          simpa [carStep, AgvCar.handleEvent, stop, automatic] using stepped.symm
        exact (resting (by rw [stopped]; rfl)).1
    | _ => trivial

/-- In every run of the car from its start, with any path stored, a car with the status
`StatusStopped` has no target exactly if no barrier ends in such a car that would go on. -/
theorem along_stopsTarget_iff (router : RoutePlanner) (labels : List CarStep) :
    Along carStep StopsTarget labels { AgvCar.init with router } ↔
      Along carStep NotRevived labels { AgvCar.init with router } :=
  along_iff_of_guard (fun _ _ _ idle stepped fails => idle_carStep idle stepped fails)
    stopsTarget_iff_notRevived (fun stopped => nomatch stopped)

/-- A barrier stops the car, a new path is installed and the barrier goes: the old target
is sent to a car that keeps the status `StatusStopped`. -/
theorem barrier_revives :
    ¬ ∀ labels : List CarStep, Along carStep StopsTarget labels AgvCar.init := by
  intro stops
  have revived := stops (departure [stationAhead 1 1] ++
    [.handle { event := .evNearBarrier } {},
      .handle { event := .evGetNewPath, data := .stationList }
        { stationList := [stationAhead 2 1] },
      .handle { event := .evBarrierOk } {}])
  exact absurd revived (by decide)

end DrivingControl.Controler

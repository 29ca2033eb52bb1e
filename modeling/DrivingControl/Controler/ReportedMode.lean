import DrivingControl.Controler.CarActs

/-!
# The reported mode

The server is told a status, and `SetCarStatus` makes it `ManualMode` whenever the car is
in manual mode.  A switch to automatic mode enters the status `StatusNormal`.  When the
car has that status already, `SetCarStatus` passes over the new report, and the server is
still told `ManualMode`.
-/

namespace DrivingControl.Controler

open DrivingControl.Event DrivingControl.Library

/-- The status that is sent is `ManualMode` exactly for that report. -/
theorem ReportedStatus.sent_eq_iff (report : ReportedStatus) :
    UInt8.ofInt report.value = 8 ↔ report = .manualMode := by
  cases report <;> decide

namespace AgvCar

/-! ## The report and the mode in step -/

/-- The server is told `ManualMode` exactly in manual mode. -/
def ReportsMode (car : AgvCar) : Prop :=
  car.router.curStatus.status = 8 ↔ car.operateMode = .manualMode

instance (car : AgvCar) : Decidable car.ReportsMode := inferInstanceAs (Decidable (_ ↔ _))

/-- What was sent is the present report, as far as manual mode goes, and it is in step
with the mode. -/
structure Truthful (car : AgvCar) : Prop where
  report : car.reportStatus = .manualMode ↔ car.operateMode = .manualMode
  sent : car.router.curStatus.status = 8 ↔ car.reportStatus = .manualMode

theorem Truthful.reportsMode {car : AgvCar} (truthful : car.Truthful) : car.ReportsMode :=
  truthful.sent.trans truthful.report

/-- The mode is the same, and a report in step with it stays so. -/
structure Tells (car next : AgvCar) : Prop where
  mode : next.operateMode = car.operateMode
  truthful : car.Truthful → next.Truthful

variable {readings : Readings} {car next last : AgvCar} {evt : AgvEvent}

theorem Tells.refl (car : AgvCar) : Tells car car := ⟨rfl, id⟩

theorem Tells.trans (first : Tells car next) (second : Tells next last) : Tells car last :=
  ⟨second.mode.trans first.mode, second.truthful ∘ first.truthful⟩

/-- The fields that the report is about. -/
def told (car : AgvCar) : OperateMode × ReportedStatus × UInt8 :=
  (car.operateMode, car.reportStatus, car.router.curStatus.status)

/-- The other fields do not matter. -/
theorem tells_of_told (same : next.told = car.told) : Tells car next := by
  simp only [told, Prod.mk.injEq] at same
  rcases same with ⟨mode, report, sent⟩
  refine ⟨mode, fun truthful => ⟨?_, ?_⟩⟩
  · rw [report, mode]
    exact truthful.report
  · rw [sent, report]
    exact truthful.sent

/-- `SetCarStatus` never reports `ManualMode` anew but in manual mode. -/
theorem finalReport_eq_iff (status : CarStatus) (para : Int)
    (fresh : car.reportStatus = .manualMode → car.operateMode = .manualMode) :
    car.finalReport status para = .manualMode ↔ car.operateMode = .manualMode := by
  rw [finalReport]
  by_cases manual : car.operateMode = .manualMode
  · simp [manual]
  · have other : car.reportStatus ≠ .manualMode := fun report => manual (fresh report)
    simp only [manual, if_false, iff_false]
    split
    · exact nofun
    · split
      · cases status with
        | error =>
            simp only [statusReport, errorReport]
            repeat' split
            all_goals simp [other]
        | lowPower =>
            simp only [statusReport]
            split
            · exact other
            · exact nofun
        | warning | turningLeft | turningRight => exact other
        | _ => exact nofun
      · exact other

theorem truthful_setCarStatus (status : CarStatus) (para : Int)
    (fresh : car.reportStatus = .manualMode → car.operateMode = .manualMode) :
    (car.setCarStatus status para).Truthful where
  report := finalReport_eq_iff status para fresh
  sent := ReportedStatus.sent_eq_iff _

theorem tells_setCarStatus (status : CarStatus) (para : Int) (car : AgvCar) :
    Tells car (car.setCarStatus status para) :=
  ⟨rfl, fun truthful => truthful_setCarStatus status para truthful.report.mp⟩

/-- Every operation of a handler keeps the report in step. -/
theorem Act.tells (act : Act car next) : Tells car next := by
  cases act with
  | setCarStatus status para => exact tells_setCarStatus status para car
  | onStationMessage readings x y angle =>
      exact ⟨rfl, fun truthful => ⟨truthful.report, ReportedStatus.sent_eq_iff _⟩⟩
  | route same =>
      refine tells_of_told ?_
      simp only [told, same.curStatus]
  | note noted =>
      refine tells_of_told ?_
      rw [Noted] at noted
      rw [noted]
      rfl
  | _ => exact tells_of_told rfl

/-! ## Events -/

/-- Every event but the two that switch the mode keeps the report in step. -/
theorem tells_handleEvent (handled : car.handleEvent readings evt = some next)
    (notAuto : evt.event ≠ .evKeyAutoMode) (notManual : evt.event ≠ .evKeyManualMode) :
    Tells car next := by
  cases ordinary : exceptional evt.event with
  | false => exact (acts_handleEvent ordinary handled).relates .refl .trans Act.tells
  | true =>
      cases handlesExceptional_of_exceptional ordinary handled with
      | autoMode kind => exact absurd kind notAuto
      | manualMode kind => exact absurd kind notManual
      | sensorOnline kind => exact tells_of_told rfl
      | sensorOffline kind => exact tells_of_told rfl
      | networkError kind =>
          rw [onNetworkError]
          split <;> exact tells_of_told rfl

/-- Manual mode is reported as soon as it is entered. -/
theorem truthful_onKeyManualMode (truthful : car.Truthful) : car.onKeyManualMode.Truthful := by
  rw [onKeyManualMode]
  split
  · exact truthful_setCarStatus _ _ fun _ => rfl
  · exact truthful

/-- Whether a switch to automatic mode passes over the report of manual mode. -/
def leavesStale (evt : AgvEvent) (car : AgvCar) : Prop :=
  evt.event = .evKeyAutoMode ∧ car.operateMode = .manualMode ∧
    car.carInfo.status = .normal ∧ car.fristSetStatus = false

instance (evt : AgvEvent) (car : AgvCar) : Decidable (car.leavesStale evt) :=
  inferInstanceAs (Decidable (_ ∧ _))

/-- In automatic mode `SetCarStatus` leaves a report of manual mode only if the car has the
status already. -/
theorem finalReport_normal_eq_iff (automatic : car.operateMode = .autoMode) (para : Int) :
    car.finalReport .normal para = .manualMode ↔
      car.reportStatus = .manualMode ∧ car.carInfo.status = .normal ∧
        car.fristSetStatus = false := by
  have acts : car.actsOn .normal = decide (car.carInfo.status ≠ .normal) := by
    cases status : car.carInfo.status <;> simp [actsOn, status]
  have notInit : (CarStatus.normal == .init) = false := by decide
  simp only [finalReport, automatic, reduceCtorEq, if_false, acts, statusReport, notInit,
    Bool.not_false, Bool.and_true, decide_eq_true_eq]
  cases first : car.fristSetStatus with
  | true => simp
  | false => by_cases normal : car.carInfo.status = .normal <;> simp [normal]

/-- The mode and the report behind a switch to automatic mode. -/
theorem told_onKeyAutoMode (readings : Readings) (switches : car.operateMode ≠ .autoMode) :
    ∃ report, (car.onKeyAutoMode readings).told = (.autoMode, report, .ofInt report.value) ∧
      (report = .manualMode ↔ car.reportStatus = .manualMode ∧
        car.carInfo.status = .normal ∧ car.fristSetStatus = false) := by
  let switched : AgvCar := { car with
    operateMode := .autoMode
    controler := { car.controler with operateMode := .autoMode } }
  have stale : switched.finalReport .normal mp3Mute = .manualMode ↔ _ :=
    finalReport_normal_eq_iff rfl mp3Mute
  refine ⟨switched.finalReport .normal mp3Mute, ?_, stale⟩
  simp only [onKeyAutoMode, if_pos switches, told]
  rw [(RoutePlanner.sameReports_reloadPathList _ _).curStatus]
  rfl

/-- A switch to automatic mode keeps the report in step exactly if it does not pass over
it. -/
theorem reportsMode_onKeyAutoMode (readings : Readings) (truthful : car.Truthful) :
    ((car.onKeyAutoMode readings).ReportsMode ↔
        ¬ (car.operateMode = .manualMode ∧ car.carInfo.status = .normal ∧
          car.fristSetStatus = false)) ∧
      ((car.onKeyAutoMode readings).ReportsMode → (car.onKeyAutoMode readings).Truthful) := by
  by_cases switches : car.operateMode = .autoMode
  · have still : car.onKeyAutoMode readings = car := by simp [onKeyAutoMode, switches]
    rw [still]
    exact ⟨by simp [truthful.reportsMode, switches], fun _ => truthful⟩
  · rcases told_onKeyAutoMode readings switches with ⟨report, told, stale⟩
    simp only [AgvCar.told, Prod.mk.injEq] at told
    rcases told with ⟨mode, same, sent⟩
    rw [truthful.report] at stale
    have reports : (car.onKeyAutoMode readings).ReportsMode ↔ report ≠ .manualMode := by
      simp [ReportsMode, mode, sent, ReportedStatus.sent_eq_iff]
    refine ⟨reports.trans (not_congr stale), fun fresh => ⟨?_, ?_⟩⟩
    · rw [same, mode]
      simp [reports.mp fresh]
    · rw [same, sent]
      exact ReportedStatus.sent_eq_iff report

/-- Every event keeps the report in step exactly if it is not a switch that passes over
it. -/
theorem reportsMode_handleEvent (truthful : car.Truthful)
    (handled : car.handleEvent readings evt = some next) :
    (next.ReportsMode ↔ ¬ car.leavesStale evt) ∧ (next.ReportsMode → next.Truthful) := by
  by_cases auto : evt.event = .evKeyAutoMode
  · simp only [handleEvent, auto, Option.some.injEq] at handled
    subst handled
    simpa [leavesStale, auto] using reportsMode_onKeyAutoMode readings truthful
  · have fresh : ¬ car.leavesStale evt := fun stale => auto stale.1
    have kept : next.Truthful := by
      by_cases manual : evt.event = .evKeyManualMode
      · simp only [handleEvent, manual, Option.some.injEq] at handled
        subst handled
        exact truthful_onKeyManualMode truthful
      · exact (tells_handleEvent handled auto manual).truthful truthful
    exact ⟨iff_of_true kept.reportsMode fresh, fun _ => kept⟩

end AgvCar

/-! ## Runs -/

/-- No switch to automatic mode passes over the report. -/
def SwitchesFresh (car : AgvCar) (label : CarStep) (_ : AgvCar) : Prop :=
  match label with
  | .handle evt _ => ¬ car.leavesStale evt
  | _ => True

instance (car next : AgvCar) (label : CarStep) : Decidable (SwitchesFresh car label next) := by
  simp only [SwitchesFresh]
  split <;> infer_instance

/-- The other threads leave what the report is about. -/
theorem told_carStep {car next : AgvCar} {label : CarStep}
    (stepped : carStep label car = some next) (other : label.isHandle = false) :
    next.told = car.told := by
  cases label with
  | handle evt readings => cases other
  | post evt => cases stepped; rfl
  | loop ret =>
      simp only [carStep] at stepped
      split at stepped
      · cases stepped
      · cases stepped
        rw [AgvCar.loop]
        split
        · dsimp only
          split <;> rfl
        · rfl
  | arrive =>
      simp only [carStep] at stepped
      split at stepped <;> cases stepped
      rfl
  | halt =>
      simp only [carStep] at stepped
      split at stepped <;> cases stepped
      rfl
  | lifter height lstatus => cases stepped; rfl

theorem reportsMode_carStep {car next : AgvCar} {label : CarStep} (truthful : car.Truthful)
    (stepped : carStep label car = some next) :
    (next.ReportsMode ↔ SwitchesFresh car label next) ∧
      (next.ReportsMode → next.Truthful) := by
  cases named : label with
  | handle evt readings =>
      subst named
      exact AgvCar.reportsMode_handleEvent truthful stepped
  | _ =>
      have kept : next.Truthful := (AgvCar.tells_of_told (told_carStep stepped
        (by simp [named, CarStep.isHandle]))).truthful truthful
      exact ⟨iff_of_true kept.reportsMode trivial, fun _ => kept⟩

/-- From the start of the program on, with any path and settings stored, the server is told
`ManualMode` exactly in manual mode behind every step, exactly if no step leaves manual mode
while the car has the status `StatusNormal` and has been ready once. -/
theorem reportsMode_along_iff (file : Option (List WayPoint)) (setting : PathSetting)
    (steps : List CarStep) :
    Along carStep (fun _ _ next => next.ReportsMode) steps
        { AgvCar.init with router := { file, setting } } ↔
      Along carStep SwitchesFresh steps { AgvCar.init with router := { file, setting } } := by
  have initial : AgvCar.init.Truthful := ⟨by decide, by decide⟩
  have started : ({ AgvCar.init with router := { file, setting } } : AgvCar).Truthful :=
    ⟨initial.report, initial.sent⟩
  refine along_iff_of_guard ?_ ?_ started
  · intro car label next truthful stepped fresh
    have both := reportsMode_carStep truthful stepped
    exact both.2 (both.1.mpr fresh)
  · intro car label next truthful stepped
    exact (reportsMode_carStep truthful stepped).1

/-- The system is ready, manual mode is entered, the end of the path that was waiting is
handled, and automatic mode is entered again. -/
def finishedInManual : List CarStep :=
  [.handle { event := .evSysReady } {}, .handle { event := .evKeyManualMode } {},
    .handle { event := .evPathFinished } {}, .handle { event := .evKeyAutoMode } {}]

/-- The server is still told `ManualMode` there. -/
theorem finishedInManual_stale :
    ¬ Along carStep (fun _ _ next => next.ReportsMode) finishedInManual AgvCar.init := by
  decide

end DrivingControl.Controler

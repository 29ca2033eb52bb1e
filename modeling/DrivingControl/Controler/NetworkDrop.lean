import DrivingControl.Controler.Abreast
import DrivingControl.Controler.NetworkFlag
import DrivingControl.Controler.QueueBlind

/-!
# Network drops

When the network is back, the planner starts again and reads its path from the file.  The
cursor was saved with every move, but the list only when it was installed: what
`GoToNextPoint` has decided for the target since, and that its action is finished, is
undone.  The way points ahead are still as in the file.

When the network goes, the scheduler is stopped, and a connection that it takes down queues
an event that stops the car if the settings say so.

A drop goes unnoticed as long as the target is in memory as in the file and that event finds
nothing to stop.
-/

namespace DrivingControl.Controler

open DrivingControl.Comm DrivingControl.Event DrivingControl.Library

namespace RoutePlanner

/-- The way points as `loadPathInfo` reads them from the path file. -/
def restored (points : List WayPoint) : List WayPoint :=
  points.map fun point => { point with radius := 0, actionFinish := false }

/-- Behind the target the list is as in the file. -/
structure AsFiled (points : List WayPoint) (router : RoutePlanner) : Prop where
  nonneg : 0 ≤ router.targetPathId
  length : router.pathList.length = points.length
  ahead : ∀ i : Nat, router.targetPathId < i → router.pathList[i]? = (restored points)[i]?

variable {router other : RoutePlanner} {points : List WayPoint} {path target : WayPoint}

namespace AsFiled

theorem routes (filed : AsFiled points router) (route : SameRoute router other) :
    AsFiled points other where
  nonneg := by rw [route.targetPathId]; exact filed.nonneg
  length := by rw [route.pathList, filed.length]
  ahead i behind := by
    rw [route.targetPathId] at behind
    rw [route.pathList, filed.ahead i behind]

theorem rewrites (filed : AsFiled points router) (rewritten : RewritesTarget router other path) :
    AsFiled points other where
  nonneg := by rw [rewritten.targetPathId]; exact filed.nonneg
  length := by rw [rewritten.pathList, List.length_set, filed.length]
  ahead i behind := by
    have nonneg := filed.nonneg
    rw [rewritten.targetPathId] at behind
    rw [rewritten.pathList, List.getElem?_set_ne (by omega), filed.ahead i behind]

/-- The jumped way point and the one that takes its height are no longer behind the
target. -/
theorem chooseNext (filed : AsFiled points router) (readings : Readings) :
    AsFiled points (router.chooseNext readings) := by
  have nonneg := filed.nonneg
  have moved : AsFiled points { router with targetPathId := router.targetPathId + 1 } := by
    refine ⟨by simp only; omega, filed.length, fun i behind => ?_⟩
    simp only at behind
    exact filed.ahead i (by omega)
  rw [RoutePlanner.chooseNext]
  dsimp only
  split
  · split
    · refine ⟨by simp only; omega, ?_, fun i behind => ?_⟩
      · simp only [List.length_set, filed.length]
      · simp only at behind
        simp only
        rw [List.getElem?_set_ne (by omega), filed.ahead i (by omega)]
    · exact moved
  · exact moved

theorem goOn (filed : AsFiled points router) (readings : Readings)
    (present : router.getTargetStation = some target) :
    AsFiled points (router.goOn readings) :=
  (filed.rewrites (rewritesTarget_finishStation present)).chooseNext readings

end AsFiled

/-- What a planner keeps as long as its path file can be written and read. -/
structure Filed (router : RoutePlanner) : Prop where
  saved : router.CursorSaved
  list : ∃ points, router.file = some points ∧ AsFiled points router

theorem Filed.informed (filed : router.Filed) (informed : Informed router other) :
    other.Filed := by
  rw [Informed] at informed
  rw [informed]
  rcases filed with ⟨saved, points, file, filed⟩
  exact ⟨⟨saved.target, saved.last⟩, points, file, filed.nonneg, filed.length, filed.ahead⟩

theorem restored_ofStation (list : List StationInfo) :
    restored (list.map WayPoint.ofStation) = list.map WayPoint.ofStation := by
  rw [restored, List.map_map]
  rfl

/-- An installed path is written to the file. -/
theorem filed_onGetNewPath (list : List StationInfo) (router : RoutePlanner) :
    (router.onGetNewPath true list).1.Filed := by
  refine ⟨⟨rfl, rfl⟩, list.map WayPoint.ofStation, rfl, Int.le_refl 0, rfl, fun i _ => ?_⟩
  rw [restored_ofStation, pathList_onGetNewPath]

/-- A path file that is read. -/
theorem loadPathInfo_eq (file : router.file = some points) :
    router.loadPathInfo true =
      { router with
        pathList := restored points
        setting := { router.setting with pathPointCount := points.length }
        targetPathId := router.setting.targetPointId
        lastPathId := router.setting.lastPointId } := by
  rw [loadPathInfo]
  split
  next nothing => cases nothing.symm.trans file
  next found present =>
    cases file.symm.trans present
    rfl

/-- A path that is reloaded is begun again. -/
theorem filed_reloadPathList (file : router.file = some points) :
    (router.reloadPathList true).Filed := by
  have kept : router.resetPathList.file = some points := file
  rw [reloadPathList, loadPathInfo_eq kept]
  exact ⟨⟨rfl, rfl⟩, points, file, Int.le_refl 0, List.length_map _, fun _ _ => rfl⟩

/-- A planner that starts goes on where it was. -/
theorem start_eq (saved : router.CursorSaved) (file : router.file = some points) :
    router.start true =
      { router with
        pathList := restored points
        setting := { router.setting with pathPointCount := points.length } } := by
  rw [start, loadPathInfo_eq file, saved.target, saved.last]

theorem Filed.start (filed : router.Filed) : (router.start true).Filed := by
  rcases filed with ⟨saved, points, file, filed⟩
  rw [start_eq saved file]
  exact ⟨⟨saved.target, saved.last⟩, points, file, filed.nonneg, List.length_map _,
    fun _ _ => rfl⟩

end RoutePlanner

namespace AgvCar

open RoutePlanner

variable {readings : Readings} {evt : AgvEvent} {car other next : AgvCar}
  {points : List WayPoint}

/-! ## The list behind the target -/

theorem Finishes.asFiled (finishes : Finishes readings car next)
    (filed : AsFiled points car.router) : AsFiled points next.router := by
  cases finishes with
  | again target present finished same => exact same ▸ filed
  | last target present unfinished last keeps =>
      exact (filed.rewrites (rewritesTarget_finishStation present)).routes keeps.route
  | goes target path present unfinished chosen departs =>
      exact (filed.goOn readings present).rewrites departs.rewrites

/-- No event that loads no path changes a way point behind the target. -/
theorem asFiled_handleEvent (stays : loadsPath evt.event = false)
    (handled : car.handleEvent readings evt = some next) (filed : AsFiled points car.router) :
    AsFiled points next.router := by
  by_cases sending : sendsTarget evt.event = true
  · cases handlesTarget_of_sendsTarget sending handled with
    | start kind automatic started =>
        cases starts_startRun automatic started with
        | empty nothing same => exact same ▸ filed
        | first path cursor present departs => exact filed.rewrites departs.rewrites
        | resumes nonempty cursor resends status => exact filed.routes resends.route
    | arrival kind arrived =>
        rcases onArrivedStation_eq_some arrived with ⟨target, present, finished⟩
        have performed := filed.routes (performs_doPathPointAction target car).route
        rcases finished with ⟨done, finishes⟩ | ⟨moving, same⟩
        · exact finishes.asFiled performed
        · exact same ▸ performed
    | lift kind lifting finished => exact (finishes_onStationActionFinished finished).asFiled filed
    | barrier kind automatic same =>
        have resends := resends_onBarrierMessage readings evt.event evt.param car
        exact same ▸ filed.routes resends.route
    | startIgnored kind manual same => exact same ▸ filed
    | liftIgnored kind other same => exact same ▸ filed
    | barrierIgnored kind manual same => exact same ▸ filed
  · exact filed.routes (keeps_of_quiet (Bool.eq_false_iff.mpr sending) stays handled).route

/-! ## The path file -/

/-- The path file behind an event. -/
def fileBehind (readings : Readings) (evt : AgvEvent) (file : Option (List WayPoint)) :
    Option (List WayPoint) :=
  if evt.event = .evGetNewPath ∧ evt.data ≠ .null ∧ readings.fileOpens = true then
    some (readings.stationList.map WayPoint.ofStation)
  else file

/-- Entering manual mode only forgets the last station. -/
theorem informs_onKeyManualMode (car : AgvCar) :
    Informed { car.router with lastStationPoint := car.onKeyManualMode.router.lastStationPoint }
      car.onKeyManualMode.router := by
  rw [onKeyManualMode]
  split
  · exact rfl
  · exact rfl

theorem informs_onGetNewPath (readings : Readings) (car : AgvCar) :
    Informed (car.router.onGetNewPath readings.fileOpens readings.stationList).1
      (car.onGetNewPath readings).router := by
  unfold onGetNewPath
  dsimp only
  split <;> exact rfl

theorem informs_onPathFinished (readings : Readings) (car : AgvCar) :
    ∃ router, Informed car.router router ∧
      (car.onPathFinished readings).router = router.reloadPathList readings.fileOpens := by
  refine ⟨(car.stopCar.setCarStatus .normal mp3Normal).router, rfl, ?_⟩
  unfold onPathFinished
  dsimp only
  split <;> rfl

theorem informs_onKeyAutoMode (readings : Readings) (car : AgvCar) :
    (car.onKeyAutoMode readings).router = car.router ∨
      ∃ router, Informed car.router router ∧
        (car.onKeyAutoMode readings).router = router.reloadPathList readings.fileOpens := by
  rw [onKeyAutoMode]
  split
  · refine .inr ⟨_, ?_, rfl⟩
    exact rfl
  · exact .inl rfl

/-- Only a new path is written to the file. -/
theorem file_handleEvent (handled : car.handleEvent readings evt = some next) :
    next.router.file = fileBehind readings evt car.router.file := by
  have ofInformed : ∀ {router other : RoutePlanner}, Informed router other →
      other.file = router.file := by
    intro router other informed
    exact informed.moves.file
  have ofReload : ∀ (fileOpens : Bool) (router : RoutePlanner),
      (router.reloadPathList fileOpens).file = router.file := by
    intro fileOpens router
    rw [reloadPathList, loadPathInfo]
    split
    · rfl
    · split <;> rfl
  rw [fileBehind]
  cases loads : loadsPath evt.event with
  | true =>
      cases handlesPath_of_loadsPath loads handled with
      | nullPath kind null => simp [null]
      | newPath kind present =>
          rw [ofInformed (informs_onGetNewPath readings car)]
          rw [RoutePlanner.onGetNewPath, savePathInfo]
          cases opens : readings.fileOpens with
          | true => simp [kind, present]
          | false => simp [clearPathList]
      | pathFinished kind =>
          rcases informs_onPathFinished readings car with ⟨router, informed, reloaded⟩
          rw [if_neg (by simp [kind]), reloaded, ofReload, ofInformed informed]
      | autoMode kind =>
          rw [if_neg (by simp [kind])]
          rcases informs_onKeyAutoMode readings car with same | ⟨router, informed, reloaded⟩
          · rw [same]
          · rw [reloaded, ofReload, ofInformed informed]
      | networkOK kind =>
          rw [if_neg (by simp [kind])]
          rw [start, loadPathInfo]
          dsimp only
          split
          · rfl
          · split <;> rfl
  | false =>
      have other : ¬ (evt.event = .evGetNewPath ∧ evt.data ≠ .null ∧
          readings.fileOpens = true) := by
        intro installs
        simp [installs.1, loadsPath] at loads
      rw [if_neg other]
      by_cases manual : evt.event = .evKeyManualMode
      · simp only [handleEvent, manual, Option.some.injEq] at handled
        subst handled
        have kept := ofInformed (informs_onKeyManualMode car)
        exact kept
      · exact (moves_handleEvent loads manual handled).file

/-- As long as the file opens, the planner stays in step with it. -/
theorem filed_handleEvent (opens : readings.fileOpens = true)
    (handled : car.handleEvent readings evt = some next) (filed : car.router.Filed) :
    next.router.Filed := by
  rcases filed.list with ⟨points, file, asFiled⟩
  cases loads : loadsPath evt.event with
  | true =>
      cases handlesPath_of_loadsPath loads handled with
      | nullPath kind null => exact filed
      | newPath kind present =>
          have installed := filed_onGetNewPath readings.stationList car.router
          rw [← opens] at installed
          exact installed.informed (informs_onGetNewPath readings car)
      | pathFinished kind =>
          rcases informs_onPathFinished readings car with ⟨router, informed, reloaded⟩
          rw [reloaded, opens]
          exact filed_reloadPathList (informed.moves.file.trans file)
      | autoMode kind =>
          rcases informs_onKeyAutoMode readings car with same | ⟨router, informed, reloaded⟩
          · exact same ▸ filed
          · rw [reloaded, opens]
            exact filed_reloadPathList (informed.moves.file.trans file)
      | networkOK kind =>
          rw [opens]
          exact filed.start
  | false =>
      by_cases manual : evt.event = .evKeyManualMode
      · simp only [handleEvent, manual, Option.some.injEq] at handled
        subst handled
        have forgotten : Filed { car.router with
            lastStationPoint := car.onKeyManualMode.router.lastStationPoint } :=
          ⟨⟨filed.saved.target, filed.saved.last⟩, points, file, asFiled.nonneg, asFiled.length,
            asFiled.ahead⟩
        exact forgotten.informed (informs_onKeyManualMode car)
      · have moves := moves_handleEvent loads manual handled
        exact ⟨moves.keeps CursorSaved.move filed.saved, points, moves.file.trans file,
          asFiled_handleEvent loads handled asFiled⟩

/-! ## The drop -/

/-- The target is in memory as in the path file. -/
def TargetAsFiled (car : AgvCar) : Prop :=
  ∀ target ∈ car.router.getTargetStation,
    (restored (car.router.file.getD []))[car.router.targetPathId.toNat]? = some target

instance (car : AgvCar) : Decidable car.TargetAsFiled :=
  inferInstanceAs (Decidable (∀ target ∈ car.router.getTargetStation, _))

/-- Two cars abreast whose planners are in step with the same path file. -/
structure InStep (car other : AgvCar) : Prop extends Abreast car other where
  file : other.router.file = car.router.file
  filed : car.router.Filed
  otherFiled : other.router.Filed

/-- They stay in step. -/
theorem InStep.handleEvent (inStep : InStep car other) (opens : readings.fileOpens = true) :
    Option.Rel InStep (car.handleEvent readings evt) (other.handleEvent readings evt) := by
  have abreast : Option.Rel Abreast (car.handleEvent readings evt)
      (other.handleEvent readings evt) :=
    abreast_handleEvent inStep.toAbreast inStep.file inStep.filed.saved inStep.otherFiled.saved
  cases handled : car.handleEvent readings evt with
  | none =>
      cases otherHandled : other.handleEvent readings evt with
      | none => exact .none
      | some otherNext =>
          rw [handled, otherHandled] at abreast
          cases abreast
  | some next =>
      cases otherHandled : other.handleEvent readings evt with
      | none =>
          rw [handled, otherHandled] at abreast
          cases abreast
      | some otherNext =>
          rw [handled, otherHandled] at abreast
          cases abreast with
          | some both =>
              refine .some ⟨both, ?_, filed_handleEvent opens handled inStep.filed,
                filed_handleEvent opens otherHandled inStep.otherFiled⟩
              rw [file_handleEvent handled, file_handleEvent otherHandled, inStep.file]

/-- When the target is in memory as in the file, the path ahead is the one in the file. -/
theorem TargetAsFiled.ahead (unnoticed : car.TargetAsFiled) (file : car.router.file = some points)
    (filed : AsFiled points car.router) (i : Nat) (here : car.router.targetPathId ≤ i) :
    car.router.pathList[i]? = (restored points)[i]? := by
  have nonneg := filed.nonneg
  rcases Int.lt_or_eq_of_le here with behind | atTarget
  · exact filed.ahead i behind
  · have cursor : car.router.targetPathId.toNat = i := by omega
    have same := unnoticed
    rw [TargetAsFiled] at same
    rw [file, Option.getD_some, cursor] at same
    have target : car.router.getTargetStation = car.router.pathList[i]? := by
      rw [getTargetStation, if_pos nonneg, cursor]
    cases present : car.router.getTargetStation with
    | some path => rw [← target, present, same path present]
    | none =>
        have outside := target.symm.trans present
        rw [outside, eq_comm, List.getElem?_eq_none_iff, restored, List.length_map,
          ← filed.length]
        exact List.getElem?_eq_none_iff.mp outside

/-- When the target is in memory as in the file, starting again changes nothing ahead. -/
theorem InStep.start (inStep : InStep car other) (unnoticed : car.TargetAsFiled) :
    InStep (car.withRouter (car.router.start true)) other := by
  rcases inStep.filed.list with ⟨points, file, filed⟩
  have started := start_eq inStep.filed.saved file
  refine ⟨⟨inStep.rest, ?_⟩, ?_, inStep.filed.start, inStep.otherFiled⟩
  · change SameAhead (car.router.start true) other.router
    rw [started]
    constructor
    · exact inStep.ahead.targetPathId
    · exact inStep.ahead.length.trans (filed.length.trans (List.length_map _).symm)
    · intro i here
      exact (inStep.ahead.ahead i here).trans (unnoticed.ahead file filed i here)
  · change other.router.file = (car.router.start true).file
    rw [started]
    exact inStep.file

/-- What the planner reports makes no difference. -/
theorem InStep.informed {router : RoutePlanner} (inStep : InStep car other)
    (informed : Informed car.router router) : InStep (car.withRouter router) other := by
  have route : SameRoute car.router router := by
    rw [Informed] at informed
    rw [informed]
    exact ⟨rfl, rfl⟩
  have file : router.file = car.router.file := informed.moves.file
  exact ⟨⟨inStep.rest, inStep.ahead.routes route (.refl _)⟩, inStep.file.trans file.symm,
    inStep.filed.informed informed, inStep.otherFiled⟩

theorem InStep.refl (filed : car.router.Filed) : InStep car car :=
  ⟨⟨rfl, .of_sameRoute (.refl _)⟩, rfl, filed, filed⟩

/-- A change that leaves the planner alone. -/
theorem InStep.changed (inStep : InStep car other) (act : AgvCar → AgvCar)
    (commutes : ∀ router car, act (car.withRouter router) = (act car).withRouter router) :
    InStep (act car) (act other) := by
  have passes : ∀ car : AgvCar, (act car).router = car.router := by
    intro car
    have passed := congrArg AgvCar.router (commutes car.router car)
    exact passed
  refine ⟨inStep.toAbreast.changed commutes, ?_, ?_, ?_⟩
  · rw [passes, passes, inStep.file]
  · rw [passes]
    exact inStep.filed
  · rw [passes]
    exact inStep.otherFiled

/-- `StopCar` finds nothing to stop. -/
def IsStopped (car : AgvCar) : Prop :=
  car.stopButton = true ∧ car.carInfo.status = .stopped ∧ car.lastCarInfo.status = .stopped ∧
    car.lastCarInfo.voice = mp3Mute ∧ car.finalReport .stopped mp3Mute = car.reportStatus

instance (car : AgvCar) : Decidable car.IsStopped :=
  inferInstanceAs (Decidable (_ ∧ _ ∧ _ ∧ _ ∧ _))

/-- A stopped car that is stopped again only informs the planner. -/
theorem IsStopped.stopCar_eq (stopped : car.IsStopped) :
    car.stopCar = car.withRouter car.stopCar.router := by
  rcases stopped with ⟨button, status, last, voice, report⟩
  have quiet : car.actsOn .stopped = false := by simp [actsOn, status]
  have pressed : { car with stopButton := true } = car := by rw [← button]
  have info : { car.carInfo with status := .stopped } = car.carInfo := by rw [← status]
  have lastInfo : { car.lastCarInfo with status := .stopped, voice := mp3Mute } =
      car.lastCarInfo := by rw [← last, ← voice]
  have first : (car.fristSetStatus && !(CarStatus.stopped == .init)) = car.fristSetStatus :=
    Bool.and_true _
  rw [stopCar, pressed, setCarStatus]
  simp only [withRouter, report, quiet, isKept, info, lastInfo, first, if_true]
  simp

/-- The car when a path was installed. -/
def installed (stations : List StationInfo) (car : AgvCar) : AgvCar :=
  car.onGetNewPath { stationList := stations }

theorem filed_installed (stations : List StationInfo) (car : AgvCar) :
    (car.installed stations).router.Filed :=
  (filed_onGetNewPath stations car.router).informed
    (informs_onGetNewPath { stationList := stations } car)

/-- The targets that were sent and the actions that were performed. -/
def record (car : AgvCar) : List Issued × List (Int × Int) := (car.controler.issued, car.performed)

theorem loop_withRouter (ret : Int) (router : RoutePlanner) (car : AgvCar) :
    (car.withRouter router).loop ret = (car.loop ret).withRouter router := by
  by_cases automatic : car.controler.operateMode = .autoMode
  · have other : (car.withRouter router).controler.operateMode = .autoMode := automatic
    rw [loop, loop, if_pos automatic, if_pos other]
    dsimp only [AgvCar.withRouter]
    split <;> rfl
  · have other : (car.withRouter router).controler.operateMode ≠ .autoMode := automatic
    rw [loop, loop, if_neg automatic, if_neg other]

end AgvCar

/-! ## Runs -/

/-- What a step reads opens the path file. -/
def CarStep.fileOpens : CarStep → Bool
  | .handle _ readings => readings.fileOpens
  | _ => true

/-- The other threads do not look at the planner. -/
theorem inStep_carStep {label : CarStep} {car other : AgvCar} (inStep : car.InStep other)
    (opens : label.fileOpens = true) :
    Option.Rel AgvCar.InStep (carStep label car) (carStep label other) := by
  have same : other.controler = car.controler := by
    rw [inStep.rest]
    rfl
  cases label with
  | handle evt readings => exact inStep.handleEvent opens
  | post evt =>
      exact .some (inStep.changed (fun car =>
        { car with events := car.events.pushEvent evt }) fun _ _ => rfl)
  | loop ret =>
      simp only [carStep, same]
      split
      · exact .none
      · exact .some (inStep.changed (AgvCar.loop ret) (AgvCar.loop_withRouter ret))
  | arrive =>
      simp only [carStep, same]
      split
      · exact .some (inStep.changed AgvCar.finishTarget fun _ _ => rfl)
      · exact .none
  | halt =>
      have halted := inStep.changed (fun car =>
        { car with controler := car.controler.stopCar }) fun _ _ => rfl
      simp only [same] at halted
      simp only [carStep, same]
      split
      · exact .some halted
      · exact .none
  | lifter height lstatus =>
      exact .some (inStep.changed (AgvCar.onLifterStatus height lstatus) fun _ _ => rfl)

/-- A step of an execution, or one of the events of a drop. -/
inductive DropStep where
  | step (label : CarStep)
  /-- `evNetworkError` is handled. -/
  | down (readings : Readings)
  /-- `evSchedulerOffline` is handled, which a connection that was taken down has queued. -/
  | offline (readings : Readings)
  /-- `evNetworkOK` is handled. -/
  | up (readings : Readings)

/-- The step of the execution without drops. -/
def DropStep.seen : DropStep → Option CarStep
  | .step label => some label
  | _ => none

/-- The step of the execution with drops. -/
def DropStep.taken : DropStep → CarStep
  | .step label => label
  | .down readings => .handle { event := .evNetworkError } readings
  | .offline readings => .handle { event := .evSchedulerOffline, priority := important } readings
  | .up readings => .handle { event := .evNetworkOK } readings

/-- One step of an execution with drops. -/
def dropStep : StepFn AgvCar DropStep := fun label => carStep label.taken

/-- The network flag behind a step. -/
def networkBehind (label : CarStep) (down : Bool) : Bool :=
  match label with
  | .handle evt _ =>
      match evt.event with
      | .evNetworkOK => false
      | .evNetworkError => true
      | _ => down
  | _ => down

/-- The network flag as it would be without the drops. -/
def observeNetwork (_ : AgvCar) (label : DropStep) (_ : AgvCar) (down : Bool) : Bool :=
  match label with
  | .step label => networkBehind label down
  | _ => down

/-- The memory is the network flag without the drops. -/
def flaggedStep : StepFn (AgvCar × Bool) DropStep := monitored dropStep observeNetwork

/-- Without a drop so far. -/
def flagged (car : AgvCar) : AgvCar × Bool := (car, car.isHaveError errorNetWork)

/-- When the network is back the target is in memory as in the path file, and the lost
connection stops no car that is not stopped already.  A start-up that depends on the network
alone is not looked at while the drop has changed the flag. -/
def DropsAsFiled (state : AgvCar × Bool) (label : DropStep) (_ : AgvCar × Bool) : Prop :=
  match label with
  | .up _ => state.1.TargetAsFiled
  | .offline readings => readings.isStopCarForScheOffLine = true → state.1.IsStopped
  | .step (.handle evt _) =>
      evt.event = .ev1sTimer →
        state.1.isHaveError errorNetWork = state.2 ∨ state.1.awaitsNetwork = false
  | _ => True

instance (state : AgvCar × Bool) (label : DropStep) (next : AgvCar × Bool) :
    Decidable (DropsAsFiled state label next) :=
  match label with
  | .up _ => inferInstanceAs (Decidable state.1.TargetAsFiled)
  | .offline readings => inferInstanceAs (Decidable (readings.isStopCarForScheOffLine = true → _))
  | .step (.handle evt _) => inferInstanceAs (Decidable (evt.event = .ev1sTimer → _))
  | .down _ | .step (.post _) | .step (.loop _) | .step .arrive | .step .halt
  | .step (.lifter _ _) => isTrue trivial

theorem networkBehind_of_not_names {evt : AgvEvent} (readings : Readings) (down : Bool)
    (other : AgvCar.namesNetwork evt.event = false) :
    networkBehind (.handle evt readings) down = down := by
  rcases evt with ⟨event, param, priority, data⟩
  cases event with
  | ev1sTimer | evNetworkOK | evNetworkError => cases other
  | _ => rfl

namespace AgvCar

/-- `evNetworkError` sets the flag, whatever it was. -/
theorem onNetworkError_withNetwork (readings : Readings) (down : Bool) (car : AgvCar) :
    (car.withNetwork down).onNetworkError readings =
      (car.onNetworkError readings).withNetwork true := by
  have set : (car.withNetwork down).setErrorFlag errorNetWork =
      (car.setErrorFlag errorNetWork).withNetwork true :=
    (withNetwork_withNetwork true down car).trans (withNetwork_withNetwork true true car).symm
  simp only [onNetworkError, set]
  split <;> rfl

/-- Apart from the flag it only queues. -/
theorem withEvents_onNetworkError (readings : Readings) (down : Bool) (events : EventHelper)
    (car : AgvCar) :
    ((car.onNetworkError readings).withNetwork down).withEvents events =
      (car.withNetwork down).withEvents events := by
  have replaced : (car.setErrorFlag errorNetWork).withNetwork down = car.withNetwork down :=
    withNetwork_withNetwork down true car
  rw [← replaced, onNetworkError]
  split <;> rfl

end AgvCar

/-- With another network flag before it a step does the same, unless it is the timer that
completes the start-up. -/
theorem carStep_withNetwork {label : CarStep} {down : Bool} {car : AgvCar}
    (blind : ∀ evt readings, label = .handle evt readings → evt.event = .ev1sTimer →
      car.isHaveError errorNetWork = down ∨ car.awaitsNetwork = false) :
    carStep label (car.withNetwork down) =
      (carStep label car).map (AgvCar.withNetwork (networkBehind label down)) := by
  cases label with
  | handle evt readings =>
      cases other : AgvCar.namesNetwork evt.event with
      | false =>
          rw [networkBehind_of_not_names readings down other]
          exact AgvCar.handlesNetworkBlind_handleEvent readings other down car
      | true =>
          have looks := blind evt readings rfl
          have cleared : (car.withNetwork down).withNetwork false =
              (car.withNetwork false).withNetwork false := by
            rw [AgvCar.withNetwork_withNetwork, AgvCar.withNetwork_withNetwork]
          rcases evt with ⟨event, param, priority, data⟩
          cases event with
          | evNetworkOK =>
              exact congrArg (fun car : AgvCar => some
                { car with router := car.router.start readings.fileOpens }) cleared
          | evNetworkError =>
              simp only [carStep, AgvCar.handleEvent, Option.map_some]
              exact congrArg some (AgvCar.onNetworkError_withNetwork readings down car)
          | ev1sTimer => exact congrArg some (AgvCar.on1sTimer_withNetwork readings (looks rfl))
          | _ => cases other
  | post evt => rfl
  | loop ret =>
      cases arriving : car.controler.moveHelper.arriving with
      | true =>
          simp only [carStep, AgvCar.controler_withNetwork, arriving, if_true, Option.map_none]
      | false =>
          simp only [carStep, AgvCar.controler_withNetwork, arriving, Bool.false_eq_true, if_false]
          exact congrArg some (AgvCar.networkBlind_loop ret down car).symm
  | arrive =>
      cases arriving : car.controler.moveHelper.arriving with
      | true =>
          simp only [carStep, AgvCar.controler_withNetwork, arriving, if_true]
          rfl
      | false =>
          simp only [carStep, AgvCar.controler_withNetwork, arriving, Bool.false_eq_true, if_false,
            Option.map_none]
  | halt =>
      by_cases rolls : car.controler.moveHelper.getRunningMode = stopMode ∧
          (!car.controler.moveHelper.arriving) = true
      · simp only [carStep, AgvCar.controler_withNetwork, rolls, and_self, if_true,
          Option.map_some]
        rfl
      · simp only [carStep, AgvCar.controler_withNetwork, rolls, if_false, Option.map_none]
  | lifter height lstatus => rfl

/-- The car without the drops is in step with the one whose network flag has its value and
whose queue is its own. -/
def Unnoticed (state : AgvCar × Bool) (other : AgvCar) : Prop :=
  AgvCar.InStep ((state.1.withNetwork state.2).withEvents other.events) other

/-- A step that does the same with the other network flag keeps the cars in step, and queues
the same events in both queues. -/
theorem unnoticed_of_same {label : CarStep} {car other : AgvCar} {down after : Bool}
    (unnoticed : Unnoticed (car, down) other) (opens : label.fileOpens = true)
    (same : carStep label (car.withNetwork down) =
      (carStep label car).map (AgvCar.withNetwork after)) :
    Option.Rel (fun next nextOther => Unnoticed (next, after) nextOther)
      (carStep label car) (carStep label other) := by
  have both := inStep_carStep unnoticed opens
  rcases AgvCar.handlesQueueBlind_carStep label (car.withNetwork down) with ⟨result, sent, blind⟩
  have own := (blind car.events).symm.trans same
  dsimp only at both
  rw [blind] at both
  generalize carStep label other = otherResult at both ⊢
  cases result with
  | none =>
      cases both
      cases stuck : carStep label car with
      | none => exact .none
      | some next => simp [stuck] at own
  | some reached =>
      cases both with
      | @some _ nextOther kept =>
          cases moved : carStep label car with
          | none => simp [moved] at own
          | some next =>
              rw [moved] at own
              have reaches : reached.withEvents (car.events.pushAll sent) =
                  next.withNetwork after := Option.some.inj own
              have queue : nextOther.events = other.events.pushAll sent := by
                rw [kept.rest]
                rfl
              refine .some ?_
              rw [Unnoticed, ← reaches, queue]
              exact kept

/-- A step that both take. -/
theorem unnoticed_step {label : CarStep} {state : AgvCar × Bool} {other : AgvCar}
    (unnoticed : Unnoticed state other) (opens : label.fileOpens = true) :
    Option.Rel (fun next nextOther =>
        DropsAsFiled state (.step label) next → Unnoticed next nextOther)
      (flaggedStep (.step label) state) (carStep label other) := by
  rcases state with ⟨car, down⟩
  by_cases looks : ∃ evt readings, label = .handle evt readings ∧ evt.event = .ev1sTimer ∧
      ¬ (car.isHaveError errorNetWork = down ∨ car.awaitsNetwork = false)
  · -- the timer completes a start-up that the drop delays: excluded
    rcases looks with ⟨⟨event, param, priority, data⟩, readings, rfl, rfl, looks⟩
    exact .some fun met => absurd (met rfl) looks
  · have blind : ∀ evt readings, label = .handle evt readings → evt.event = .ev1sTimer →
        car.isHaveError errorNetWork = down ∨ car.awaitsNetwork = false := by
      intro evt readings named timer
      exact Decidable.byContradiction fun other => looks ⟨evt, readings, named, timer, other⟩
    have both := unnoticed_of_same unnoticed opens (carStep_withNetwork blind)
    change Option.Rel _ ((carStep label car).map fun next => (next, networkBehind label down)) _
    generalize carStep label car = result at both ⊢
    generalize carStep label other = otherResult at both ⊢
    cases both with
    | none => exact .none
    | some kept => exact .some fun _ => kept

/-- An event of a drop. -/
theorem unnoticed_drop {label : DropStep} {state : AgvCar × Bool} {other : AgvCar}
    (unnoticed : Unnoticed state other) (opens : label.taken.fileOpens = true)
    (unseen : label.seen = none) :
    ∃ next, flaggedStep label state = some next ∧
      (DropsAsFiled state label next → Unnoticed next other) := by
  rcases state with ⟨car, down⟩
  let seen : AgvCar := (car.withNetwork down).withEvents other.events
  cases label with
  | step label => cases unseen
  | down readings =>
      refine ⟨(car.onNetworkError readings, down), rfl, fun _ => ?_⟩
      rw [Unnoticed, AgvCar.withEvents_onNetworkError]
      exact unnoticed
  | offline readings =>
      refine ⟨_, rfl, fun filed => ?_⟩
      by_cases stops : readings.isStopCarForScheOffLine = true
      · have stopped := (filed stops).stopCar_eq
        have informed : RoutePlanner.Informed car.router car.stopCar.router := rfl
        have inStep : AgvCar.InStep (seen.withRouter car.stopCar.router) other :=
          unnoticed.informed informed
        simp only [stops, if_true]
        rw [Unnoticed, stopped]
        exact inStep
      · simp only [if_neg stops]
        exact unnoticed
  | up readings =>
      refine ⟨_, rfl, fun filed => ?_⟩
      have started : AgvCar.InStep (seen.withRouter (car.router.start true)) other :=
        unnoticed.start filed
      have replaced : (car.withNetwork false).withNetwork down = car.withNetwork down :=
        AgvCar.withNetwork_withNetwork down false car
      change readings.fileOpens = true at opens
      change AgvCar.InStep ((((car.withNetwork false).withNetwork down).withEvents
        other.events).withRouter (car.router.start readings.fileOpens)) other
      rw [replaced, opens]
      exact started

end DrivingControl.Controler

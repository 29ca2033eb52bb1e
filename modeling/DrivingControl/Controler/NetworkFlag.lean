import DrivingControl.Controler.CarEvents
import Mathlib.Logic.Function.Conjugate

/-!
# The network flag

Apart from the completion of the start-up no handler looks at the error flag of the
network.  With another value of the flag before them they do the same, and pass it on.
-/

namespace DrivingControl.Controler

open DrivingControl.Comm DrivingControl.Event

/-! ## The bit -/

/-- The error flags with another value for the network. -/
def networkFlag (down : Bool) (error : BitVec 32) : BitVec 32 :=
  if down then error ||| 1#32 <<< errorNetWork else error &&& ~~~(1#32 <<< errorNetWork)

section Bits

variable {flag i : Nat}

theorem getElem_flag (within : i < 32) : (1#32 <<< flag)[i] = decide (i = flag) :=
  BitVec.getElem_twoPow within

theorem getElem_networkFlag (down : Bool) (error : BitVec 32) (within : i < 32) :
    (networkFlag down error)[i] = if i = errorNetWork then down else error[i] := by
  cases down with
  | true =>
      rw [networkFlag, if_pos rfl, BitVec.getElem_or, getElem_flag within]
      split
      next here => rw [decide_eq_true here, Bool.or_true]
      next elsewhere => rw [decide_eq_false elsewhere, Bool.or_false]
  | false =>
      rw [networkFlag, if_neg Bool.false_ne_true, BitVec.getElem_and, BitVec.getElem_not,
        getElem_flag within]
      split
      next here => rw [decide_eq_true here, Bool.not_true, Bool.and_false]
      next elsewhere => rw [decide_eq_false elsewhere, Bool.not_false, Bool.and_true]

theorem networkFlag_networkFlag (again down : Bool) (error : BitVec 32) :
    networkFlag again (networkFlag down error) = networkFlag again error := by
  ext i within
  rw [getElem_networkFlag, getElem_networkFlag, getElem_networkFlag]
  split <;> rfl

theorem and_networkFlag (down : Bool) (error : BitVec 32) (other : flag ≠ errorNetWork) :
    networkFlag down error &&& 1#32 <<< flag = error &&& 1#32 <<< flag := by
  ext i within
  rw [BitVec.getElem_and, BitVec.getElem_and, getElem_networkFlag, getElem_flag]
  by_cases here : i = flag
  · rw [if_neg (here ▸ other)]
  · rw [decide_eq_false here, Bool.and_false, Bool.and_false]

theorem or_networkFlag (down : Bool) (error : BitVec 32) (other : flag ≠ errorNetWork) :
    networkFlag down error ||| 1#32 <<< flag = networkFlag down (error ||| 1#32 <<< flag) := by
  ext i within
  simp only [BitVec.getElem_or, getElem_networkFlag, getElem_flag]
  by_cases here : i = flag
  · rw [if_neg (here ▸ other), if_neg (here ▸ other)]
  · rw [decide_eq_false here, Bool.or_false, Bool.or_false]

theorem clear_networkFlag (down : Bool) (error : BitVec 32) (other : flag ≠ errorNetWork) :
    networkFlag down error &&& ~~~(1#32 <<< flag) =
      networkFlag down (error &&& ~~~(1#32 <<< flag)) := by
  ext i within
  simp only [BitVec.getElem_and, BitVec.getElem_not, getElem_networkFlag, getElem_flag]
  by_cases here : i = flag
  · rw [if_neg (here ▸ other), if_neg (here ▸ other)]
  · rw [decide_eq_false here, Bool.not_false, Bool.and_true, Bool.and_true]

/-- The flag is put back. -/
theorem networkFlag_self (error : BitVec 32) :
    networkFlag (error &&& 1#32 <<< errorNetWork != 0) error = error := by
  ext i within
  rw [getElem_networkFlag]
  split
  next here =>
    subst here
    have bit := BitVec.and_twoPow error errorNetWork
    rw [BitVec.getLsbD_eq_getElem within] at bit
    change error &&& 1#32 <<< errorNetWork = _ at bit
    rw [bit]
    cases error[errorNetWork] with
    | true => rfl
    | false => rfl
  next => rfl

end Bits

namespace AgvCar

/-- The car with another value of the network flag. -/
def withNetwork (down : Bool) (car : AgvCar) : AgvCar :=
  { car with carInfo := { car.carInfo with error := networkFlag down car.carInfo.error } }

/-- A function of the car that does not look at the network flag. -/
def NetworkBlind (act : AgvCar → AgvCar) : Prop :=
  ∀ down : Bool, Function.Commute (withNetwork down) act

variable {readings : Readings} {car : AgvCar} {act after : AgvCar → AgvCar} {flag : Nat}

@[simp] theorem router_withNetwork (down : Bool) (car : AgvCar) :
    (car.withNetwork down).router = car.router := rfl

@[simp] theorem controler_withNetwork (down : Bool) (car : AgvCar) :
    (car.withNetwork down).controler = car.controler := rfl

theorem withNetwork_withNetwork (again down : Bool) (car : AgvCar) :
    (car.withNetwork down).withNetwork again = car.withNetwork again := by
  simp only [withNetwork]
  simp only [networkFlag_networkFlag]

theorem withNetwork_self (car : AgvCar) :
    car.withNetwork (car.isHaveError errorNetWork) = car := by
  rw [withNetwork, isHaveError]
  rw [networkFlag_self]

theorem isHaveError_withNetwork (other : flag ≠ errorNetWork) (down : Bool) (car : AgvCar) :
    (car.withNetwork down).isHaveError flag = car.isHaveError flag := by
  change (networkFlag down car.carInfo.error &&& 1#32 <<< flag != 0) = _
  rw [and_networkFlag down _ other]
  rfl

theorem networkBlind_comp (first : NetworkBlind act) (second : NetworkBlind after) :
    NetworkBlind fun car => after (act car) :=
  fun down => (second down).comp_right (first down)

theorem networkBlind_id : NetworkBlind fun car => car := fun _ _ => rfl

/-- A function that is called under a condition on the rest of the car. -/
theorem networkBlind_ite {condition : AgvCar → Prop} [DecidablePred condition]
    (ignores : ∀ down car, condition (car.withNetwork down) = condition car)
    (first : NetworkBlind act) (second : NetworkBlind after) :
    NetworkBlind fun car => if condition car then act car else after car := by
  intro down car
  dsimp only
  by_cases holds : condition car
  · rw [if_pos holds, if_pos ((ignores down car).mpr holds)]
    exact first down car
  · rw [if_neg holds, if_neg fun other => holds ((ignores down car).mp other)]
    exact second down car

theorem networkBlind_foldl {acts : Nat → AgvCar → AgvCar} (list : List Nat)
    (blind : ∀ i ∈ list, NetworkBlind (acts i)) :
    NetworkBlind fun car => list.foldl (fun car i => acts i car) car := by
  induction list with
  | nil => exact networkBlind_id
  | cons i list ih =>
      have rest := ih fun later mem => blind later (List.mem_cons_of_mem i mem)
      exact networkBlind_comp (blind i List.mem_cons_self) rest

/-! ## Flags and status -/

theorem networkBlind_setErrorFlag (flag : Nat) (other : flag ≠ errorNetWork) :
    NetworkBlind (setErrorFlag flag) := by
  intro down car
  simp only [withNetwork, setErrorFlag]
  simp only [or_networkFlag down _ other]

theorem networkBlind_clearErrorFlag (flag : Nat) (other : flag ≠ errorNetWork) :
    NetworkBlind (clearErrorFlag flag) := by
  intro down car
  simp only [withNetwork, clearErrorFlag]
  simp only [clear_networkFlag down _ other]

theorem errorReport_withNetwork (para : Int) (down : Bool) (car : AgvCar) :
    (car.withNetwork down).errorReport para = car.errorReport para := by
  have touches : ∀ i ∈ List.range 4, errorTouch1 + i ≠ errorNetWork := by decide
  have touched : ((List.range 4).any fun i => (car.withNetwork down).isHaveError (errorTouch1 + i))
      = (List.range 4).any fun i => car.isHaveError (errorTouch1 + i) := by
    rw [Bool.eq_iff_iff, List.any_eq_true, List.any_eq_true]
    refine exists_congr fun i => and_congr_right fun mem => ?_
    rw [isHaveError_withNetwork (touches i mem)]
  rw [errorReport]
  rw [touched, isHaveError_withNetwork (by decide), isHaveError_withNetwork (by decide)]
  rfl

theorem finalReport_withNetwork (status : CarStatus) (para : Int) (down : Bool) (car : AgvCar) :
    (car.withNetwork down).finalReport status para = car.finalReport status para := by
  have report : (car.withNetwork down).statusReport status para = car.statusReport status para := by
    cases status with
    | error => exact errorReport_withNetwork para down car
    | _ => rfl
  rw [finalReport]
  rw [report]
  rfl

theorem networkBlind_setCarStatus (status : CarStatus) (para : Int) :
    NetworkBlind (setCarStatus status para) := by
  intro down car
  simp only [setCarStatus]
  rw [finalReport_withNetwork]
  rfl

theorem networkBlind_stopCar : NetworkBlind stopCar :=
  fun down car => networkBlind_setCarStatus .stopped mp3Mute down { car with stopButton := true }

/-- The parameter of a status may come from the car. -/
theorem networkBlind_setRunning :
    NetworkBlind fun car => { car with stopButton := false }.setCarStatus .running car.carRunMode :=
  fun down car => networkBlind_setCarStatus .running car.carRunMode down
    { car with stopButton := false }

/-! ## Start and barriers -/

theorem networkBlind_requeueBarriers : NetworkBlind requeueBarriers := by
  have requeue : ∀ (flag : Nat) (event : EventList), flag ≠ errorNetWork →
      NetworkBlind fun car =>
        if car.isHaveError flag then car.sendUrgentEvent event 0 else car := by
    intro flag event other
    refine networkBlind_ite (fun down car => ?_) (fun _ _ => rfl) networkBlind_id
    rw [isHaveError_withNetwork other]
  have nearMid := networkBlind_comp (requeue errorIrNear .evNearBarrier (by decide))
    (requeue errorIrMid .evMidBarrier (by decide))
  have allThree := networkBlind_comp nearMid (requeue errorIrFar .evFarBarrier (by decide))
  exact allThree

theorem networkBlind_afterStart (readings : Readings) : NetworkBlind (afterStart readings) := by
  by_cases clear : readings.laserStuta = 0
  · rw [afterStart_clear clear]
    have others : ∀ flag ∈ [errorIrMid, errorIrFar, errorIrNear], flag ≠ errorNetWork := by decide
    exact networkBlind_foldl [errorIrMid, errorIrFar, errorIrNear] fun flag mem =>
      networkBlind_clearErrorFlag flag (others flag mem)
  · rw [afterStart_barrier clear]
    exact networkBlind_requeueBarriers

/-- The end of a start that has sent a target. -/
theorem networkBlind_running (readings : Readings) :
    NetworkBlind fun car => afterStart readings
      ({ car with stopButton := false }.setCarStatus .running car.carRunMode) :=
  networkBlind_comp networkBlind_setRunning (networkBlind_afterStart readings)

theorem afterIssue_withNetwork (result : CarControler × Option Int) (down : Bool) (car : AgvCar) :
    (car.withNetwork down).afterIssue result =
      Prod.map (withNetwork down) id (car.afterIssue result) := by
  simp only [afterIssue]
  split <;> rfl

theorem networkBlind_resetLastTargetStation (readings : Readings) :
    NetworkBlind (resetLastTargetStation readings) := by
  intro down car
  have issued := afterIssue_withNetwork (car.controler.resetLastTargetStation readings.split) down
    car
  exact (congrArg Prod.fst issued).symm

theorem networkBlind_barrierFlags (event : EventList) : NetworkBlind (barrierFlags event) := by
  rcases barrierFlags_eq event with ⟨sets, clears, others, equal⟩
  rw [equal]
  have first := networkBlind_foldl sets fun flag mem =>
    networkBlind_setErrorFlag flag (others flag (List.mem_append_left clears mem))
  have second := networkBlind_foldl clears fun flag mem =>
    networkBlind_clearErrorFlag flag (others flag (List.mem_append_right sets mem))
  exact networkBlind_comp first second

theorem networkBlind_barrierStatus (event : EventList) : NetworkBlind (barrierStatus event) := by
  unfold barrierStatus
  split
  · exact fun down car =>
      networkBlind_setCarStatus car.lastCarInfo.status car.lastCarInfo.voice down car
  · exact networkBlind_setCarStatus .error mp3Near
  · exact networkBlind_setCarStatus .warning mp3Mid
  · exact networkBlind_setCarStatus .warning mp3Far
  · exact networkBlind_setCarStatus .error mp3Touch
  · exact networkBlind_id

theorem networkBlind_actOnBarrier (readings : Readings) (event : EventList) :
    NetworkBlind (actOnBarrier readings event) := by
  have notes : NetworkBlind fun car => { car with lastEvent := event } := fun _ _ => rfl
  have resets : NetworkBlind fun car =>
      if isStopping car.lastEvent && !isStopping event then car.resetLastTargetStation readings
      else car :=
    networkBlind_ite (fun _ _ => rfl) (networkBlind_resetLastTargetStation readings)
      networkBlind_id
  have acts := networkBlind_comp (networkBlind_comp resets notes)
    (networkBlind_barrierStatus event)
  have both : NetworkBlind fun car => if car.stopButton then _ else _ :=
    networkBlind_ite (fun _ _ => rfl) notes acts
  exact both

theorem hidesBarrier_withNetwork (event : EventList) (down : Bool) (car : AgvCar) :
    (car.withNetwork down).hidesBarrier event = car.hidesBarrier event := by
  simp only [hidesBarrier]
  rw [isHaveError_withNetwork (by decide), isHaveError_withNetwork (by decide)]

theorem networkBlind_onBarrierMessage (readings : Readings) (event : EventList) (dev : Int) :
    NetworkBlind (onBarrierMessage readings event dev) := by
  have acts := networkBlind_comp (networkBlind_barrierFlags event)
    (networkBlind_actOnBarrier readings event)
  have ignores : ∀ (down : Bool) (car : AgvCar),
      ((car.withNetwork down).ignoresBarrier dev || (car.withNetwork down).hidesBarrier event) =
        (car.ignoresBarrier dev || car.hidesBarrier event) := by
    intro down car
    rw [hidesBarrier_withNetwork]
    rfl
  have both : NetworkBlind fun car =>
      if car.ignoresBarrier dev || car.hidesBarrier event then car else _ :=
    networkBlind_ite (fun down car => by rw [ignores]) networkBlind_id acts
  exact both

/-! ## Way points -/

/-- A function that may end the program and has a second result. -/
def NetworkBlindTo (act : AgvCar → Option (AgvCar × Int)) : Prop :=
  ∀ (down : Bool) (car : AgvCar),
    act (car.withNetwork down) = (act car).map (Prod.map (withNetwork down) id)

theorem networkBlind_preparePoint (readings : Readings) (path : WayPoint) :
    NetworkBlind (preparePoint readings path) := by
  intro down car
  simp only [preparePoint]
  dsimp only [withNetwork]
  split
  · rfl
  · unfold liftOnTheWay
    dsimp only
    split <;> rfl

theorem sendPoint_withNetwork (readings : Readings) (path : WayPoint) (down : Bool)
    (car : AgvCar) :
    (car.withNetwork down).sendPoint readings path =
      Prod.map (withNetwork down) id (car.sendPoint readings path) := by
  simp only [sendPoint]
  split
  · exact afterIssue_withNetwork _ down car
  · rfl

theorem networkBlindTo_goToPoint (readings : Readings) :
    NetworkBlindTo (goToPoint readings) := by
  intro down car
  simp only [goToPoint]
  rw [router_withNetwork]
  cases car.router.getTargetStation with
  | none => rfl
  | some path =>
      have prepared := networkBlind_preparePoint readings path down car
      dsimp only
      rw [← prepared, router_withNetwork]
      cases (car.preparePoint readings path).router.getTargetStation with
      | none => rfl
      | some path => exact congrArg some (sendPoint_withNetwork readings path down _)

theorem networkBlindTo_goToNextPoint (readings : Readings) (isfirst : Bool) :
    NetworkBlindTo (goToNextPoint readings isfirst) := by
  intro down car
  unfold goToNextPoint
  dsimp only [router_withNetwork]
  split
  · rfl
  · cases (if isfirst then car.router else car.router.moveToNextStation.1).jumpCurPoint readings
      isfirst with
    | none => rfl
    | some router => exact networkBlindTo_goToPoint readings down { car with router }

/-! ## Arrivals -/

theorem doPathPointAction_withNetwork (path : WayPoint) (down : Bool) (car : AgvCar) :
    (car.withNetwork down).doPathPointAction path =
      Prod.map (withNetwork down) id (car.doPathPointAction path) := by
  let noted : AgvCar := { car with
    currentPathAction := path.action
    performed := car.performed ++ [(car.router.targetPathId, path.action)] }
  have otherNoted : ({ car.withNetwork down with
      currentPathAction := path.action
      performed := (car.withNetwork down).performed ++
        [((car.withNetwork down).router.targetPathId, path.action)] } : AgvCar) =
      noted.withNetwork down := rfl
  have stopped := networkBlind_stopCar down noted
  unfold doPathPointAction
  dsimp only
  rw [otherNoted, ← stopped]
  split
  · rfl
  · split
    · rfl
    · split
      · change (if (noted.stopCar.controler.lifter.liftIsArrived path.liftHeight).2 then _ else _) = _
        split <;> rfl
      · split <;> rfl

theorem networkBlind_afterNextPoint (ret : Int) :
    NetworkBlind fun car => car.afterNextPoint ret := by
  simp only [afterNextPoint]
  split
  · exact networkBlind_comp networkBlind_setRunning networkBlind_requeueBarriers
  · split
    · exact fun _ _ => rfl
    · split
      · exact fun _ _ => rfl
      · exact networkBlind_id

/-- A handler that does not look at the network flag. -/
def HandlesNetworkBlind (handle : AgvCar → Option AgvCar) : Prop :=
  ∀ (down : Bool) (car : AgvCar),
    handle (car.withNetwork down) = (handle car).map (withNetwork down)

theorem handlesNetworkBlind_some (blind : NetworkBlind act) :
    HandlesNetworkBlind fun car => some (act car) :=
  fun down car => congrArg some (blind down car).symm

theorem handlesNetworkBlind_onStationActionFinished (readings : Readings) :
    HandlesNetworkBlind (onStationActionFinished readings) := by
  intro down car
  have height : (car.withNetwork down).controler.lastLiftHeight = car.controler.lastLiftHeight := rfl
  simp only [onStationActionFinished]
  rw [router_withNetwork, height]
  cases car.router.onActionFinished car.controler.lastLiftHeight with
  | none => rfl
  | some finished =>
      let reset : AgvCar := { car with router := finished.1, currentPathAction := 0 }
      have went := networkBlindTo_goToNextPoint readings false down reset
      have otherReset : ({ car.withNetwork down with
          router := finished.1
          currentPathAction := 0 } : AgvCar) = reset.withNetwork down := rfl
      dsimp only
      rw [otherReset, went]
      split
      · rfl
      · cases goToNextPoint readings false reset with
        | none => rfl
        | some result =>
            exact congrArg some (networkBlind_afterNextPoint result.2 down result.1).symm

theorem handlesNetworkBlind_onArrivedStation (readings : Readings) :
    HandlesNetworkBlind (onArrivedStation readings) := by
  intro down car
  simp only [onArrivedStation]
  rw [router_withNetwork]
  cases car.router.getTargetStation with
  | none => rfl
  | some path =>
      dsimp only
      rw [doPathPointAction_withNetwork]
      dsimp only [Prod.map, id]
      split
      · exact handlesNetworkBlind_onStationActionFinished readings down _
      · rfl

theorem handlesNetworkBlind_onLiftArrivedHeight (readings : Readings) :
    HandlesNetworkBlind (onLiftArrivedHeight readings) := by
  intro down car
  have action : (car.withNetwork down).currentPathAction = car.currentPathAction := rfl
  simp only [onLiftArrivedHeight]
  rw [action]
  split
  · exact handlesNetworkBlind_onStationActionFinished readings down car
  · rfl

theorem handlesNetworkBlind_startRun (readings : Readings) :
    HandlesNetworkBlind (startRun readings) := by
  intro down car
  have mode : (car.withNetwork down).operateMode = car.operateMode := rfl
  simp only [startRun]
  rw [mode, router_withNetwork]
  split
  · split
    · rfl
    · split
      · rw [networkBlindTo_goToNextPoint readings true down car]
        cases goToNextPoint readings true car with
        | none => rfl
        | some result =>
            dsimp only [Option.map_some, Prod.map, id]
            split
            · rfl
            · exact congrArg some (networkBlind_running readings down result.1).symm
      · have resumed := networkBlind_comp (networkBlind_resetLastTargetStation readings)
          (networkBlind_running readings)
        exact congrArg some (resumed down car).symm
  · exact congrArg some (networkBlind_afterStart readings down car).symm

/-! ## Events -/

theorem networkBlind_checkBattery (readings : Readings) :
    NetworkBlind (checkBattery readings) :=
  networkBlind_ite (fun _ _ => rfl)
    (networkBlind_ite (fun _ _ => rfl)
      (fun down car => networkBlind_setCarStatus .lowPower mp3BatteryLow down
        { car with lowBatteryAlarmTimes := 0 })
      (fun _ _ => rfl))
    (fun _ _ => rfl)

theorem networkBlind_onKeyAutoMode (readings : Readings) :
    NetworkBlind (onKeyAutoMode readings) := by
  refine networkBlind_ite (fun _ _ => rfl) (fun down car => ?_) networkBlind_id
  let automatic : AgvCar := { car with
    operateMode := .autoMode
    controler := { car.controler with operateMode := .autoMode } }
  have otherAutomatic : ({ car.withNetwork down with
      operateMode := .autoMode
      controler := { (car.withNetwork down).controler with operateMode := .autoMode } } : AgvCar) =
      automatic.withNetwork down := rfl
  dsimp only
  rw [otherAutomatic, ← networkBlind_setCarStatus .normal mp3Mute down automatic]
  rfl

theorem networkBlind_onKeyManualMode : NetworkBlind onKeyManualMode :=
  networkBlind_ite (fun _ _ => rfl)
    (fun down car => networkBlind_setCarStatus .stopped mp3Mute down { car with
      stopButton := true
      operateMode := .manualMode
      controler := { car.controler with
        operateMode := .manualMode
        chargeSwitch := false }
      router := car.router.cleanLastStationPoint }) networkBlind_id

theorem networkBlind_onTurnCharge (on : Bool) (param : Int) :
    NetworkBlind (onTurnCharge on param) := by
  have switches : NetworkBlind fun car =>
      { car with controler := car.controler.setChargeSwitch on } := fun _ _ => rfl
  have both := networkBlind_comp networkBlind_stopCar switches
  exact networkBlind_ite (fun _ _ => rfl) both networkBlind_id

theorem networkBlind_onGetNewPath (readings : Readings) :
    NetworkBlind (onGetNewPath readings) := by
  have stops : NetworkBlind fun car =>
      ({ car with router := (car.router.onGetNewPath readings.fileOpens readings.stationList).1
        }.sendEvent .evApplyPath 0).setCarStatus .stopped mp3Mute :=
    fun down car => networkBlind_setCarStatus .stopped mp3Mute down
      ({ car with router := (car.router.onGetNewPath readings.fileOpens readings.stationList).1
        }.sendEvent .evApplyPath 0)
  exact networkBlind_ite (fun _ _ => rfl) stops fun _ _ => rfl

theorem networkBlind_onPathMagError (param : Int) : NetworkBlind (onPathMagError param) :=
  networkBlind_ite (fun _ _ => rfl) networkBlind_stopCar
    (networkBlind_comp networkBlind_stopCar (networkBlind_setCarStatus .error mp3PathMagFault))

theorem networkBlind_onPathFinished (readings : Readings) :
    NetworkBlind (onPathFinished readings) := by
  have stopped := networkBlind_comp networkBlind_stopCar
    (networkBlind_setCarStatus .normal mp3Normal)
  have reloads : NetworkBlind fun car =>
      let car := { car with router := car.router.reloadPathList readings.fileOpens }
      if readings.isAutoLoop then car.sendEvent .evKeyStart 0 else car := by
    intro down car
    dsimp only
    split <;> rfl
  have both := networkBlind_comp stopped reloads
  exact both

/-- Whether it depends on the network alone that the start-up is complete. -/
def awaitsNetwork (car : AgvCar) : Bool :=
  !car.isInitComplete && !car.isHaveError errorPosition && car.isLifterInit &&
    car.operateMode != .noKownMode

theorem checkInit_of_not_awaits (ready : car.awaitsNetwork = false) : car.checkInit = car := by
  rw [checkInit]
  split
  next completes =>
    simp only [Bool.and_eq_true] at completes
    rcases completes with ⟨⟨⟨⟨incomplete, -⟩, position⟩, lifter⟩, mode⟩
    simp [awaitsNetwork, incomplete, position, lifter, mode] at ready
  next => rfl

/-- The start-up looks at the flag if it depends on the network alone. -/
theorem checkInit_withNetwork {down : Bool}
    (same : car.isHaveError errorNetWork = down ∨ car.awaitsNetwork = false) :
    (car.withNetwork down).checkInit = car.checkInit.withNetwork down := by
  rcases same with same | ready
  · subst same
    rw [withNetwork_self]
    rw [checkInit]
    split
    · exact (withNetwork_self ({ car with isInitComplete := true }.sendEvent .evSysReady 0)).symm
    · exact (withNetwork_self car).symm
  · have otherReady : (car.withNetwork down).awaitsNetwork = false := by
      rw [awaitsNetwork]
      rw [isHaveError_withNetwork (by decide)]
      exact ready
    rw [checkInit_of_not_awaits ready, checkInit_of_not_awaits otherReady]

theorem checkBattery_keeps (readings : Readings) (car : AgvCar) :
    (car.checkBattery readings).isHaveError errorNetWork = car.isHaveError errorNetWork ∧
      (car.checkBattery readings).awaitsNetwork = car.awaitsNetwork := by
  rw [checkBattery]
  split
  · split
    · exact ⟨rfl, rfl⟩
    · exact ⟨rfl, rfl⟩
  · exact ⟨rfl, rfl⟩

/-- `ev1sTimer` with another network flag. -/
theorem on1sTimer_withNetwork {down : Bool} (readings : Readings)
    (same : car.isHaveError errorNetWork = down ∨ car.awaitsNetwork = false) :
    ((car.withNetwork down).checkBattery readings).checkInit =
      (car.checkBattery readings).checkInit.withNetwork down := by
  rcases checkBattery_keeps readings car with ⟨flag, awaits⟩
  rw [← networkBlind_checkBattery readings down car]
  rw [← flag, ← awaits] at same
  exact checkInit_withNetwork same

/-- Whether an event looks at the network flag or sets it. -/
def namesNetwork : EventList → Bool
  | .ev1sTimer | .evNetworkOK | .evNetworkError => true
  | _ => false

/-- Every other event is handled without a look at the network flag. -/
theorem handlesNetworkBlind_handleEvent (readings : Readings) {evt : AgvEvent}
    (other : namesNetwork evt.event = false) : HandlesNetworkBlind (handleEvent readings evt) := by
  rcases evt with ⟨event, param, priority, data⟩
  have onlyIf : ∀ {condition : AgvCar → Prop} [DecidablePred condition] {act : AgvCar → AgvCar},
      (∀ down car, condition (car.withNetwork down) = condition car) → NetworkBlind act →
        HandlesNetworkBlind fun car => some (if condition car then act car else car) :=
    fun ignores blind =>
      handlesNetworkBlind_some (networkBlind_ite ignores blind networkBlind_id)
  cases event with
  | ev1sTimer | evNetworkOK | evNetworkError => cases other
  | ev10msTimer => exact onlyIf (fun _ _ => rfl) fun _ _ => rfl
  | evSysReady => exact handlesNetworkBlind_some (networkBlind_setCarStatus .init 0)
  | evBattery =>
      cases data with
      | batteryMag vol cap ele => exact handlesNetworkBlind_some fun _ _ => rfl
      | _ => exact fun _ _ => rfl
  | evSchedulerOffline => exact onlyIf (fun _ _ => rfl) networkBlind_stopCar
  | evPosition =>
      have cleared := networkBlind_clearErrorFlag errorPosition (by decide)
      cases data with
      | position x y angle =>
          have noted : NetworkBlind (onStationMessage readings x y angle) := fun _ _ => rfl
          exact handlesNetworkBlind_some (networkBlind_comp cleared noted)
      | _ => exact handlesNetworkBlind_some cleared
  | evLostPosition =>
      exact onlyIf (fun _ _ => rfl)
        (networkBlind_comp (networkBlind_setErrorFlag errorPosition (by decide))
          (networkBlind_setCarStatus .error mp3NavigatorFault))
  | evSensorOnline =>
      exact handlesNetworkBlind_some (networkBlind_clearErrorFlag errorSensorLost (by decide))
  | evSensorOffline =>
      exact handlesNetworkBlind_some (networkBlind_setErrorFlag errorSensorLost (by decide))
  | evLifterInit => exact handlesNetworkBlind_some fun _ _ => rfl
  | evKeyAutoMode => exact handlesNetworkBlind_some (networkBlind_onKeyAutoMode readings)
  | evKeyManualMode => exact handlesNetworkBlind_some networkBlind_onKeyManualMode
  | evKeyStart | evApplyPath =>
      intro down car
      by_cases automatic : car.operateMode = .autoMode
      · have started := handlesNetworkBlind_startRun readings down car
        simp only [handleEvent, if_pos automatic]
        exact (if_pos automatic).trans started
      · simp only [handleEvent, if_neg automatic]
        exact if_neg automatic
  | evKeyStop => exact onlyIf (fun _ _ => rfl) networkBlind_stopCar
  | evTurnOnCharge => exact handlesNetworkBlind_some (networkBlind_onTurnCharge true param)
  | evTurnOffCharge => exact handlesNetworkBlind_some (networkBlind_onTurnCharge false param)
  | evGetNewPath =>
      have installs : NetworkBlind fun car =>
          if data = .null then car else car.onGetNewPath readings :=
        networkBlind_ite (fun _ _ => rfl) networkBlind_id (networkBlind_onGetNewPath readings)
      exact handlesNetworkBlind_some installs
  | evNextPathPoint => exact handlesNetworkBlind_onArrivedStation readings
  | evPathMagError => exact handlesNetworkBlind_some (networkBlind_onPathMagError param)
  | evPathFinished => exact handlesNetworkBlind_some (networkBlind_onPathFinished readings)
  | evLiftArrived => exact handlesNetworkBlind_onLiftArrivedHeight readings
  | evNearBarrier | evMidBarrier | evFarBarrier | evBarrierTouched | evBarrierOk =>
      exact onlyIf (fun _ _ => rfl) (networkBlind_onBarrierMessage readings _ param)
  | evUrgentStop => exact handlesNetworkBlind_some (networkBlind_setCarStatus .error mp3Urgent)
  | evSetSpeed => exact handlesNetworkBlind_some fun _ _ => rfl
  | _ => exact handlesNetworkBlind_some networkBlind_id

/-! ## The other threads -/

theorem networkBlind_loop (ret : Int) : NetworkBlind (loop ret) := by
  intro down car
  unfold loop
  rw [controler_withNetwork]
  split
  · dsimp only
    split <;> rfl
  · rfl

end AgvCar

end DrivingControl.Controler

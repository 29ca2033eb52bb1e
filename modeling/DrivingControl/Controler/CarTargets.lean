import DrivingControl.Controler.Departures

/-!
# The targets the car sends

For each event `sentBy` says from the state before it which target `HandleEvent`
sends to the move helper, if any.  The main result is that this is what the handlers
do: everything else about the move helper stays or stops.
-/

namespace DrivingControl.Controler

open DrivingControl.Comm DrivingControl.Event

namespace AgvCar

open RoutePlanner CarControler

/-! ## The target of an event -/

/-- The target an arrival sends. -/
def sentByArrival (readings : Readings) (car : AgvCar) : Option Issued :=
  match car.router.getTargetStation with
  | none => none
  | some target =>
      if car.completes target then car.finishEntry readings (car.switchBehind target) else none

/-- The target an arrived lift sends. -/
def sentByLift (readings : Readings) (car : AgvCar) : Option Issued :=
  if car.currentPathAction = actionLiftUpDown then
    car.finishEntry readings car.controler.chargeSwitch
  else none

/-- The target a start sends. -/
def sentByStart (readings : Readings) (car : AgvCar) : Option Issued :=
  if car.operateMode ≠ .autoMode ∨ car.router.pathList = [] then none
  else if car.router.targetPathId = 0 then
    (car.router.sentPoint readings).map (car.pointEntry readings car.controler.chargeSwitch)
  else car.controler.resumedEntry readings.split

/-- Whether a barrier event makes the car go on. -/
def recovers (event : EventList) (dev : Int) (car : AgvCar) : Bool :=
  !(car.ignoresBarrier dev || car.hidesBarrier event) && !car.stopButton &&
    isStopping car.lastEvent && !isStopping event

/-- The target a barrier event sends. -/
def sentByBarrier (readings : Readings) (event : EventList) (dev : Int) (car : AgvCar) :
    Option Issued :=
  if car.operateMode = .autoMode ∧ car.recovers event dev then
    car.controler.resumedEntry readings.split
  else none

/-- The target `HandleEvent` sends. -/
def sentBy (readings : Readings) (evt : AgvEvent) (car : AgvCar) : Option Issued :=
  match evt.event with
  | .evKeyStart | .evApplyPath => car.sentByStart readings
  | .evNextPathPoint => car.sentByArrival readings
  | .evLiftArrived => car.sentByLift readings
  | .evNearBarrier | .evMidBarrier | .evFarBarrier | .evBarrierTouched | .evBarrierOk =>
      car.sentByBarrier readings evt.event evt.param
  | _ => none

variable {readings : Readings} {car next : AgvCar} {evt : AgvEvent}

/-! ## Barriers -/

/-- The error word is all that differs. -/
def OnlyError (car next : AgvCar) : Prop :=
  next = { car with carInfo := { car.carInfo with error := next.carInfo.error } }

theorem OnlyError.trans {last : AgvCar} (first : OnlyError car next)
    (second : OnlyError next last) : OnlyError car last := by
  rw [OnlyError] at first second ⊢
  rw [first] at second
  exact second

theorem onlyError_setErrorFlag (flag : Nat) (car : AgvCar) :
    OnlyError car (car.setErrorFlag flag) := rfl

theorem onlyError_clearErrorFlag (flag : Nat) (car : AgvCar) :
    OnlyError car (car.clearErrorFlag flag) := rfl

/-- A barrier event first changes error flags only. -/
theorem onlyError_barrierFlags (event : EventList) (car : AgvCar) :
    OnlyError car (car.barrierFlags event) := by
  have touches : ∀ (flags : List Nat) (car : AgvCar),
      OnlyError car (flags.foldl (fun car i => car.clearErrorFlag (errorTouch1 + i)) car) := by
    intro flags
    induction flags with
    | nil => exact fun car => rfl
    | cons flag flags ih =>
        exact fun car => (onlyError_clearErrorFlag (errorTouch1 + flag) car).trans (ih _)
  simp only [barrierFlags]
  split
  · exact (((onlyError_clearErrorFlag errorIrFar car).trans
      (onlyError_clearErrorFlag errorIrMid _)).trans
      (onlyError_clearErrorFlag errorIrNear _)).trans (touches _ _)
  · exact onlyError_setErrorFlag _ _
  · exact ((onlyError_setErrorFlag errorIrNear car).trans
      (onlyError_clearErrorFlag errorIrMid _)).trans (onlyError_clearErrorFlag errorIrFar _)
  · exact ((onlyError_setErrorFlag errorIrMid car).trans
      (onlyError_clearErrorFlag errorIrFar _)).trans (onlyError_clearErrorFlag errorIrNear _)
  · exact ((onlyError_setErrorFlag errorIrFar car).trans
      (onlyError_clearErrorFlag errorIrMid _)).trans (onlyError_clearErrorFlag errorIrNear _)
  · rfl

theorem keeps_barrierStatus (event : EventList) (car : AgvCar) :
    Keeps car (car.barrierStatus event) := by
  simp only [barrierStatus]
  split
  · exact keeps_setCarStatus _ _ _
  · exact keeps_setCarStatus _ _ _
  · exact keeps_setCarStatus _ _ _
  · exact keeps_setCarStatus _ _ _
  · exact keeps_setCarStatus _ _ _
  · exact .refl car

theorem resends_actOnBarrier (readings : Readings) (event : EventList) (car : AgvCar) :
    Resends (if !car.stopButton && isStopping car.lastEvent && !isStopping event then
        car.controler.resumedEntry readings.split else none)
      car (car.actOnBarrier readings event) := by
  have notes : ∀ car : AgvCar, Keeps car { car with lastEvent := event } :=
    fun _ => .of_relevant rfl
  rw [actOnBarrier]
  by_cases pressed : car.stopButton = true
  · rw [if_pos pressed, if_neg (by simp [pressed])]
    exact (notes car).resends
  · rw [if_neg pressed]
    by_cases goesOn : (isStopping car.lastEvent && !isStopping event) = true
    · rw [if_pos (by simpa [pressed] using goesOn)]
      simp only [if_pos goesOn]
      exact (resends_resetLastTargetStation readings car).1.before
        ((notes _).trans (keeps_barrierStatus event _))
    · rw [if_neg (by simpa [pressed] using goesOn)]
      simp only [if_neg goesOn]
      exact ((notes _).trans (keeps_barrierStatus event _)).resends

/-- A barrier event sends the saved target again, or nothing. -/
theorem resends_onBarrierMessage (readings : Readings) (event : EventList) (dev : Int)
    (car : AgvCar) :
    Resends (if car.recovers event dev then car.controler.resumedEntry readings.split else none)
      car (car.onBarrierMessage readings event dev) := by
  rw [onBarrierMessage]
  cases filtered : car.ignoresBarrier dev || car.hidesBarrier event with
  | true => simpa [recovers, filtered] using (Keeps.refl car).resends
  | false =>
      have acts := resends_actOnBarrier readings event (car.barrierFlags event)
      have flagged : car.barrierFlags event = _ := onlyError_barrierFlags event car
      simp only [recovers, filtered, Bool.not_false, Bool.true_and, Bool.false_eq_true, if_false]
      generalize (car.barrierFlags event).carInfo.error = error at flagged
      rw [flagged] at acts ⊢
      have flags : Keeps car { car with carInfo := { car.carInfo with error } } :=
        .of_relevant rfl
      exact .after flags acts

/-! ## All events -/

/-- An arrival performs the action of the target, and finishes it if it can. -/
theorem onArrivedStation_eq_some (handled : car.onArrivedStation readings = some next) :
    ∃ target, car.router.getTargetStation = some target ∧
      (car.completes target = true ∧ Finishes readings (car.doPathPointAction target).1 next ∨
        car.completes target = false ∧ next = (car.doPathPointAction target).1) := by
  rw [onArrivedStation] at handled
  cases present : car.router.getTargetStation with
  | none => simp [present] at handled
  | some target =>
      have performs := performs_doPathPointAction target car
      simp only [present] at handled
      refine ⟨target, rfl, ?_⟩
      split at handled
      next done =>
        exact .inl ⟨performs.ret.mp done, finishes_onStationActionFinished handled⟩
      next open_ =>
        refine .inr ⟨?_, (Option.some.inj handled).symm⟩
        exact Bool.eq_false_iff.mpr fun done => open_ (performs.ret.mpr done)

/-- The path, the cursor and the speed decide what the end of an action sends. -/
theorem finishEntry_congr (readings : Readings) (charging : Bool)
    (route : SameRoute car.router next.router)
    (speed : next.speedFormServer = car.speedFormServer) :
    next.finishEntry readings charging = car.finishEntry readings charging := by
  have behind : next.router.pointBehind readings = car.router.pointBehind readings := by
    simp only [pointBehind]
    rw [route.getTargetStation, (route.goOn readings).sentPoint]
  have entries : next.pointEntry readings charging = car.pointEntry readings charging := by
    funext path
    have target : next.pathMag readings path = car.pathMag readings path := by
      simp only [pathMag, pathSpeed, speed]
    simp only [pointEntry, target]
  rw [finishEntry, finishEntry, behind, entries]

theorem Starts.sends (starts : Starts readings car next)
    (automatic : car.operateMode = .autoMode) :
    Sends (car.sentByStart readings) car.controler next.controler ∧
      car.events.SameArrivals next.events := by
  rw [sentByStart]
  cases starts with
  | empty nothing same =>
      rw [if_pos (.inr nothing), same]
      exact ⟨(Calm.refl car).sends, .refl _⟩
  | first path cursor present departs =>
      rw [if_neg (by simp [automatic, pathList_ne_nil present]), if_pos cursor]
      rw [map_sentPoint present]
      exact ⟨departs.sends, departs.arrivals⟩
  | resumes nonempty cursor resends =>
      rw [if_neg (by simp [automatic, nonempty]), if_neg cursor]
      exact ⟨resends.sends, resends.arrivals⟩

theorem sentBy_barrier (kind : IsBarrier evt.event) :
    car.sentBy readings evt = car.sentByBarrier readings evt.event evt.param := by
  rcases kind with kind | kind | kind | kind | kind <;> rw [sentBy, kind]

/-- Every event sends the target `sentBy` names and no other, and queues no arrival. -/
theorem sends_handleEvent (handled : car.handleEvent readings evt = some next) :
    Sends (car.sentBy readings evt) car.controler next.controler ∧
      car.events.SameArrivals next.events := by
  by_cases sending : sendsTarget evt.event = true
  · cases handlesTarget_of_sendsTarget sending handled with
    | start kind automatic started =>
        have departs := (starts_startRun automatic started).sends automatic
        rcases kind with kind | kind
        · rwa [sentBy, kind]
        · rwa [sentBy, kind]
    | startIgnored kind manual same =>
        have nothing : car.sentBy readings evt = none := by
          rcases kind with kind | kind
          · rw [sentBy, kind, sentByStart, if_pos (.inl manual)]
          · rw [sentBy, kind, sentByStart, if_pos (.inl manual)]
        rw [nothing, same]
        exact ⟨(Calm.refl car).sends, .refl _⟩
    | arrival kind arrived =>
        rcases onArrivedStation_eq_some arrived with ⟨target, present, finished⟩
        have performs := performs_doPathPointAction target car
        simp only [sentBy, kind, sentByArrival, present]
        rcases finished with ⟨done, finishes⟩ | ⟨open_, same⟩
        · rw [if_pos done, ← performs.chargeSwitch,
            ← finishEntry_congr readings _ performs.route performs.speedFormServer]
          rcases finishes.sends with ⟨sends, arrivals⟩
          exact ⟨performs.sends.after sends, performs.arrivals.trans arrivals⟩
        · rw [open_, same]
          exact ⟨performs.sends, performs.arrivals⟩
    | lift kind lifting finished =>
        simp only [sentBy, kind]
        rw [sentByLift, if_pos lifting]
        exact (finishes_onStationActionFinished finished).sends
    | liftIgnored kind other same =>
        simp only [sentBy, kind]
        rw [sentByLift, if_neg other, same]
        exact ⟨(Calm.refl car).sends, .refl _⟩
    | barrier kind automatic same =>
        have resends := resends_onBarrierMessage readings evt.event evt.param car
        rw [same, sentBy_barrier kind, sentByBarrier]
        simp only [automatic, true_and]
        exact ⟨resends.sends, resends.arrivals⟩
    | barrierIgnored kind manual same =>
        rw [same, sentBy_barrier kind, sentByBarrier]
        simp only [manual, false_and, if_false]
        exact ⟨(Calm.refl car).sends, .refl _⟩
  · have calm := calm_of_quiet (Bool.eq_false_iff.mpr sending) handled
    have nothing : car.sentBy readings evt = none := by
      simp only [sentBy]
      simp only [sendsTarget] at sending
      split <;> simp_all
    rw [nothing]
    exact ⟨calm.sends, calm.arrivals⟩

/-! ## Whether a target is sent -/

/-- Whether the planner's target can be driven to. -/
def drivesToTarget (router : RoutePlanner) : Bool :=
  match router.getTargetStation with
  | none => false
  | some path => isDrivable path

/-- Whether the end of an action makes the car drive on. -/
def drivesOn (readings : Readings) (router : RoutePlanner) : Bool :=
  match router.getTargetStation with
  | none => false
  | some target => !target.actionFinish && drivesToTarget (router.goOn readings)

/-- Whether `HandleEvent` sends a target. -/
def sends (readings : Readings) (evt : AgvEvent) (car : AgvCar) : Bool :=
  match evt.event with
  | .evKeyStart | .evApplyPath =>
      decide (car.operateMode = .autoMode ∧ car.router.pathList ≠ []) &&
        if car.router.targetPathId = 0 then drivesToTarget car.router
        else car.controler.lastPathMag.station != 0
  | .evNextPathPoint =>
      match car.router.getTargetStation with
      | none => false
      | some target => car.completes target && drivesOn readings car.router
  | .evLiftArrived =>
      decide (car.currentPathAction = actionLiftUpDown) && drivesOn readings car.router
  | .evNearBarrier | .evMidBarrier | .evFarBarrier | .evBarrierTouched | .evBarrierOk =>
      decide (car.operateMode = .autoMode) && car.recovers evt.event evt.param &&
        car.controler.lastPathMag.station != 0
  | _ => false

/-- Whether the charge switch is on when `HandleEvent` sends a target. -/
def charges (evt : AgvEvent) (car : AgvCar) : Bool :=
  car.controler.chargeSwitch ||
    (decide (evt.event = .evNextPathPoint) &&
      match car.router.getTargetStation with
      | none => false
      | some target => target.action == actionCharge)

theorem isSome_sentPoint (readings : Readings) (router : RoutePlanner) :
    (router.sentPoint readings).isSome = drivesToTarget router := by
  rw [sentPoint, drivesToTarget]
  cases router.getTargetStation with
  | none => rfl
  | some path =>
      cases drivable : isDrivable path with
      | false => simp [drivable]
      | true => simp [drivable]

theorem isSome_finishEntry (readings : Readings) (charging : Bool) (car : AgvCar) :
    (car.finishEntry readings charging).isSome = drivesOn readings car.router := by
  rw [finishEntry, pointBehind, drivesOn]
  cases car.router.getTargetStation with
  | none => rfl
  | some target =>
      cases finished : target.actionFinish with
      | true => simp [finished]
      | false => simp [finished, isSome_sentPoint]

theorem isSome_resumedEntry (split : PathMag → Split) (controler : CarControler) :
    (controler.resumedEntry split).isSome = (controler.lastPathMag.station != 0) := by
  rw [resumedEntry]
  by_cases saved : controler.lastPathMag.station = 0
  · simp [saved]
  · simp [saved]

theorem isSome_sentByStart (readings : Readings) (car : AgvCar) :
    (car.sentByStart readings).isSome =
      (decide (car.operateMode = .autoMode ∧ car.router.pathList ≠ []) &&
        if car.router.targetPathId = 0 then drivesToTarget car.router
        else car.controler.lastPathMag.station != 0) := by
  rw [sentByStart]
  by_cases starts : car.operateMode = .autoMode ∧ car.router.pathList ≠ []
  · rw [if_neg (by simpa using starts)]
    by_cases cursor : car.router.targetPathId = 0
    · simp [starts, cursor, isSome_sentPoint]
    · simp [starts, cursor, isSome_resumedEntry]
  · rw [if_pos (by simpa [Decidable.imp_iff_not_or] using starts)]
    simp [starts]

theorem isSome_sentByBarrier (readings : Readings) (event : EventList) (dev : Int)
    (car : AgvCar) :
    (car.sentByBarrier readings event dev).isSome =
      (decide (car.operateMode = .autoMode) && car.recovers event dev &&
        car.controler.lastPathMag.station != 0) := by
  rw [sentByBarrier]
  by_cases goesOn : car.operateMode = .autoMode ∧ car.recovers event dev = true
  · simp [goesOn, isSome_resumedEntry]
  · rw [if_neg goesOn]
    simpa using fun automatic recovers => absurd ⟨automatic, recovers⟩ goesOn

/-- `sends` says when `sentBy` names a target. -/
theorem isSome_sentBy (readings : Readings) (evt : AgvEvent) (car : AgvCar) :
    (car.sentBy readings evt).isSome = car.sends readings evt := by
  rw [sentBy, sends]
  cases named : evt.event with
  | evKeyStart | evApplyPath => exact isSome_sentByStart readings car
  | evNextPathPoint =>
      simp only [sentByArrival]
      cases car.router.getTargetStation with
      | none => rfl
      | some target =>
          cases done : car.completes target with
          | true => simp [done, isSome_finishEntry]
          | false => simp [done]
  | evLiftArrived =>
      simp only [sentByLift]
      by_cases lifting : car.currentPathAction = actionLiftUpDown
      · simp [lifting, isSome_finishEntry]
      · simp [lifting]
  | evNearBarrier | evMidBarrier | evFarBarrier | evBarrierTouched | evBarrierOk =>
      exact isSome_sentByBarrier readings _ evt.param car
  | _ => rfl

/-! ## The charge switch a target is sent with -/

theorem charging_map {points : Option WayPoint} {charging : Bool} {entry : Issued}
    (sent : points.map (car.pointEntry readings charging) = some entry) :
    entry.charging = charging := by
  rcases Option.map_eq_some_iff.mp sent with ⟨path, -, rfl⟩
  rfl

theorem charging_resumedEntry {split : PathMag → Split} {controler : CarControler}
    {entry : Issued} (sent : controler.resumedEntry split = some entry) :
    entry.charging = controler.chargeSwitch := by
  rw [resumedEntry] at sent
  split at sent
  · cases sent
  · cases sent
    rfl

theorem charging_sentByStart {entry : Issued} (sent : car.sentByStart readings = some entry) :
    entry.charging = car.controler.chargeSwitch := by
  rw [sentByStart] at sent
  split at sent
  · cases sent
  · split at sent
    · exact charging_map sent
    · exact charging_resumedEntry sent

/-- A target is sent with the charge switch as it is behind the action. -/
theorem charging_sentBy {entry : Issued} (sent : car.sentBy readings evt = some entry) :
    entry.charging = car.charges evt := by
  rw [sentBy] at sent
  rw [charges]
  cases named : evt.event with
  | evKeyStart | evApplyPath =>
      simp only [named] at sent
      simpa using charging_sentByStart sent
  | evNextPathPoint =>
      simp only [named, sentByArrival] at sent
      cases present : car.router.getTargetStation with
      | none => simp [present] at sent
      | some target =>
          simp only [present] at sent
          split at sent
          · simpa [switchBehind] using charging_map sent
          · cases sent
  | evLiftArrived =>
      simp only [named, sentByLift] at sent
      split at sent
      · simpa using charging_map sent
      · cases sent
  | evNearBarrier | evMidBarrier | evFarBarrier | evBarrierTouched | evBarrierOk =>
      simp only [named, sentByBarrier] at sent
      split at sent
      · simpa using charging_resumedEntry sent
      · cases sent
  | _ => simp [named] at sent

end AgvCar

/-! ## Steps -/

/-- The target that is sent in a step: the other threads send none. -/
def CarStep.sent (car : AgvCar) : CarStep → Option Issued
  | .handle evt readings => car.sentBy readings evt
  | _ => none

/-- The targets that were sent grow by the target of the step. -/
theorem issued_carStep {label : CarStep} {car next : AgvCar}
    (stepped : carStep label car = some next) :
    next.controler.issued = car.controler.issued ++ (label.sent car).toList := by
  cases label with
  | handle evt readings => exact (AgvCar.sends_handleEvent stepped).1.issued
  | _ => simpa [CarStep.sent] using (AgvCar.background_carStep rfl stepped).issued

end DrivingControl.Controler

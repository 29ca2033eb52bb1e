import DrivingControl.Controler.Arrivals
import DrivingControl.Controler.CarActs
import DrivingControl.Controler.NetworkFlag
import DrivingControl.Devices.SensorManager

/-!
# Sensors and their flag

The sensor manager counts beside the main loop, which takes its events from the queue and
sets the car's flag.  An event is queued when the number of living sensors changes, and
the count begins at zero.  So the latest event tells of the last count as soon as one
sensor was heard of; while all are silent from the beginning no event is queued.
-/

namespace DrivingControl.Controler

open DrivingControl.Devices DrivingControl.Event DrivingControl.Library

/-- Whether an event is one of the sensor manager. -/
def namesSensor : EventList → Bool
  | .evSensorOnline | .evSensorOffline => true
  | _ => false

/-- The program with its sensors, and what is remembered of the counts. -/
structure Watch where
  manager : SensorManager
  car : AgvCar := .init
  /-- The number of counts. -/
  ticks : Nat := 0
  /-- The events of the manager so far, oldest first. -/
  queued : List EventList := []
  /-- Whether a sensor was ever heard of. -/
  heard : Bool := false
  /-- Whether a sensor was not alive at the last count. -/
  lost : Bool := false

/-- What happens next. -/
inductive WatchStep where
  /-- A frame is received. -/
  | frame (canId len : Nat)
  /-- The manager handles `ev100msTimer`. -/
  | tick
  /-- The rest of the program takes a step. -/
  | car (step : CarStep)

/-- Whether another thread queues a sensor event, which only the manager does. -/
def CarStep.postsSensor : CarStep → Bool
  | .post evt => namesSensor evt.event
  | _ => false

namespace Watch

/-- One count. -/
def tick (watch : Watch) : Watch :=
  let timed := watch.manager.handleTimer
  { manager := timed.1
    car := match timed.2 with
      | none => watch.car
      | some event => watch.car.sendUrgentEvent event 0
    ticks := watch.ticks + 1
    queued := watch.queued ++ timed.2.toList
    heard := watch.heard
    lost := SensorManager.lacksSensor timed.1.sensorList }

/-- One step of the program with its sensors. -/
def step : StepFn Watch WatchStep
  | .frame canId len, watch =>
      some { watch with
        manager := watch.manager.handlerData canId len
        heard := watch.heard || watch.manager.hears canId len }
  | .tick, watch => some watch.tick
  | .car label, watch =>
      if label.postsSensor then none
      else (queuedStep label watch.car).map fun car => { watch with car }

/-- The start of the program with some sensors, none of which was heard of. -/
def boot (rCanIds : List Nat) : Watch where
  manager := .initAllSensors rCanIds

/-! ## What is to hold -/

/-- From the fiftieth count on a count that misses a sensor leaves the event that tells so
as the latest one, and a count that misses none leaves no older one. -/
def LatestAgrees (watch : Watch) : Prop :=
  (50 ≤ watch.ticks → watch.lost = true → watch.queued.getLast? = some .evSensorOffline) ∧
    (watch.lost = false → .evSensorOffline ∈ watch.queued →
      watch.queued.getLast? = some .evSensorOnline)

/-- When the queue is drained, the flag of the car agrees with the last count. -/
def FlagAgrees (watch : Watch) : Prop :=
  50 ≤ watch.ticks → watch.car.events.popEvent = none →
    watch.car.isHaveError errorSensorLost = watch.lost

/-- The events behind a count agree with the sensors, and the flag does at all times. -/
def Flagged (_ : Watch) (label : WatchStep) (next : Watch) : Prop :=
  (match label with
    | .tick => next.LatestAgrees
    | _ => True) ∧ next.FlagAgrees

/-- Before the fiftieth count, and any later one, a sensor was heard of, if there is one. -/
def Heard (watch : Watch) (label : WatchStep) (_ : Watch) : Prop :=
  match label with
  | .tick => 50 ≤ watch.ticks + 1 → watch.manager.sensorList ≠ [] → watch.heard = true
  | _ => True

end Watch

/-! ## The flag and the waiting events -/

namespace AgvCar

variable {readings : Readings} {car next : AgvCar} {evt : AgvEvent} {label : CarStep}

theorem isHaveError_eq_getElem {flag : Nat} (within : flag < 32) (car : AgvCar) :
    car.isHaveError flag = car.carInfo.error[flag] := by
  have bit := BitVec.and_twoPow car.carInfo.error flag
  rw [BitVec.getLsbD_eq_getElem within] at bit
  change car.carInfo.error &&& 1#32 <<< flag = _ at bit
  have nonzero : BitVec.twoPow 32 flag ≠ 0#32 := by
    intro zero
    have set : (BitVec.twoPow 32 flag)[flag] = false := by rw [zero, BitVec.getElem_zero]
    simp [BitVec.getElem_twoPow within] at set
  rw [isHaveError, bit]
  cases car.carInfo.error[flag] with
  | true => simpa using nonzero
  | false => rfl

theorem isHaveError_setErrorFlag {flag other : Nat} (within : other < 32) (car : AgvCar) :
    (car.setErrorFlag flag).isHaveError other =
      (decide (other = flag) || car.isHaveError other) := by
  rw [isHaveError_eq_getElem within, isHaveError_eq_getElem within]
  simp only [setErrorFlag, BitVec.getElem_or, getElem_flag within, Bool.or_comm]

theorem isHaveError_clearErrorFlag {flag other : Nat} (within : other < 32) (car : AgvCar) :
    (car.clearErrorFlag flag).isHaveError other =
      (!decide (other = flag) && car.isHaveError other) := by
  rw [isHaveError_eq_getElem within, isHaveError_eq_getElem within]
  simp only [clearErrorFlag, BitVec.getElem_and, BitVec.getElem_not, getElem_flag within,
    Bool.and_comm]

/-- The sensor events that wait, and the flag, are the same. -/
structure SameSensors (car next : AgvCar) : Prop where
  waiting : ∀ priority,
    next.events.ofKind namesSensor priority = car.events.ofKind namesSensor priority
  flag : next.isHaveError errorSensorLost = car.isHaveError errorSensorLost

theorem SameSensors.refl (car : AgvCar) : SameSensors car car := ⟨fun _ => rfl, rfl⟩

theorem SameSensors.trans {last : AgvCar} (first : SameSensors car next)
    (second : SameSensors next last) : SameSensors car last :=
  ⟨fun priority => (second.waiting priority).trans (first.waiting priority),
    second.flag.trans first.flag⟩

theorem Act.flag (act : Act car next) :
    next.isHaveError errorSensorLost = car.isHaveError errorSensorLost := by
  have within : errorSensorLost < 32 := by decide
  cases act with
  | setErrorFlag flag other =>
      simp [isHaveError_setErrorFlag within, Ne.symm other]
  | clearErrorFlag flag other =>
      simp [isHaveError_clearErrorFlag within, Ne.symm other]
  | note noted =>
      rw [Noted] at noted
      rw [noted]
      rfl
  | _ => rfl

/-- No handler queues a sensor event. -/
theorem ownEvent_of_namesSensor {event : EventList} (names : namesSensor event = true) :
    ownEvent event = false := by
  cases event with
  | evSensorOnline | evSensorOffline => rfl
  | _ => cases names

theorem Act.sameSensors (act : Act car next) : SameSensors car next :=
  ⟨act.acts.ofKind fun _ => ownEvent_of_namesSensor, act.flag⟩

theorem Acts.sameSensors (acts : Acts car next) : SameSensors car next :=
  acts.relates .refl .trans Act.sameSensors

theorem sameSensors_onKeyAutoMode (readings : Readings) (car : AgvCar) :
    SameSensors car (car.onKeyAutoMode readings) := by
  rw [onKeyAutoMode]
  split
  · exact ⟨fun _ => rfl, rfl⟩
  · exact .refl car

theorem sameSensors_onKeyManualMode (car : AgvCar) : SameSensors car car.onKeyManualMode := by
  rw [onKeyManualMode]
  split
  · exact ⟨fun _ => rfl, rfl⟩
  · exact .refl car

/-- Every other event leaves both. -/
theorem sameSensors_handleEvent (other : namesSensor evt.event = false)
    (handled : car.handleEvent readings evt = some next) : SameSensors car next := by
  cases ordinary : exceptional evt.event with
  | false => exact (acts_handleEvent ordinary handled).sameSensors
  | true =>
      cases handlesExceptional_of_exceptional ordinary handled with
      | autoMode kind => exact sameSensors_onKeyAutoMode readings car
      | manualMode kind => exact sameSensors_onKeyManualMode car
      | sensorOnline kind | sensorOffline kind => simp [kind, namesSensor] at other
      | networkError kind =>
          have flagged := (Act.setErrorFlag errorNetWork (by decide) : Act car _).sameSensors
          refine ⟨ofKind_onNetworkError rfl readings car, ?_⟩
          rw [onNetworkError]
          split <;> exact flagged.flag

/-- A step of the program that handles or queues no sensor event leaves both. -/
theorem sameSensors_queuedStep {label : CarStep} (posts : label.postsSensor = false)
    (background : label.isHandle = false) (stepped : queuedStep label car = some next) :
    SameSensors car next := by
  have moved := carStep_of_queuedStep background stepped
  have foreign : ∀ event, label.queues event = true → namesSensor event = false := by
    intro event queues
    rcases queues_cases queues with ⟨evt, rfl, rfl⟩ | own
    · exact posts
    · have quiet : ∀ event ∈ backgroundEvents, namesSensor event = false := by decide
      exact quiet event own
  refine ⟨ofKind_carStep background moved foreign, ?_⟩
  simp only [isHaveError]
  rw [(background_carStep background moved).carInfo]

/-- The flag behind the sensor events that wait. -/
def awaitedFlag (car : AgvCar) : Bool :=
  match (car.events.ofKind namesSensor urgent).getLast? with
  | none => car.isHaveError errorSensorLost
  | some event => event.event == .evSensorOffline

/-- Sensor events wait with the highest priority only. -/
def OnlyUrgent (car : AgvCar) : Prop :=
  ∀ priority, priority ≠ urgent → car.events.ofKind namesSensor priority = []

theorem SameSensors.awaitedFlag (same : SameSensors car next) :
    next.awaitedFlag = car.awaitedFlag := by
  simp only [AgvCar.awaitedFlag, same.waiting, same.flag]

theorem SameSensors.onlyUrgent (same : SameSensors car next) (only : car.OnlyUrgent) :
    next.OnlyUrgent :=
  fun priority other => (same.waiting priority).trans (only priority other)

/-- Handling the sensor event that waits longest sets the flag that it tells. -/
theorem awaitedFlag_handle {rest : EventHelper} (only : car.OnlyUrgent)
    (taken : car.events.popEvent = some (evt, rest))
    (handled : { car with events := rest }.handleEvent readings evt = some next) :
    next.awaitedFlag = car.awaitedFlag ∧ next.OnlyUrgent := by
  rcases EventHelper.ofKind_popEvent namesSensor taken with ⟨top, waits⟩
  cases names : namesSensor evt.event with
  | false =>
      have popped : SameSensors car { car with events := rest } :=
        ⟨fun priority => by simp [waits priority, names], rfl⟩
      have same := popped.trans (sameSensors_handleEvent names handled)
      exact ⟨same.awaitedFlag, same.onlyUrgent only⟩
  | true =>
      have alone : top = urgent := by
        apply Classical.byContradiction
        intro lower
        have nothing := only top lower
        simp [waits top, names] at nothing
      subst alone
      have left : ∀ priority, priority ≠ urgent → rest.ofKind namesSensor priority = [] := by
        intro priority lower
        simpa [waits priority, lower] using only priority lower
      have first : car.events.ofKind namesSensor urgent =
          evt :: rest.ofKind namesSensor urgent := by
        simp [waits urgent, names]
      have within : errorSensorLost < 32 := by decide
      have acted : next.events = rest ∧
          next.isHaveError errorSensorLost = (evt.event == .evSensorOffline) := by
        rw [handleEvent] at handled
        cases named : evt.event with
        | evSensorOnline =>
            simp only [named, Option.some.injEq] at handled
            subst handled
            exact ⟨rfl, by simp [isHaveError_clearErrorFlag within]⟩
        | evSensorOffline =>
            simp only [named, Option.some.injEq] at handled
            subst handled
            exact ⟨rfl, by simp [isHaveError_setErrorFlag within]⟩
        | _ => simp [named, namesSensor] at names
      refine ⟨?_, fun priority lower => by rw [acted.1]; exact left priority lower⟩
      simp only [awaitedFlag, acted.1, acted.2, first, List.getLast?_cons]
      cases (rest.ofKind namesSensor urgent).getLast? with
      | none => rfl
      | some last => rfl

/-- A sensor event that is queued is the one that sets the flag last. -/
theorem awaitedFlag_sendUrgentEvent {event : EventList} (names : namesSensor event = true)
    (only : car.OnlyUrgent) :
    (car.sendUrgentEvent event 0).awaitedFlag = (event == .evSensorOffline) ∧
      (car.sendUrgentEvent event 0).OnlyUrgent := by
  let queued : AgvEvent := { event, param := 0, priority := urgent }
  have waits : ∀ priority,
      (car.sendUrgentEvent event 0).events.ofKind namesSensor priority = _ :=
    EventHelper.ofKind_pushEvent namesSensor queued car.events
  have level : queued.level = urgent := rfl
  refine ⟨?_, fun priority lower => ?_⟩
  · simp [awaitedFlag, waits, level, queued, names]
  · simp [waits, level, lower, only priority lower]

end AgvCar

namespace Watch

open SensorManager

/-! ## The counts -/

variable {watch next : Watch}

/-- The latest event tells of the last count, the flag will be what it tells, and there is
one as soon as a count follows the first data of a sensor. -/
structure Kept (watch : Watch) : Prop where
  silent : watch.heard = false → watch.queued = [] ∧ sensorNum watch.manager.sensorList = 0
  heard : watch.heard = true → watch.queued = [] → watch.manager.fresh = true
  counted : watch.queued = [] → watch.manager.laseSensorNum = 0
  latest : ∀ event, watch.queued.getLast? = some event →
    event = if watch.manager.laseSensorNum = watch.manager.sensorList.length then
      .evSensorOnline else .evSensorOffline
  lost : 0 < watch.ticks →
    watch.lost = decide (watch.manager.laseSensorNum ≠ watch.manager.sensorList.length)
  awaited : watch.car.awaitedFlag = (watch.queued.getLast? == some .evSensorOffline)
  only : watch.car.OnlyUrgent

theorem kept_boot (rCanIds : List Nat) : Kept (boot rCanIds) where
  silent _ := ⟨rfl, by simp [boot, initAllSensors, sensorNum, List.countP_eq_zero]⟩
  heard heard := by cases heard
  counted _ := rfl
  latest := by simp [boot]
  lost := by simp [boot]
  awaited := by
    simp [boot, AgvCar.awaitedFlag, AgvCar.init, EventHelper.ofKind, AgvCar.isHaveError]
    decide
  only priority _ := rfl

theorem length_handlerData (canId len : Nat) (manager : SensorManager) :
    (manager.handlerData canId len).sensorList.length = manager.sensorList.length :=
  List.length_map _

theorem length_handleTimer (manager : SensorManager) :
    manager.handleTimer.1.sensorList.length = manager.sensorList.length := by
  rw [sensorList_handleTimer, List.length_map]

theorem Kept.frame {canId len : Nat} (kept : Kept watch)
    (stepped : Watch.step (.frame canId len) watch = some next) : Kept next := by
  cases stepped
  have same := length_handlerData canId len watch.manager
  refine ⟨fun silent => ?_, fun heard nothing => ?_, kept.counted, fun event last => ?_,
    fun counted => ?_, kept.awaited, kept.only⟩
  · rw [Bool.or_eq_false_iff] at silent
    rw [handlerData_of_not_hears silent.2]
    exact kept.silent silent.1
  · cases hears : watch.manager.hears canId len with
    | true => exact fresh_of_hears hears
    | false =>
        rw [hears, Bool.or_false] at heard
        rw [handlerData_of_not_hears hears]
        exact kept.heard heard nothing
  · rw [same]
    exact kept.latest event last
  · rw [same]
    exact kept.lost counted

/-- A count that finds the number as it was queues nothing. -/
theorem tick_of_same
    (same : watch.manager.handleTimer.1.laseSensorNum = watch.manager.laseSensorNum) :
    watch.tick.queued = watch.queued ∧ watch.tick.car = watch.car := by
  have event := event_handleTimer watch.manager
  rw [if_pos same] at event
  simp [Watch.tick, event]

/-- A count that finds another number queues an event. -/
theorem tick_of_changed
    (changed : watch.manager.handleTimer.1.laseSensorNum ≠ watch.manager.laseSensorNum) :
    ∃ event, namesSensor event = true ∧ watch.tick.queued = watch.queued ++ [event] ∧
      watch.tick.car = watch.car.sendUrgentEvent event 0 ∧
      event = if watch.manager.handleTimer.1.laseSensorNum =
        watch.manager.handleTimer.1.sensorList.length then .evSensorOnline
        else .evSensorOffline := by
  have told : watch.manager.handleTimer.2 =
      some (if watch.manager.handleTimer.1.laseSensorNum =
        watch.manager.handleTimer.1.sensorList.length then .evSensorOnline
        else .evSensorOffline) := by
    rw [event_handleTimer, if_neg changed, lacksSensor_eq_decide, ← laseSensorNum_handleTimer]
    simp
  refine ⟨_, ?_, ?_, ?_, rfl⟩
  · split <;> rfl
  · simp [Watch.tick, told]
  · simp [Watch.tick, told]

theorem Kept.tick (kept : Kept watch) : Kept watch.tick := by
  have counted := laseSensorNum_handleTimer watch.manager
  have lacks : lacksSensor watch.manager.handleTimer.1.sensorList =
      decide (watch.manager.handleTimer.1.laseSensorNum ≠
        watch.manager.handleTimer.1.sensorList.length) := by
    rw [counted]
    exact lacksSensor_eq_decide _
  by_cases same : watch.manager.handleTimer.1.laseSensorNum = watch.manager.laseSensorNum
  · rcases tick_of_same same with ⟨queued, car⟩
    refine ⟨fun silent => ?_, fun heard nothing => ?_, ?_, ?_, fun _ => lacks, ?_, ?_⟩
    · rw [queued]
      rcases kept.silent silent with ⟨nothing, dead⟩
      exact ⟨nothing, sensorNum_handleTimer_eq_zero dead⟩
    · rw [queued] at nothing
      have alive := sensorNum_of_fresh (kept.heard heard nothing)
      rw [← counted, same, kept.counted nothing] at alive
      exact absurd alive (Nat.lt_irrefl 0)
    · rw [queued]
      exact fun silent => same.trans (kept.counted silent)
    · intro last latest
      rw [queued] at latest
      have told := kept.latest last latest
      rw [← same, ← length_handleTimer watch.manager] at told
      exact told
    · rw [queued, car]
      exact kept.awaited
    · rw [car]
      exact kept.only
  · rcases tick_of_changed same with ⟨latest, names, queued, car, tells⟩
    rcases AgvCar.awaitedFlag_sendUrgentEvent names kept.only with ⟨awaited, only⟩
    refine ⟨fun silent => ?_, fun _ nothing => ?_, ?_, ?_, fun _ => lacks, ?_, ?_⟩
    · rcases kept.silent silent with ⟨nothing, dead⟩
      have none := sensorNum_handleTimer_eq_zero dead
      rw [← counted, ← kept.counted nothing] at none
      exact absurd none same
    · simp [queued] at nothing
    · simp [queued]
    · intro event last
      rw [queued, List.getLast?_concat] at last
      exact (Option.some.inj last).symm.trans tells
    · rw [queued, car, awaited, List.getLast?_concat]
      rfl
    · rw [car]
      exact only

theorem Kept.car {label : CarStep} {car : AgvCar} (kept : Kept watch)
    (posts : label.postsSensor = false) (stepped : queuedStep label watch.car = some car) :
    Kept { watch with car } := by
  have both : car.awaitedFlag = watch.car.awaitedFlag ∧ car.OnlyUrgent := by
    cases background : label.isHandle with
    | false =>
        have same := AgvCar.sameSensors_queuedStep posts background stepped
        exact ⟨same.awaitedFlag, same.onlyUrgent kept.only⟩
    | true =>
        cases label with
        | handle evt readings =>
            rcases queuedStep_handle stepped with ⟨rest, taken, handled⟩
            exact AgvCar.awaitedFlag_handle kept.only taken handled
        | _ => cases background
  exact ⟨kept.silent, kept.heard, kept.counted, kept.latest, kept.lost,
    both.1.trans kept.awaited, both.2⟩

/-- A step of the rest of the program changes the car only. -/
theorem step_car {label : CarStep} (stepped : Watch.step (.car label) watch = some next) :
    ∃ car, label.postsSensor = false ∧ queuedStep label watch.car = some car ∧
      next = { watch with car } := by
  simp only [Watch.step] at stepped
  split at stepped
  · cases stepped
  next silent =>
    rcases Option.map_eq_some_iff.mp stepped with ⟨car, moved, equal⟩
    exact ⟨car, by simpa using silent, moved, equal.symm⟩

theorem Kept.step {label : WatchStep} (kept : Kept watch)
    (stepped : Watch.step label watch = some next) : Kept next := by
  cases label with
  | frame canId len => exact kept.frame stepped
  | tick =>
      cases stepped
      exact kept.tick
  | car label =>
      rcases step_car stepped with ⟨car, posts, moved, rfl⟩
      exact kept.car posts moved

/-! ## Agreement -/

/-- Once there is an event, the latest one tells of the last count. -/
theorem Kept.getLast?_queued (kept : Kept watch) (some : watch.queued ≠ [])
    (counted : 0 < watch.ticks) :
    watch.queued.getLast? =
      .some (if watch.lost then .evSensorOffline else .evSensorOnline) := by
  cases latest : watch.queued.getLast? with
  | none => exact absurd (List.getLast?_eq_none_iff.mp latest) some
  | some event =>
      rw [kept.latest event latest, kept.lost counted]
      simp

/-- From the fiftieth count on there is an event, if there is a sensor. -/
def Ready (watch : Watch) : Prop :=
  50 ≤ watch.ticks → watch.manager.sensorList ≠ [] → watch.queued ≠ []

/-- Without an event the last count was zero. -/
theorem Kept.lost_of_nothing (kept : Kept watch) (nothing : watch.queued = [])
    (counted : 0 < watch.ticks) : watch.lost = decide (watch.manager.sensorList ≠ []) := by
  rw [kept.lost counted, kept.counted nothing]
  simp [eq_comm]

theorem Kept.latestAgrees (kept : Kept watch) (ready : watch.Ready)
    (counted : 0 < watch.ticks) : watch.LatestAgrees := by
  by_cases nothing : watch.queued = []
  · have lost := kept.lost_of_nothing nothing counted
    refine ⟨fun late misses => ?_, fun _ offline => by simp [nothing] at offline⟩
    have registered : watch.manager.sensorList ≠ [] := by simpa [lost] using misses
    exact absurd nothing (ready late registered)
  · have latest := kept.getLast?_queued nothing counted
    exact ⟨fun _ lost => by simp [latest, lost], fun found _ => by simp [latest, found]⟩

theorem Kept.flagAgrees (kept : Kept watch) (ready : watch.Ready) : watch.FlagAgrees := by
  intro late drained
  have counted : 0 < watch.ticks := by omega
  have waits := EventHelper.ofKind_drained namesSensor drained (by decide : urgent < priorityMax)
  have flag := kept.awaited
  simp only [AgvCar.awaitedFlag, waits, List.getLast?_nil] at flag
  rw [flag]
  by_cases nothing : watch.queued = []
  · have unregistered : watch.manager.sensorList = [] := by
      apply Classical.byContradiction
      intro registered
      exact ready late registered nothing
    rw [nothing, kept.lost_of_nothing nothing counted, unregistered]
    rfl
  · rw [kept.getLast?_queued nothing counted]
    cases watch.lost <;> rfl

/-- An offline event at a count that misses sensors makes the program ready. -/
theorem Kept.ready_of_latestAgrees (kept : Kept watch) (agrees : watch.LatestAgrees) :
    watch.Ready := by
  intro late registered nothing
  have lost := kept.lost_of_nothing nothing (by omega)
  have latest := agrees.1 late (by simp [lost, registered])
  simp [nothing] at latest

/-- Behind a count there is an event exactly if a sensor was heard of before. -/
theorem Kept.queued_tick (kept : Kept watch) : watch.tick.queued ≠ [] ↔ watch.heard = true := by
  cases heard : watch.heard with
  | true =>
      refine iff_of_true (fun nothing => ?_) rfl
      have still := kept.tick.counted nothing
      by_cases same : watch.manager.handleTimer.1.laseSensorNum = watch.manager.laseSensorNum
      · rw [(tick_of_same same).1] at nothing
        have alive := sensorNum_of_fresh (kept.heard heard nothing)
        rw [← laseSensorNum_handleTimer] at alive
        exact absurd still (Nat.ne_of_gt alive)
      · rcases tick_of_changed same with ⟨latest, names, queued, car, tells⟩
        simp [queued] at nothing
  | false =>
      have silent : watch.tick.heard = false := heard
      simp [(kept.tick.silent silent).1]

/-- A step keeps the program ready exactly if it meets the condition. -/
theorem ready_step_iff {label : WatchStep} (kept : Kept watch) (ready : watch.Ready)
    (stepped : Watch.step label watch = some next) : next.Ready ↔ Heard watch label next := by
  cases label with
  | tick =>
      cases stepped
      have registered : watch.tick.manager.sensorList = [] ↔ watch.manager.sensorList = [] := by
        simp [Watch.tick, sensorList_handleTimer]
      have late : watch.tick.ticks = watch.ticks + 1 := rfl
      simp only [Ready, Heard, kept.queued_tick, late, registered, Ne]
  | frame canId len =>
      cases stepped
      refine iff_of_true (fun late registered => ready late fun nothing => registered ?_) trivial
      simp [handlerData, nothing]
  | car label =>
      rcases step_car stepped with ⟨car, posts, moved, rfl⟩
      exact iff_of_true ready trivial

/-- Fifty counts without data of any sensor do not meet the condition. -/
theorem not_along_heard (silent : watch.heard = false)
    (registered : watch.manager.sensorList ≠ []) (ticks : Nat)
    (late : 50 ≤ watch.ticks + ticks + 1) :
    ¬ Along Watch.step Heard (List.replicate (ticks + 1) .tick) watch := by
  induction ticks generalizing watch with
  | zero =>
      intro along
      have heard := (along watch.tick rfl).1 (by omega) registered
      simp [silent] at heard
  | succ ticks ih =>
      intro along
      have still : watch.tick.manager.sensorList ≠ [] := by
        simpa [Watch.tick, sensorList_handleTimer] using registered
      have unheard : watch.tick.heard = false := silent
      have counted : watch.tick.ticks = watch.ticks + 1 := rfl
      exact ih unheard still (by omega) (along watch.tick rfl).2

/-- What carries the induction along a run. -/
structure Sound (watch : Watch) : Prop where
  kept : watch.Kept
  ready : watch.Ready

theorem sound_boot (rCanIds : List Nat) : Sound (boot rCanIds) :=
  ⟨kept_boot rCanIds, fun late => by simp [boot] at late⟩

end Watch

/-- From the start of the program, with any sensors: the latest sensor event agrees with
every count from the fiftieth on that misses a sensor, and with every count that misses
none behind an event that one was missed, and the flag of the car agrees whenever the
queue is drained, exactly if some sensor was heard of before the fiftieth count. -/
theorem flagged_along_iff (rCanIds : List Nat) (steps : List WatchStep) :
    Along Watch.step Watch.Flagged steps (Watch.boot rCanIds) ↔
      Along Watch.step Watch.Heard steps (Watch.boot rCanIds) := by
  refine along_iff_of_guard ?_ ?_ (Watch.sound_boot rCanIds)
  · intro watch label next sound stepped heard
    have ready := Watch.ready_step_iff sound.kept sound.ready stepped
    exact ⟨sound.kept.step stepped, ready.mpr heard⟩
  · intro watch label next sound stepped
    have kept := sound.kept.step stepped
    have ready := Watch.ready_step_iff sound.kept sound.ready stepped
    constructor
    · intro flagged
      cases label with
      | tick => exact ready.mp (kept.ready_of_latestAgrees flagged.1)
      | _ => trivial
    · intro heard
      refine ⟨?_, kept.flagAgrees (ready.mpr heard)⟩
      cases label with
      | tick =>
          cases stepped
          exact kept.latestAgrees (ready.mpr heard) (Nat.succ_pos _)
      | _ => trivial

/-- While a sensor is silent from the beginning, the fiftieth count misses it, and no event
was queued. -/
theorem silent_not_flagged :
    ¬ Along Watch.step Watch.Flagged (List.replicate 50 .tick) (Watch.boot [7]) := by
  rw [flagged_along_iff]
  exact Watch.not_along_heard rfl (List.cons_ne_nil _ _) 49 (by decide)

end DrivingControl.Controler

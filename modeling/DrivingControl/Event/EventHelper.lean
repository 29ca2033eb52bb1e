import DrivingControl.Library.PriorityQueue

/-!
# Events and their queue

`CAgvEvent` and `CAgvEventHelper`.  Every thread queues events; the main loop takes
the oldest of the highest priority and hands it to the car.
-/

namespace DrivingControl.Event

open DrivingControl.Library

/-- `EventList`. -/
inductive EventList where
  | evNone | ev10msTimer | ev100msTimer | ev500msTimer | ev1sTimer | evUpDown | evUser
  | evSysReady | evSysClose | evPowerDown | evSysReboot | evNetworkOK | evNetworkError
  | evModemOnLine | evModemOffLine | evNearBarrier | evMidBarrier | evFarBarrier
  | evBarrierTouched | evBarrierOk | evDerailed | evUrgentStop | evLiftHeight
  | evLiftArrived | evLiftAtTop | evLiftAtBottom | evKeyStart | evKeyStop | evKeyAutoMode
  | evKeyManualMode | evKeyLiftUp | evKeyLiftDown | evBattery | evBatteryLow
  | evBatteryCharge | evStartCharge | evStopCharge | evSetSpeed | evGetNewPath
  | evRequestPath | evApplyPath | evNextPathPoint | evPathFinished | evSchedulerOnline
  | evSchedulerOffline | evSensorOffline | evSensorOnline | evPosition | evLostPosition
  | evPathMagError | evTurnOnCharge | evTurnOffCharge | evSetBarrierDistance | evAgvSleep
  | evAgvWakeUp | evLifterInit
  deriving DecidableEq, Repr

/-- `Priority`. -/
def normal : Nat := 0
def important : Nat := 1
def urgent : Nat := 2
def priorityMax : Nat := 3

/-- What the `data` pointer of an event designates. -/
inductive EventData where
  | null
  /-- The station list of the scheduler. -/
  | stationList
  /-- A `BATTERYMAG`. -/
  | batteryMag (vol cap ele : Int)
  /-- A `POSITION`, its angle times 100 as it is stored in the car. -/
  | position (xPos yPos angle : Int)
  deriving DecidableEq, Repr

/-- `CAgvEvent`. -/
structure AgvEvent where
  event : EventList
  param : Int := 0
  priority : Nat := normal
  data : EventData := .null
  deriving DecidableEq, Repr

/-! ## The queue -/

/-- The queue an event is put into: priorities from `PriorityMax` on are urgent. -/
def AgvEvent.level (event : AgvEvent) : Nat :=
  if event.priority ≥ priorityMax then urgent else event.priority

theorem AgvEvent.level_lt (event : AgvEvent) : event.level < priorityMax := by
  rw [AgvEvent.level, priorityMax, urgent]
  split <;> omega

/-- `CAgvEventHelper`: the array `eventList` of its queues. -/
structure EventHelper where
  eventList : Nat → List AgvEvent := fun _ => []

namespace EventHelper

/-- `CAgvEventHelper::PushEvent`. -/
def pushEvent (event : AgvEvent) (helper : EventHelper) : EventHelper where
  eventList := pushLevel event.level { event with priority := event.level } helper.eventList

/-- `CAgvEventHelper::PopEvent`. -/
def popEvent (helper : EventHelper) : Option (AgvEvent × EventHelper) :=
  (popBelow priorityMax helper.eventList).map fun taken => (taken.1, ⟨taken.2⟩)

/-- `SendEvent`. -/
def sendEvent (event : EventList) (param : Int) (helper : EventHelper) : EventHelper :=
  helper.pushEvent { event, param, priority := normal }

/-- `SendImportantEvent`. -/
def sendImportantEvent (event : EventList) (param : Int) (helper : EventHelper) :
    EventHelper :=
  helper.pushEvent { event, param, priority := important }

/-- `SendUrgentEvent`. -/
def sendUrgentEvent (event : EventList) (param : Int) (helper : EventHelper) : EventHelper :=
  helper.pushEvent { event, param, priority := urgent }

/-- Queue several events. -/
def pushAll (events : List AgvEvent) (helper : EventHelper) : EventHelper :=
  events.foldl (fun helper event => helper.pushEvent event) helper

/-- An event as it is queued. -/
def stored (event : AgvEvent) : AgvEvent := { event with priority := event.level }

theorem eventList_pushAll (events : List AgvEvent) (helper : EventHelper) (priority : Nat) :
    (helper.pushAll events).eventList priority =
      helper.eventList priority ++ (events.filter (·.level = priority)).map stored := by
  induction events generalizing helper with
  | nil => simp [pushAll]
  | cons event events ih =>
      have rest := ih (helper.pushEvent event)
      rw [pushAll] at rest ⊢
      rw [List.foldl_cons, rest]
      simp only [pushEvent, pushLevel]
      by_cases same : event.level = priority
      · subst same
        simp [stored]
      · simp [same, Ne.symm same]

/-- A queue that is the same behind several events was sent none. -/
theorem eq_nil_of_pushAll {events : List AgvEvent} {helper : EventHelper}
    (same : ∀ priority, priority < priorityMax →
      (helper.pushAll events).eventList priority = helper.eventList priority) :
    events = [] := by
  rw [List.eq_nil_iff_forall_not_mem]
  intro event queued
  have nothing := same event.level event.level_lt
  rw [eventList_pushAll, List.append_right_eq_self, List.map_eq_nil_iff,
    List.filter_eq_nil_iff] at nothing
  simpa using nothing event queued

/-- The helper holds the waiting events, given in the order of their arrival. -/
def Waiting (events : List AgvEvent) (helper : EventHelper) : Prop :=
  Holds AgvEvent.level events helper.eventList

theorem waiting_pushEvent {events : List AgvEvent} {helper : EventHelper}
    (waiting : Waiting events helper) {event : AgvEvent} (kept : stored event = event) :
    Waiting (events ++ [event]) (helper.pushEvent event) := by
  have holds := holds_push waiting event
  rw [stored] at kept
  rw [Waiting, pushEvent, kept]
  exact holds

/-- Taking an event serves the waiting ones. -/
theorem waiting_popEvent {events : List AgvEvent} {helper rest : EventHelper}
    {event : AgvEvent} (waiting : Waiting events helper)
    (taken : helper.popEvent = some (event, rest)) :
    ∃ left, serve AgvEvent.level events = some (event, left) ∧ Waiting left rest := by
  have relates := popBelow_of_holds waiting fun element _ => element.level_lt
  rcases Option.map_eq_some_iff.mp taken with ⟨⟨element, others⟩, popped, equal⟩
  cases equal
  cases served : serve AgvEvent.level events with
  | none => simp [served, popped] at relates
  | some pair =>
      rcases pair with ⟨first, left⟩
      simp only [served] at relates
      rcases relates with ⟨queues, same, holds⟩
      cases popped.symm.trans same
      exact ⟨left, rfl, holds⟩

/-- Nothing waits when no event can be taken. -/
theorem waiting_drained {events : List AgvEvent} {helper : EventHelper}
    (waiting : Waiting events helper) (drained : helper.popEvent = none) : events = [] := by
  have relates := popBelow_of_holds waiting fun element _ => element.level_lt
  have nothing := Option.map_eq_none_iff.mp drained
  cases served : serve AgvEvent.level events with
  | none => exact serve_eq_none.mp served
  | some pair =>
      rcases pair with ⟨first, left⟩
      simp [served, nothing] at relates

/-! ## Counting -/

/-- The number of events of a kind that wait. -/
def count (kind : AgvEvent → Bool) (helper : EventHelper) : Nat :=
  (helper.eventList normal).countP kind + (helper.eventList important).countP kind +
    (helper.eventList urgent).countP kind

theorem count_pushEvent (kind : AgvEvent → Bool) (event : AgvEvent) (helper : EventHelper) :
    (helper.pushEvent event).count kind =
      helper.count kind + if kind (stored event) then 1 else 0 := by
  have bound := event.level_lt
  have levels : event.level = normal ∨ event.level = important ∨ event.level = urgent := by
    rw [normal, important, urgent]
    rw [priorityMax] at bound
    omega
  rcases levels with level | level | level
  all_goals
    simp [count, pushEvent, pushLevel, stored, level, normal, important, urgent,
      List.countP_cons]
    omega

theorem count_popEvent (kind : AgvEvent → Bool) {event : AgvEvent} {helper rest : EventHelper}
    (taken : helper.popEvent = some (event, rest)) :
    helper.count kind = rest.count kind + if kind event then 1 else 0 := by
  rcases Option.map_eq_some_iff.mp taken with ⟨⟨element, others⟩, popped, equal⟩
  cases equal
  simp only [popBelow, priorityMax] at popped
  split at popped
  · split at popped
    · split at popped
      · cases popped
      next first left head =>
        cases popped
        simp [count, normal, important, urgent, head, List.countP_cons]
        omega
    next first left head =>
      cases popped
      simp [count, normal, important, urgent, head, List.countP_cons]
      omega
  next first left head =>
    cases popped
    simp [count, normal, important, urgent, head, List.countP_cons]
    omega

/-! ## Kinds of events -/

/-- The events of a kind that wait with one priority, oldest first. -/
def ofKind (kind : EventList → Bool) (priority : Nat) (helper : EventHelper) : List AgvEvent :=
  (helper.eventList priority).filter fun event => kind event.event

theorem ofKind_pushEvent (kind : EventList → Bool) (event : AgvEvent) (helper : EventHelper)
    (priority : Nat) :
    (helper.pushEvent event).ofKind kind priority =
      helper.ofKind kind priority ++
        if priority = event.level ∧ kind event.event then
          [{ event with priority := event.level }] else [] := by
  simp only [ofKind, pushEvent, pushLevel]
  by_cases same : priority = event.level
  · simp [same, List.filter_cons]
  · simp [same]

/-- What waits behind an event that is queued waited before, or is that event. -/
theorem mem_ofKind_pushEvent {kind : EventList → Bool} {event waiting : AgvEvent}
    {helper : EventHelper} {priority : Nat}
    (waits : waiting ∈ (helper.pushEvent event).ofKind kind priority) :
    waiting ∈ helper.ofKind kind priority ∨ waiting.data = event.data := by
  rw [ofKind_pushEvent] at waits
  rcases List.mem_append.mp waits with before | queued
  · exact .inl before
  · split at queued
    · rw [List.mem_singleton.mp queued]
      exact .inr rfl
    · cases queued

/-- An event of another kind leaves those of a kind. -/
theorem ofKind_pushEvent_of_not {kind : EventList → Bool} {event : AgvEvent}
    (other : kind event.event = false) (helper : EventHelper) (priority : Nat) :
    (helper.pushEvent event).ofKind kind priority = helper.ofKind kind priority := by
  rw [ofKind_pushEvent]
  simp [other]

theorem ofKind_pushAll_of_not {kind : EventList → Bool} {events : List AgvEvent}
    (others : ∀ event ∈ events, kind event.event = false) (helper : EventHelper)
    (priority : Nat) : (helper.pushAll events).ofKind kind priority =
      helper.ofKind kind priority := by
  induction events generalizing helper with
  | nil => rfl
  | cons event events ih =>
      have other := others event List.mem_cons_self
      have rest := ih (fun later member => others later (List.mem_cons_of_mem event member))
        (helper.pushEvent event)
      exact rest.trans (ofKind_pushEvent_of_not other helper priority)

/-- Taking an event takes it from its kind. -/
theorem ofKind_popEvent (kind : EventList → Bool) {event : AgvEvent}
    {helper rest : EventHelper} (taken : helper.popEvent = some (event, rest)) :
    ∃ top, ∀ priority, helper.ofKind kind priority =
      (if priority = top ∧ kind event.event then [event] else []) ++
        rest.ofKind kind priority := by
  rcases Option.map_eq_some_iff.mp taken with ⟨⟨element, others⟩, popped, equal⟩
  cases equal
  rcases eq_of_popBelow popped with ⟨top, left, head, rfl⟩
  refine ⟨top, fun priority => ?_⟩
  simp only [ofKind]
  by_cases same : priority = top
  · subst same
    rw [head, List.filter_cons]
    cases kind element.event with
    | true => simp
    | false => simp
  · simp [same]

/-- Nothing of a kind waits when no event can be taken. -/
theorem ofKind_drained (kind : EventList → Bool) {helper : EventHelper} {priority : Nat}
    (drained : helper.popEvent = none) (below : priority < priorityMax) :
    helper.ofKind kind priority = [] := by
  have empty := eq_nil_of_popBelow (Option.map_eq_none_iff.mp drained) below
  rw [ofKind, empty, List.filter_nil]

end EventHelper

/-! ## Arrivals -/

/-- Whether an event is an arrival, which only the motion thread queues. -/
def AgvEvent.isArrival (event : AgvEvent) : Bool := event.event == .evNextPathPoint

namespace EventHelper

/-- The arrivals of one priority that wait, oldest first. -/
def arrivals (priority : Nat) (helper : EventHelper) : List AgvEvent :=
  (helper.eventList priority).filter AgvEvent.isArrival

/-- Two queues with the same arrivals. -/
def SameArrivals (helper other : EventHelper) : Prop :=
  ∀ priority, other.arrivals priority = helper.arrivals priority

theorem SameArrivals.refl (helper : EventHelper) : helper.SameArrivals helper := fun _ => rfl

theorem SameArrivals.trans {helper other last : EventHelper}
    (first : helper.SameArrivals other) (second : other.SameArrivals last) :
    helper.SameArrivals last :=
  fun priority => (second priority).trans (first priority)

theorem arrivals_pushEvent (event : AgvEvent) (helper : EventHelper) (priority : Nat) :
    (helper.pushEvent event).arrivals priority =
      helper.arrivals priority ++
        if priority = event.level ∧ event.isArrival then
          [{ event with priority := event.level }] else [] :=
  ofKind_pushEvent (· == .evNextPathPoint) event helper priority

/-- Any other event leaves the arrivals. -/
theorem sameArrivals_pushEvent {event : AgvEvent} (other : event.isArrival = false)
    (helper : EventHelper) : helper.SameArrivals (helper.pushEvent event) := by
  intro priority
  simp [arrivals_pushEvent, other]

/-- Taking an event takes an arrival if it is one. -/
theorem arrivals_popEvent {event : AgvEvent} {helper rest : EventHelper}
    (taken : helper.popEvent = some (event, rest)) :
    ∃ top, ∀ priority, helper.arrivals priority =
      (if priority = top ∧ event.isArrival then [event] else []) ++ rest.arrivals priority :=
  ofKind_popEvent (· == .evNextPathPoint) taken

end EventHelper

end DrivingControl.Event

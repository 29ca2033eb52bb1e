import DrivingControl.Controler.SchedulerLink
import DrivingControl.Controler.SensorFlag
import DrivingControl.Devices.NetManager
import Mathlib.Data.List.Chain

/-!
# The network, the car and the link

The network manager, the main loop and the threads of the link run beside each other.  The
manager reports when the network comes or goes.  The main loop handles a report and starts or
stops the link, and the link announces whether it is connected, for the panel to show.  A
report waits with the lowest priority, and an announcement with one that depends on what it
tells.
-/

namespace DrivingControl.Controler

open DrivingControl.Devices DrivingControl.Event DrivingControl.Library

/-- Whether an event is a report of the network manager. -/
def namesReport : EventList → Bool
  | .evNetworkOK | .evNetworkError => true
  | _ => false

/-- Whether an event is an announcement of the link. -/
def namesAnnouncement : EventList → Bool
  | .evSchedulerOnline | .evSchedulerOffline => true
  | _ => false

/-- What a handler reads of the link. -/
def Readings.withLink (link : SchedulerLink) (readings : Readings) : Readings :=
  { readings with isConnected := link.loopEnable && link.isConnected }

def CarStep.withLink (link : SchedulerLink) : CarStep → CarStep
  | .handle evt readings => .handle evt (readings.withLink link)
  | label => label

/-- Whether an event is of neither kind. -/
def CarStep.postsNetwork : CarStep → Bool
  | .post evt => namesReport evt.event || namesAnnouncement evt.event
  | _ => false

/-- The program with its network. -/
structure Connection where
  manager : NetManager
  link : SchedulerLink := {}
  car : AgvCar := .init
  /-- What `ShowCurrentNetState` was called with last. -/
  shown : Bool := false

/-- What happens next. -/
inductive ConnectionStep where
  /-- The network manager takes a turn. -/
  | manager (input : NetInput)
  /-- A thread of the link takes a turn. -/
  | thread (thread : Nat) (turn : LinkTurn)
  /-- The rest of the program takes a step. -/
  | car (label : CarStep)

namespace Connection

variable (beyond : Nat → UInt8)

/-- Several events are queued. -/
def queue (events : List AgvEvent) (connection : Connection) : Connection :=
  let car := connection.car
  { connection with car := { car with events := car.events.pushAll events } }

/-- What `HandleEvent` does to the link and the panel.  The event of a connection that
`evNetworkError` takes down is queued by the handler of the car. -/
def handle (event : EventList) (connection : Connection) : Connection :=
  match event with
  | .evNetworkOK => { connection with link := connection.link.startSchedule }
  | .evNetworkError => { connection with link := connection.link.stopSchedule.1 }
  | .evSchedulerOnline => { connection with shown := true }
  | .evSchedulerOffline => { connection with shown := false }
  | _ => connection

/-- One step of the program with its network.  Only the manager queues reports, and only the
link announcements. -/
def step : StepFn Connection ConnectionStep
  | .manager input, connection =>
      if connection.manager.loopEnable then
        let reported := connection.manager.run input
        some ({ connection with manager := reported.1 }.queue reported.2)
      else none
  | .thread thread turn, connection =>
      (connection.link.threadTurn beyond thread turn).map fun turned =>
        { connection with link := turned.1 }.queue turned.2
  | .car label, connection =>
      if label.postsNetwork then none
      else (queuedStep (label.withLink connection.link) connection.car).map fun car =>
        match label with
        | .handle evt _ => { connection with car }.handle evt.event
        | _ => { connection with car }

/-- The start of the program. -/
def boot (isWifiEnable isEthernetEnable : Bool) : Connection where
  manager := .setupNetwork isWifiEnable isEthernetEnable

/-! ## What waits -/

/-- The reports that wait, oldest first. -/
def reports (connection : Connection) : List AgvEvent :=
  connection.car.events.ofKind namesReport normal

/-- The announcements that wait, by what they tell. -/
def onlines (connection : Connection) : List AgvEvent :=
  connection.car.events.ofKind namesAnnouncement normal
def offlines (connection : Connection) : List AgvEvent :=
  connection.car.events.ofKind namesAnnouncement important

/-- The status of the link, and the ones it will be given. -/
def statuses (connection : Connection) : List Bool :=
  connection.link.loopEnable :: connection.reports.map (·.event == .evNetworkOK)

/-- What the panel will show behind the announcements that wait. -/
def willShow (connection : Connection) : Bool :=
  ((connection.offlines ++ connection.onlines).getLast?.map
    (·.event == .evSchedulerOnline)).getD connection.shown

end Connection

/-! ## Events of a kind -/

/-- Several events are queued behind those of their priority. -/
theorem ofKind_pushAll (kind : EventList → Bool) (events : List AgvEvent) (helper : EventHelper)
    (priority : Nat) : (helper.pushAll events).ofKind kind priority =
      helper.ofKind kind priority ++
        (events.filter fun event => event.level = priority && kind event.event).map
          EventHelper.stored := by
  rw [EventHelper.ofKind, EventHelper.eventList_pushAll, List.filter_append, List.filter_map,
    List.filter_filter]
  congr 3
  funext event
  exact Bool.and_comm _ _

/-- Every event of a higher priority was handled before the one that is taken. -/
theorem ofKind_highest (kind : EventList → Bool) {event : AgvEvent} {helper rest : EventHelper}
    (taken : helper.popEvent = some (event, rest)) :
    ∃ top, (∀ priority, helper.ofKind kind priority =
        (if priority = top ∧ kind event.event then [event] else []) ++
          rest.ofKind kind priority) ∧
      ∀ priority, top < priority → priority < priorityMax → helper.ofKind kind priority = [] := by
  rcases Option.map_eq_some_iff.mp taken with ⟨⟨element, others⟩, popped, equal⟩
  cases equal
  rcases highest_of_popBelow popped with ⟨top, left, head, rfl, higher⟩
  refine ⟨top, fun priority => ?_, fun priority above below => ?_⟩
  · simp only [EventHelper.ofKind]
    by_cases same : priority = top
    · subst same
      rw [head, List.filter_cons]
      cases kind element.event with
      | true => simp
      | false => simp
    · simp [same]
  · rw [EventHelper.ofKind, higher priority above below, List.filter_nil]

namespace AgvCar

variable {readings : Readings} {car next : AgvCar} {evt : AgvEvent} {label : CarStep}
  {kind : EventList → Bool}

/-- Nobody else queues the events of the network. -/
def OfNetwork (kind : EventList → Bool) : Prop :=
  ∀ event, kind event = true → (namesReport event || namesAnnouncement event) = true

theorem ofNetwork_namesReport : OfNetwork namesReport := by
  intro event names
  rw [names, Bool.true_or]

theorem ofNetwork_namesAnnouncement : OfNetwork namesAnnouncement := by
  intro event names
  rw [names, Bool.or_true]

theorem ownEvent_of_network {event : EventList}
    (names : (namesReport event || namesAnnouncement event) = true) : ownEvent event = false := by
  cases event with
  | evNetworkOK | evNetworkError | evSchedulerOnline | evSchedulerOffline => rfl
  | _ => cases names

theorem ofKind_handle (network : OfNetwork kind)
    (scheduler : evt.event = .evNetworkError → kind .evSchedulerOffline = false)
    (handled : car.handleEvent readings evt = some next) (priority : Nat) :
    next.events.ofKind kind priority = car.events.ofKind kind priority :=
  ofKind_handleEvent (fun event names => ownEvent_of_network (network event names)) scheduler
    handled priority

/-- A lost network queues what the link is taken down with. -/
theorem onNetworkError_withLink (link : SchedulerLink) (readings : Readings) (car : AgvCar) :
    car.onNetworkError (readings.withLink link) =
      { car.setErrorFlag errorNetWork with
        events := car.events.pushAll link.stopSchedule.2 } := by
  rw [onNetworkError, Readings.withLink, SchedulerLink.stopSchedule]
  cases link.loopEnable with
  | false => rfl
  | true =>
      rw [SchedulerLink.disconnect]
      cases link.isConnected with
      | false => rfl
      | true => rfl

/-- The other threads leave the events of the network, and the flag. -/
theorem ofKind_background (network : OfNetwork kind) (posts : label.postsNetwork = false)
    (background : label.isHandle = false) (stepped : queuedStep label car = some next)
    (priority : Nat) : next.events.ofKind kind priority = car.events.ofKind kind priority := by
  refine ofKind_carStep background (carStep_of_queuedStep background stepped) ?_ priority
  intro event queues
  apply Bool.eq_false_iff.mpr
  intro names
  have ours := network event names
  rcases queues_cases queues with ⟨evt, rfl, rfl⟩ | own
  · rw [CarStep.postsNetwork, ours] at posts
    cases posts
  · have quiet : ∀ event ∈ backgroundEvents,
        (namesReport event || namesAnnouncement event) = false := by decide
    rw [quiet event own] at ours
    cases ours

theorem flag_background (background : label.isHandle = false)
    (stepped : queuedStep label car = some next) :
    next.isHaveError errorNetWork = car.isHaveError errorNetWork := by
  have moved := background_carStep background (carStep_of_queuedStep background stepped)
  simp only [isHaveError, moved.carInfo]

theorem isHaveError_withNetwork_self (down : Bool) (car : AgvCar) :
    (car.withNetwork down).isHaveError errorNetWork = down := by
  have within : errorNetWork < 32 := by decide
  rw [isHaveError_eq_getElem within]
  exact (getElem_networkFlag down car.carInfo.error within).trans (if_pos rfl)

/-- Only the reports change the flag. -/
theorem flag_handle (other : namesReport evt.event = false)
    (handled : car.handleEvent readings evt = some next) :
    next.isHaveError errorNetWork = car.isHaveError errorNetWork := by
  cases named : namesNetwork evt.event with
  | false =>
      have blind :=
        handlesNetworkBlind_handleEvent readings named (car.isHaveError errorNetWork) car
      rw [withNetwork_self, handled] at blind
      have same : next = next.withNetwork (car.isHaveError errorNetWork) := Option.some.inj blind
      rw [same]
      exact isHaveError_withNetwork_self _ next
  | true =>
      cases kind : evt.event with
      | ev1sTimer =>
          simp only [handleEvent, kind, Option.some.injEq] at handled
          rw [← handled, checkInit]
          split
          · exact (checkBattery_keeps readings car).1
          · exact (checkBattery_keeps readings car).1
      | evNetworkOK | evNetworkError => simp [kind, namesReport] at other
      | _ => simp [kind, namesNetwork] at named

/-- A report is handled. -/
theorem handle_report (names : namesReport evt.event = true)
    (handled : car.handleEvent readings evt = some next) :
    next.isHaveError errorNetWork = !(evt.event == .evNetworkOK) := by
  have within : errorNetWork < 32 := by decide
  rw [handleEvent] at handled
  cases kind : evt.event with
  | evNetworkOK =>
      simp only [kind, Option.some.injEq] at handled
      subst handled
      exact (isHaveError_clearErrorFlag within car).trans (by simp)
  | evNetworkError =>
      simp only [kind, Option.some.injEq] at handled
      subst handled
      have set : (car.setErrorFlag errorNetWork).isHaveError errorNetWork = true := by
        simp [isHaveError_setErrorFlag within]
      rw [onNetworkError]
      split <;> exact set
  | _ => simp [kind, namesReport] at names

end AgvCar

namespace Connection

variable {beyond : Nat → UInt8} {connection next : Connection}

/-! ## One step -/

theorem reports_queue {events : List AgvEvent}
    (others : ∀ event ∈ events, namesReport event.event = false) (connection : Connection) :
    ∀ priority, (connection.queue events).car.events.ofKind namesReport priority =
      connection.car.events.ofKind namesReport priority :=
  EventHelper.ofKind_pushAll_of_not others connection.car.events

/-- What the link announces is no report. -/
theorem not_report_of_announces {link next : SchedulerLink} {events : List AgvEvent}
    (announced : link.Announces next events) :
    ∀ event ∈ events, namesReport event.event = false := by
  have quiet : ∀ event ∈ [SchedulerLink.online, SchedulerLink.offline],
      namesReport event.event = false := by decide
  intro event mem
  apply quiet event
  cases announced with
  | nothing => cases mem
  | down => exact List.mem_cons_of_mem _ mem
  | up => exact List.mem_cons.mpr (.inl (List.mem_singleton.mp mem))
  | both => exact mem

/-- The step of the car that a step of the rest of the program takes. -/
theorem step_car {label : CarStep}
    (stepped : Connection.step beyond (.car label) connection = some next) :
    label.postsNetwork = false ∧ ∃ car,
      (label.isHandle = false ∧ queuedStep label connection.car = some car ∧
          next = { connection with car } ∨
        ∃ evt readings rest, label = .handle evt readings ∧
          connection.car.events.popEvent = some (evt, rest) ∧
          { connection.car with events := rest }.handleEvent
            (readings.withLink connection.link) evt = some car ∧
          next = { connection with car }.handle evt.event) := by
  rw [step] at stepped
  split at stepped
  · cases stepped
  next silent =>
    rcases Option.map_eq_some_iff.mp stepped with ⟨car, moved, equal⟩
    refine ⟨Bool.eq_false_iff.mpr silent, car, ?_⟩
    cases label with
    | handle evt readings =>
        rcases queuedStep_handle moved with ⟨rest, taken, handled⟩
        exact .inr ⟨evt, readings, rest, rfl, taken, handled, equal.symm⟩
    | _ => exact .inl ⟨rfl, moved, equal.symm⟩

/-- What holds of the network in every state. -/
structure Kept (connection : Connection) : Prop where
  flag : connection.car.isHaveError errorNetWork = !connection.link.loopEnable
  latest : connection.statuses.getLast? = some connection.manager.lastNetworkStatus
  only : ∀ priority, priority ≠ normal → connection.car.events.ofKind namesReport priority = []
  blind : connection.manager.BlindWithout
  link : connection.link.Kept

/-- The status is left, set by a report, or will be by new ones. -/
inductive Passes (beyond : Nat → UInt8) (connection next : Connection) : Prop where
  | still (statuses : next.statuses = connection.statuses)
      (link : next.link = connection.link ∨ ∃ thread turn events,
        connection.link.threadTurn beyond thread turn = some (next.link, events))
      (manager : next.manager = connection.manager)
      (flag : next.car.isHaveError errorNetWork = connection.car.isHaveError errorNetWork)
  | handled (statuses : connection.statuses = connection.link.loopEnable :: next.statuses)
      (link : next.link = if next.link.loopEnable then connection.link.startSchedule
        else connection.link.stopSchedule.1)
      (manager : next.manager = connection.manager)
      (flag : next.car.isHaveError errorNetWork = !next.link.loopEnable)
  | turned (events : List AgvEvent)
      (statuses : next.statuses = connection.statuses ++ events.map (·.event == .evNetworkOK))
      (link : next.link = connection.link)
      (manager : connection.manager.Turned next.manager events)
      (flag : next.car.isHaveError errorNetWork = connection.car.isHaveError errorNetWork)

/-- A report that is handled gives the link its status. -/
theorem loopEnable_handle {event : EventList} (names : namesReport event = true)
    (connection : Connection) :
    (connection.handle event).link.loopEnable = (event == .evNetworkOK) := by
  cases event with
  | evNetworkOK => rfl
  | evNetworkError =>
      change connection.link.stopSchedule.1.loopEnable = false
      rw [SchedulerLink.stopSchedule]
      split
      · have left : ∀ link : SchedulerLink, link.stop.loopEnable = link.loopEnable := by
          intro link
          rw [SchedulerLink.stop]
          split
          · rfl
          · split <;> rfl
        exact (left _).trans (SchedulerLink.sameThreads_disconnect _).loopEnable
      next off => exact Bool.eq_false_iff.mpr off
  | _ => cases names

theorem link_handle_report {event : EventList} (names : namesReport event = true)
    (connection : Connection) :
    (connection.handle event).link =
      if (connection.handle event).link.loopEnable then connection.link.startSchedule
      else connection.link.stopSchedule.1 := by
  rw [loopEnable_handle names]
  cases event with
  | evNetworkOK | evNetworkError => rfl
  | _ => cases names

/-- Handling an event leaves the reports that wait behind it. -/
theorem reports_handle (event : EventList) (connection : Connection) (priority : Nat) :
    (connection.handle event).car.events.ofKind namesReport priority =
      connection.car.events.ofKind namesReport priority := by
  cases event with
  | _ => rfl

theorem flag_connection_handle (event : EventList) (connection : Connection) :
    (connection.handle event).car.isHaveError errorNetWork =
      connection.car.isHaveError errorNetWork := by
  cases event with
  | _ => rfl

theorem manager_handle (event : EventList) (connection : Connection) :
    (connection.handle event).manager = connection.manager := by
  cases event with
  | _ => rfl

theorem link_handle {event : EventList} (other : namesReport event = false)
    (connection : Connection) : (connection.handle event).link = connection.link := by
  cases event with
  | evNetworkOK | evNetworkError => cases other
  | _ => rfl

theorem mem_turned {manager next : NetManager} {events : List AgvEvent}
    (turned : manager.Turned next events) : ∀ report ∈ events,
      report.level = normal ∧ namesReport report.event = true ∧
        (report.event == .evNetworkOK) = next.lastNetworkStatus := by
  intro report mem
  rw [turned.events] at mem
  split at mem
  · cases mem
  · rcases NetManager.level_of_mem_reports mem with ⟨level, event⟩
    rw [event]
    cases next.lastNetworkStatus with
    | true => exact ⟨level, rfl, rfl⟩
    | false => exact ⟨level, rfl, rfl⟩

/-- The reports of a turn wait behind the others. -/
theorem ofKind_turned {manager next : NetManager} {events : List AgvEvent}
    (turned : manager.Turned next events) (connection : Connection) (priority : Nat) :
    (connection.queue events).car.events.ofKind namesReport priority =
      connection.car.events.ofKind namesReport priority ++
        if priority = normal then events.map EventHelper.stored else [] := by
  refine (ofKind_pushAll namesReport events _ priority).trans (congrArg _ ?_)
  split
  next lowest =>
    rw [List.filter_eq_self.mpr]
    intro report mem
    rcases mem_turned turned report mem with ⟨level, names, -⟩
    rw [level, names, lowest, decide_eq_true rfl, Bool.and_true]
  next higher =>
    rw [List.map_eq_nil_iff, List.filter_eq_nil_iff]
    intro report mem
    rcases mem_turned turned report mem with ⟨level, -, -⟩
    rw [level, decide_eq_false (Ne.symm higher), Bool.false_and]
    exact Bool.false_ne_true

theorem statuses_turned {manager : NetManager} {events : List AgvEvent}
    (turned : connection.manager.Turned manager events) :
    ({ connection with manager }.queue events).statuses =
      connection.statuses ++ events.map (·.event == .evNetworkOK) := by
  have waits := ofKind_turned turned { connection with manager } normal
  rw [if_pos rfl] at waits
  rw [statuses, reports, waits, List.map_append, List.map_map]
  rfl

/-- A step of the network passes the status on, and reports wait with the lowest priority only. -/
theorem Kept.passes (kept : connection.Kept) {label : ConnectionStep}
    (stepped : Connection.step beyond label connection = some next) :
    Passes beyond connection next ∧
      ∀ priority, priority ≠ normal → next.car.events.ofKind namesReport priority = [] := by
  cases label with
  | manager input =>
      rw [step] at stepped
      split at stepped
      · cases stepped
        have turned := NetManager.turned_run input connection.manager
        refine ⟨.turned _ (statuses_turned turned) rfl turned rfl, fun priority higher => ?_⟩
        have waits := ofKind_turned turned { connection with
          manager := (connection.manager.run input).1 } priority
        rw [if_neg higher, List.append_nil] at waits
        exact waits.trans (kept.only priority higher)
      · cases stepped
  | thread thread turn =>
      rcases Option.map_eq_some_iff.mp stepped with ⟨⟨link, events⟩, turned, rfl⟩
      have announced := SchedulerLink.announces_threadTurn turned
      have same := reports_queue (not_report_of_announces announced) { connection with link }
      have enable := SchedulerLink.loopEnable_threadTurn turned
      refine ⟨.still ?_ (.inr ⟨thread, turn, events, turned⟩) rfl rfl,
        fun priority higher => (same priority).trans ?_⟩
      · rw [statuses, reports, same normal]
        exact congrArg (· :: _) enable
      · exact kept.only priority higher
  | car label =>
      rcases step_car stepped with ⟨posts, car, quiet | handles⟩
      · rcases quiet with ⟨background, moved, rfl⟩
        have same := AgvCar.ofKind_background AgvCar.ofNetwork_namesReport posts background moved
        refine ⟨.still ?_ (.inl rfl) rfl (AgvCar.flag_background background moved),
          fun priority higher => (same priority).trans (kept.only priority higher)⟩
        rw [statuses, reports, same normal]
        rfl
      · rcases handles with ⟨evt, readings, rest, -, taken, handled, rfl⟩
        have same := AgvCar.ofKind_handle AgvCar.ofNetwork_namesReport (fun _ => rfl) handled
        have left := reports_handle evt.event { connection with car }
        have waits := fun priority => (left priority).trans (same priority)
        rcases EventHelper.ofKind_popEvent namesReport taken with ⟨top, split⟩
        cases names : namesReport evt.event with
        | false =>
            have before : ∀ priority, rest.ofKind namesReport priority =
                connection.car.events.ofKind namesReport priority := by
              intro priority
              simp [split priority, names]
            have flag := AgvCar.flag_handle names handled
            refine ⟨.still ?_ (.inl (link_handle names _)) (manager_handle _ _)
              ((flag_connection_handle _ _).trans flag),
              fun priority higher => ?_⟩
            · rw [statuses, reports, waits normal, link_handle names]
              exact congrArg (fun list : List AgvEvent => _ :: list.map _) (before normal)
            · exact (waits priority).trans ((before priority).trans (kept.only priority higher))
        | true =>
            have alone : top = normal := by
              apply Classical.byContradiction
              intro higher
              have nothing := kept.only top higher
              simp [split top, names] at nothing
            subst alone
            refine ⟨.handled ?_ (link_handle_report names _) (manager_handle _ _) ?_,
              fun priority higher => ?_⟩
            · have first := split normal
              rw [if_pos ⟨rfl, names⟩] at first
              rw [statuses, reports, first, statuses, reports, waits normal,
                loopEnable_handle names]
              rfl
            · rw [flag_connection_handle, loopEnable_handle names]
              exact AgvCar.handle_report names handled
            · have before := split priority
              rw [if_neg fun both => higher both.1, List.nil_append] at before
              exact (waits priority).trans (before.symm.trans (kept.only priority higher))

/-! ## Every run -/

/-- The last of the reports behind a turn tells of the status. -/
theorem getLast?_turned {manager next : NetManager} {events : List AgvEvent}
    (turned : manager.Turned next events) (blind : manager.BlindWithout) {statuses : List Bool}
    (latest : statuses.getLast? = some manager.lastNetworkStatus) :
    (statuses ++ events.map (·.event == .evNetworkOK)).getLast? =
      some next.lastNetworkStatus := by
  rw [List.getLast?_append, List.getLast?_map]
  cases last : events.getLast? with
  | none =>
      have nothing := List.getLast?_eq_none_iff.mp last
      rw [Option.map_none, Option.none_or, latest]
      rw [turned.events] at nothing
      split at nothing
      next same => rw [same]
      next =>
        have without : next.interfaces = 0 := by
          rw [← NetManager.length_reports, nothing, List.length_nil]
        have before : manager.interfaces = 0 := by
          rcases turned.interfaces with same | one
          · exact same.symm.trans without
          · exact absurd (one.1.symm.trans without) Nat.one_ne_zero
        rw [(blind before).2, (turned.blind blind without).2]
  | some report =>
      have mem := List.mem_of_getLast? last
      rw [Option.map_some, Option.some_or]
      exact congrArg some (mem_turned turned report mem).2.2

theorem statuses_ne_nil (connection : Connection) : connection.statuses ≠ [] :=
  List.cons_ne_nil _ _

/-- A step that appends to the statuses leaves the first. -/
theorem loopEnable_of_statuses {later : List Bool}
    (statuses : next.statuses = connection.statuses ++ later) :
    next.link.loopEnable = connection.link.loopEnable :=
  (List.cons.inj statuses).1

theorem kept_link (kept : connection.link.Kept) (passes : Passes beyond connection next) :
    next.link.Kept := by
  cases passes with
  | still statuses link =>
      rcases link with same | ⟨thread, turn, events, turned⟩
      · rw [same]
        exact kept
      · have acted : connection.link.act beyond (.turn thread turn) = some (next.link, events) :=
          turned
        exact SchedulerLink.kept_act kept acted
  | handled statuses link =>
      rw [link]
      split
      · exact SchedulerLink.kept_startSchedule kept
      · exact SchedulerLink.kept_stopSchedule kept
  | turned events statuses link =>
      rw [link]
      exact kept

theorem Kept.step (kept : connection.Kept) {label : ConnectionStep}
    (stepped : Connection.step beyond label connection = some next) : next.Kept := by
  rcases kept.passes stepped with ⟨passes, only⟩
  have link := kept_link kept.link passes
  cases passes with
  | still statuses _ manager flag =>
      have enable := loopEnable_of_statuses (statuses.trans (List.append_nil _).symm)
      refine ⟨?_, ?_, only, ?_, link⟩
      · rw [flag, kept.flag, enable]
      · rw [statuses, manager]
        exact kept.latest
      · rw [manager]
        exact kept.blind
  | handled statuses _ manager flag =>
      refine ⟨flag, ?_, only, ?_, link⟩
      · have latest := kept.latest
        rw [statuses, List.getLast?_cons_of_ne_nil (statuses_ne_nil next)] at latest
        rw [manager]
        exact latest
      · rw [manager]
        exact kept.blind
  | turned events statuses _ manager flag =>
      refine ⟨?_, ?_, only, manager.blind kept.blind, link⟩
      · rw [flag, kept.flag, loopEnable_of_statuses statuses]
      · rw [statuses]
        exact getLast?_turned manager kept.blind kept.latest

theorem kept_boot (isWifiEnable isEthernetEnable : Bool) :
    (boot isWifiEnable isEthernetEnable).Kept where
  flag := by
    change AgvCar.init.isHaveError errorNetWork = true
    decide
  latest := rfl
  only _ _ := rfl
  blind _ := ⟨rfl, rfl⟩
  link := ⟨SchedulerLink.counted_zero, nofun, nofun⟩

/-- In every run: the error flag of the network is set exactly while the link is stopped.  When no
report waits the link runs exactly if the network was there when the manager looked last, so that
a link without a network is not connected. -/
theorem link_follows_network (beyond : Nat → UInt8) (isWifiEnable isEthernetEnable : Bool)
    {labels : List ConnectionStep} {connection : Connection}
    (reached : run (Connection.step beyond) labels (boot isWifiEnable isEthernetEnable) =
      some connection) :
    connection.car.isHaveError errorNetWork = !connection.link.loopEnable ∧
      (connection.link.isConnected = true → connection.link.loopEnable = true) ∧
      (connection.reports = [] →
        connection.link.loopEnable = connection.manager.lastNetworkStatus) := by
  have kept : connection.Kept := by
    apply invariant_of_run _ (kept_boot isWifiEnable isEthernetEnable) reached
    intro before label after kept stepped
    exact kept.step stepped
  refine ⟨kept.flag, fun up => (kept.link.connected up).1, fun drained => ?_⟩
  have latest := kept.latest
  rw [statuses, drained] at latest
  exact Option.some.inj latest

/-- The turns up to the first look at the interfaces, which are connected. -/
def untilConnected : List ConnectionStep :=
  List.replicate 13 (.manager { ethernetConnected := true, wifiConnected := true })

/-- A wireless network comes up. -/
theorem link_follows_network_wifi : ∃ connection,
    run (Connection.step fun _ => 0)
        (untilConnected ++ [.car (.handle { event := .evNetworkOK } {}), .thread 0 {}])
        (boot true false) = some connection ∧
      connection.link.isConnected = true ∧ connection.link.loopEnable = true ∧
      connection.car.isHaveError errorNetWork = false := by
  let labels : List ConnectionStep :=
    untilConnected ++ [.car (.handle { event := .evNetworkOK } {}), .thread 0 {}]
  have returns : (run (Connection.step fun _ => 0) labels (boot true false)).isSome = true := rfl
  rcases Option.isSome_iff_exists.mp returns with ⟨connection, reached⟩
  have up : connection.link.isConnected = true := by
    have same := congrArg (Option.map fun connection => connection.link.isConnected) reached
    exact Option.some.inj same.symm
  rcases link_follows_network _ _ _ reached with ⟨flag, enable, -⟩
  refine ⟨connection, reached, up, enable up, ?_⟩
  rw [flag, enable up]
  rfl

/-! ## One thread -/

/-- There is one thread while the link runs, the one that `Stop` cancels, and none otherwise. -/
def Sole (link : SchedulerLink) : Prop :=
  if link.loopEnable then
    ∃ thread, link.thread = some thread ∧ link.threads = [thread] ∧ link.running = true
  else link.threads = []

theorem sole_startSchedule {link : SchedulerLink} (sole : Sole link)
    (stopped : link.loopEnable = false) : Sole link.startSchedule := by
  rw [Sole, stopped] at sole
  have none : link.threads = [] := sole
  refine (if_pos rfl).mpr ⟨link.created, rfl, ?_, rfl⟩
  rw [SchedulerLink.startSchedule, none, List.nil_append]

theorem sole_stopSchedule {link : SchedulerLink} (sole : Sole link)
    (runs : link.loopEnable = true) : Sole link.stopSchedule.1 := by
  rw [Sole, if_pos runs] at sole
  rcases sole with ⟨thread, last, alone, running⟩
  let stopped : SchedulerLink := { link with loopEnable := false }
  have same := SchedulerLink.sameThreads_disconnect stopped
  have cancelled : link.stopSchedule.1 = stopped.disconnect.1.stop := by
    rw [SchedulerLink.stopSchedule, if_pos runs]
  rw [SchedulerLink.stop_of_running (same.thread.trans last) (same.running.trans running)]
    at cancelled
  have off : link.stopSchedule.1.loopEnable = false := by
    rw [cancelled]
    exact same.loopEnable
  have left : link.stopSchedule.1.threads = [thread].erase thread := by
    rw [cancelled]
    exact congrArg (List.erase · thread) (same.threads.trans alone)
  rw [Sole, off, left]
  exact List.erase_cons_head thread []

theorem sole_threadTurn {link next : SchedulerLink} {thread : Nat} {turn : LinkTurn}
    {events : List AgvEvent} (sole : Sole link)
    (turned : link.threadTurn beyond thread turn = some (next, events)) : Sole next := by
  rw [SchedulerLink.threadTurn] at turned
  split at turned
  next alive =>
    split at turned
    next enable =>
      have ran : link.run beyond turn = (next, events) := Option.some.inj turned
      have same : link.SameThreads (link.run beyond turn).1 :=
        SchedulerLink.sameThreads_run link turn
      rw [ran] at same
      rw [Sole, same.loopEnable, same.thread, same.threads, same.running]
      exact sole
    next off =>
      rw [Sole, if_neg off] at sole
      rw [sole] at alive
      cases alive
  next => cases turned

/-- What holds with one interface: the reports alternate. -/
structure Single (connection : Connection) : Prop where
  interfaces : connection.manager.interfaces ≤ 1
  alternate : connection.statuses.IsChain (· ≠ ·)
  sole : Sole connection.link

theorem isChain_turned {manager next : NetManager} {events : List AgvEvent}
    (turned : manager.Turned next events) (single : next.interfaces ≤ 1) {statuses : List Bool}
    (latest : statuses.getLast? = some manager.lastNetworkStatus)
    (alternate : statuses.IsChain (· ≠ ·)) :
    (statuses ++ events.map (·.event == .evNetworkOK)).IsChain (· ≠ ·) := by
  cases reported : events with
  | nil =>
      rw [List.map_nil, List.append_nil]
      exact alternate
  | cons report others =>
      have mem : report ∈ events := reported ▸ List.mem_cons_self
      have told := (mem_turned turned report mem).2.2
      have changed := turned.events
      split at changed
      · rw [changed] at mem
        cases mem
      next other =>
        have alone : others = [] := by
          have length := congrArg List.length (reported.symm.trans changed)
          rw [NetManager.length_reports, List.length_cons] at length
          exact List.eq_nil_of_length_eq_zero (by omega)
        rw [alone, List.map_singleton]
        apply alternate.append (List.isChain_singleton _)
        intro last isLast first isFirst
        cases latest.symm.trans isLast
        cases isFirst
        rw [told]
        exact Ne.symm other

theorem Single.step (single : connection.Single) (kept : connection.Kept) {label : ConnectionStep}
    (stepped : Connection.step beyond label connection = some next) : next.Single := by
  rcases kept.passes stepped with ⟨passes, -⟩
  cases passes with
  | still statuses link manager =>
      refine ⟨manager ▸ single.interfaces, statuses ▸ single.alternate, ?_⟩
      rcases link with same | ⟨thread, turn, events, turned⟩
      · rw [same]
        exact single.sole
      · exact sole_threadTurn single.sole turned
  | handled statuses link manager =>
      have alternate := single.alternate
      rw [statuses] at alternate
      have changes : connection.link.loopEnable ≠ next.link.loopEnable :=
        (List.isChain_cons_cons.mp alternate).1
      refine ⟨manager ▸ single.interfaces, alternate.tail, ?_⟩
      rw [link]
      cases enable : next.link.loopEnable with
      | true => exact sole_startSchedule single.sole (by simpa [enable] using changes)
      | false => exact sole_stopSchedule single.sole (by simpa [enable] using changes)
  | turned events statuses link manager =>
      have alone : next.manager.interfaces ≤ 1 := by
        rcases manager.interfaces with same | one
        · rw [same]
          exact single.interfaces
        · exact one.1.le
      refine ⟨alone, ?_, link ▸ single.sole⟩
      rw [statuses]
      exact isChain_turned manager alone kept.latest single.alternate

/-- There is at most one thread in the link in every state of every run, exactly if not both
interfaces are enabled.  With both of them `Start` is called for each. -/
theorem one_thread_iff (beyond : Nat → UInt8) (isWifiEnable isEthernetEnable : Bool) :
    (∀ labels connection, run (Connection.step beyond) labels
        (boot isWifiEnable isEthernetEnable) = some connection →
      connection.link.threads.length ≤ 1) ↔
      ¬ (isWifiEnable = true ∧ isEthernetEnable = true) := by
  constructor
  · rintro few ⟨rfl, rfl⟩
    let labels : List ConnectionStep := untilConnected ++
      [.car (.handle { event := .evNetworkOK } {}),
        .car (.handle { event := .evNetworkOK, param := 1 } {})]
    have started : (run (Connection.step beyond) labels (boot true true)).map
        (fun connection => connection.link.threads) = some [0, 1] := rfl
    rcases Option.map_eq_some_iff.mp started with ⟨connection, reached, two⟩
    have few := few labels connection reached
    rw [two] at few
    exact absurd few (by decide)
  · intro notBoth labels connection reached
    have single : connection.Single ∧ connection.Kept := by
      apply invariant_of_run _ _ reached
      · rintro before label after ⟨single, kept⟩ stepped
        exact ⟨single.step kept stepped, kept.step stepped⟩
      · refine ⟨⟨?_, List.isChain_singleton _, rfl⟩, kept_boot _ _⟩
        cases isWifiEnable with
        | false => exact (Nat.zero_add _).le.trans (Bool.toNat_le _)
        | true =>
            cases isEthernetEnable with
            | false => exact Nat.le_refl 1
            | true => exact absurd ⟨rfl, rfl⟩ notBoth
    have sole := single.1.sole
    rw [Sole] at sole
    split at sole
    · rcases sole with ⟨thread, -, alone, -⟩
      rw [alone]
      exact Nat.le_refl 1
    · rw [sole]
      exact Nat.zero_le 1

/-! ## The panel -/

/-- `evSchedulerOffline` is queued while `evSchedulerOnline` waits, and will be handled first. -/
def Overtakes (connection next : Connection) : Prop :=
  connection.offlines.length < next.offlines.length ∧ next.onlines ≠ []

/-- `StartSchedule` takes a connection down without a word. -/
def Restarts (connection : Connection) : ConnectionStep → Prop
  | .car (.handle evt _) => evt.event = .evNetworkOK ∧ connection.link.isConnected = true
  | _ => False

/-- Where the announcements wait. -/
structure Announced (connection : Connection) : Prop where
  others : ∀ priority, priority ≠ normal → priority ≠ important →
    connection.car.events.ofKind namesAnnouncement priority = []
  online : ∀ event ∈ connection.onlines, event.event = .evSchedulerOnline
  offline : ∀ event ∈ connection.offlines, event.event = .evSchedulerOffline

theorem willShow_of_onlines (announced : connection.Announced) (waits : connection.onlines ≠ []) :
    connection.willShow = true := by
  rw [willShow, List.getLast?_append_of_ne_nil _ waits, List.getLast?_eq_some_getLast waits]
  exact beq_iff_eq.mpr (announced.online _ (List.getLast_mem waits))

theorem willShow_of_offlines (announced : connection.Announced) (none : connection.onlines = [])
    (waits : connection.offlines ≠ []) : connection.willShow = false := by
  rw [willShow, none, List.append_nil, List.getLast?_eq_some_getLast waits, Option.map_some,
    Option.getD_some, announced.offline _ (List.getLast_mem waits)]
  rfl

/-- Two states with the same announcements. -/
structure SameAnnouncements (connection next : Connection) : Prop where
  waiting : ∀ priority, next.car.events.ofKind namesAnnouncement priority =
    connection.car.events.ofKind namesAnnouncement priority
  shown : next.shown = connection.shown

namespace SameAnnouncements

theorem onlines (same : SameAnnouncements connection next) : next.onlines = connection.onlines :=
  same.waiting normal

theorem offlines (same : SameAnnouncements connection next) :
    next.offlines = connection.offlines := same.waiting important

theorem announced (same : SameAnnouncements connection next) (announced : connection.Announced) :
    next.Announced where
  others priority higher lower :=
    (same.waiting priority).trans (announced.others priority higher lower)
  online := by
    rw [same.onlines]
    exact announced.online
  offline := by
    rw [same.offlines]
    exact announced.offline

theorem willShow (same : SameAnnouncements connection next) :
    next.willShow = connection.willShow := by
  rw [Connection.willShow, same.onlines, same.offlines, same.shown]
  rfl

theorem not_overtakes (same : SameAnnouncements connection next) :
    ¬ Overtakes connection next := by
  rintro ⟨more, -⟩
  rw [same.offlines] at more
  exact Nat.lt_irrefl _ more

end SameAnnouncements

/-- What is announced waits behind the others that tell the same. -/
theorem onlines_queue (events : List AgvEvent) (connection : Connection) :
    (connection.queue events).onlines = connection.onlines ++
      (events.filter fun event => event.level = normal && namesAnnouncement event.event).map
        EventHelper.stored :=
  ofKind_pushAll namesAnnouncement events connection.car.events normal

theorem offlines_queue (events : List AgvEvent) (connection : Connection) :
    (connection.queue events).offlines = connection.offlines ++
      (events.filter fun event => event.level = important && namesAnnouncement event.event).map
        EventHelper.stored :=
  ofKind_pushAll namesAnnouncement events connection.car.events important

/-- The link announces with the priorities of its events. -/
theorem announced_queue {link next : SchedulerLink} {events : List AgvEvent}
    (announced : connection.Announced) (announces : link.Announces next events) :
    (connection.queue events).Announced := by
  have mem : ∀ event ∈ events, event = SchedulerLink.online ∨ event = SchedulerLink.offline := by
    cases announces with
    | nothing => simp
    | down => simp
    | up => simp
    | both => simp
  refine ⟨fun priority higher lower => ?_, fun event waits => ?_, fun event waits => ?_⟩
  · refine (ofKind_pushAll namesAnnouncement events _ priority).trans ?_
    rw [announced.others priority higher lower, List.nil_append, List.map_eq_nil_iff,
      List.filter_eq_nil_iff]
    intro event queued
    rcases mem event queued with rfl | rfl
    · have level : SchedulerLink.online.level ≠ priority := Ne.symm higher
      rw [decide_eq_false level, Bool.false_and]
      exact Bool.false_ne_true
    · have level : SchedulerLink.offline.level ≠ priority := Ne.symm lower
      rw [decide_eq_false level, Bool.false_and]
      exact Bool.false_ne_true
  · rw [onlines_queue] at waits
    rcases List.mem_append.mp waits with before | queued
    · exact announced.online event before
    · rcases List.mem_map.mp queued with ⟨event, kept, rfl⟩
      rcases List.mem_filter.mp kept with ⟨queued, level⟩
      rcases mem event queued with rfl | rfl
      · rfl
      · cases level
  · rw [offlines_queue] at waits
    rcases List.mem_append.mp waits with before | queued
    · exact announced.offline event before
    · rcases List.mem_map.mp queued with ⟨event, kept, rfl⟩
      rcases List.mem_filter.mp kept with ⟨queued, level⟩
      rcases mem event queued with rfl | rfl
      · cases level
      · rfl

/-- The panel follows what is announced, unless the link goes down while `evSchedulerOnline`
waits. -/
theorem agrees_queue {link : SchedulerLink} {events : List AgvEvent}
    (announced : connection.Announced) (agrees : connection.willShow = connection.link.isConnected)
    (announces : connection.link.Announces link events) :
    ({ connection with link }.queue events).willShow = link.isConnected ↔
      ¬ Overtakes connection ({ connection with link }.queue events) := by
  have before : Announced { connection with link } :=
    ⟨announced.others, announced.online, announced.offline⟩
  have after := announced_queue before announces
  have onlines := onlines_queue events { connection with link }
  have offlines := offlines_queue events { connection with link }
  cases announces with
  | nothing same =>
      have still : SameAnnouncements connection ({ connection with link }.queue []) :=
        ⟨fun _ => rfl, rfl⟩
      apply iff_of_true
      · rw [still.willShow, same, agrees]
      · exact still.not_overtakes
  | down down =>
      have more : connection.offlines.length <
          ({ connection with link }.queue [SchedulerLink.offline]).offlines.length := by
        rw [offlines, List.length_append]
        exact Nat.lt_succ_self _
      rw [down, Overtakes, and_iff_right more, Classical.not_not]
      constructor
      · intro shows
        apply Classical.byContradiction
        intro waits
        rw [willShow_of_onlines after waits] at shows
        cases shows
      · intro none
        apply willShow_of_offlines after none
        exact List.ne_nil_of_length_pos (Nat.lt_of_le_of_lt (Nat.zero_le _) more)
  | up was up =>
      apply iff_of_true
      · rw [up]
        apply willShow_of_onlines after
        rw [onlines]
        exact List.append_ne_nil_of_right_ne_nil _ (List.cons_ne_nil _ _)
      · rintro ⟨more, -⟩
        rw [offlines, List.length_append] at more
        exact Nat.lt_irrefl _ more
  | both was down =>
      have waits : ({ connection with link }.queue
          [SchedulerLink.online, SchedulerLink.offline]).onlines ≠ [] := by
        rw [onlines]
        exact List.append_ne_nil_of_right_ne_nil _ (List.cons_ne_nil _ _)
      apply iff_of_false
      · rw [willShow_of_onlines after waits, down]
        exact Bool.false_ne_true.symm
      · apply not_not_intro
        refine ⟨?_, waits⟩
        rw [offlines, List.length_append]
        exact Nat.lt_succ_self _

/-- An announcement is taken from the queue when no other is to be handled before. -/
theorem announcements_popEvent {evt : AgvEvent} {helper rest : EventHelper}
    (taken : helper.popEvent = some (evt, rest)) (names : namesAnnouncement evt.event = true)
    (others : ∀ priority, priority ≠ normal → priority ≠ important →
      helper.ofKind namesAnnouncement priority = []) :
    (∀ priority, priority ≠ normal → priority ≠ important →
        rest.ofKind namesAnnouncement priority = []) ∧
      (helper.ofKind namesAnnouncement important = evt :: rest.ofKind namesAnnouncement important ∧
          rest.ofKind namesAnnouncement normal = helper.ofKind namesAnnouncement normal ∨
        helper.ofKind namesAnnouncement normal = evt :: rest.ofKind namesAnnouncement normal ∧
          helper.ofKind namesAnnouncement important = [] ∧
          rest.ofKind namesAnnouncement important = []) := by
  rcases ofKind_highest namesAnnouncement taken with ⟨top, split, higher⟩
  have first := split top
  rw [if_pos ⟨rfl, names⟩] at first
  have same : ∀ priority, priority ≠ top → rest.ofKind namesAnnouncement priority =
      helper.ofKind namesAnnouncement priority := by
    intro priority other
    rw [split priority, if_neg fun both => other both.1, List.nil_append]
  have lowest : top = normal ∨ top = important := by
    apply Classical.byContradiction
    rw [not_or]
    rintro ⟨notNormal, notImportant⟩
    rw [others top notNormal notImportant] at first
    cases first
  rcases lowest with rfl | rfl
  · have empty := higher important (by decide) (by decide)
    refine ⟨fun priority notNormal notImportant => ?_,
      .inr ⟨first, empty, (same important (by decide)).trans empty⟩⟩
    exact (same priority notNormal).trans (others priority notNormal notImportant)
  · refine ⟨fun priority notNormal notImportant => ?_, .inl ⟨first, same normal (by decide)⟩⟩
    exact (same priority notImportant).trans (others priority notNormal notImportant)

/-- The panel shows what the announcement that is taken tells. -/
theorem agrees_handle {evt : AgvEvent} {rest : EventHelper} (announced : connection.Announced)
    (taken : connection.car.events.popEvent = some (evt, rest))
    (names : namesAnnouncement evt.event = true)
    (same : ∀ priority, next.car.events.ofKind namesAnnouncement priority =
      rest.ofKind namesAnnouncement priority)
    (shown : next.shown = (evt.event == .evSchedulerOnline)) :
    next.Announced ∧ next.willShow = connection.willShow ∧ ¬ Overtakes connection next := by
  rcases announcements_popEvent taken names announced.others with ⟨others, first⟩
  have empty := fun priority notNormal notImportant =>
    (same priority).trans (others priority notNormal notImportant)
  have online := same normal
  have offline := same important
  rcases first with ⟨head, rest⟩ | ⟨head, none, left⟩
  · have onlines : next.onlines = connection.onlines := online.trans rest
    have offlines : connection.offlines = evt :: next.offlines :=
      head.trans (congrArg (evt :: ·) offline.symm)
    refine ⟨⟨empty, ?_, fun event waits => ?_⟩, ?_, ?_⟩
    · rw [onlines]
      exact announced.online
    · apply announced.offline
      rw [offlines]
      exact List.mem_cons_of_mem evt waits
    · rw [willShow, willShow, offlines, onlines, List.cons_append, List.getLast?_cons, shown]
      cases (next.offlines ++ connection.onlines).getLast? with
      | none => rfl
      | some last => rfl
    · rintro ⟨more, -⟩
      rw [offlines, List.length_cons] at more
      exact Nat.lt_irrefl _ (Nat.lt_of_succ_lt more)
  · have onlines : connection.onlines = evt :: next.onlines :=
      head.trans (congrArg (evt :: ·) online.symm)
    have nothing : next.offlines = [] := offline.trans left
    refine ⟨⟨empty, fun event waits => ?_, ?_⟩, ?_, ?_⟩
    · apply announced.online
      rw [onlines]
      exact List.mem_cons_of_mem evt waits
    · rw [nothing]
      exact fun event waits => absurd waits List.not_mem_nil
    · have before : connection.offlines = [] := none
      rw [willShow, willShow, nothing, before, onlines, List.nil_append, List.nil_append,
        List.getLast?_cons, shown]
      cases next.onlines.getLast? with
      | none => rfl
      | some last => rfl
    · rintro ⟨more, -⟩
      rw [nothing] at more
      exact Nat.not_lt_zero _ more

/-- Handling any event, as far as the panel goes. -/
theorem agrees_car {evt : AgvEvent} {rest : EventHelper} {readings : Readings} {car : AgvCar}
    (announced : connection.Announced) (agrees : connection.willShow = connection.link.isConnected)
    (taken : connection.car.events.popEvent = some (evt, rest))
    (handled : { connection.car with events := rest }.handleEvent
      (readings.withLink connection.link) evt = some car) :
    ({ connection with car }.handle evt.event).Announced ∧
      (({ connection with car }.handle evt.event).willShow =
          ({ connection with car }.handle evt.event).link.isConnected ↔
        ¬ Overtakes connection ({ connection with car }.handle evt.event) ∧
          ¬ Restarts connection (.car (.handle evt readings))) := by
  have behind : evt.event ≠ .evNetworkError → ∀ priority,
      car.events.ofKind namesAnnouncement priority = rest.ofKind namesAnnouncement priority :=
    fun other => AgvCar.ofKind_handle AgvCar.ofNetwork_namesAnnouncement
      (fun lost => absurd lost other) handled
  cases names : namesAnnouncement evt.event with
  | true =>
      have handles : (∀ priority, ({ connection with car }.handle evt.event).car.events.ofKind
            namesAnnouncement priority = rest.ofKind namesAnnouncement priority) ∧
          ({ connection with car }.handle evt.event).shown = (evt.event == .evSchedulerOnline) ∧
          ({ connection with car }.handle evt.event).link = connection.link ∧
          evt.event ≠ .evNetworkOK := by
        cases kind : evt.event with
        | evSchedulerOnline | evSchedulerOffline =>
            exact ⟨behind (by simp [kind]), rfl, rfl, by decide⟩
        | _ => simp [kind, namesAnnouncement] at names
      rcases handles with ⟨same, shown, link, other⟩
      rcases agrees_handle announced taken names same shown with ⟨after, shows, order⟩
      refine ⟨after, iff_of_true ?_ ⟨order, fun restarts => other restarts.1⟩⟩
      rw [shows, link, agrees]
  | false =>
      rcases ofKind_highest namesAnnouncement taken with ⟨top, split, -⟩
      have keeps : ∀ car : AgvCar, (∀ priority, car.events.ofKind namesAnnouncement priority =
          rest.ofKind namesAnnouncement priority) →
            SameAnnouncements connection { connection with car } := by
        intro car left
        refine ⟨fun priority => (left priority).trans ?_, rfl⟩
        simp [split priority, names]
      cases kind : evt.event with
      | evNetworkOK =>
          have same := keeps car (behind (by simp [kind]))
          have started :
              SameAnnouncements connection ({ connection with car }.handle .evNetworkOK) :=
            ⟨same.waiting, rfl⟩
          refine ⟨started.announced announced, ?_⟩
          rw [started.willShow, agrees, and_iff_right started.not_overtakes]
          change connection.link.isConnected = false ↔
            ¬ (evt.event = .evNetworkOK ∧ connection.link.isConnected = true)
          rw [and_iff_right kind, Bool.not_eq_true]
      | evNetworkError =>
          let flagged : AgvCar :=
            { connection.car with events := rest }.setErrorFlag errorNetWork
          have same := keeps flagged fun _ => rfl
          have shows := same.willShow.trans agrees
          have announces := SchedulerLink.announces_stopSchedule connection.link
          have before : Announced
              { connection with car := flagged, link := connection.link.stopSchedule.1 } :=
            ⟨(same.announced announced).others, (same.announced announced).online,
              (same.announced announced).offline⟩
          have queues : { connection with car }.handle .evNetworkError =
              { connection with car := flagged, link := connection.link.stopSchedule.1 }.queue
                connection.link.stopSchedule.2 := by
            simp only [AgvCar.handleEvent, kind, Option.some.injEq] at handled
            rw [AgvCar.onNetworkError_withLink] at handled
            subst handled
            rfl
          rw [queues]
          refine ⟨announced_queue before announces, ?_⟩
          have agreed := agrees_queue (same.announced announced) shows announces
          have quiet : ¬ Restarts connection (.car (.handle evt readings)) := by
            rintro ⟨started, -⟩
            rw [kind] at started
            cases started
          rw [and_iff_left quiet]
          rw [Overtakes, same.offlines] at agreed
          exact agreed
      | evSchedulerOnline | evSchedulerOffline => simp [kind, namesAnnouncement] at names
      | _ =>
          have same := keeps car (behind (by simp [kind]))
          have shows := same.willShow.trans agrees
          refine ⟨same.announced announced, iff_of_true shows ⟨same.not_overtakes, ?_⟩⟩
          rintro ⟨started, -⟩
          rw [kind] at started
          cases started

/-- What the panel will show is that the link is up exactly if no announcement was overtaken and
no connection started again. -/
theorem agrees_step (announced : connection.Announced)
    (agrees : connection.willShow = connection.link.isConnected)
    {label : ConnectionStep} (stepped : Connection.step beyond label connection = some next) :
    next.Announced ∧ (next.willShow = next.link.isConnected ↔
      ¬ Overtakes connection next ∧ ¬ Restarts connection label) := by
  have stays : SameAnnouncements connection next →
      next.link.isConnected = connection.link.isConnected →
      ¬ Restarts connection label → next.Announced ∧ (next.willShow = next.link.isConnected ↔
        ¬ Overtakes connection next ∧ ¬ Restarts connection label) := by
    intro same up quiet
    refine ⟨same.announced announced, iff_of_true ?_ ⟨same.not_overtakes, quiet⟩⟩
    rw [same.willShow, up, agrees]
  cases label with
  | manager input =>
      rw [step] at stepped
      split at stepped
      · cases stepped
        have turned := NetManager.turned_run input connection.manager
        apply stays _ rfl not_false
        refine ⟨fun priority => ?_, rfl⟩
        apply EventHelper.ofKind_pushAll_of_not
        intro report mem
        have names := (mem_turned turned report mem).2.1
        cases kind : report.event with
        | evNetworkOK | evNetworkError => rfl
        | _ => simp [kind, namesReport] at names
      · cases stepped
  | thread thread turn =>
      rcases Option.map_eq_some_iff.mp stepped with ⟨⟨link, events⟩, turned, rfl⟩
      have announces := SchedulerLink.announces_threadTurn turned
      have before : Announced { connection with link } :=
        ⟨announced.others, announced.online, announced.offline⟩
      exact ⟨announced_queue before announces, (agrees_queue announced agrees announces).trans
        (iff_self_and.mpr fun _ => not_false)⟩
  | car label =>
      rcases step_car stepped with ⟨posts, car, quiet | handles⟩
      · rcases quiet with ⟨background, moved, rfl⟩
        have same :=
          AgvCar.ofKind_background AgvCar.ofNetwork_namesAnnouncement posts background moved
        apply stays ⟨same, rfl⟩ rfl
        cases label with
        | handle evt readings => cases background
        | _ => exact not_false
      · rcases handles with ⟨evt, readings, rest, rfl, taken, handled, rfl⟩
        exact agrees_car announced agrees taken handled

theorem announced_boot (isWifiEnable isEthernetEnable : Bool) :
    (boot isWifiEnable isEthernetEnable).Announced where
  others _ _ _ := rfl
  online _ waits := absurd waits List.not_mem_nil
  offline _ waits := absurd waits List.not_mem_nil

/-- What carries the induction along a run. -/
structure InStep (connection : Connection) : Prop where
  announced : connection.Announced
  agrees : connection.willShow = connection.link.isConnected

/-- In every run: behind the announcements that wait the panel will show whether the link is
connected, after every step, exactly if `evSchedulerOffline` is never queued while
`evSchedulerOnline` waits, and no connection is started again. -/
theorem panel_follows_link_iff (beyond : Nat → UInt8) (isWifiEnable isEthernetEnable : Bool)
    (labels : List ConnectionStep) :
    Along (Connection.step beyond) (fun _ _ next => next.willShow = next.link.isConnected) labels
        (boot isWifiEnable isEthernetEnable) ↔
      Along (Connection.step beyond)
        (fun connection label next => ¬ Overtakes connection next ∧ ¬ Restarts connection label)
        labels (boot isWifiEnable isEthernetEnable) := by
  have initial : (boot isWifiEnable isEthernetEnable).InStep :=
    ⟨announced_boot isWifiEnable isEthernetEnable, rfl⟩
  apply along_iff_of_guard _ _ initial
  · intro connection label next inStep stepped guard
    rcases agrees_step inStep.announced inStep.agrees stepped with ⟨after, iff⟩
    exact ⟨after, iff.mpr guard⟩
  · intro connection label next inStep stepped
    exact (agrees_step inStep.announced inStep.agrees stepped).2

/-- A server that closes the connection at once: the panel is left with a link that is not
there. -/
example : (run (Connection.step fun _ => 0)
    (untilConnected ++ [.car (.handle { event := .evNetworkOK } {}),
      .thread 0 { received := .readFailed },
      .car (.handle { event := .evSchedulerOffline, priority := important } {}),
      .car (.handle { event := .evSchedulerOnline } {})])
    (boot true false)).map (fun connection => (connection.shown, connection.link.isConnected)) =
      some (true, false) := rfl

end Connection

end DrivingControl.Controler

import DrivingControl.Comm.SetPath
import DrivingControl.Controler.CarFrame

/-!
# The stations of a new path

`ParseReceiveData` unpacks every `ServerSendPath` frame into one station list and queues
an event with a pointer to it.  `HandleEvent` gives `OnGetNewPath` what the list holds
when the event is handled.  That is what the frame of the event carried as long as the
frame that filled the list last carries the same.
-/

namespace DrivingControl.Controler

open DrivingControl.Comm DrivingControl.Event DrivingControl.Library

/-! ## Parsing and handling -/

/-- The event that a path frame is queued as. -/
def newPath (stationCount : UInt16) : AgvEvent where
  event := .evGetNewPath
  param := stationCount.toNat
  priority := important
  data := .stationList

/-- Whether an event is one for a new path. -/
def isNewPath (evt : AgvEvent) : Bool := evt.event == .evGetNewPath

/-- The scheduler's `pathList` and the queue of the main loop. -/
structure PathExchange where
  pathList : SetPath := {}
  events : EventHelper := {}

/-- What happens next. -/
inductive PathStep where
  /-- `ParseReceiveData` dispatches a `ServerSendPath` frame. -/
  | receive (frame : PathFrame)
  /-- Another event is queued. -/
  | post (evt : AgvEvent)
  /-- The main loop takes an event and handles it. -/
  | dispatch

/-- One step.  What the handlers queue, which is no new path, are steps of their own. -/
def pathStep : StepFn PathExchange PathStep
  | .receive frame, state =>
      let pathList := state.pathList.unPackData frame.fresh frame.payload
      some { pathList, events := state.events.pushEvent (newPath pathList.stationCount) }
  | .post evt, state =>
      if isNewPath evt then none
      else some { state with events := state.events.pushEvent evt }
  | .dispatch, state =>
      state.events.popEvent.map fun taken => { state with events := taken.2 }

/-- The list that the handling of an event for a new path passes to `OnGetNewPath`. -/
def PathExchange.passed (state : PathExchange) : List StationInfo := state.pathList.stationList

/-- The frames so far, and how many of their events have been handled.  All these events
have one priority, so they are handled in the order of their frames. -/
structure PathLog where
  received : List PathFrame := []
  handled : Nat := 0

namespace PathLog

/-- The log behind a step. -/
def observe (state : PathExchange) (label : PathStep) (_ : PathExchange) (log : PathLog) :
    PathLog :=
  match label with
  | .receive frame => { log with received := log.received ++ [frame] }
  | .post _ => log
  | .dispatch =>
      match state.events.popEvent with
      | some (evt, _) => if isNewPath evt then { log with handled := log.handled + 1 } else log
      | none => log

/-- The stations of the frame that filled the list last. -/
def lastStations (log : PathLog) : List StationInfo :=
  ((log.received.filter PathFrame.fills).getLast?.map PathFrame.stations).getD []

end PathLog

/-- The exchange beside its log. -/
def loggedPathStep : StepFn (PathExchange × PathLog) PathStep :=
  monitored pathStep PathLog.observe

/-- The event for a new path that is taken, if one is. -/
def takesNewPath (state : PathExchange) : PathStep → Bool
  | .dispatch => (state.events.popEvent.map fun taken => isNewPath taken.1).getD false
  | _ => false

/-- The event of a frame passes the stations of that frame. -/
def PassesOwn (paired : PathExchange × PathLog) (label : PathStep) (_ : PathExchange × PathLog) :
    Prop :=
  takesNewPath paired.1 label = true →
    ∃ frame ∈ paired.2.received[paired.2.handled]?, paired.1.passed = frame.stations

/-- The frame of the event carries the stations of the frame that filled the list last. -/
def NotReplaced (paired : PathExchange × PathLog) (label : PathStep)
    (_ : PathExchange × PathLog) : Prop :=
  takesNewPath paired.1 label = true →
    ∀ frame ∈ paired.2.received[paired.2.handled]?, frame.stations = paired.2.lastStations

instance (paired : PathExchange × PathLog) (label : PathStep) (next : PathExchange × PathLog) :
    Decidable (PassesOwn paired label next) :=
  inferInstanceAs (Decidable (_ → ∃ frame ∈ _, _))

/-! ## The shared list -/

/-- The list holds what was filled in last, and every frame has been handled or has an event
that waits. -/
structure Shares (paired : PathExchange × PathLog) : Prop where
  list : paired.1.passed = paired.2.lastStations
  events : paired.1.events.count isNewPath + paired.2.handled = paired.2.received.length

theorem lastStations_receive (log : PathLog) (frame : PathFrame) :
    { log with received := log.received ++ [frame] : PathLog }.lastStations =
      if frame.fills then frame.stations else log.lastStations := by
  cases fills : frame.fills with
  | true => simp [PathLog.lastStations, List.filter_append, fills]
  | false => simp [PathLog.lastStations, List.filter_append, fills]

variable {paired next : PathExchange × PathLog} {label : PathStep}

/-- Every step keeps the list and the events in agreement with the log. -/
theorem Shares.step (shares : Shares paired)
    (stepped : loggedPathStep label paired = some next) : Shares next := by
  rcases paired with ⟨state, log⟩
  rcases next with ⟨after, logged⟩
  rcases monitored_eq_some stepped with ⟨moved, observed⟩
  simp only at moved observed
  subst observed
  cases label with
  | receive frame =>
      cases moved
      constructor
      · change (state.pathList.unPackData frame.fresh frame.payload).stationList = _
        rw [SetPath.stationList_unPackData, PathLog.observe, lastStations_receive]
        split
        · rfl
        · exact shares.list
      · have before := shares.events
        simp only [EventHelper.count_pushEvent, PathLog.observe, List.length_append,
          List.length_singleton] at before ⊢
        rw [if_pos (by rfl)]
        omega
  | post evt =>
      simp only [pathStep] at moved
      split at moved
      · cases moved
      next other =>
        cases moved
        refine ⟨shares.list, ?_⟩
        rw [EventHelper.count_pushEvent, if_neg (by simpa [isNewPath, EventHelper.stored] using other)]
        exact shares.events
  | dispatch =>
      rcases Option.map_eq_some_iff.mp moved with ⟨⟨evt, rest⟩, popped, equal⟩
      cases equal
      have before := shares.events
      have counted := EventHelper.count_popEvent isNewPath popped
      simp only at before
      constructor
      · simp only [PathLog.observe, popped]
        split
        · exact shares.list
        · exact shares.list
      · simp only [PathLog.observe, popped]
        split
        next kind =>
          rw [if_pos kind] at counted
          simp only
          omega
        next other =>
          rw [if_neg other] at counted
          omega

/-- The frame of an event for a new path that is taken has been received. -/
theorem Shares.frame (shares : Shares paired) (takes : takesNewPath paired.1 label = true) :
    ∃ frame, paired.2.received[paired.2.handled]? = some frame := by
  have waits : 0 < paired.1.events.count isNewPath := by
    cases label with
    | receive frame => cases takes
    | post evt => cases takes
    | dispatch =>
        simp only [takesNewPath] at takes
        cases popped : paired.1.events.popEvent with
        | none => simp [popped] at takes
        | some taken =>
            rcases taken with ⟨evt, rest⟩
            simp only [popped, Option.map_some, Option.getD_some] at takes
            rw [EventHelper.count_popEvent isNewPath popped, if_pos takes]
            omega
  have events := shares.events
  exact ⟨_, List.getElem?_eq_getElem (by omega)⟩

end DrivingControl.Controler

import DrivingControl.Controler.QueueBlind
import DrivingControl.Devices.ButtonSensor

/-!
# The order of commands

The server and the buttons start and stop the car, and the server switches the charger.
A command is queued when its frame is parsed, and handled when the main loop takes it.
To stop and to switch the charger off are urgent.

Commands are handled in the order of their priorities: the oldest urgent command first,
else the oldest one.  Each is handled once, and the car ends as if they had been handled
one after another in that order.  It is the order in which they were received as long as
no urgent command is received while another one waits.
-/

namespace DrivingControl.Controler

open DrivingControl.Comm DrivingControl.Devices DrivingControl.Event DrivingControl.Library

/-! ## Commands -/

def keyStart : AgvEvent := { event := .evKeyStart }
def keyStop : AgvEvent := { event := .evKeyStop, priority := urgent }
def turnOnCharge : AgvEvent := { event := .evTurnOnCharge, param := 1 }
def turnOffCharge : AgvEvent := { event := .evTurnOffCharge, param := 1, priority := urgent }

/-- The events that the commands are queued as. -/
def commands : List AgvEvent := [keyStart, keyStop, turnOnCharge, turnOffCharge]

/-- The commands of the server among those of `CAgvSchProtocol`. -/
def serverSendAction : UInt16 := 0x0202
def serverChargerTurnOn : UInt16 := 0x0205
def serverChargerTurnOff : UInt16 := 0x0206

/-- `DoAction::unPackData`.  A payload that is too short leaves the action unset. -/
def unPackAction (unset : UInt8) (data : List UInt8) : UInt8 :=
  if data.length < 4 then unset else data.headD unset

/-- The command switch of `ParseReceiveData` for the frames that start or stop the car or
switch the charger, and the event it queues. -/
def parseCommand (unset : UInt8) (message : SchMessage) : Option AgvEvent :=
  if message.cmd = serverSendAction then
    let action := unPackAction unset message.data
    if action = 0x00 then some keyStart
    else if action = 0x01 then some keyStop
    else none
  else if message.cmd = serverChargerTurnOn then some turnOnCharge
  else if message.cmd = serverChargerTurnOff then some turnOffCharge
  else none

/-! ## The program under commands -/

/-- The car and its buttons. -/
structure CommandState where
  car : AgvCar
  buttons : ButtonSensor := {}

/-- What happens next. -/
inductive CommandStep where
  /-- A message of the server is dispatched. -/
  | frame (message : SchMessage) (unset : UInt8)
  /-- A frame of the buttons is parsed. -/
  | keys (buf : List UInt8)
  /-- The main loop takes an event and handles it. -/
  | dispatch (readings : Readings)

/-- The commands that a step receives. -/
def CommandStep.received (buttons : ButtonSensor) : CommandStep → List AgvEvent
  | .frame message unset => (parseCommand unset message).toList
  | .keys buf => (buttons.parseCanData buf).2.1
  | .dispatch _ => []

/-- One step under commands alone: frames that queue another event do not occur. -/
def commandStep : StepFn CommandState CommandStep
  | .frame message unset, state =>
      match parseCommand unset message with
      | none => none
      | some command =>
          some { state with
            car := state.car.withEvents (state.car.events.pushEvent command) }
  | .keys buf, state =>
      let parsed := state.buttons.parseCanData buf
      if parsed.2.1.all ButtonSensor.isStartOrStop then
        some {
          car := state.car.withEvents (state.car.events.pushAll parsed.2.1)
          buttons := parsed.1 }
      else none
  | .dispatch readings, state =>
      match state.car.events.popEvent with
      | none => none
      | some (command, rest) =>
          ((state.car.withEvents rest).handleEvent readings command).map fun car =>
            { state with car }

/-- What happened so far: the commands that were received, between them the turns of the
main loop as `none`, and the commands that were handled with what their handlers read. -/
structure CommandLog where
  turns : List (Option AgvEvent) := []
  handled : List (AgvEvent × Readings) := []

namespace CommandLog

def received (log : CommandLog) : List AgvEvent := log.turns.filterMap id

/-- The commands in the order in which they were handled. -/
def order (log : CommandLog) : List AgvEvent := log.handled.map Prod.fst

/-- The log behind a step. -/
def observe (state : CommandState) (label : CommandStep) (_ : CommandState)
    (log : CommandLog) : CommandLog :=
  match label with
  | .dispatch readings =>
      match state.car.events.popEvent with
      | none => log
      | some (command, _) =>
          { turns := log.turns ++ [none], handled := log.handled ++ [(command, readings)] }
  | label => { log with turns := log.turns ++ (label.received state.buttons).map some }

end CommandLog

/-- The program beside its log. -/
def loggedStep : StepFn (CommandState × CommandLog) CommandStep :=
  monitored commandStep CommandLog.observe

/-- Handle one command. -/
def handleCommand : StepFn AgvCar (AgvEvent × Readings) :=
  fun command car => car.handleEvent command.2 command.1

/-- Behind the event that was taken, the queue is what it was then. -/
def LeavesQueue : Option (AgvEvent × EventHelper) → EventHelper → Prop
  | none, _ => True
  | some (_, rest), events =>
      ∀ priority, priority < priorityMax → events.eventList priority = rest.eventList priority

/-- The handler of a command queues no event. -/
def QueuesNothing (paired : CommandState × CommandLog) (label : CommandStep)
    (next : CommandState × CommandLog) : Prop :=
  match label with
  | .dispatch _ => LeavesQueue paired.1.car.events.popEvent next.1.car.events
  | _ => True

/-- No command is received while one of a lower priority waits. -/
def NothingOvertakes (paired : CommandState × CommandLog) (label : CommandStep)
    (_ : CommandState × CommandLog) : Prop :=
  ∀ command ∈ label.received paired.1.buttons, ∀ priority, priority < command.level →
    paired.1.car.events.eventList priority = []

instance : ∀ taken events, Decidable (LeavesQueue taken events)
  | none, _ => inferInstanceAs (Decidable True)
  | some (_, _), _ => inferInstanceAs (Decidable (∀ priority, priority < priorityMax → _ = _))

instance (paired : CommandState × CommandLog) (label : CommandStep)
    (next : CommandState × CommandLog) : Decidable (QueuesNothing paired label next) :=
  match label with
  | .dispatch _ => inferInstanceAs (Decidable (LeavesQueue _ _))
  | .frame _ _ | .keys _ => inferInstanceAs (Decidable True)

instance (paired : CommandState × CommandLog) (label : CommandStep)
    (next : CommandState × CommandLog) : Decidable (NothingOvertakes paired label next) :=
  inferInstanceAs (Decidable (∀ command ∈ _, ∀ priority, priority < AgvEvent.level command → _))

/-! ## Handling a command -/

section Handling

variable {command : AgvEvent} {readings : Readings} {car next : AgvCar} {rest : EventHelper}

theorem isCommand_of_isStartOrStop (isStartOrStop : ButtonSensor.isStartOrStop command = true) :
    command ∈ commands := by
  rcases of_decide_eq_true isStartOrStop with rfl | rfl
  · simp [commands, keyStart]
  · simp [commands, keyStop]

theorem isCommand_of_parseCommand {unset : UInt8} {message : SchMessage}
    (parsed : parseCommand unset message = some command) : command ∈ commands := by
  rw [parseCommand] at parsed
  dsimp only at parsed
  split at parsed
  · split at parsed
    · cases parsed
      simp [commands]
    · split at parsed
      · cases parsed
        simp [commands]
      · cases parsed
  · split at parsed
    · cases parsed
      simp [commands]
    · split at parsed
      · cases parsed
        simp [commands]
      · cases parsed

/-- A command is queued as it is. -/
theorem stored_command (isCommand : command ∈ commands) : EventHelper.stored command = command := by
  simp only [commands, List.mem_cons, List.not_mem_nil, or_false] at isCommand
  rcases isCommand with rfl | rfl | rfl | rfl <;> rfl

/-- A command whose handler queues nothing leaves any queue. -/
theorem handleEvent_withEvents (handled :
      (car.withEvents rest).handleEvent readings command = some next)
    (quiet : ∀ priority, priority < priorityMax →
      next.events.eventList priority = rest.eventList priority) :
    next.events = rest ∧ ∀ other,
      (car.withEvents other).handleEvent readings command = some (next.withEvents other) := by
  rcases AgvCar.handlesQueueBlind_handleEvent readings command car with ⟨result, sent, blind⟩
  rw [blind] at handled
  rcases Option.map_eq_some_iff.mp handled with ⟨behind, present, equal⟩
  subst equal
  have nothing : sent = [] := EventHelper.eq_nil_of_pushAll quiet
  subst nothing
  refine ⟨rfl, fun other => ?_⟩
  rw [blind, present]
  rfl

end Handling

/-! ## Steps -/

variable {start : AgvCar} {label : CommandStep} {paired next : CommandState × CommandLog}

/-- What a step can do: at most one command is received, or one is taken and handled. -/
theorem loggedStep_cases (stepped : loggedStep label paired = some next) :
    (next.1.car = paired.1.car ∧ next.2 = paired.2 ∧ label.received paired.1.buttons = []) ∨
    (∃ command ∈ commands, label.received paired.1.buttons = [command] ∧
      next.1.car = paired.1.car.withEvents (paired.1.car.events.pushEvent command) ∧
      next.2 = { paired.2 with turns := paired.2.turns ++ [some command] }) ∨
    ∃ readings command rest, label = .dispatch readings ∧
      paired.1.car.events.popEvent = some (command, rest) ∧
      (paired.1.car.withEvents rest).handleEvent readings command = some next.1.car ∧
      next.2 = {
        turns := paired.2.turns ++ [none]
        handled := paired.2.handled ++ [(command, readings)] } := by
  rcases paired with ⟨state, log⟩
  rcases next with ⟨after, logged⟩
  rcases monitored_eq_some stepped with ⟨moved, observed⟩
  simp only at moved observed ⊢
  subst observed
  cases label with
  | frame message unset =>
      right; left
      simp only [commandStep] at moved
      split at moved
      · cases moved
      next command parsed =>
        cases moved
        refine ⟨command, isCommand_of_parseCommand parsed, ?_, rfl, ?_⟩
        · simp [CommandStep.received, parsed]
        · simp [CommandLog.observe, CommandStep.received, parsed]
  | keys buf =>
      simp only [commandStep] at moved
      split at moved
      next only =>
        cases moved
        rw [List.all_eq_true] at only
        have short := state.buttons.length_parseCanData buf only
        simp only [CommandLog.observe, CommandStep.received]
        generalize (state.buttons.parseCanData buf).2.1 = events at only short
        rcases events with _ | ⟨command, _ | ⟨other, more⟩⟩
        · exact .inl ⟨rfl, by simp, rfl⟩
        · exact .inr (.inl ⟨command, isCommand_of_isStartOrStop (only command (by simp)), rfl,
            rfl, by simp⟩)
        · simp at short
      next => cases moved
  | dispatch readings =>
      right; right
      simp only [commandStep] at moved
      split at moved
      · cases moved
      next command rest popped =>
        rcases Option.map_eq_some_iff.mp moved with ⟨car, handled, equal⟩
        cases equal
        exact ⟨readings, command, rest, rfl, popped, handled, by simp [CommandLog.observe, popped]⟩

/-- The queue holds the commands that wait, and the car is where handling the others one
after another brings it. -/
structure Serves (start : AgvCar) (paired : CommandState × CommandLog) : Prop where
  isCommand : ∀ command ∈ (serveTurns AgvEvent.level paired.2.turns).2, command ∈ commands
  waits : paired.1.car.events.Waiting (serveTurns AgvEvent.level paired.2.turns).2
  order : paired.2.order = (serveTurns AgvEvent.level paired.2.turns).1
  handled : run handleCommand paired.2.handled (start.withEvents {}) =
    some (paired.1.car.withEvents {})

/-- Taking an event serves the oldest waiting command of the highest priority. -/
theorem Serves.taken (serves : Serves start paired) {command : AgvEvent} {rest : EventHelper}
    (popped : paired.1.car.events.popEvent = some (command, rest)) :
    ∃ left, serve AgvEvent.level (serveTurns AgvEvent.level paired.2.turns).2 =
        some (command, left) ∧ rest.Waiting left ∧ command ∈ commands ∧
      ∀ other ∈ left, other ∈ commands := by
  rcases EventHelper.waiting_popEvent serves.waits popped with ⟨left, served, waits⟩
  have perm := perm_of_serve served
  exact ⟨left, served, waits, serves.isCommand command (perm.mem_iff.mpr (by simp)),
    fun other member => serves.isCommand other (perm.mem_iff.mpr (by simp [member]))⟩

/-- Every step keeps the invariant, as long as no handler queues an event. -/
theorem serves_loggedStep (paired : CommandState × CommandLog) (label : CommandStep)
    (next : CommandState × CommandLog) (serves : Serves start paired)
    (stepped : loggedStep label paired = some next) (quiet : QueuesNothing paired label next) :
    Serves start next := by
  rcases loggedStep_cases stepped with ⟨sameCar, sameLog, -⟩ |
    ⟨command, isCommand, -, queued, logged⟩ |
    ⟨readings, command, rest, rfl, popped, handles, logged⟩
  · rcases serves with ⟨isCommand, waits, order, handled⟩
    rw [← sameLog] at isCommand waits order handled
    rw [← sameCar] at waits handled
    exact ⟨isCommand, waits, order, handled⟩
  · refine ⟨?_, ?_, ?_, ?_⟩
    · rw [logged]
      dsimp only
      rw [serveTurns_receive]
      intro other member
      rcases List.mem_append.mp member with member | member
      · exact serves.isCommand other member
      · exact List.mem_singleton.mp member ▸ isCommand
    · rw [logged, queued]
      dsimp only
      rw [serveTurns_receive]
      exact EventHelper.waiting_pushEvent serves.waits (stored_command isCommand)
    · rw [logged]
      dsimp only [CommandLog.order]
      rw [serveTurns_receive]
      exact serves.order
    · rw [logged, queued]
      exact serves.handled
  · rcases serves.taken popped with ⟨left, served, waits, isCommand, others⟩
    simp only [QueuesNothing, popped, LeavesQueue] at quiet
    rcases handleEvent_withEvents handles quiet with ⟨same, alike⟩
    refine ⟨?_, ?_, ?_, ?_⟩
    · rw [logged]
      dsimp only
      rw [serveTurns_serve served]
      exact others
    · rw [logged, same]
      dsimp only
      rw [serveTurns_serve served]
      exact waits
    · rw [logged]
      dsimp only [CommandLog.order]
      rw [serveTurns_serve served, List.map_append, ← serves.order]
      rfl
    · rw [logged]
      dsimp only
      rw [run_append, serves.handled]
      exact congrArg (Option.bind · (run handleCommand [])) (alike {})

/-- Nothing overtakes in a step: the commands stay in the order in which they were
received. -/
theorem inOrder_loggedStep (serves : Serves start paired)
    (stepped : loggedStep label paired = some next)
    (inOrder : InOrder AgvEvent.level paired.2.received
      (serveTurns AgvEvent.level paired.2.turns).1 (serveTurns AgvEvent.level paired.2.turns).2)
    (follows : NothingOvertakes paired label next) :
    InOrder AgvEvent.level next.2.received (serveTurns AgvEvent.level next.2.turns).1
      (serveTurns AgvEvent.level next.2.turns).2 := by
  rcases loggedStep_cases stepped with ⟨-, sameLog, -⟩ |
    ⟨command, -, received, -, logged⟩ | ⟨readings, command, rest, rfl, popped, -, logged⟩
  · rw [sameLog]
    exact inOrder
  · have notAbove : ∀ other ∈ (serveTurns AgvEvent.level paired.2.turns).2,
        command.level ≤ other.level := by
      intro other waits
      apply Nat.le_of_not_lt
      intro above
      have empty := follows command (by simp [received]) other.level above
      rw [serves.waits other.level, List.filter_eq_nil_iff] at empty
      simpa using empty other waits
    rw [logged, CommandLog.received]
    dsimp only
    rw [serveTurns_receive, List.filterMap_append]
    exact inOrder.push notAbove
  · rcases serves.taken popped with ⟨left, served, -⟩
    rw [logged, CommandLog.received]
    dsimp only
    rw [serveTurns_serve served, List.filterMap_append, List.filterMap_cons_none rfl,
      List.filterMap_nil, List.append_nil]
    exact inOrder.serve served

/-! ## Runs -/

/-- Every command is handled once, the oldest of the highest priority first, and the car
is where handling them one after another in this order brings it. -/
structure HandledByPriority (start : AgvCar) (paired : CommandState × CommandLog) : Prop where
  handled : run handleCommand paired.2.handled (start.withEvents {}) =
    some (paired.1.car.withEvents {})
  order : paired.2.order = (serveTurns AgvEvent.level paired.2.turns).1
  perm : paired.2.received.Perm paired.2.order
  samePriority : ∀ priority, paired.2.received.filter (AgvEvent.level · = priority) =
    paired.2.order.filter (AgvEvent.level · = priority)

variable {labels : List CommandStep} {state : CommandState} {final : CommandState × CommandLog}

theorem serves_start (empty : state.car.events.Waiting []) : Serves state.car (state, {}) :=
  ⟨fun _ member => (nomatch member), empty, rfl, rfl⟩

/-- A car in automatic mode with a path it has not started. -/
def parked (stations : List StationInfo) : CommandState where
  car := { AgvCar.init with
    operateMode := .autoMode
    router := (RoutePlanner.onGetNewPath true stations {}).1 }

/-- The start key, the charger and the server's stop, each handled before the next. -/
def onePerTurn : List CommandStep :=
  [.keys [0x01, 0, 1, 0, 0], .dispatch {}, .frame ⟨0, serverChargerTurnOn, []⟩ 0, .dispatch {},
    .frame ⟨0, serverSendAction, [1, 0, 0, 0]⟩ 0, .dispatch {}]

/-- The end of that run. -/
def onePerTurnEnd : CommandState × CommandLog :=
  (run loggedStep onePerTurn (parked [stationAhead 1 0], {})).get (by decide)

end DrivingControl.Controler

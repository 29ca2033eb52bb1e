import DrivingControl.Comm.PathStations
import DrivingControl.Controler.CommandOrder
import DrivingControl.Controler.NewPaths
import DrivingControl.Controler.Scheduler

/-!
# The command switch

`ParseReceiveData` hands the payload of every frame to the parser of its command.  Most
parsers refuse a payload that is too short, but their callers go on with the fields that
were not filled in.  Two handlers read the payload without a look at its length, which is
the one that the frame declares.

A handler has no result when it reads a byte outside the payload or a field that was not
filled in.
-/

namespace DrivingControl.Controler

open DrivingControl.Comm DrivingControl.Event

/-! ## Frames and their sections -/

/-- `CAgvSchProtocol::CMD`, as far as the server sends it. -/
inductive SchCommand where
  | sendPath | sendAction | setSpeed | responseAck | chargerTurnOn | chargerTurnOff
  | synchronizeTime | setBarrierDistance | setAgvSleep | setAgvWakeUp | runTest
  | other
  deriving DecidableEq, Repr

/-- The case of the switch for a command. -/
def SchCommand.of (cmd : UInt16) : SchCommand :=
  if cmd = 0x0201 then .sendPath
  else if cmd = serverSendAction then .sendAction
  else if cmd = 0x0203 then .setSpeed
  else if cmd = serverResponseAck then .responseAck
  else if cmd = serverChargerTurnOn then .chargerTurnOn
  else if cmd = serverChargerTurnOff then .chargerTurnOff
  else if cmd = 0x0207 then .synchronizeTime
  else if cmd = 0x0208 then .setBarrierDistance
  else if cmd = 0x0209 then .setAgvSleep
  else if cmd = 0x0210 then .setAgvWakeUp
  else if cmd = 0xFFFF then .runTest
  else .other

/-- A frame that `UnPackData` has accepted, as the command switch finds it. -/
structure CommandFrame where
  cmd : UInt16
  dataLength : UInt16
  /-- The decoded bytes behind the header. -/
  payload : List UInt8
  /-- Whether an earlier frame of the buffer has set `protocol.data`. -/
  leftOver : Bool
  deriving DecidableEq, Repr

/-- What a handler does: the events it queues, and the fields of the time that it sets the
clock to. -/
structure Handling where
  events : List AgvEvent := []
  clock : Option (List UInt32) := none
  deriving DecidableEq, Repr

namespace CommandFrame

/-- The payload, as `protocol.data` designates it.  It is not set by a frame that declares
no payload. -/
def data (frame : CommandFrame) : Option (List UInt8) :=
  if frame.leftOver || frame.dataLength > 0 then some frame.payload else none

/-- Read sections one behind the other. -/
def sections (data : Option (List UInt8)) : Nat → List Nat → Option (List UInt32)
  | _, [] => some []
  | offset, bytes :: sizes => do
      let payload ← data
      let field ← sectionAt payload offset bytes
      let fields ← sections data (offset + bytes) sizes
      some (field :: fields)

/-- A parser that refuses a payload shorter than `minimum` and fills in one field for each
section.  Of a payload that is refused no field is filled in. -/
def unPack (minimum offset : Nat) (sizes : List Nat) (frame : CommandFrame) :
    Option (List UInt32) :=
  if frame.dataLength.toNat < minimum then none else sections frame.data offset sizes

/-- `DoAction::unPackData`: the action and the reserved bytes. -/
def doAction : CommandFrame → Option (List UInt32) := unPack 4 0 [1, 3]

/-- `SetSpeed::unPackData`: the speed and the reserved bytes. -/
def setSpeed : CommandFrame → Option (List UInt32) := unPack 4 0 [2, 2]

/-- `ServerAck::unPackData`: the command, its result and the length of the data. -/
def serverAck : CommandFrame → Option (List UInt32) := unPack 6 0 [2, 2, 2]

/-- `SetTestPath::GetStationInfo` behind the first station. -/
def testStation : CommandFrame → Option (List UInt32) :=
  unPack (2 + 19 + 19) (2 + 19) [2, 4, 4, 1, 2, 2, 1, 1, 2]

/-- `SystemTime::unPackData`, whose comparison of the length with 16 does nothing: year,
month, day, hour, minute and second. -/
def systemTime : CommandFrame → Option (List UInt32) := unPack 0 2 [2, 2, 2, 2, 2, 2]

/-- The distance that `ServerSetBarrierDistance` takes from the payload. -/
def barrierDistance : CommandFrame → Option (List UInt32) := unPack 0 0 [1]

/-- `SetPath::unPackData`.  A payload without a count does not fill in the count. -/
def setPath (fresh : Nat → StationInfo) (pathList : SetPath) (frame : CommandFrame) :
    Option SetPath :=
  if frame.dataLength.toNat < 2 then none
  else do
    let payload ← frame.data
    let parsed ← pathList.unPackAt fresh payload frame.dataLength.toNat
    some parsed.1

/-- The handler of `ServerSendAction` once the action is filled in. -/
def act (action : UInt32) : Handling :=
  if action = 0x00 then { events := [keyStart] }
  else if action = 0x01 then { events := [keyStop] }
  else {}

/-- The command switch of `ParseReceiveData`.  The acknowledgements that it sends are not
modelled. -/
def handle (fresh : Nat → StationInfo) (pathList : SetPath) (frame : CommandFrame) :
    Option Handling :=
  match SchCommand.of frame.cmd with
  | .sendPath =>
      (frame.setPath fresh pathList).map fun parsed =>
        { events := [newPath parsed.stationCount] }
  | .sendAction => frame.doAction.map fun fields => act (fields.headD 0)
  | .setSpeed =>
      frame.setSpeed.map fun fields =>
        { events := [{ event := .evSetSpeed, param := (fields.headD 0).toNat }] }
  | .responseAck => frame.serverAck.map fun _ => {}
  | .chargerTurnOn => some { events := [turnOnCharge] }
  | .chargerTurnOff => some { events := [turnOffCharge] }
  | .synchronizeTime => frame.systemTime.map fun fields => { clock := some fields }
  | .setBarrierDistance =>
      frame.barrierDistance.map fun fields =>
        { events := [{
            event := .evSetBarrierDistance
            param := (fields.headD 0).toNat
            priority := urgent }] }
  | .setAgvSleep => some { events := [{ event := .evAgvSleep, param := 1, priority := urgent }] }
  | .setAgvWakeUp => some { events := [{ event := .evAgvWakeUp, param := 1, priority := urgent }] }
  | .runTest => frame.testStation.map fun _ => {}
  | .other => some {}

/-! ## Staying inside the payload -/

/-- The length of the record that a command carries: of a path with the stations that it
announces, and of a time as its parser compares it. -/
def recordLength (frame : CommandFrame) : Nat :=
  match SchCommand.of frame.cmd with
  | .sendPath => 2 + 18 * announcedStations frame.payload
  | .sendAction => 4
  | .setSpeed => 4
  | .responseAck => 6
  | .synchronizeTime => 16
  | .setBarrierDistance => 1
  | .runTest => 40
  | _ => 0

/-- The declared length that the parser of a command asks for. -/
def checkedLength (frame : CommandFrame) : Nat :=
  match SchCommand.of frame.cmd with
  | .sendPath => 2
  | .sendAction => 4
  | .setSpeed => 4
  | .responseAck => 6
  | .runTest => 40
  | _ => 0

/-- The handler reads only bytes of the payload and fields that are filled in, and does
nothing for a payload that is shorter than the record. -/
def StaysInside (fresh : Nat → StationInfo) (pathList : SetPath) (frame : CommandFrame) : Prop :=
  ∃ handling, frame.handle fresh pathList = some handling ∧
    (frame.payload.length < frame.recordLength →
      handling.events = [] ∧ handling.clock = none)

/-- The frame holds the record of its command and declares what its parser asks for. -/
structure Covers (frame : CommandFrame) : Prop where
  declared : frame.checkedLength ≤ frame.dataLength.toNat
  pointed : 0 < frame.recordLength → frame.data.isSome = true
  held : frame.recordLength ≤ frame.payload.length

theorem covers_iff (frame : CommandFrame) :
    frame.Covers ↔ frame.checkedLength ≤ frame.dataLength.toNat ∧
      (0 < frame.recordLength → frame.data.isSome = true) ∧
      frame.recordLength ≤ frame.payload.length :=
  ⟨fun covers => ⟨covers.1, covers.2, covers.3⟩, fun both => ⟨both.1, both.2.1, both.2.2⟩⟩

instance (frame : CommandFrame) : Decidable frame.Covers :=
  decidable_of_iff _ (covers_iff frame).symm

variable {frame : CommandFrame} {fresh : Nat → StationInfo} {pathList : SetPath}

/-- A pointer designates the payload of the frame. -/
theorem eq_payload_of_data {payload : List UInt8} (points : frame.data = some payload) :
    payload = frame.payload := by
  rw [data] at points
  split at points
  · exact (Option.some.inj points).symm
  · cases points

/-- A frame that declares a payload points to it. -/
theorem data_of_pos (declares : 0 < frame.dataLength.toNat) : frame.data = some frame.payload := by
  have positive : frame.dataLength > 0 := UInt16.lt_iff_toNat_lt.mpr declares
  simp [data, positive]

/-- Sections are read if they lie inside the payload. -/
theorem isSome_sections_iff (payload : List UInt8) (offset : Nat) (sizes : List Nat) :
    (sections (some payload) offset sizes).isSome = true ↔
      sizes = [] ∨ offset + sizes.sum ≤ payload.length := by
  induction sizes generalizing offset with
  | nil => simp [sections]
  | cons bytes sizes ih =>
      have rest := ih (offset + bytes)
      simp only [sections, sectionAt, Option.bind_eq_bind, Option.bind_some, reduceCtorEq,
        false_or, List.sum_cons]
      split
      next inside =>
        cases read : sections (some payload) (offset + bytes) sizes with
        | none =>
            simp only [read, Option.isSome_none, Bool.false_eq_true, false_iff, not_or] at rest
            simp
            omega
        | some fields =>
            simp only [read, Option.isSome_some, true_iff] at rest
            rcases rest with rfl | within
            · simpa using inside
            · simp
              omega
      next outside =>
        simp
        omega

/-- A parser fills in its fields if its check passes and the sections lie inside the
payload. -/
theorem isSome_unPack_iff (frame : CommandFrame) (minimum offset size : Nat)
    (sizes : List Nat) :
    (frame.unPack minimum offset (size :: sizes)).isSome = true ↔
      minimum ≤ frame.dataLength.toNat ∧ frame.data.isSome = true ∧
        offset + (size :: sizes).sum ≤ frame.payload.length := by
  rw [unPack]
  split
  next short =>
    simp only [Option.isSome_none, Bool.false_eq_true, false_iff]
    omega
  next long =>
    have enough := Nat.le_of_not_lt long
    cases points : frame.data with
    | none => simp [sections]
    | some payload =>
        cases eq_payload_of_data points
        rw [isSome_sections_iff]
        simp [enough]

/-- A handler whose sections make up the record of its command. -/
theorem staysInside_of_unPack {minimum offset size : Nat} {sizes : List Nat}
    {perform : List UInt32 → Handling}
    (handles : frame.handle fresh pathList =
      (frame.unPack minimum offset (size :: sizes)).map perform)
    (checked : frame.checkedLength = minimum)
    (whole : frame.recordLength = offset + (size :: sizes).sum)
    (positive : 0 < frame.recordLength) :
    frame.StaysInside fresh pathList ↔ frame.Covers := by
  have filled := frame.isSome_unPack_iff minimum offset size sizes
  rw [← checked, ← whole] at filled
  constructor
  · rintro ⟨handling, handled, -⟩
    rw [handles] at handled
    rcases Option.map_eq_some_iff.mp handled with ⟨fields, read, -⟩
    rw [checked, read] at filled
    rcases filled.mp rfl with ⟨declared, pointed, held⟩
    exact ⟨by omega, fun _ => pointed, held⟩
  · rintro ⟨declared, pointed, held⟩
    have read := filled.mpr ⟨declared, pointed positive, held⟩
    rw [checked] at read
    rcases Option.isSome_iff_exists.mp read with ⟨fields, read⟩
    refine ⟨perform fields, ?_, fun short => absurd short (by omega)⟩
    rw [handles, read]
    rfl

/-- A handler without a record. -/
theorem staysInside_of_empty {handling : Handling}
    (handles : frame.handle fresh pathList = some handling) (checked : frame.checkedLength = 0)
    (none : frame.recordLength = 0) : frame.StaysInside fresh pathList ↔ frame.Covers := by
  constructor
  · intro _
    exact ⟨by omega, fun some => by omega, by omega⟩
  · intro _
    exact ⟨handling, handles, fun short => by omega⟩

/-- The clock is set from fourteen bytes, two less than the record has. -/
theorem staysInside_time (isTime : SchCommand.of frame.cmd = .synchronizeTime) :
    frame.StaysInside fresh pathList ↔ frame.Covers := by
  have handles : frame.handle fresh pathList =
      frame.systemTime.map fun fields => { clock := some fields } := by
    rw [handle, isTime]
  have length : frame.recordLength = 16 := by rw [recordLength, isTime]
  have checked : frame.checkedLength = 0 := by rw [checkedLength, isTime]
  have filled := frame.isSome_unPack_iff 0 2 2 [2, 2, 2, 2, 2]
  constructor
  · rintro ⟨handling, handled, nothing⟩
    rw [handles] at handled
    rcases Option.map_eq_some_iff.mp handled with ⟨fields, read, performed⟩
    rw [systemTime] at read
    rw [read] at filled
    have pointed := (filled.mp rfl).2.1
    refine ⟨by omega, fun _ => pointed, ?_⟩
    apply Classical.byContradiction
    intro outside
    have unset := (nothing (by omega)).2
    rw [← performed] at unset
    cases unset
  · rintro ⟨-, pointed, held⟩
    rw [length] at pointed held
    have read := filled.mpr ⟨by omega, pointed (by omega), by simp; omega⟩
    rcases Option.isSome_iff_exists.mp read with ⟨fields, read⟩
    refine ⟨{ clock := some fields }, ?_, fun short => by omega⟩
    rw [handles, systemTime, read]
    rfl

/-- A path is queued whatever has been read of it. -/
theorem staysInside_path (isPath : SchCommand.of frame.cmd = .sendPath) :
    frame.StaysInside fresh pathList ↔ frame.Covers := by
  have handles : frame.handle fresh pathList =
      (frame.setPath fresh pathList).map fun parsed =>
        { events := [newPath parsed.stationCount] } := by
    rw [handle, isPath]
  have length : frame.recordLength = 2 + 18 * announcedStations frame.payload := by
    rw [recordLength, isPath]
  have checked : frame.checkedLength = 2 := by rw [checkedLength, isPath]
  constructor
  · rintro ⟨handling, handled, nothing⟩
    rw [handles] at handled
    rcases Option.map_eq_some_iff.mp handled with ⟨parsed, read, performed⟩
    rw [setPath] at read
    split at read
    · cases read
    next counted =>
      refine ⟨by omega, fun _ => ?_, ?_⟩
      · rw [data_of_pos (by omega)]
        rfl
      · apply Classical.byContradiction
        intro outside
        have queued := (nothing (by omega)).1
        rw [← performed] at queued
        cases queued
  · rintro ⟨declared, -, held⟩
    rw [length] at held
    rw [checked] at declared
    have points : frame.data = some frame.payload := data_of_pos (by omega)
    have count : sectionAt frame.payload 0 2 = some (buffer2Bin (frame.payload.take 2)) := by
      rw [sectionAt, if_pos (by omega), List.drop_zero]
    have read : (SetPath.stationsAt fresh frame.payload frame.dataLength.toNat
        (announcedStations frame.payload) 2).isSome = true :=
      SetPath.isSome_stationsAt fresh _ (by omega)
    rcases Option.isSome_iff_exists.mp read with ⟨stations, read⟩
    rw [announcedStations] at read
    have parsed : frame.setPath fresh pathList = some {
        stationCount := (buffer2Bin (frame.payload.take 2)).toUInt16
        stationList := stations.1 } := by
      rw [setPath, if_neg (by omega), points, Option.bind_eq_bind, Option.bind_some,
        SetPath.unPackAt, if_neg (by omega)]
      simp only [count, Option.bind_eq_bind, Option.bind_some, read]
    refine ⟨{ events := [newPath (buffer2Bin (frame.payload.take 2)).toUInt16] }, ?_,
      fun short => absurd short (by omega)⟩
    rw [handles, parsed]
    rfl

/-- The handler of a frame stays inside its payload exactly if the frame covers the record
of its command. -/
theorem staysInside_iff_covers (fresh : Nat → StationInfo) (pathList : SetPath)
    (frame : CommandFrame) : frame.StaysInside fresh pathList ↔ frame.Covers := by
  cases command : SchCommand.of frame.cmd with
  | sendPath => exact staysInside_path command
  | synchronizeTime => exact staysInside_time command
  | sendAction | setSpeed | responseAck | setBarrierDistance | runTest =>
      apply staysInside_of_unPack
      · rw [handle, command]
        rfl
      · rw [checkedLength, command]
      · rw [recordLength, command]
        rfl
      · simp [recordLength, command]
  | chargerTurnOn | chargerTurnOff | setAgvSleep | setAgvWakeUp | other =>
      apply staysInside_of_empty
      · rw [handle, command]
      · rw [checkedLength, command]
      · rw [recordLength, command]

end CommandFrame

/-! ## The frames of a buffer -/

/-- An accepted frame as the switch finds it. -/
def CommandFrame.of (leftOver : Bool) (unpacked : UnPacked) : CommandFrame where
  cmd := unpacked.message.cmd
  dataLength := unpacked.dataLength
  payload := unpacked.body.drop 8
  leftOver

/-- The frames that the decoding loop of `ParseReceiveData` hands to the switch. -/
def commandFrames (beyond : Nat → UInt8) (leftOver : Bool) (data : List UInt8) :
    List CommandFrame :=
  match _accepted : unPackData beyond data with
  | .error _ => []
  | .ok unpacked =>
      let frame := CommandFrame.of leftOver unpacked
      if unpacked.left.length > 0 then
        frame :: commandFrames beyond frame.data.isSome unpacked.left
      else [frame]
termination_by data.length
decreasing_by exact length_left_lt _accepted

variable {beyond : Nat → UInt8} {leftOver : Bool} {data : List UInt8} {unpacked : UnPacked}

theorem commandFrames_ok (accepted : unPackData beyond data = .ok unpacked) :
    commandFrames beyond leftOver data =
      if unpacked.left.length > 0 then
        CommandFrame.of leftOver unpacked ::
          commandFrames beyond (CommandFrame.of leftOver unpacked).data.isSome unpacked.left
      else [CommandFrame.of leftOver unpacked] := by
  rw [commandFrames]
  split
  next reason equal => cases accepted.symm.trans equal
  next other equal =>
    cases accepted.symm.trans equal
    rfl

/-- The first frame of a buffer is handed to the switch. -/
theorem mem_commandFrames (accepted : unPackData beyond data = .ok unpacked) :
    CommandFrame.of leftOver unpacked ∈ commandFrames beyond leftOver data := by
  rw [commandFrames_ok accepted]
  split
  · exact List.mem_cons_self
  · exact List.mem_singleton_self _

/-- A frame with a right check sum is handed to the switch. -/
theorem mem_commandFrames_of_sum {start stop : Nat} {frame : CommandFrame}
    (found : checkProtocol data = some (start, stop))
    (summed : unPackShort (bufferMemory beyond (decodedBody data)) 2 =
      Utils.getCrc16 (coveredBytes beyond (innerBytes data)) 0)
    (same : CommandFrame.of leftOver (reported beyond (innerBytes data) (data.drop (stop + 1))) =
      frame) : frame ∈ commandFrames beyond leftOver data :=
  same ▸ mem_commandFrames (unPackData_of_sum found summed)

end DrivingControl.Controler

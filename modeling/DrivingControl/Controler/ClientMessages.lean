import DrivingControl.Comm.BigEndian
import DrivingControl.Controler.RoutePlanner
import DrivingControl.Controler.Scheduler
import DrivingControl.Library.Run
import DrivingControl.Library.Slots
import Mathlib.Data.List.Forall2

/-!
# Messages to the scheduler

The main loop and the threads of the link pack their messages into one buffer, `sendBuf`, and put
them into frames from there.  A message leaves the bytes of its reserved section as another
message left them.

`socketLocker` is held for the write alone.  A thread may pack between another's packing and its
framing, and then that one sends the bytes of the second message under its own command.  Where no
thread does, the server reads every message as it was sent, in any interleaving.
-/

namespace DrivingControl.Controler

open DrivingControl.Comm DrivingControl.Library

/-- The messages that the program sends. -/
inductive ClientMessage where
  /-- `HeartBeat`. -/
  | heartBeat (id : UInt16)
  /-- `ReportStatus`. -/
  | reportStatus (id : UInt16) (status : ReportStatus)
  /-- `ReportActionStatus`. -/
  | reportActionStatus (id taskId : UInt16) (status : UInt8)
  /-- `RequestPath`. -/
  | requestPath (id : UInt16) (xPos yPos : UInt32) (lastPoint : UInt16)
  /-- `AckToServer`. -/
  | ackToServer (id cmd result : UInt16) (data : List UInt8)
  /-- `SystemTime`. -/
  | systemTime (agvID : UInt16)
  deriving DecidableEq, Repr

namespace ClientMessage

/-- `PackSectionData` for sections of one, two and four bytes. -/
def packChar (value : UInt8) : Slot UInt8 := .written (bin2Buffer value.toUInt32 1)
def packWord (value : UInt16) : Slot UInt8 := .written (packShort value)
def packInt (value : UInt32) : Slot UInt8 := .written (bin2Buffer value 4)

/-- The command a message is sent with. -/
def cmd : ClientMessage → UInt16
  | .heartBeat _ => 0x0103
  | .reportStatus _ _ => 0x0101
  | .reportActionStatus _ _ _ => 0x0105
  | .requestPath _ _ _ _ => 0x0102
  | .ackToServer _ _ _ _ => 0x0104
  | .systemTime _ => 0x0107

/-- The buffer that `packData` asks for. -/
def minLength : ClientMessage → Nat
  | .heartBeat _ => 2
  | .reportStatus _ _ => 20
  | .reportActionStatus _ _ _ => 8
  | .requestPath _ _ _ _ => 12
  | .ackToServer _ _ _ _ => 8
  | .systemTime _ => 8

/-- The sections of `packData`.  The reserved ones are skipped. -/
def slots : ClientMessage → List (Slot UInt8)
  | .heartBeat id => [packWord id]
  | .reportStatus id status =>
      [packWord id, packChar status.status, packChar status.powerLevel, packChar status.speed,
        packInt status.xPos, packInt status.yPos, packWord status.carAngle,
        packWord status.lastPoint, .skipped 3]
  | .reportActionStatus id taskId status =>
      [packWord id, packWord taskId, packChar status, .skipped 3]
  | .requestPath id xPos yPos lastPoint =>
      [packWord id, packInt xPos, packInt yPos, packWord lastPoint]
  | .ackToServer id cmd result data =>
      let dataLength := UInt16.ofNat data.length
      [packWord id, packWord cmd, packWord result, packWord dataLength,
        .written (data.take dataLength.toNat)]
  | .systemTime agvID => [packWord agvID]

/-- `packData`: the buffer behind it, and the length.  The data of an acknowledgement is not
checked against the buffer. -/
def packData (message : ClientMessage) (sendBuf : List UInt8) : Option (List UInt8 × Nat) :=
  if sendBuf.length < message.minLength then none
  else some (Slot.lay message.slots sendBuf, Slot.extent message.slots)

/-- The front of the buffer, as `SendCmdAndReceive` hands it to the frame. -/
def framed (message : ClientMessage) (sendBuf : List UInt8) : SchMessage where
  type := 1
  cmd := message.cmd
  data := sendBuf.take (Slot.extent message.slots)

/-! ## Reading a message -/

/-- `UnPackSectionData` at an offset. -/
def unPackSection (payload : List UInt8) (offset width : Nat) : UInt32 :=
  buffer2Bin (Slot.slice offset width payload)

/-- What a message says to a reader that knows its sections. -/
def read (message : SchMessage) : Option ClientMessage :=
  let word := fun offset => (unPackSection message.data offset 2).toUInt16
  let char := fun offset => (unPackSection message.data offset 1).toUInt8
  let int := fun offset => unPackSection message.data offset 4
  if message.cmd = 0x0103 then some (.heartBeat (word 0))
  else if message.cmd = 0x0101 then
    some (.reportStatus (word 0) {
      status := char 2
      powerLevel := char 3
      speed := char 4
      xPos := int 5
      yPos := int 9
      carAngle := word 13
      lastPoint := word 15 })
  else if message.cmd = 0x0105 then some (.reportActionStatus (word 0) (word 2) (char 4))
  else if message.cmd = 0x0102 then some (.requestPath (word 0) (int 2) (int 6) (word 10))
  else if message.cmd = 0x0104 then
    some (.ackToServer (word 0) (word 2) (word 4)
      (Slot.slice 8 (word 6).toNat message.data))
  else if message.cmd = 0x0107 then some (.systemTime (word 0))
  else none

/-! ## What was packed is read -/

variable {slots : List (Slot UInt8)} {buffer : List UInt8}

theorem word_section (index : Nat) {value : UInt16}
    (packed : slots[index]? = some (packWord value)) (fits : Slot.extent slots ≤ buffer.length) :
    (unPackSection ((Slot.lay slots buffer).take (Slot.extent slots))
      (Slot.extent (slots.take index)) 2).toUInt16 = value := by
  have read := Slot.slice_lay_take index packed fits
  rw [length_packShort] at read
  rw [unPackSection, read, buffer2Bin_packShort]

theorem char_section (index : Nat) {value : UInt8}
    (packed : slots[index]? = some (packChar value)) (fits : Slot.extent slots ≤ buffer.length) :
    (unPackSection ((Slot.lay slots buffer).take (Slot.extent slots))
      (Slot.extent (slots.take index)) 1).toUInt8 = value := by
  have read := Slot.slice_lay_take index packed fits
  have small := value.toNat_lt
  rw [length_bin2Buffer] at read
  rw [unPackSection, read]
  apply UInt8.toNat_inj.mp
  rw [UInt32.toNat_toUInt8, toNat_buffer2Bin_bin2Buffer _ (by decide) (by decide),
    UInt8.toNat_toUInt32]
  omega

theorem int_section (index : Nat) {value : UInt32}
    (packed : slots[index]? = some (packInt value)) (fits : Slot.extent slots ≤ buffer.length) :
    unPackSection ((Slot.lay slots buffer).take (Slot.extent slots))
      (Slot.extent (slots.take index)) 4 = value := by
  have read := Slot.slice_lay_take index packed fits
  rw [length_bin2Buffer] at read
  rw [unPackSection, read]
  apply UInt32.toNat_inj.mp
  rw [toNat_buffer2Bin_bin2Buffer _ (by decide) (by decide)]
  exact Nat.mod_eq_of_lt value.toNat_lt

/-- The buffers have room for the message.  Only an acknowledgement may be too long. -/
def Fits : ClientMessage → Prop
  | .ackToServer _ _ _ data => data.length + 16 ≤ bufferSize
  | _ => True

instance : DecidablePred Fits
  | .ackToServer _ _ _ data => inferInstanceAs (Decidable (data.length + 16 ≤ bufferSize))
  | .heartBeat _ | .reportStatus _ _ | .reportActionStatus _ _ _ | .requestPath _ _ _ _
  | .systemTime _ => isTrue trivial

theorem extent_slots_le {message : ClientMessage} (fits : message.Fits) :
    Slot.extent message.slots + 8 ≤ bufferSize := by
  cases message with
  | heartBeat id => exact Nat.le_of_ble_eq_true rfl
  | reportStatus id status => exact Nat.le_of_ble_eq_true rfl
  | reportActionStatus id taskId status => exact Nat.le_of_ble_eq_true rfl
  | requestPath id xPos yPos lastPoint => exact Nat.le_of_ble_eq_true rfl
  | ackToServer id cmd result data =>
      have cut := List.length_take_le (UInt16.ofNat data.length).toNat data
      have total : Slot.extent (ackToServer id cmd result data).slots =
          8 + ((data.take (UInt16.ofNat data.length).toNat).length + 0) :=
        Slot.extent_append [packWord id, packWord cmd, packWord result,
          packWord (UInt16.ofNat data.length)] [.written _]
      rw [Fits] at fits
      rw [List.length_take] at cut total
      omega
  | systemTime agvID => exact Nat.le_of_ble_eq_true rfl

/-- A message that fits, read from the front of the buffer it was packed into. -/
theorem read_framed {message : ClientMessage} (fits : message.Fits)
    (room : bufferSize ≤ buffer.length) :
    read (message.framed (Slot.lay message.slots buffer)) = some message := by
  have inside : Slot.extent message.slots ≤ buffer.length := by
    have enough := extent_slots_le fits
    omega
  cases message with
  | heartBeat id =>
      apply congrArg (some ∘ heartBeat)
      exact word_section 0 rfl inside
  | reportStatus id status =>
      cases status
      simp only [read, framed, cmd]
      apply congrArg some
      congr
      · exact word_section 0 rfl inside
      · exact char_section 1 rfl inside
      · exact char_section 2 rfl inside
      · exact char_section 3 rfl inside
      · exact int_section 4 rfl inside
      · exact int_section 5 rfl inside
      · exact word_section 6 rfl inside
      · exact word_section 7 rfl inside
  | reportActionStatus id taskId status =>
      simp only [read, framed, cmd]
      apply congrArg some
      congr
      · exact word_section 0 rfl inside
      · exact word_section 1 rfl inside
      · exact char_section 2 rfl inside
  | requestPath id xPos yPos lastPoint =>
      simp only [read, framed, cmd]
      apply congrArg some
      congr
      · exact word_section 0 rfl inside
      · exact int_section 1 rfl inside
      · exact int_section 2 rfl inside
      · exact word_section 3 rfl inside
  | ackToServer id cmd result data =>
      have short : data.length < 2 ^ 16 := by
        rw [Fits, bufferSize] at fits
        omega
      have size : (unPackSection ((Slot.lay (ackToServer id cmd result data).slots buffer).take
          (Slot.extent (ackToServer id cmd result data).slots)) 6 2).toUInt16 =
          UInt16.ofNat data.length := word_section 3 rfl inside
      simp only [read, framed, ClientMessage.cmd, size]
      apply congrArg some
      congr
      · exact word_section 0 rfl inside
      · exact word_section 1 rfl inside
      · exact word_section 2 rfl inside
      · have whole : (UInt16.ofNat data.length).toNat = data.length := by
          rw [UInt16.toNat_ofNat', Nat.mod_eq_of_lt short]
        have sent := Slot.slice_lay_take 4 rfl inside
        rw [whole, List.take_length] at sent
        rw [whole]
        exact sent
  | systemTime agvID =>
      apply congrArg (some ∘ systemTime)
      exact word_section 0 rfl inside

/-- A frame from which the message is read. -/
def Carries (frame : List UInt8) (message : ClientMessage) : Prop :=
  ∃ content : SchMessage, frame = Comm.packData content ∧
    content.data.length + 8 ≤ bufferSize ∧ read content = some message

/-- A message that is framed right behind its packing. -/
theorem carries_framed {message : ClientMessage} (fits : message.Fits)
    (room : bufferSize ≤ buffer.length) :
    Carries (Comm.packData (message.framed (Slot.lay message.slots buffer))) message := by
  have short : ((Slot.lay message.slots buffer).take (Slot.extent message.slots)).length ≤
      Slot.extent message.slots := List.length_take_le _ _
  have enough := extent_slots_le fits
  exact ⟨_, rfl, Nat.le_trans (Nat.add_le_add_right short 8) enough, read_framed fits room⟩

end ClientMessage

/-! ## The threads that send -/

/-- How far a thread is with a message. -/
inductive Sending where
  | idle
  /-- The message is in `sendBuf`. -/
  | packed (message : ClientMessage)
  /-- The frame is in the buffer of the thread. -/
  | framed (message : ClientMessage) (frame : List UInt8)
  deriving DecidableEq, Repr

/-- A message in `sendBuf` is not framed yet. -/
def Sending.isPacked : Sending → Bool
  | .packed _ => true
  | _ => false

/-- The threads, their common buffer, and what they have written. -/
structure Sender (threads : Nat) where
  sendBuf : List UInt8 := List.replicate bufferSize 0
  sending : Fin threads → Sending := fun _ => .idle
  wire : List (List UInt8) := []
  /-- The messages that the frames on the wire were packed for. -/
  sent : List ClientMessage := []

/-- What a thread does next. -/
inductive SendLabel (threads : Nat) where
  | pack (thread : Fin threads) (message : ClientMessage)
  /-- `SendCmdAndReceive` up to the lock. -/
  | frame (thread : Fin threads) (isConnected : Bool)
  /-- `SocketWrite` under the lock.  What fails leaves nothing on the wire. -/
  | write (thread : Fin threads) (written : Bool)
  deriving DecidableEq, Repr

variable {threads : Nat}

/-- A thread gets on with its message. -/
def Sender.turn (sender : Sender threads) (thread : Fin threads) (sending : Sending) :
    Sender threads :=
  { sender with sending := Function.update sender.sending thread sending }

/-- A message is packed, framed and written. -/
def sendStep : StepFn (Sender threads) (SendLabel threads)
  | .pack thread message, sender =>
      match sender.sending thread, message.packData sender.sendBuf with
      | .idle, some (sendBuf, _) => some { sender.turn thread (.packed message) with sendBuf }
      | _, _ => none
  | .frame thread isConnected, sender =>
      match sender.sending thread with
      | .packed message =>
          some (sender.turn thread (if isConnected then
            .framed message (packData (message.framed sender.sendBuf)) else .idle))
      | _ => none
  | .write thread written, sender =>
      match sender.sending thread with
      | .framed message frame =>
          some (if written then
            { sender.turn thread .idle with
              wire := sender.wire ++ [frame]
              sent := sender.sent ++ [message] }
          else sender.turn thread .idle)
      | _ => none

/-- The messages that are packed fit. -/
def SendLabel.Fits : SendLabel threads → Prop
  | .pack _ message => message.Fits
  | _ => True

instance : DecidablePred (@SendLabel.Fits threads)
  | .pack _ message => inferInstanceAs (Decidable message.Fits)
  | .frame _ _ | .write _ _ => isTrue trivial

/-- No thread packs a message while another one's is in the buffer. -/
def Apart (sender : Sender threads) (label : SendLabel threads) (_ : Sender threads) : Prop :=
  match label with
  | .pack _ _ => ∀ thread, (sender.sending thread).isPacked = false
  | _ => True

instance (sender next : Sender threads) : (label : SendLabel threads) →
    Decidable (Apart sender label next)
  | .pack _ _ => inferInstanceAs (Decidable (∀ thread, (sender.sending thread).isPacked = false))
  | .frame _ _ | .write _ _ => isTrue trivial

/-- Every message on its way is carried: in the buffer, in a thread's frame, on the wire. -/
structure Sender.Carried (sender : Sender threads) : Prop where
  room : bufferSize ≤ sender.sendBuf.length
  packed : ∀ thread message, sender.sending thread = .packed message →
    ClientMessage.Carries (packData (message.framed sender.sendBuf)) message
  framed : ∀ thread message frame, sender.sending thread = .framed message frame →
    ClientMessage.Carries frame message
  wire : List.Forall₂ ClientMessage.Carries sender.wire sender.sent

/-- What a step does to the thread that takes it, and to the rest. -/
theorem sendStep_cases {label : SendLabel threads} {sender next : Sender threads}
    (stepped : sendStep label sender = some next) :
    (∃ thread message, label = .pack thread message ∧
      next = { sender.turn thread (.packed message) with
        sendBuf := Slot.lay message.slots sender.sendBuf }) ∨
    (∃ thread isConnected message, label = .frame thread isConnected ∧
      sender.sending thread = .packed message ∧
      next = sender.turn thread (if isConnected then
        .framed message (packData (message.framed sender.sendBuf)) else .idle)) ∨
    ∃ thread written message frame, label = .write thread written ∧
      sender.sending thread = .framed message frame ∧
      next = if written then
          { sender.turn thread .idle with
            wire := sender.wire ++ [frame]
            sent := sender.sent ++ [message] }
        else sender.turn thread .idle := by
  cases label with
  | pack thread message =>
      apply Or.inl
      rw [sendStep, ClientMessage.packData] at stepped
      split at stepped
      next sendBuf length idle packed =>
          split at packed
          · cases packed
          · cases packed
            cases stepped
            exact ⟨thread, message, rfl, rfl⟩
      next => cases stepped
  | frame thread isConnected =>
      apply Or.inr
      apply Or.inl
      rw [sendStep] at stepped
      split at stepped
      next message packed =>
          cases stepped
          exact ⟨thread, isConnected, message, rfl, packed, rfl⟩
      next => cases stepped
  | write thread written =>
      apply Or.inr
      apply Or.inr
      rw [sendStep] at stepped
      split at stepped
      next message frame framed =>
          cases stepped
          exact ⟨thread, written, message, frame, rfl, framed, rfl⟩
      next => cases stepped

namespace Sender

variable {sender next : Sender threads} {thread other : Fin threads}

theorem sending_turn (sender : Sender threads) (thread other : Fin threads) (sending : Sending) :
    (sender.turn thread sending).sending other =
      if other = thread then sending else sender.sending other :=
  Function.update_apply sender.sending thread sending other

/-- A thread that drops its message. -/
theorem Carried.idle (carried : sender.Carried) (thread : Fin threads) :
    (sender.turn thread .idle).Carried where
  room := carried.room
  packed other message packed := by
    rw [sending_turn] at packed
    split at packed
    · cases packed
    · exact carried.packed other message packed
  framed other message frame framed := by
    rw [sending_turn] at framed
    split at framed
    · cases framed
    · exact carried.framed other message frame framed
  wire := carried.wire

/-- A thread that frames its message. -/
theorem Carried.frame (carried : sender.Carried) {message : ClientMessage}
    (packed : sender.sending thread = .packed message) :
    (sender.turn thread (.framed message (packData (message.framed sender.sendBuf)))).Carried where
  room := carried.room
  packed other message packed := by
    rw [sending_turn] at packed
    split at packed
    · cases packed
    · exact carried.packed other message packed
  framed other message frame framed := by
    rw [sending_turn] at framed
    split at framed
    · cases framed
      exact carried.packed thread message packed
    · exact carried.framed other message frame framed
  wire := carried.wire

/-- A thread that packs its message while no other one is in the buffer. -/
theorem Carried.pack (carried : sender.Carried) {message : ClientMessage} (fits : message.Fits)
    (apart : ∀ thread, (sender.sending thread).isPacked = false) :
    ({ sender.turn thread (.packed message) with
      sendBuf := Slot.lay message.slots sender.sendBuf } : Sender threads).Carried where
  room := by
    have enough := ClientMessage.extent_slots_le fits
    have room := carried.room
    rw [Slot.length_lay (by omega)]
    exact room
  packed other later packed := by
    have here := sender.sending_turn thread other (.packed message)
    split at here
    · cases here.symm.trans packed
      exact ClientMessage.carries_framed fits carried.room
    · have free := apart other
      rw [here.symm.trans packed] at free
      cases free
  framed other later frame framed := by
    have here := sender.sending_turn thread other (.packed message)
    split at here
    · cases here.symm.trans framed
    · exact carried.framed other later frame (here.symm.trans framed)
  wire := carried.wire

/-- A step keeps every message carried, where no thread packs over another's message. -/
theorem Carried.step (carried : sender.Carried) {label : SendLabel threads} (fits : label.Fits)
    (stepped : sendStep label sender = some next) (apart : Apart sender label next) :
    next.Carried := by
  obtain ⟨thread, message, rfl, rfl⟩ | ⟨thread, isConnected, message, rfl, packed, rfl⟩ |
    ⟨thread, written, message, frame, rfl, framed, rfl⟩ := sendStep_cases stepped
  · exact carried.pack fits apart
  · cases isConnected with
    | false => exact carried.idle thread
    | true => exact carried.frame packed
  · cases written with
    | false => exact carried.idle thread
    | true =>
        have idle := carried.idle thread
        exact {
          room := idle.room
          packed := idle.packed
          framed := idle.framed
          wire := List.rel_append carried.wire
            (.cons (carried.framed thread message frame framed) .nil) }

end Sender

/-- Frames that carry messages are valid, and the messages are read from them. -/
theorem read_of_carried (beyond : Nat → UInt8) {wire : List (List UInt8)}
    {sent : List ClientMessage} (carried : List.Forall₂ ClientMessage.Carries wire sent) :
    (∀ frame ∈ wire, IsValidFrame beyond frame) ∧
      (wire.filterMap (messageOf beyond)).map ClientMessage.read = sent.map some := by
  induction carried with
  | nil => exact ⟨fun frame mem => absurd mem List.not_mem_nil, rfl⟩
  | cons head tail ih =>
      obtain ⟨content, rfl, fits, read⟩ := head
      constructor
      · intro frame mem
        rcases List.mem_cons.mp mem with rfl | later
        · exact isValidFrame_packData beyond content fits
        · exact ih.1 frame later
      · rw [List.filterMap_cons_some (messageOf_packData fits), List.map_cons, List.map_cons,
          ih.2, read]

/-- In every interleaving in which no thread packs over another's message, the messages that are
written are read in their order, with the fields they were packed with. -/
theorem Sender.read_wire (beyond : Nat → UInt8) {labels : List (SendLabel threads)}
    {final : Sender threads} (fits : ∀ label ∈ labels, label.Fits)
    (apart : Along sendStep Apart labels {})
    (reached : run sendStep labels {} = some final)
    {groups : List (List (List UInt8))} (cut : groups.flatten = final.wire) :
    (runReads beyond (groups.map List.flatten)).map ClientMessage.read =
      final.sent.map some := by
  have initial : ({} : Sender threads).Carried := {
    room := Nat.le_of_eq List.length_replicate.symm
    packed := by
      intro thread message packed
      cases packed
    framed := by
      intro thread message frame framed
      cases framed
    wire := .nil }
  have carried : final.Carried :=
    invariant_of_guard
      (fun sender label next inv stepped met => Carried.step inv met.1 stepped met.2)
      initial (along_and (along_of_forall fits _) apart) reached
  obtain ⟨valid, read⟩ := read_of_carried beyond carried.wire
  rw [← cut] at valid read
  rw [runReads_groups valid, read]

/-- The link's thread acknowledges a path while the main loop's report is on its way. -/
def interleaved : List (SendLabel 2) :=
  [.pack 0 (.reportStatus 7 { status := 3, powerLevel := 80, xPos := 0xFF8685 }), .frame 0 true,
    .pack 1 (.ackToServer 7 0x0201 0 []), .write 0 true, .frame 1 true, .write 1 true]

theorem Sender.read_wire_interleaved :
    ∃ final, run sendStep interleaved {} = some final ∧
      (runReads (fun _ => 0) ([final.wire].map List.flatten)).map ClientMessage.read =
        final.sent.map some := by
  obtain ⟨final, reached⟩ : ∃ final, run sendStep interleaved {} = some final :=
    Option.isSome_iff_exists.mp (by decide +kernel)
  exact ⟨final, reached,
    Sender.read_wire (fun _ => 0) (by decide) (by decide +kernel) reached
      (List.append_nil final.wire)⟩

/-- The same two messages, where the acknowledgement is packed before the report is framed.  The
report's command goes out with the bytes of the acknowledgement, and of the report only the last
byte of a coordinate is left. -/
def overlapped : List (SendLabel 2) :=
  [.pack 0 (.reportStatus 7 { status := 3, powerLevel := 80, xPos := 0xFF8685 }),
    .pack 1 (.ackToServer 7 0x0201 0 []), .frame 0 true, .write 0 true]

example : (run sendStep overlapped {}).map (fun final =>
      final.wire.map fun frame => (messageOf (fun _ => 0) frame).map ClientMessage.read) =
    some [some (some (.reportStatus 7 { status := 2, powerLevel := 1, xPos := 0x85 }))] := by
  decide +kernel

end DrivingControl.Controler

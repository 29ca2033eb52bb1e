import DrivingControl.Devices.CanOperator

/-!
# Single frames between packages

Single frames share the buffer, the length and the mode of the CAN receiver with the
packages.  However a package ends, complete, with a wrong check sum, too long, in a full
buffer or by the start of another one, the receiver is left as it was before the first
package, so a single frame behind it is handed over as it came.
-/

namespace DrivingControl.Devices

open DrivingControl.Library

/-- The receiver, and what the listeners were handed. -/
structure Reception where
  receiver : Receiver := {}
  /-- The ids and bytes of the calls of `HandlerData`, oldest first. -/
  delivered : List (UInt32 × List UInt8) := []
  deriving DecidableEq

/-- One turn of the loop of `Run`, with the frame that was read. -/
def runStep : StepFn Reception CanBusMsg := fun canMsg reception =>
  let received := receive canMsg.data reception.receiver
  some {
    receiver := received.1
    delivered := reception.delivered ++ received.2.toList.map (canMsg.canId, ·) }

/-! ## The ways a turn of the loop ends -/

/-- What a turn of the loop can do with a frame. -/
inductive Turn (data : List UInt8) (receiver : Receiver) :
    Receiver × Option (List UInt8) → Prop where
  /-- The bus is free. -/
  | free : Turn data receiver (receiver, none)
  /-- A package begins, also within another one. -/
  | started (totalLength : UInt32) (recvCrc : UInt16) :
      Turn data receiver ({ recvBuf := [], totalLength, recvCrc, multiMode := true }, none)
  /-- The frame is a piece of a package. -/
  | collected (collecting : receiver.multiMode = true)
      (fits : receiver.recvBuf.length + data.length ≤ recvBufSize) :
      Turn data receiver ({ receiver with recvBuf := receiver.recvBuf ++ data }, none)
  /-- The listeners get a package, a full buffer or a single frame. -/
  | handed (bytes : List UInt8) : Turn data receiver (handOver receiver bytes)
  /-- The check sum or the length of the package is wrong. -/
  | dropped : Turn data receiver (dropPackage receiver)

theorem turn_collect (data : List UInt8) (receiver : Receiver) :
    Turn data receiver (collect data receiver) := by
  rw [collect]
  split
  next => exact .handed _
  next fits =>
    split
    next collecting => exact .collected collecting (Nat.le_of_not_gt fits)
    next => exact .handed _

/-- Every turn of the loop ends in one of these ways. -/
theorem turn_receive (data : List UInt8) (receiver : Receiver) :
    Turn data receiver (receive data receiver) := by
  rw [receive]
  split
  next => exact .free
  next =>
    split
    next =>
      split
      next =>
        split
        next =>
          split
          next => exact .handed _
          next => exact .dropped
        next =>
          split
          next => exact .dropped
          next => exact turn_collect data receiver
      next =>
        split
        next => exact .started _ _
        next => exact turn_collect data receiver
    next => exact turn_collect data receiver

/-! ## What every turn keeps -/

/-- The buffer holds what was collected, and between packages nothing was. -/
structure Receiver.Settled (receiver : Receiver) : Prop where
  bounded : receiver.recvBuf.length ≤ recvBufSize
  idle : receiver.multiMode = false → receiver.recvBuf = [] ∧ receiver.totalLength = 0

namespace Receiver.Settled

variable {data : List UInt8} {receiver : Receiver}

theorem turn (settled : receiver.Settled) {received : Receiver × Option (List UInt8)}
    (turned : Turn data receiver received) : received.1.Settled := by
  cases turned with
  | free => exact settled
  | started totalLength recvCrc => exact ⟨Nat.zero_le _, fun closed => nomatch closed⟩
  | collected collecting fits =>
      constructor
      · simpa using fits
      · intro closed
        exact absurd (collecting.symm.trans closed) (by decide)
  | handed bytes => exact ⟨Nat.zero_le _, fun _ => ⟨rfl, rfl⟩⟩
  | dropped => exact ⟨Nat.zero_le _, fun _ => ⟨rfl, rfl⟩⟩

/-- Between packages the receiver is left as it is by a frame it hands over. -/
theorem handOver_eq (settled : receiver.Settled) (closed : receiver.multiMode = false)
    (bytes : List UInt8) : handOver receiver bytes = (receiver, some bytes) := by
  obtain ⟨empty, zero⟩ := settled.idle closed
  rw [handOver, ← empty, ← zero, ← closed]

end Receiver.Settled

/-- The receiver is settled behind every sequence of frames. -/
theorem settled_run {frames : List CanBusMsg} {reception : Reception}
    (reached : run runStep frames {} = some reception) : reception.receiver.Settled := by
  apply invariant_of_run (fun before canMsg next settled stepped => ?_) _ reached
  · exact ⟨Nat.zero_le _, fun _ => ⟨rfl, rfl⟩⟩
  · cases stepped
    exact settled.turn (turn_receive canMsg.data before.receiver)

/-! ## Single frames -/

/-- Behind every sequence of frames, of whatever lengths, the buffer holds what it has
room for, and nothing when no package is being received.  A frame that then comes and is
not the start of a package is delivered once, under its id and with its bytes, and leaves
the receiver as it was. -/
theorem singleFrames_delivered (frames : List CanBusMsg) (reception : Reception)
    (reached : run runStep frames {} = some reception) :
    reception.receiver.recvBuf.length ≤ 2048 ∧
      (reception.receiver.multiMode = false →
        reception.receiver.recvBuf.length = 0 ∧
          ∀ canMsg : CanBusMsg, 1 ≤ canMsg.data.length → canMsg.data.length ≤ 8 →
            isStart canMsg.data = false →
            runStep canMsg reception =
              some { reception with
                delivered := reception.delivered ++ [(canMsg.canId, canMsg.data)] }) := by
  have settled := settled_run reached
  refine ⟨settled.bounded, fun closed => ⟨?_, ?_⟩⟩
  · rw [(settled.idle closed).1, List.length_nil]
  · intro canMsg nonempty short notStart
    have single := receive_single ⟨nonempty, short, notStart⟩ (settled.idle closed).1 closed
    rw [runStep, single, settled.handOver_eq closed]
    rfl

/-- A frame behind a package that was broken off by a wrong check sum. -/
theorem singleFrames_delivered_dropped :
    runStep ⟨7, [1, 2]⟩ ⟨{ recvCrc := 1 }, []⟩ = some ⟨{ recvCrc := 1 }, [(7, [1, 2])]⟩ :=
  ((singleFrames_delivered [⟨5, [0xFE, 0xFE, 0, 1, 0, 1]⟩, ⟨5, [9]⟩, ⟨5, [0xFE, 0xFE]⟩]
    ⟨{ recvCrc := 1 }, []⟩ (by decide +kernel)).2 rfl).2 ⟨7, [1, 2]⟩
    (by decide) (by decide) (by decide)

end DrivingControl.Devices

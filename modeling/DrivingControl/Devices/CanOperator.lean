import DrivingControl.Library.Run
import DrivingControl.Utils.CheckSum
import DrivingControl.Utils.Utils

/-!
# The CAN receiver

`CAgvCanOperator::Run` hands single frames to the listeners as they come.  A
message longer than a frame is announced by a start frame with its length and
check sum, follows in pieces and is closed by an end frame.

The receiver has one buffer for all CAN ids.  Each sender below sends its own
messages one after the other; a run is any order in which their frames reach the
bus.  Messages arrive under their own ids and unchanged in every run in which no
frame comes between the frames of another id's message.
-/

namespace DrivingControl.Devices

open DrivingControl.Utils DrivingControl.Library

/-! ## The receiver -/

/-- A frame as `GetCanBusMessage` returns it: the bytes of `data` up to `len`.  The
rest of `data` is zero. -/
structure CanBusMsg where
  canId : UInt32
  data : List UInt8
  deriving DecidableEq, Repr

/-- The size of `recvBuf` in `Run`. -/
def recvBufSize : Nat := 2048

/-- The local variables of `Run` at the head of its loop. -/
structure Receiver where
  /-- `recvBuf` up to `recvLength`. -/
  recvBuf : List UInt8 := []
  totalLength : UInt32 := 0
  recvCrc : UInt16 := 0
  /-- Whether `multiMode` is 1.  It is 2 only within one turn of the loop. -/
  multiMode : Bool := false
  deriving DecidableEq, Repr

/-- Whether a frame starts with the two marking bytes. -/
def isMarked (data : List UInt8) : Bool :=
  data.getD 0 0 == 0xFE && data.getD 1 0 == 0xFE

/-- Whether a frame is taken for the start of a package, in any state. -/
def isStart (data : List UInt8) : Bool := isMarked data && data.length == 6

/-- Hand the collected bytes to the listeners and begin anew. -/
def handOver (receiver : Receiver) (bytes : List UInt8) : Receiver × Option (List UInt8) :=
  ({ receiver with recvBuf := [], totalLength := 0, multiMode := false }, some bytes)

/-- Append a frame to the collected bytes. -/
def collect (data : List UInt8) (receiver : Receiver) : Receiver × Option (List UInt8) :=
  if receiver.recvBuf.length + data.length > recvBufSize then
    handOver receiver
      (receiver.recvBuf ++ data.take (recvBufSize - receiver.recvBuf.length))
  else if receiver.multiMode then
    ({ receiver with recvBuf := receiver.recvBuf ++ data }, none)
  else handOver receiver (receiver.recvBuf ++ data)

/-- Give up the package. -/
def dropPackage (receiver : Receiver) : Receiver × Option (List UInt8) :=
  ({ receiver with recvBuf := [], totalLength := 0, multiMode := false }, none)

/-- One turn of the loop of `CAgvCanOperator::Run`: the next state and the bytes that
`HandlerData` gets, under the frame's id. -/
def receive (data : List UInt8) (receiver : Receiver) : Receiver × Option (List UInt8) :=
  if data.length = 0 then (receiver, none)
  else if isMarked data then
    if data.length = 2 ∧ receiver.multiMode then
      if receiver.recvBuf.length = receiver.totalLength.toNat then
        if getCrc16 receiver.recvBuf 0 = receiver.recvCrc then
          handOver receiver receiver.recvBuf
        else dropPackage receiver
      else if receiver.recvBuf.length > receiver.totalLength.toNat then dropPackage receiver
      else collect data receiver
    else if data.length = 6 then
      ({ recvBuf := []
         totalLength := (buffer2Bin ((data.drop 2).take 2)).toUInt32
         recvCrc := (buffer2Bin ((data.drop 4).take 2)).toUInt32.toUInt16
         multiMode := true }, none)
    else collect data receiver
  else collect data receiver

/-! ## The senders -/

/-- The format that `Run` expects. -/
inductive CanMessage where
  /-- A message that fits into one frame. -/
  | single (data : List UInt8)
  /-- A message that is sent as a package. -/
  | package (payload : List UInt8)
  deriving DecidableEq, Repr

/-- A payload in frames of eight bytes, the last of them shorter. -/
def chunks : List UInt8 → List (List UInt8)
  | a :: b :: c :: d :: e :: f :: g :: h :: rest => [a, b, c, d, e, f, g, h] :: chunks rest
  | [] => []
  | data => [data]

namespace CanMessage

/-- The bytes the message carries. -/
def bytes : CanMessage → List UInt8
  | single data => data
  | package payload => payload

/-- The frames the message is sent in. -/
def frames : CanMessage → List (List UInt8)
  | single data => [data]
  | package payload =>
      ([0xFE, 0xFE] ++ shortBytes (UInt16.ofNat payload.length) ++
        shortBytes (getCrc16 payload 0)) :: (chunks payload ++ [[0xFE, 0xFE]])

/-- A single frame holds one to eight bytes and does not announce a package; the
payload of a package fits into the receiver's buffer. -/
def WellFormed : CanMessage → Prop
  | single data => 1 ≤ data.length ∧ data.length ≤ 8 ∧ isStart data = false
  | package payload => payload.length ≤ recvBufSize

instance (message : CanMessage) : Decidable message.WellFormed :=
  match message with
  | single _ => inferInstanceAs (Decidable (_ ∧ _ ∧ _))
  | package _ => inferInstanceAs (Decidable (_ ≤ _))

/-- No piece of the payload reads as the start of a package. -/
def Unambiguous : CanMessage → Prop
  | single _ => True
  | package payload => ∀ chunk ∈ chunks payload, isStart chunk = false

end CanMessage

/-- A message of which some frames have been sent, with the frames to come. -/
structure Transfer where
  message : CanMessage
  rest : List (List UInt8)
  deriving DecidableEq, Repr

/-- The senders, the receiver, and what has passed between them. -/
structure Bus where
  underWay : UInt32 → Option Transfer := fun _ => none
  receiver : Receiver := {}
  /-- The messages sent to their last frame, oldest first. -/
  sent : List (UInt32 × List UInt8) := []
  /-- What the listeners were handed, oldest first. -/
  delivered : List (UInt32 × List UInt8) := []

/-- A node puts a frame on the bus: the first one of a new message, or the next one
of the message it is sending. -/
inductive BusStep where
  | begin (canId : UInt32) (message : CanMessage)
  | next (canId : UInt32)

/-- The node that sends. -/
def BusStep.canId : BusStep → UInt32
  | begin canId _ => canId
  | next canId => canId

/-- Send the first of the frames of a message and receive it. -/
def transmit (canId : UInt32) (message : CanMessage) (frames : List (List UInt8)) (bus : Bus) :
    Option Bus :=
  match frames with
  | [] => none
  | frame :: rest =>
      let received := receive frame bus.receiver
      some {
        underWay := fun other =>
          if other = canId then (if rest = [] then none else some { message, rest })
          else bus.underWay other
        receiver := received.1
        sent := if rest = [] then bus.sent ++ [(canId, message.bytes)] else bus.sent
        delivered := bus.delivered ++ received.2.toList.map (canId, ·) }

/-- One frame on the bus.  A node begins a message only when it is not sending one. -/
def busStep : StepFn Bus BusStep
  | .begin canId message, bus =>
      if bus.underWay canId = none ∧ message.WellFormed then
        transmit canId message message.frames bus
      else none
  | .next canId, bus =>
      match bus.underWay canId with
      | none => none
      | some transfer => transmit canId transfer.message transfer.rest bus

/-- The messages of one id. -/
def ofId (canId : UInt32) (messages : List (UInt32 × List UInt8)) : List (List UInt8) :=
  (messages.filter (·.1 = canId)).map (·.2)

/-- The listeners were handed, under every id, the messages that id has sent. -/
def Faithful (bus : Bus) : Prop := ∀ canId, ofId canId bus.delivered = ofId canId bus.sent

/-- No other node is in the middle of a message, and a message that begins has no
piece that reads as a start. -/
def Undisturbed (bus : Bus) (label : BusStep) (_ : Bus) : Prop :=
  (∀ other, other ≠ label.canId → bus.underWay other = none) ∧
    match label with
    | .begin _ message => message.Unambiguous
    | .next _ => True

/-! ## What the receiver does with each kind of frame -/

section Frames

variable {data : List UInt8} {receiver : Receiver}

/-- Between packages a single frame is handed over as it is. -/
theorem receive_single (wellFormed : (CanMessage.single data).WellFormed)
    (empty : receiver.recvBuf = []) (closed : receiver.multiMode = false) :
    receive data receiver = handOver receiver data := by
  obtain ⟨nonempty, short, notStart⟩ := wellFormed
  have kept : collect data receiver = handOver receiver data := by
    rw [collect, recvBufSize]
    simp only [empty, closed, List.length_nil, List.nil_append]
    rw [if_neg (by omega), if_neg (by simp)]
  rw [receive]
  rw [if_neg (by omega)]
  split
  next marked =>
    have notSix : data.length ≠ 6 := by
      intro six
      simp [isStart, marked, six] at notStart
    rw [if_neg (by simp [closed]), if_neg notSix, kept]
  next => exact kept

/-- A start frame announces its package, whatever came before. -/
theorem receive_start (receiver : Receiver) (length checkSum : UInt16) :
    receive ([0xFE, 0xFE] ++ shortBytes length ++ shortBytes checkSum) receiver =
      ({ recvBuf := [], totalLength := length.toUInt32, recvCrc := checkSum,
         multiMode := true }, none) := by
  have lengthRead : buffer2Bin (shortBytes length) = length.toUInt32.toInt32 := by
    rw [← buffer2Bin_shortBytes length]
    rfl
  have checkSumRead : (buffer2Bin (shortBytes checkSum)).toUInt32.toUInt16 = checkSum := by
    rw [buffer2Bin_shortBytes]
    simp
  have first : ((([0xFE, 0xFE] ++ shortBytes length ++ shortBytes checkSum).drop 2).take 2) =
      shortBytes length := rfl
  have second : ((([0xFE, 0xFE] ++ shortBytes length ++ shortBytes checkSum).drop 4).take 2) =
      shortBytes checkSum := rfl
  rw [receive]
  rw [if_neg (by simp), if_pos (by rfl), if_neg (by simp [shortBytes]), if_pos (by rfl),
    first, second, checkSumRead, lengthRead]
  rfl

/-- A piece that does not pass the announced length is appended. -/
theorem receive_chunk (nonempty : 1 ≤ data.length) (notStart : isStart data = false)
    (collecting : receiver.multiMode = true)
    (fits : receiver.recvBuf.length + data.length ≤ receiver.totalLength.toNat)
    (small : receiver.totalLength.toNat ≤ recvBufSize) :
    receive data receiver = ({ receiver with recvBuf := receiver.recvBuf ++ data }, none) := by
  have kept : collect data receiver =
      ({ receiver with recvBuf := receiver.recvBuf ++ data }, none) := by
    rw [collect]
    rw [if_neg (by omega), if_pos collecting]
  rw [receive]
  rw [if_neg (by omega)]
  split
  next marked =>
    have notSix : data.length ≠ 6 := by
      intro six
      simp [isStart, marked, six] at notStart
    by_cases ending : data.length = 2 ∧ receiver.multiMode = true
    · rw [if_pos ending, if_neg (by omega), if_neg (by omega), kept]
    · rw [if_neg ending, if_neg notSix, kept]
  next => exact kept

/-- An end frame hands over a package that is complete. -/
theorem receive_end (collecting : receiver.multiMode = true)
    (complete : receiver.recvBuf.length = receiver.totalLength.toNat)
    (summed : getCrc16 receiver.recvBuf 0 = receiver.recvCrc) :
    receive [0xFE, 0xFE] receiver = handOver receiver receiver.recvBuf := by
  rw [receive]
  rw [if_neg (by simp), if_pos (by rfl), if_pos ⟨rfl, collecting⟩, if_pos complete, if_pos summed]

end Frames

theorem flatten_chunks (payload : List UInt8) : (chunks payload).flatten = payload := by
  induction payload using chunks.induct with
  | case1 a b c d e f g h rest ih => simp [chunks, ih]
  | case2 => rfl
  | case3 data long nonempty => simp [chunks]

theorem one_le_length_of_mem_chunks {payload chunk : List UInt8}
    (member : chunk ∈ chunks payload) : 1 ≤ chunk.length := by
  induction payload using chunks.induct with
  | case1 a b c d e f g h rest ih =>
      rcases List.mem_cons.mp member with rfl | member
      · simp
      · exact ih member
  | case2 => simp [chunks] at member
  | case3 data long nonempty =>
      rw [chunks, List.mem_singleton] at member
      · rw [member]
        exact List.length_pos_iff.mpr nonempty
      all_goals assumption

/-! ## Runs without disturbance -/

/-- One package is under way: the receiver holds the pieces sent so far. -/
structure Bus.Open (bus : Bus) (canId : UInt32) (payload : List UInt8)
    (pieces : List (List UInt8)) : Prop where
  underWay : bus.underWay canId = some ⟨.package payload, pieces ++ [[0xFE, 0xFE]]⟩
  multiMode : bus.receiver.multiMode = true
  totalLength : bus.receiver.totalLength.toNat = payload.length
  recvCrc : bus.receiver.recvCrc = getCrc16 payload 0
  split : bus.receiver.recvBuf ++ pieces.flatten = payload
  fits : payload.length ≤ recvBufSize
  nonempty : ∀ piece ∈ pieces, 1 ≤ piece.length
  unambiguous : ∀ piece ∈ pieces, isStart piece = false

/-- What every step of an undisturbed run keeps: everything sent was delivered, and
the receiver is between packages or holds the one package under way. -/
structure Bus.Ordered (bus : Bus) : Prop where
  delivered : bus.delivered = bus.sent
  receiving : (bus.receiver.recvBuf = [] ∧ bus.receiver.multiMode = false ∧
      ∀ canId, bus.underWay canId = none) ∨
    ∃ canId payload pieces, bus.Open canId payload pieces ∧
      ∀ other, other ≠ canId → bus.underWay other = none

namespace Bus.Ordered

variable {bus next : Bus}

/-- When no node is in the middle of a message, neither is the receiver. -/
theorem idle (ordered : bus.Ordered) (free : ∀ canId, bus.underWay canId = none) :
    bus.receiver.recvBuf = [] ∧ bus.receiver.multiMode = false := by
  rcases ordered.receiving with ⟨empty, closed, -⟩ | ⟨canId, payload, pieces, isOpen, -⟩
  · exact ⟨empty, closed⟩
  · cases (free canId).symm.trans isOpen.underWay

theorem begin_single (ordered : bus.Ordered) (free : ∀ canId, bus.underWay canId = none)
    {canId : UInt32} {data : List UInt8} (wellFormed : (CanMessage.single data).WellFormed)
    (sent : transmit canId (.single data) (CanMessage.frames (.single data)) bus = some next) :
    next.Ordered := by
  obtain ⟨empty, closed⟩ := ordered.idle free
  simp only [transmit, CanMessage.frames, receive_single wellFormed empty closed,
    Option.some.injEq] at sent
  subst sent
  constructor
  · simp [ordered.delivered, handOver, CanMessage.bytes]
  · left
    refine ⟨rfl, rfl, fun other => ?_⟩
    simp [free other]

theorem begin_package (ordered : bus.Ordered) (free : ∀ canId, bus.underWay canId = none)
    {canId : UInt32} {payload : List UInt8} (fits : payload.length ≤ recvBufSize)
    (unambiguous : ∀ chunk ∈ chunks payload, isStart chunk = false)
    (sent : transmit canId (.package payload) (CanMessage.frames (.package payload)) bus =
      some next) : next.Ordered := by
  have notLast : chunks payload ++ [[0xFE, 0xFE]] ≠ [] := by simp
  simp only [transmit, CanMessage.frames, receive_start, if_neg notLast,
    Option.some.injEq] at sent
  subst sent
  constructor
  · simp [ordered.delivered]
  · right
    refine ⟨canId, payload, chunks payload, ⟨?_, rfl, ?_, rfl, ?_, fits, ?_, unambiguous⟩, ?_⟩
    · simp
    · rw [recvBufSize] at fits
      simp
      omega
    · simp [flatten_chunks]
    · exact fun piece member => one_le_length_of_mem_chunks member
    · intro other different
      simp [different, free other]

theorem next_piece (ordered : bus.Ordered) {canId : UInt32} {payload piece : List UInt8}
    {pieces : List (List UInt8)} (isOpen : bus.Open canId payload (piece :: pieces))
    (alone : ∀ other, other ≠ canId → bus.underWay other = none)
    (sent : transmit canId (.package payload) (piece :: pieces ++ [[0xFE, 0xFE]]) bus =
      some next) : next.Ordered := by
  have within : bus.receiver.recvBuf.length + piece.length ≤
      bus.receiver.totalLength.toNat := by
    have total := congrArg List.length isOpen.split
    rw [isOpen.totalLength]
    simp only [List.flatten_cons, List.length_append] at total
    omega
  have collected := receive_chunk (isOpen.nonempty piece (by simp))
    (isOpen.unambiguous piece (by simp)) isOpen.multiMode within
    (by rw [isOpen.totalLength]; exact isOpen.fits)
  have notLast : pieces ++ [[0xFE, 0xFE]] ≠ [] := by simp
  simp only [transmit, List.cons_append, collected, if_neg notLast, Option.some.injEq] at sent
  subst sent
  constructor
  · simp [ordered.delivered]
  · right
    refine ⟨canId, payload, pieces, ⟨?_, isOpen.multiMode, isOpen.totalLength, isOpen.recvCrc,
      ?_, isOpen.fits, ?_, ?_⟩, ?_⟩
    · simp
    · simpa using isOpen.split
    · exact fun other member => isOpen.nonempty other (by simp [member])
    · exact fun other member => isOpen.unambiguous other (by simp [member])
    · intro other different
      simp [different, alone other different]

theorem next_end (ordered : bus.Ordered) {canId : UInt32} {payload : List UInt8}
    (isOpen : bus.Open canId payload [])
    (alone : ∀ other, other ≠ canId → bus.underWay other = none)
    (sent : transmit canId (.package payload) [[0xFE, 0xFE]] bus = some next) :
    next.Ordered := by
  have complete : bus.receiver.recvBuf = payload := by simpa using isOpen.split
  have handed := receive_end isOpen.multiMode (by rw [complete, isOpen.totalLength])
    (by rw [complete, isOpen.recvCrc])
  simp only [transmit, handed, Option.some.injEq] at sent
  subst sent
  constructor
  · simp [ordered.delivered, handOver, CanMessage.bytes, complete]
  · left
    refine ⟨rfl, rfl, fun other => ?_⟩
    by_cases same : other = canId
    · simp [same]
    · simp [same, alone other same]

/-- One undisturbed frame. -/
theorem step (ordered : bus.Ordered) {label : BusStep}
    (stepped : busStep label bus = some next) (undisturbed : Undisturbed bus label next) :
    next.Ordered := by
  obtain ⟨alone, clear⟩ := undisturbed
  cases label with
  | begin canId message =>
      simp only [busStep] at stepped
      split at stepped
      next ready =>
        have free : ∀ other, bus.underWay other = none := fun other => by
          by_cases same : other = canId
          · exact same ▸ ready.1
          · exact alone other same
        cases message with
        | single data => exact ordered.begin_single free ready.2 stepped
        | package payload => exact ordered.begin_package free ready.2 clear stepped
      next => cases stepped
  | next canId =>
      rcases ordered.receiving with ⟨-, -, free⟩ | ⟨sender, payload, pieces, isOpen, -⟩
      · simp [busStep, free canId] at stepped
      · have same : sender = canId := by
          by_cases same : sender = canId
          · exact same
          · have absent := alone sender same
            rw [isOpen.underWay] at absent
            cases absent
        subst same
        simp only [busStep, isOpen.underWay] at stepped
        cases pieces with
        | nil => exact ordered.next_end isOpen alone stepped
        | cons piece pieces => exact ordered.next_piece isOpen alone stepped

end Bus.Ordered

/-- In a run in which no frame comes between the frames of another id's message, the
listeners are handed exactly what each id has sent. -/
theorem faithful_of_undisturbed (labels : List BusStep) {final : Bus}
    (undisturbed : Along busStep Undisturbed labels {})
    (reached : run busStep labels {} = some final) : Faithful final := by
  have initial : Bus.Ordered {} := ⟨rfl, .inl ⟨rfl, rfl, fun _ => rfl⟩⟩
  have ordered := invariant_of_guard
    (fun _ _ _ ordered stepped guarded => Bus.Ordered.step ordered stepped guarded)
    initial undisturbed reached
  intro canId
  rw [ordered.delivered]

/-- A package of one node, then a single frame of another. -/
theorem faithful_of_undisturbed_package :
    Faithful ((run busStep [.begin 0x200 (.package [1, 2, 3]), .next 0x200, .next 0x200,
      .begin 0x201 (.single [7])] {}).getD {}) := by
  refine faithful_of_undisturbed
    [.begin 0x200 (.package [1, 2, 3]), .next 0x200, .next 0x200,
      .begin 0x201 (.single [7])] ?_ rfl
  refine along_cons rfl ⟨fun _ _ => rfl, ?_⟩ (along_cons rfl ⟨?_, trivial⟩
    (along_cons rfl ⟨?_, trivial⟩ (along_cons rfl ⟨?_, trivial⟩ trivial)))
  · simp [CanMessage.Unambiguous, chunks, isStart]
  · exact fun _ different => if_neg different
  · exact fun _ different => (if_neg different).trans (if_neg different)
  · intro other _
    by_cases first : other = 0x200
    · simp [first]
    · simp [first]

/-- A single frame of one node inside the package of another: neither message is
delivered. -/
theorem package_disturbed :
    ¬ ∀ (labels : List BusStep) (final : Bus),
      run busStep labels {} = some final → Faithful final := by
  intro faithful
  have delivered := faithful
    [.begin 0x200 (.package [1, 2, 3, 4, 5, 6, 7, 8, 9]), .next 0x200,
      .begin 0x201 (.single [7]), .next 0x200, .next 0x200] _ rfl 0x201
  exact absurd delivered (by decide +kernel)

end DrivingControl.Devices

import DrivingControl.Utils.CheckSum
import DrivingControl.Utils.Utils

/-!
# The scheduler's frame format

`CAgvSchProtocol`: a message is a type, a command and a payload.  `PackData`
puts a big-endian length and a check sum before it, escapes the marker byte and
the two escape bytes, and sets a marker on either side.  `UnPackData` looks for
the first two markers far enough apart, undoes the escapes and checks the sum.

Byte ranges are lists.  The receiver decodes into a fixed buffer of 2048 bytes
that is cleared first; what lies behind that buffer in memory is the parameter
`beyond` of the functions that can read past it.
-/

namespace DrivingControl.Comm

open DrivingControl.Utils

/-- `head` and `tail`, both set to 0xFF by the constructors and never changed. -/
def marker : UInt8 := 0xFF

/-- The size of `CAgvSchProtocol::buffer`. -/
def bufferSize : Nat := 2048

/-! ## Big-endian fields -/

/-- The loop of `Buffer2Bin`. -/
def buffer2BinLoop : List UInt8 → UInt32
  | [] => 0
  | byte :: rest =>
      (byte.toUInt32 <<< UInt32.ofNat (8 * rest.length)) ||| buffer2BinLoop rest

/-- `Buffer2Bin` on exactly the bytes it is asked to read. -/
def buffer2Bin (data : List UInt8) : UInt32 :=
  if data = [] then 0xFFFFFFFF else buffer2BinLoop data

/-- `Bin2Buffer`: the bytes it writes. -/
def bin2Buffer (data : UInt32) (bytes : Nat) : List UInt8 :=
  (List.range bytes).map fun i =>
    ((data >>> UInt32.ofNat (8 * (bytes - i - 1))) &&& 0xFF).toUInt8

/-- `PackSectionData` for an `unsigned short` field. -/
def packShort (value : UInt16) : List UInt8 := bin2Buffer value.toUInt32 2

/-- `UnPackSectionData` for an `unsigned short` field at an offset. -/
def unPackShort (memory : Nat → UInt8) (offset : Nat) : UInt16 :=
  (buffer2Bin [memory offset, memory (offset + 1)]).toUInt16

@[simp] theorem length_packShort (value : UInt16) : (packShort value).length = 2 := by
  simp [packShort, bin2Buffer]

/-- A `short` is sent as its high and its low byte. -/
theorem packShort_eq (value : UInt16) :
    packShort value = [(value >>> 8).toUInt8, value.toUInt8] := by
  have mask : ∀ n : Nat, n % 256 &&& 255 = n % 256 := fun n => by
    rw [Nat.and_two_pow_sub_one_eq_mod (n % 256) 8]
    exact Nat.mod_mod n 256
  have high : ((value.toUInt32 >>> UInt32.ofNat 8) &&& 0xFF).toUInt8 =
      (value >>> 8).toUInt8 := by
    apply UInt8.toNat_inj.mp
    simp [mask]
  have low : ((value.toUInt32 >>> UInt32.ofNat 0) &&& 0xFF).toUInt8 = value.toUInt8 := by
    apply UInt8.toNat_inj.mp
    simp [mask]
  change [((value.toUInt32 >>> UInt32.ofNat 8) &&& 0xFF).toUInt8,
    ((value.toUInt32 >>> UInt32.ofNat 0) &&& 0xFF).toUInt8] = _
  rw [high, low]

/-- Reading back the two bytes of a `short` gives the `short`. -/
theorem buffer2Bin_packShort (value : UInt16) :
    (buffer2Bin (packShort value)).toUInt16 = value := by
  rw [packShort_eq]
  apply UInt16.toNat_inj.mp
  have bound := value.toNat_lt
  have small : value.toNat >>> 8 < 256 := by
    rw [Nat.shiftRight_eq_div_pow]
    omega
  have shifted : (value.toNat >>> 8) <<< 8 < 65536 := by
    rw [Nat.shiftLeft_eq]
    omega
  simp only [buffer2Bin, buffer2BinLoop]
  simp
  rw [Nat.mod_eq_of_lt small, Nat.mod_eq_of_lt (by omega : value.toNat >>> 8 < 65536),
    Nat.mod_eq_of_lt shifted, Nat.mod_eq_of_lt (by omega : value.toNat % 256 < 65536),
    shiftLeft_shiftRight_or]

/-! ## Escapes -/

/-- What `encode` writes for one byte. -/
def encodeByte (byte : UInt8) : List UInt8 :=
  if byte = marker then [0x85, 0x86]
  else if byte = 0x85 then [0x85, 0x85]
  else if byte = 0x86 then [0x86, 0x86]
  else [byte]

/-- `CAgvSchProtocol::encode`. -/
def encode (src : List UInt8) : List UInt8 := src.flatMap encodeByte

/-- `CAgvSchProtocol::decode`: the bytes it writes and whether it reaches the end
of its input.  A failure returns -1 with the bytes already written left in the
buffer. -/
def decode : List UInt8 → List UInt8 × Bool
  | [] => ([], true)
  | byte :: rest =>
      if byte = 0x85 then
        match rest with
        | [] => ([], false)
        | next :: rest =>
            if next = 0x85 then (0x85 :: (decode rest).1, (decode rest).2)
            else if next = 0x86 then (0xFF :: (decode rest).1, (decode rest).2)
            else ([], false)
      else if byte = 0x86 then
        match rest with
        | [] => ([], false)
        | next :: rest =>
            if next = 0x86 then (0x86 :: (decode rest).1, (decode rest).2)
            else ([], false)
      else (byte :: (decode rest).1, (decode rest).2)

theorem encode_cons (byte : UInt8) (src : List UInt8) :
    encode (byte :: src) = encodeByte byte ++ encode src := rfl

/-- No escaped byte is a marker. -/
theorem marker_notMem_encode (src : List UInt8) : marker ∉ encode src := by
  have single : ∀ byte, marker ∉ encodeByte byte := by
    intro byte
    rw [encodeByte, marker]
    split
    · decide
    · split
      · decide
      · split
        · decide
        · rename_i notMarker _ _
          simpa using fun equal : 0xFF = byte => notMarker equal.symm
  intro member
  obtain ⟨byte, -, inside⟩ := List.mem_flatMap.mp member
  exact single byte inside

/-- One escaped byte in front of more input is undone by one step of `decode`. -/
theorem decode_encodeByte (byte : UInt8) (rest : List UInt8) :
    decode (encodeByte byte ++ rest) = (byte :: (decode rest).1, (decode rest).2) := by
  rw [encodeByte]
  split
  next isMarker => simp [decode, isMarker, marker]
  next =>
    split
    next is85 => simp [decode, is85]
    next not85 =>
      split
      next is86 => simp [decode, is86]
      next not86 =>
        change decode (byte :: rest) = _
        rw [decode.eq_def]
        simp [not85, not86]

/-- Escaping is undone. -/
theorem decode_encode (src : List UInt8) : decode (encode src) = (src, true) := by
  induction src with
  | nil => rfl
  | cons byte src ih => rw [encode_cons, decode_encodeByte, ih]

theorem length_le_length_encode (src : List UInt8) : src.length ≤ (encode src).length := by
  have single : ∀ byte, 1 ≤ (encodeByte byte).length := by
    intro byte
    rw [encodeByte]
    repeat' split
    all_goals simp
  induction src with
  | nil => simp
  | cons byte src ih =>
      have head := single byte
      rw [encode_cons, List.length_append, List.length_cons]
      omega

/-! ## Messages -/

/-- What `PackData` sends and `UnPackData` delivers. -/
structure SchMessage where
  type : UInt16
  cmd : UInt16
  data : List UInt8
  deriving DecidableEq, Repr

/-- The body `PackData` assembles before it escapes it. -/
def packBody (message : SchMessage) (length checkSum : UInt16) : List UInt8 :=
  packShort length ++ packShort checkSum ++ packShort message.type ++
    packShort message.cmd ++ message.data.take (length - 6).toNat

/-- `CAgvSchProtocol::PackData`.  The constructor sets `length` to the payload
length plus six, and `PackData` takes the payload length back from it. -/
def packData (message : SchMessage) : List UInt8 :=
  let length : UInt16 := UInt16.ofNat (message.data.length + 6)
  let checkSum := getCrc16 ((packBody message length 0).drop 4) 0
  marker :: (encode (packBody message length checkSum) ++ [marker])

/-- The search loop of `CheckProtocol` from position `i` on, with the head found so
far.  A marker too close behind the head becomes the head. -/
def checkLoop : List UInt8 → Nat → Option Nat → Option (Nat × Nat)
  | [], _, _ => none
  | byte :: rest, i, hi =>
      if byte = marker then
        if i - hi.getD i > 8 then some (hi.getD i, i)
        else checkLoop rest (i + 1) (some i)
      else checkLoop rest (i + 1) hi

/-- `CAgvSchProtocol::CheckProtocol`: the positions of the two markers. -/
def checkProtocol (buf : List UInt8) : Option (Nat × Nat) :=
  if buf.length < 10 then none else checkLoop buf 0 none

/-- What `UnPackData` leaves in the object when it succeeds. -/
structure UnPacked where
  /-- The bytes `decode` wrote. -/
  body : List UInt8
  length : UInt16
  dataLength : UInt16
  message : SchMessage
  /-- The bytes behind the end marker. -/
  left : List UInt8
  deriving DecidableEq, Repr

/-- Why `UnPackData` fails: -1 without two markers, -2 on a wrong check sum. -/
inductive UnPackError where
  | check
  | crc
  deriving DecidableEq, Repr

/-- Reads relative to `CAgvSchProtocol::buffer`, which is cleared before decoding. -/
def bufferMemory (beyond : Nat → UInt8) (body : List UInt8) (i : Nat) : UInt8 :=
  if i < bufferSize then body.getD i 0 else beyond (i - bufferSize)

/-- A byte range relative to `CAgvSchProtocol::buffer`. -/
def readMemory (memory : Nat → UInt8) (offset length : Nat) : List UInt8 :=
  (List.range length).map fun i => memory (offset + i)

/-- `UnPackData` behind the marker search.  When `decode` fails it returns -1, and
the check sum is then taken over `(unsigned short)(-1 - 4)` bytes. -/
def unPackBody (beyond : Nat → UInt8) (escaped left : List UInt8) :
    Except UnPackError UnPacked :=
  let decoded := decode escaped
  let dlen : Int := if decoded.2 then decoded.1.length else -1
  let memory := bufferMemory beyond decoded.1
  let length := unPackShort memory 0
  let checkSum := unPackShort memory 2
  let covered := ((dlen - 4) % 65536).toNat
  if checkSum ≠ getCrc16 (readMemory memory 4 covered) 0 then .error .crc
  else
    let dataLength := length - 6
    .ok {
      body := decoded.1
      length
      dataLength
      message := {
        type := unPackShort memory 4
        cmd := unPackShort memory 6
        data := readMemory memory 8 dataLength.toNat }
      left }

/-- `CAgvSchProtocol::UnPackData`. -/
def unPackData (beyond : Nat → UInt8) (buf : List UInt8) : Except UnPackError UnPacked :=
  match checkProtocol buf with
  | none => .error .check
  | some (start, stop) =>
      unPackBody beyond ((buf.take stop).drop (start + 1)) (buf.drop (stop + 1))

/-- The bytes left over are passed through. -/
theorem unPackBody_left {beyond : Nat → UInt8} {escaped left : List UInt8}
    {unpacked : UnPacked} (accepted : unPackBody beyond escaped left = .ok unpacked)
    (other : List UInt8) :
    unpacked.left = left ∧
      unPackBody beyond escaped other = .ok { unpacked with left := other } := by
  rw [unPackBody] at accepted ⊢
  by_cases wrong : unPackShort (bufferMemory beyond (decode escaped).1) 2 ≠
      getCrc16 (readMemory (bufferMemory beyond (decode escaped).1) 4
        (((if (decode escaped).2 then ((decode escaped).1.length : Int) else -1) - 4)
          % 65536).toNat) 0
  · simp only [if_pos wrong] at accepted
    cases accepted
  · simp only [if_neg wrong] at accepted ⊢
    cases accepted
    exact ⟨rfl, rfl⟩

/-- What `UnPackData` accepts has its two markers and a body that passes. -/
theorem unPackData_eq_ok {beyond : Nat → UInt8} {buf : List UInt8} {unpacked : UnPacked}
    (accepted : unPackData beyond buf = .ok unpacked) :
    ∃ start stop, checkProtocol buf = some (start, stop) ∧
      unPackBody beyond ((buf.take stop).drop (start + 1)) (buf.drop (stop + 1)) =
        .ok unpacked := by
  rw [unPackData] at accepted
  split at accepted
  next => cases accepted
  next start stop found => exact ⟨start, stop, found, accepted⟩

/-! ## Stations -/

/-- `StationInfo`, an entry of the list of a `ServerSendPath` message.  The angle is
in hundredths of a degree. -/
structure StationInfo where
  id : UInt16
  xPos : UInt32
  yPos : UInt32
  pathAngle : UInt16
  turnRadius : UInt16
  mode : UInt8
  action : UInt8
  liftHeight : UInt16
  deriving DecidableEq, Repr

/-! ## Acknowledgements -/

/-- `CAgvSchProtocol::ServerResponseAck`. -/
def serverResponseAck : UInt16 := 0x0204

/-- `ServerAck`, with the bytes its pointer designates when the frame is unpacked. -/
structure ServerAck where
  cmd : UInt16
  result : UInt16
  dataLength : UInt16
  data : Option (List UInt8)
  deriving DecidableEq, Repr

/-- `ServerAck::unPackData` on an object that holds `fresh`. -/
def ServerAck.unPackData (fresh : ServerAck) (data : List UInt8) : ServerAck :=
  if data.length < 6 then fresh
  else
    let field (offset : Nat) := (buffer2Bin ((data.drop offset).take 2)).toUInt16
    { cmd := field 0
      result := field 2
      dataLength := field 4
      data := if field 4 > 0 then some data else none }

end DrivingControl.Comm

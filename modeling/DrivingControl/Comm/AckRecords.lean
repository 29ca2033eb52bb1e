import DrivingControl.Comm.PathStations

/-!
# Acknowledgement records

`ServerAck::unPackData` reads three fields and leaves a pointer to the additional data that
the third one announces.  The pointer is set to the start of the payload and not to where
the cursor stands, and the cursor moves over the announced bytes whether or not the payload
has them.  `AckToServer::packData` puts a vehicle number in front of the same three fields.
-/

namespace DrivingControl.Comm

/-- `ServerAck` with its pointer as a place in the payload. -/
structure AckRecord where
  cmd : UInt16
  result : UInt16
  dataLength : UInt16
  /-- `data`; `none` is the null pointer. -/
  data : Option Nat
  deriving DecidableEq, Repr

/-- A `short` of the payload. -/
def ackField (payload : List UInt8) (offset : Nat) : UInt16 :=
  (buffer2Bin ((payload.drop offset).take 2)).toUInt16

/-- `ServerAck::unPackData` with the cursor it returns; there is none when the record is
rejected. -/
def unPackAck (payload : List UInt8) : Option (AckRecord × Nat) :=
  if payload.length < 6 then none
  else
    let cmd := ackField payload 0
    let result := ackField payload 2
    let dataLength := ackField payload 4
    if dataLength > 0 then
      some ({ cmd, result, dataLength, data := some 0 }, 6 + dataLength.toNat)
    else some ({ cmd, result, dataLength, data := none }, 6)

/-- The fields are those that the scheduler works with, and so are the bytes behind the
pointer. -/
theorem unPackData_eq_of_unPackAck {payload : List UInt8} {record : AckRecord} {cursor : Nat}
    (fresh : ServerAck) (unpacked : unPackAck payload = some (record, cursor)) :
    fresh.unPackData payload =
      ⟨record.cmd, record.result, record.dataLength, record.data.map payload.drop⟩ := by
  rw [unPackAck] at unpacked
  rw [ServerAck.unPackData]
  split at unpacked
  · cases unpacked
  next long =>
    rw [if_neg long]
    dsimp only at unpacked
    split at unpacked
    next announced =>
      cases unpacked
      have field : (buffer2Bin ((payload.drop 4).take 2)).toUInt16 > 0 := announced
      simp only [if_pos field]
      rfl
    next nothing =>
      cases unpacked
      have field : ¬ (buffer2Bin ((payload.drop 4).take 2)).toUInt16 > 0 := nothing
      simp only [if_neg field]
      rfl

/-- The cursor ends inside the payload, and the pointer designates the announced bytes behind
the three fields. -/
def ParsesWithin (payload : List UInt8) : Prop :=
  ∀ record cursor, unPackAck payload = some (record, cursor) →
    cursor ≤ payload.length ∧ (0 < record.dataLength → record.data = some 6)

/-- A `short` is zero when both of its bytes are. -/
theorem ackField_eq_zero_iff {payload : List UInt8} {offset : Nat}
    (inside : offset + 2 ≤ payload.length) :
    ackField payload offset = 0 ↔
      payload[offset]? = some 0 ∧ payload[offset + 1]? = some 0 := by
  have first : offset < payload.length := by omega
  have second : offset + 1 < payload.length := by omega
  have bytes : (payload.drop offset).take 2 = [payload[offset], payload[offset + 1]] := by
    rw [List.drop_eq_getElem_cons first, List.drop_eq_getElem_cons second]
    rfl
  have value : (ackField payload offset).toNat =
      payload[offset + 1].toNat + 256 * payload[offset].toNat := by
    have high := payload[offset].toNat_lt
    have low := payload[offset + 1].toNat_lt
    rw [ackField, bytes, UInt32.toNat_toUInt16, toNat_buffer2Bin (by simp) (by simp),
      bigEndian_cons, bigEndian_cons, bigEndian]
    simp
    omega
  rw [← UInt16.toNat_inj, value, List.getElem?_eq_getElem first,
    List.getElem?_eq_getElem second, Option.some.injEq, Option.some.injEq,
    ← UInt8.toNat_inj, ← UInt8.toNat_inj]
  simp only [UInt16.toNat_zero, UInt8.toNat_zero]
  omega

/-- Parsing stays within the bounds when the length is zero, and only then. -/
theorem parsesWithin_iff_ackField {payload : List UInt8} (long : 6 ≤ payload.length) :
    ParsesWithin payload ↔ ackField payload 4 = 0 := by
  rw [ParsesWithin, unPackAck, if_neg (Nat.not_lt.mpr long)]
  dsimp only
  split
  next announced =>
    constructor
    · intro within
      have pointer := (within _ _ rfl).2 announced
      exact absurd pointer (by simp)
    · intro zero
      rw [zero] at announced
      exact absurd announced (by decide)
  next nothing =>
    have zero : ackField payload 4 = 0 := by
      simpa using nothing
    refine iff_of_true ?_ zero
    intro record cursor unpacked
    cases unpacked
    exact ⟨long, fun positive => absurd positive nothing⟩

/-- The record is parsed within its bounds exactly if no additional data is announced. -/
theorem parsesWithin_iff {payload : List UInt8} (long : 6 ≤ payload.length) :
    ParsesWithin payload ↔ payload[4]? = some 0 ∧ payload[5]? = some 0 := by
  rw [parsesWithin_iff_ackField long, ackField_eq_zero_iff long]

/-- An acknowledgement without additional data. -/
theorem parsesWithin_iff_plain : ParsesWithin [0x01, 0x02, 0, 0, 0, 0] :=
  (parsesWithin_iff (by decide)).mpr ⟨rfl, rfl⟩

/-- One byte of additional data is announced and there: the pointer designates the first byte
of the payload. -/
theorem pointer_at_start :
    ¬ ∀ payload : List UInt8, 6 ≤ payload.length → ParsesWithin payload := by
  intro within
  have parsed := within [0x01, 0x02, 0, 0, 0, 1, 0x55] (by decide)
  exact absurd ((parsed _ _ rfl).2 (by decide)) (by decide)

/-! ## The encoder -/

/-- `AckToServer`, with the memory behind its pointer. -/
structure AckToServer where
  id : UInt16
  cmd : UInt16
  result : UInt16
  dataLength : UInt16
  /-- `data`; `none` is the null pointer. -/
  data : Option (Nat → UInt8)

/-- `AckToServer::packData`; there is no result when the buffer is too short. -/
def AckToServer.packData (ack : AckToServer) (maxlen : Int) : Option (List UInt8) :=
  if maxlen < 8 then none
  else some (packShort ack.id ++ packShort ack.cmd ++ packShort ack.result ++
    packShort ack.dataLength ++
    match ack.data with
    | none => []
    | some memory => if ack.dataLength > 0 then readMemory memory 0 ack.dataLength.toNat else [])

/-- The record that is read from an acknowledgement to the server is shifted by a field: its
length is the result that was packed. -/
theorem ackField_packData {ack : AckToServer} {maxlen : Int} {payload : List UInt8}
    (packed : ack.packData maxlen = some payload) :
    8 ≤ payload.length ∧ ackField payload 0 = ack.id ∧ ackField payload 2 = ack.cmd ∧
      ackField payload 4 = ack.result := by
  rw [AckToServer.packData, Option.ite_none_left_eq_some, Option.some.injEq] at packed
  rcases packed with ⟨-, rfl⟩
  have take (front back : List UInt8) (value : UInt16) (offset : Nat)
      (size : front.length = offset) :
      ackField (front ++ (packShort value ++ back)) offset = value := by
    rw [ackField, ← size, List.drop_left, List.take_left' (length_packShort value),
      buffer2Bin_packShort]
  simp only [List.append_assoc]
  refine ⟨?_, take [] _ ack.id 0 rfl, take (packShort ack.id) _ ack.cmd 2 (by simp), ?_⟩
  · simp only [List.length_append, length_packShort]
    omega
  · rw [← List.append_assoc (packShort ack.id)]
    exact take (packShort ack.id ++ packShort ack.cmd) _ ack.result 4 (by simp)

/-- So an acknowledgement to the server would be parsed within its bounds only if its result
is zero. -/
theorem parsesWithin_packData_iff {ack : AckToServer} {maxlen : Int} {payload : List UInt8}
    (packed : ack.packData maxlen = some payload) : ParsesWithin payload ↔ ack.result = 0 := by
  rcases ackField_packData packed with ⟨long, -, -, length⟩
  rw [parsesWithin_iff_ackField (by omega), length]

end DrivingControl.Comm

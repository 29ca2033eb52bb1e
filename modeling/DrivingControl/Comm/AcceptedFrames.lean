import DrivingControl.Comm.FrameRoundTrip

/-!
# What an accepted frame declares

`UnPackData` takes the payload length from the length field of the frame, which the
check sum does not cover, and never compares it with the number of bytes it has
decoded.  An accepted frame is self-consistent exactly if its sender has declared the
right length.
-/

namespace DrivingControl.Comm

open DrivingControl.Utils DrivingControl.Library

/-! ## The declared length -/

/-- The escaped bytes between the two markers that the search finds. -/
def innerBytes (buf : List UInt8) : List UInt8 :=
  match checkProtocol buf with
  | none => []
  | some (start, stop) => (buf.take stop).drop (start + 1)

/-- The decoded bytes of a frame. -/
def decodedBody (buf : List UInt8) : List UInt8 := (decode (innerBytes buf)).1

/-- The length field of a decoded body. -/
def declaredLength (body : List UInt8) : UInt16 :=
  (buffer2Bin [body.getD 0 0, body.getD 1 0]).toUInt16

/-- The four header fields are there, and the length field counts the bytes behind it. -/
def DeclaresItsLength (body : List UInt8) : Prop :=
  8 ≤ body.length ∧ body.length - 8 < 65536 ∧
    (declaredLength body).toNat = (body.length - 2) % 65536

/-- The reported payload is what the decoded body holds behind the header. -/
def UnPacked.SelfConsistent (unpacked : UnPacked) : Prop :=
  (unpacked.dataLength.toNat : Int) = (unpacked.body.length : Int) - 8 ∧
    (0 < unpacked.dataLength.toNat → 8 + unpacked.dataLength.toNat ≤ unpacked.body.length)

instance (body : List UInt8) : Decidable (DeclaresItsLength body) :=
  inferInstanceAs (Decidable (_ ∧ _ ∧ _))

instance (unpacked : UnPacked) : Decidable unpacked.SelfConsistent :=
  inferInstanceAs (Decidable (_ ∧ _))

variable {beyond : Nat → UInt8} {buf : List UInt8} {unpacked : UnPacked}

/-- The bytes that the check sum of a body is taken over. -/
def coveredBytes (beyond : Nat → UInt8) (escaped : List UInt8) : List UInt8 :=
  let dlen : Int := if (decode escaped).2 then (decode escaped).1.length else -1
  readMemory (bufferMemory beyond (decode escaped).1) 4 ((dlen - 4) % 65536).toNat

/-- What an accepted body reports. -/
def reported (beyond : Nat → UInt8) (escaped left : List UInt8) : UnPacked :=
  let memory := bufferMemory beyond (decode escaped).1
  let dataLength := unPackShort memory 0 - 6
  { body := (decode escaped).1
    length := unPackShort memory 0
    dataLength
    message := ⟨unPackShort memory 4, unPackShort memory 6,
      readMemory memory 8 dataLength.toNat⟩
    left }

/-- A body is accepted exactly if its check sum is right. -/
theorem unPackBody_eq (beyond : Nat → UInt8) (escaped left : List UInt8) :
    unPackBody beyond escaped left =
      if unPackShort (bufferMemory beyond (decode escaped).1) 2 =
          getCrc16 (coveredBytes beyond escaped) 0 then .ok (reported beyond escaped left)
      else .error .crc := by
  by_cases summed : unPackShort (bufferMemory beyond (decode escaped).1) 2 =
      getCrc16 (coveredBytes beyond escaped) 0
  · rw [if_pos summed]
    exact if_neg (not_not_intro summed)
  · rw [if_neg summed]
    exact if_pos summed

/-- Two markers and a right check sum are all that `UnPackData` asks for. -/
theorem unPackData_of_sum {start stop : Nat} (found : checkProtocol buf = some (start, stop))
    (summed : unPackShort (bufferMemory beyond (decodedBody buf)) 2 =
      getCrc16 (coveredBytes beyond (innerBytes buf)) 0) :
    unPackData beyond buf = .ok (reported beyond (innerBytes buf) (buf.drop (stop + 1))) := by
  have inner : innerBytes buf = (buf.take stop).drop (start + 1) := by
    rw [innerBytes, found]
  rw [decodedBody, inner] at summed
  rw [inner]
  simp only [unPackData, found]
  rw [unPackBody_eq, if_pos summed]

/-- What an accepted frame reports is read from its decoded body. -/
theorem fields_of_unPackBody {escaped left : List UInt8}
    (accepted : unPackBody beyond escaped left = .ok unpacked) :
    unpacked.body = (decode escaped).1 ∧
      unpacked.dataLength = declaredLength (decode escaped).1 - 6 ∧
      unpacked.message.data =
        readMemory (bufferMemory beyond (decode escaped).1) 8 unpacked.dataLength.toNat := by
  rw [unPackBody_eq] at accepted
  split at accepted
  · cases accepted
    exact ⟨rfl, rfl, rfl⟩
  · cases accepted

theorem fields_of_unPackData (accepted : unPackData beyond buf = .ok unpacked) :
    unpacked.body = decodedBody buf ∧
      unpacked.dataLength = declaredLength (decodedBody buf) - 6 ∧
      unpacked.message.data =
        readMemory (bufferMemory beyond (decodedBody buf)) 8 unpacked.dataLength.toNat := by
  rcases unPackData_eq_ok accepted with ⟨start, stop, found, opened⟩
  have inner : innerBytes buf = (buf.take stop).drop (start + 1) := by
    rw [innerBytes, found]
  rw [decodedBody, inner]
  exact fields_of_unPackBody opened

/-- The two bytes of the check sum and the four of type and command are subtracted in
sixteen bits. -/
theorem toNat_sub_six (length : UInt16) : (length - 6).toNat = (length.toNat + 65530) % 65536 := by
  rw [UInt16.toNat_sub]
  have six : UInt16.toNat 6 = 6 := rfl
  rw [six]
  omega

/-- An accepted frame is self-consistent exactly if it declares its length. -/
theorem selfConsistent_iff (beyond : Nat → UInt8) (buf : List UInt8) (unpacked : UnPacked)
    (accepted : unPackData beyond buf = .ok unpacked) :
    unpacked.SelfConsistent ↔ DeclaresItsLength (decodedBody buf) := by
  rcases fields_of_unPackData accepted with ⟨body, dataLength, -⟩
  have bound := (declaredLength (decodedBody buf)).toNat_lt
  rw [UnPacked.SelfConsistent, DeclaresItsLength, body, dataLength, toNat_sub_six]
  constructor
  · rintro ⟨counted, -⟩
    refine ⟨by omega, by omega, by omega⟩
  · rintro ⟨header, small, declared⟩
    refine ⟨by omega, by omega⟩

/-- A frame whose last payload byte is an escaped marker. -/
theorem selfConsistent_iff_escape :
    (reported (fun _ => 0) [0x00, 0x08, 0x24, 0x35, 0x00, 0x01, 0x02, 0x02, 0x07, 0x85, 0x86]
        []).SelfConsistent ↔
      DeclaresItsLength (decodedBody
        [0xFF, 0x00, 0x08, 0x24, 0x35, 0x00, 0x01, 0x02, 0x02, 0x07, 0x85, 0x86, 0xFF]) :=
  selfConsistent_iff (fun _ => 0) _ _
    (unPackData_of_sum (show checkProtocol _ = some (0, 12) by decide +kernel) (by decide +kernel))

/-- A frame without a payload whose length field says 32 is accepted, with 26 bytes of
payload. -/
theorem declared_length_unchecked :
    ¬ ∀ (beyond : Nat → UInt8) (buf : List UInt8) (unpacked : UnPacked),
      unPackData beyond buf = .ok unpacked → unpacked.SelfConsistent := by
  intro all
  have consistent := all (fun _ => 0)
    [0xFF, 0x00, 0x20, 0xB5, 0xA2, 0x00, 0x01, 0x02, 0x02, 0xFF] _
    (unPackData_of_sum (show checkProtocol _ = some (0, 9) by decide +kernel) (by decide +kernel))
  exact absurd consistent (by decide +kernel)

/-- The handlers of a self-consistent frame see the bytes behind its header. -/
theorem data_of_selfConsistent (accepted : unPackData beyond buf = .ok unpacked)
    (consistent : unpacked.SelfConsistent) (fits : unpacked.body.length ≤ bufferSize) :
    unpacked.message.data = unpacked.body.drop 8 := by
  rcases fields_of_unPackData accepted with ⟨body, -, data⟩
  have counted := consistent.1
  rw [data, ← body, readMemory_eq fits beyond (by omega)]
  apply List.take_of_length_le
  rw [List.length_drop]
  omega

/-! ## What the check sum covers -/

/-- The frame with a decoded body. -/
def frameOf (body : List UInt8) : List UInt8 := marker :: (encode body ++ [marker])

/-- `UnPackData` accepts a byte string. -/
def Accepted (beyond : Nat → UInt8) (buf : List UInt8) : Prop :=
  ∃ unpacked, unPackData beyond buf = .ok unpacked

instance (beyond : Nat → UInt8) (buf : List UInt8) : Decidable (Accepted beyond buf) :=
  match opened : unPackData beyond buf with
  | .ok unpacked => isTrue ⟨unpacked, opened⟩
  | .error _ => isFalse fun ⟨_, accepted⟩ => nomatch opened.symm.trans accepted

theorem unPackShort_eq_buffer2Bin (memory : Nat → UInt8) (offset : Nat) :
    unPackShort memory offset = (buffer2Bin (readMemory memory offset 2)).toUInt16 := rfl

/-- The check sum of a whole body is taken over the bytes behind its field. -/
theorem coveredBytes_encode {head tail : List UInt8} (header : head.length = 4)
    (fits : (head ++ tail).length ≤ bufferSize) :
    coveredBytes beyond (encode (head ++ tail)) = tail := by
  rw [coveredBytes]
  simp only [decode_encode, if_true]
  rw [bufferSize] at fits
  rw [List.length_append, header] at fits
  have covered : ((((head ++ tail).length : Int) - 4) % 65536).toNat = tail.length := by
    rw [List.length_append, header]
    omega
  rw [covered, readMemory_eq (by rw [List.length_append, header]; exact fits) beyond
    (by rw [List.length_append]; omega), List.drop_left' header, List.take_length]

/-- A frame is accepted only if its check sum is that of the bytes behind it. -/
theorem getCrc16_of_accepted {head tail : List UInt8} (header : head.length = 4)
    (fits : (head ++ tail).length ≤ bufferSize)
    (accepted : Accepted beyond (frameOf (head ++ tail))) :
    getCrc16 tail 0 = (buffer2Bin (head.drop 2)).toUInt16 := by
  rcases accepted with ⟨unpacked, accepted⟩
  have long := ten_le_length accepted
  simp only [frameOf, List.length_cons, List.length_append, List.length_nil] at long
  have markers := checkProtocol_frame (marker_notMem_encode (head ++ tail))
    (by omega) []
  rcases unPackData_eq_ok accepted with ⟨start, stop, found, opened⟩
  cases markers.symm.trans found
  have inner : ((frameOf (head ++ tail)).take ((encode (head ++ tail)).length + 1)).drop (0 + 1) =
      encode (head ++ tail) := by
    simp [frameOf]
  have field : ((head ++ tail).drop 2).take 2 = head.drop 2 := by
    rw [List.drop_append_of_le_length (by omega)]
    exact List.take_left' (by rw [List.length_drop, header])
  rw [inner, unPackBody_eq, coveredBytes_encode header fits, decode_encode,
    unPackShort_eq_buffer2Bin, readMemory_eq fits beyond (by rw [List.length_append]; omega),
    field] at opened
  split at opened
  next summed => exact summed.symm
  next => cases opened

end DrivingControl.Comm

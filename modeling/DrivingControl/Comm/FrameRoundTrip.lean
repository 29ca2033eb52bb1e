import DrivingControl.Comm.SchProtocol
import DrivingControl.Library.Framing

/-!
# Unpacking a packed frame

`UnPackData` at the start of a packed message, whatever bytes follow the frame,
delivers the message and leaves exactly those bytes.  The marker search needs
that escaped bodies hold no marker and are at least eight bytes long; the header
and the check sum need that reads inside the decoded body are slices of it.
-/

namespace DrivingControl.Comm

open DrivingControl.Utils DrivingControl.Library

/-! ## The marker search -/

/-- Over a body without markers the search keeps its head and stops at the next
marker if that is far enough away. -/
theorem checkLoop_append {body : List UInt8} (absent : marker ∉ body)
    (rest : List UInt8) (i h : Nat) (far : 8 < i + body.length - h) :
    checkLoop (body ++ marker :: rest) i (some h) = some (h, i + body.length) := by
  induction body generalizing i with
  | nil =>
      simp only [List.nil_append, checkLoop, Option.getD_some, List.length_nil] at far ⊢
      rw [if_pos trivial, if_pos (show i - h > 8 by omega)]
      rfl
  | cons byte body ih =>
      simp only [List.mem_cons, not_or] at absent
      have other : byte ≠ marker := fun equal => absent.1 equal.symm
      simp only [List.cons_append, checkLoop, if_neg other, List.length_cons] at far ⊢
      rw [ih absent.2 (i + 1) (by omega)]
      simp only [Option.some.injEq, Prod.mk.injEq, true_and]
      omega

/-- At the start of a frame the search finds the frame's own two markers. -/
theorem checkProtocol_frame {body : List UInt8} (absent : marker ∉ body)
    (long : 8 ≤ body.length) (rest : List UInt8) :
    checkProtocol (marker :: (body ++ marker :: rest)) = some (0, body.length + 1) := by
  have enough : ¬ (marker :: (body ++ marker :: rest)).length < 10 := by
    simp only [List.length_cons, List.length_append]
    omega
  rw [checkProtocol, if_neg enough]
  have found := checkLoop_append absent rest 1 0 (by omega)
  simp only [checkLoop, if_true, Option.getD_none, Nat.sub_self, Nat.zero_add, found]
  simp
  omega

/-- The search passes two markers: the bytes behind the second one hold at least
two markers fewer. -/
theorem checkLoop_count {bytes : List UInt8} {i : Nat} {hi : Option Nat} {start stop : Nat}
    (found : checkLoop bytes i hi = some (start, stop)) :
    i ≤ stop ∧ (bytes.drop (stop + 1 - i)).count marker + (if hi.isSome then 1 else 2) ≤
      bytes.count marker := by
  induction bytes generalizing i hi with
  | nil => simp [checkLoop] at found
  | cons byte rest ih =>
      have behind : i + 1 ≤ stop → (byte :: rest).drop (stop + 1 - i) =
          rest.drop (stop + 1 - (i + 1)) := fun later => by
        rw [show stop + 1 - i = (stop + 1 - (i + 1)) + 1 by omega, List.drop_succ_cons]
      rw [checkLoop] at found
      split at found
      next isMarker =>
        split at found
        next far =>
          -- The head was found before, and this marker ends the search.
          have headFound : hi.isSome := by
            cases hi with
            | none => simp at far
            | some h => rfl
          obtain ⟨-, rfl⟩ := Prod.mk.inj (Option.some.inj found)
          simp [headFound, isMarker]
        next =>
          obtain ⟨later, counted⟩ := ih found
          rw [behind later, isMarker, List.count_cons_self]
          simp only [Option.isSome_some, if_true] at counted
          constructor
          · omega
          · split <;> omega
      next notMarker =>
        obtain ⟨later, counted⟩ := ih found
        rw [behind later, List.count_cons_of_ne notMarker]
        exact ⟨by omega, counted⟩

/-! ## Reads inside the decoded body -/

@[simp] theorem length_readMemory (memory : Nat → UInt8) (offset length : Nat) :
    (readMemory memory offset length).length = length := by
  simp [readMemory]

theorem bufferMemory_eq {body : List UInt8} (fits : body.length ≤ bufferSize)
    (beyond : Nat → UInt8) {i : Nat} (within : i < body.length) :
    bufferMemory beyond body i = body[i] := by
  have inBuffer : i < bufferSize := by omega
  simp [bufferMemory, inBuffer, within]

/-- A read inside the decoded body is a slice of it. -/
theorem readMemory_eq {body : List UInt8} (fits : body.length ≤ bufferSize)
    (beyond : Nat → UInt8) {offset length : Nat} (within : offset + length ≤ body.length) :
    readMemory (bufferMemory beyond body) offset length = (body.drop offset).take length := by
  apply List.ext_getElem
  · simp
    omega
  · intro i left right
    rw [length_readMemory] at left
    simp only [readMemory, List.getElem_map, List.getElem_range, List.getElem_take,
      List.getElem_drop]
    exact bufferMemory_eq fits beyond (by omega)

/-- A packed `short` inside the decoded body reads back as itself. -/
theorem unPackShort_eq (front : List UInt8) {back : List UInt8} {value : UInt16}
    (beyond : Nat → UInt8) {body : List UInt8} (fits : body.length ≤ bufferSize)
    (shape : body = front ++ packShort value ++ back) :
    unPackShort (bufferMemory beyond body) front.length = value := by
  have within : front.length + 2 ≤ body.length := by
    rw [shape]
    simp
  have slice := readMemory_eq fits beyond within
  have field : (body.drop front.length).take 2 = packShort value := by
    rw [shape, List.append_assoc, List.drop_left, List.take_append_of_le_length (by simp),
      List.take_of_length_le (by simp)]
  rw [field] at slice
  rw [← buffer2Bin_packShort value, ← slice]
  rfl

/-! ## One frame -/

theorem length_packBody (message : SchMessage) (length checkSum : UInt16) :
    (packBody message length checkSum).length =
      8 + (message.data.take (length - 6).toNat).length := by
  simp only [packBody, List.length_append, length_packShort]

/-- Within the buffers the 16-bit length field gives back the payload length. -/
theorem length_sub_six {size : Nat} (fits : size + 8 ≤ bufferSize) :
    (UInt16.ofNat (size + 6) - 6).toNat = size := by
  have cancelled : UInt16.ofNat (size + 6) - 6 = UInt16.ofNat size := by
    rw [UInt16.ofNat_add]
    exact UInt16.add_sub_cancel (UInt16.ofNat size) 6
  rw [cancelled, UInt16.toNat_ofNat']
  rw [bufferSize] at fits
  omega

/-- The check sum covers everything behind its own field. -/
theorem drop_packBody (message : SchMessage) (length checkSum : UInt16) :
    (packBody message length checkSum).drop 4 =
      packShort message.type ++ packShort message.cmd ++
        message.data.take (length - 6).toNat := by
  simp [packBody, List.drop_append]

/-- Reading the four header fields and the payload back from a packed body. -/
theorem read_packBody (beyond : Nat → UInt8) (message : SchMessage)
    (fits : message.data.length + 8 ≤ bufferSize) (checkSum : UInt16) :
    let length := UInt16.ofNat (message.data.length + 6)
    let memory := bufferMemory beyond (packBody message length checkSum)
    unPackShort memory 0 = length ∧ unPackShort memory 2 = checkSum ∧
      unPackShort memory 4 = message.type ∧ unPackShort memory 6 = message.cmd ∧
      readMemory memory 8 message.data.length = message.data := by
  intro length memory
  have payload : message.data.take (length - 6).toNat = message.data := by
    rw [length_sub_six fits, List.take_length]
  have size := length_packBody message length checkSum
  rw [payload] at size
  have inBuffer : (packBody message length checkSum).length ≤ bufferSize := by omega
  refine ⟨?_, ?_, ?_, ?_, ?_⟩
  · exact unPackShort_eq [] beyond inBuffer
      (by simp only [packBody, List.nil_append, List.append_assoc]; rfl)
  · exact unPackShort_eq (packShort length) beyond inBuffer
      (by simp only [packBody, List.append_assoc]; rfl)
  · exact unPackShort_eq (packShort length ++ packShort checkSum) beyond inBuffer
      (by simp only [packBody, List.append_assoc]; rfl)
  · exact unPackShort_eq
      (packShort length ++ packShort checkSum ++ packShort message.type) beyond inBuffer
      (by simp only [packBody, List.append_assoc]; rfl)
  · have split : (packBody message length checkSum).drop 8 = message.data := by
      rw [packBody, payload]
      exact List.drop_left' (by simp)
    rw [readMemory_eq inBuffer beyond (by omega), split, List.take_length]

/-- Unpacking a packed message, with any bytes behind it, delivers the message and
leaves those bytes. -/
theorem unPackData_packData (beyond : Nat → UInt8) (message : SchMessage)
    (fits : message.data.length + 8 ≤ bufferSize) (rest : List UInt8) :
    ∃ unpacked, unPackData beyond (packData message ++ rest) = .ok unpacked ∧
      unpacked.message = message ∧ unpacked.left = rest := by
  let length := UInt16.ofNat (message.data.length + 6)
  let checkSum := getCrc16 ((packBody message length 0).drop 4) 0
  let body := packBody message length checkSum
  have payload : (length - 6).toNat = message.data.length := length_sub_six fits
  have size : body.length = 8 + message.data.length := by
    rw [length_packBody, payload, List.take_length]
  have shape : packData message ++ rest = marker :: (encode body ++ marker :: rest) := by
    change marker :: (encode body ++ [marker]) ++ rest = _
    simp
  have markers : checkProtocol (packData message ++ rest) =
      some (0, (encode body).length + 1) := by
    have grown := length_le_length_encode body
    rw [shape]
    exact checkProtocol_frame (marker_notMem_encode body) (by omega) rest
  have inner : ((packData message ++ rest).take ((encode body).length + 1)).drop (0 + 1) =
      encode body := by
    rw [shape]
    simp
  have left : (packData message ++ rest).drop ((encode body).length + 1 + 1) = rest := by
    rw [shape]
    simp [List.drop_append]
  obtain ⟨lengthEq, checkSumEq, typeEq, cmdEq, dataEq⟩ :=
    read_packBody beyond message fits checkSum
  have covered : (((body.length : Int) - 4) % 65536).toNat = 4 + message.data.length := by
    rw [bufferSize] at fits
    omega
  have summed : readMemory (bufferMemory beyond body) 4 (4 + message.data.length) =
      (packBody message length 0).drop 4 := by
    rw [readMemory_eq (by omega) beyond (by omega), drop_packBody, drop_packBody]
    apply List.take_of_length_le
    simp [payload]
    omega
  have valid : ¬ unPackShort (bufferMemory beyond body) 2 ≠
      getCrc16 ((packBody message length 0).drop 4) 0 := fun wrong => wrong checkSumEq
  simp only [unPackData, unPackBody]
  simp only [markers, inner, decode_encode, if_true, covered, summed, left]
  rw [if_neg valid]
  refine ⟨_, rfl, ?_, rfl⟩
  change SchMessage.mk (unPackShort (bufferMemory beyond body) 4)
    (unPackShort (bufferMemory beyond body) 6)
    (readMemory (bufferMemory beyond body) 8
      (unPackShort (bufferMemory beyond body) 0 - 6).toNat) = message
  rw [lengthEq, typeEq, cmdEq, payload, dataEq]

/-! ## Accepted frames -/

/-- A frame that the receiver accepts when nothing follows it. -/
def IsValidFrame (beyond : Nat → UInt8) (frame : List UInt8) : Prop :=
  IsFrame marker frame ∧ ∃ unpacked, unPackData beyond frame = .ok unpacked

theorem isFrame_packData (message : SchMessage) : IsFrame marker (packData message) :=
  ⟨_, marker_notMem_encode _, rfl⟩

theorem isValidFrame_packData (beyond : Nat → UInt8) (message : SchMessage)
    (fits : message.data.length + 8 ≤ bufferSize) :
    IsValidFrame beyond (packData message) := by
  obtain ⟨unpacked, accepted, -⟩ := unPackData_packData beyond message fits []
  rw [List.append_nil] at accepted
  exact ⟨isFrame_packData message, unpacked, accepted⟩

/-- What `UnPackData` accepts is at least ten bytes long. -/
theorem ten_le_length {beyond : Nat → UInt8} {buf : List UInt8} {unpacked : UnPacked}
    (accepted : unPackData beyond buf = .ok unpacked) : 10 ≤ buf.length := by
  by_cases short : buf.length < 10
  · simp [unPackData, checkProtocol, short] at accepted
  · omega

/-- A successful call leaves at least two markers fewer. -/
theorem count_left {beyond : Nat → UInt8} {buf : List UInt8} {unpacked : UnPacked}
    (accepted : unPackData beyond buf = .ok unpacked) :
    unpacked.left.count marker + 2 ≤ buf.count marker := by
  have long := ten_le_length accepted
  obtain ⟨start, stop, found, opened⟩ := unPackData_eq_ok accepted
  rw [checkProtocol, if_neg (by omega)] at found
  rw [(unPackBody_left opened []).1]
  simpa using (checkLoop_count found).2

/-- A successful call leaves fewer bytes. -/
theorem length_left_lt {beyond : Nat → UInt8} {buf : List UInt8} {unpacked : UnPacked}
    (accepted : unPackData beyond buf = .ok unpacked) :
    unpacked.left.length < buf.length := by
  have long := ten_le_length accepted
  obtain ⟨start, stop, -, opened⟩ := unPackData_eq_ok accepted
  rw [(unPackBody_left opened []).1, List.length_drop]
  omega

/-- Bytes behind a valid frame change nothing but what is left. -/
theorem unPackData_append {beyond : Nat → UInt8} {frame : List UInt8} {unpacked : UnPacked}
    (isFrame : IsFrame marker frame) (accepted : unPackData beyond frame = .ok unpacked)
    (rest : List UInt8) :
    unPackData beyond (frame ++ rest) = .ok { unpacked with left := rest } := by
  have long := ten_le_length accepted
  obtain ⟨body, absent, rfl⟩ := isFrame
  simp only [List.length_cons, List.length_append, List.length_nil] at long
  have alone := checkProtocol_frame absent (by omega) []
  have followed := checkProtocol_frame absent (by omega) rest
  have inner : ((marker :: (body ++ marker :: rest)).take (body.length + 1)).drop (0 + 1) =
      body := by simp
  have innerAlone : ((marker :: (body ++ [marker])).take (body.length + 1)).drop (0 + 1) =
      body := by simp
  have left : (marker :: (body ++ marker :: rest)).drop (body.length + 1 + 1) = rest := by
    simp [List.drop_append]
  simp only [unPackData, alone, innerAlone] at accepted
  simp only [List.cons_append, List.append_assoc, List.nil_append, unPackData, followed,
    inner, left]
  exact (unPackBody_left accepted rest).2

end DrivingControl.Comm

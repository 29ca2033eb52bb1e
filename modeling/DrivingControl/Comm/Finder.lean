import DrivingControl.Comm.AcceptedFrames
import DrivingControl.Library.Decimal
import Mathlib.Data.List.TakeWhile

/-!
# The finder

A car that is looked for replies with its id, its product id and its address; older cars
reply with the id and the address only.  `onReceiveData` tells the two formats apart by the
length field of the frame, which counts the six bytes of check sum, type and command as
well.  So the branch of the old format is never taken, and a reply in the old format is
read as one in the new.
-/

namespace DrivingControl.Comm

open DrivingControl.Library

/-- `CMD_FIND`. -/
def cmdFind : UInt16 := 0x03FF

/-- `CMD_REPLY`. -/
def cmdReply : UInt16 := 0x01FF

/-- `FinderReply`. -/
structure FinderReply where
  id : UInt16
  agvPid : Text
  ipAddress : Text
  deriving DecidableEq, Repr

/-- `FinderMode`. -/
inductive FinderMode where
  | finder | replier
  deriving DecidableEq, Repr

/-- `CAgvFinder`.  `sendBuf` has room for its frame, if `localIp` is an address in ASCII
characters. -/
structure AgvFinder where
  workMode : FinderMode
  agvPid : Text := []
  agvId : UInt16 := 0
  localIp : Text := []
  agvList : List FinderReply := []
  sendBuf : List UInt8 := []
  replyIp : Text := []
  replyTimes : Int := 0
  maxReplyTimes : Int := 10
  deriving DecidableEq, Repr

/-! ## C strings -/

/-- What `strncpy` copies from an offset: the characters before the first null byte. -/
def copied (data : Nat → UInt8) (offset : Nat) : Nat → Text
  | 0 => []
  | count + 1 =>
      if data offset = 0 then [] else data offset :: copied data (offset + 1) count

/-- The offsets that `strncpy` reads. -/
def copiedFrom (data : Nat → UInt8) (offset : Nat) : Nat → List Nat
  | 0 => []
  | count + 1 =>
      offset :: if data offset = 0 then [] else copiedFrom data (offset + 1) count

/-- The characters of a C string within some bytes. -/
def cText (bytes : List UInt8) : Text := bytes.takeWhile (· ≠ 0)

/-- A field of sixteen bytes, cleared, into which `strncpy` puts at most fifteen. -/
def textField (text : Text) : List UInt8 :=
  let characters := (cText text).take 15
  characters ++ List.replicate (16 - characters.length) 0

namespace AgvFinder

/-! ## Replies -/

/-- The payload of `ReplyFindSignal`. -/
def replyData (finder : AgvFinder) : List UInt8 :=
  packShort finder.agvId ++ textField finder.agvPid ++ textField finder.localIp

/-- `ReplyFindSignal`. -/
def replyFindSignal (ip : Text) (times : Int) (finder : AgvFinder) : AgvFinder :=
  { finder with
    sendBuf := packData { type := 2, cmd := cmdReply, data := finder.replyData }
    replyTimes := times * 10
    maxReplyTimes := times * 10
    replyIp := ip }

/-- `isInFindedList`. -/
def isInFindedList (ip : Text) (finder : AgvFinder) : Bool :=
  finder.agvList.any fun reply => reply.ipAddress == ip

/-- `addFindedList`. -/
def addFindedList (ip : Text) (id : UInt16) (pid : Text) (finder : AgvFinder) : AgvFinder :=
  if finder.isInFindedList ip then finder
  else { finder with agvList := finder.agvList ++ [{ id, agvPid := pid, ipAddress := ip }] }

/-- The id and the product id that `onReceiveData` takes from the payload of a reply.  The
address that follows the product id is copied and not used. -/
def decodeReply (length : UInt16) (data : Nat → UInt8) : UInt16 × Text :=
  let id := (Utils.buffer2Bin [data 0, data 1]).toUInt32.toUInt16
  let str := copied data 2 15
  if length = 18 then (id, []) else (id, str)

/-- The offsets of the payload that are read for it. -/
def replyReads (length : UInt16) (data : Nat → UInt8) : List Nat :=
  [0, 1] ++ copiedFrom data 2 15 ++ if length = 18 then [] else copiedFrom data 18 15

/-- The bytes at `protocol.data`. -/
def dataOf (beyond : Nat → UInt8) (protocol : UnPacked) (i : Nat) : UInt8 :=
  bufferMemory beyond protocol.body (8 + i)

/-- The body of the loop of `onReceiveData`, behind a frame that was unpacked. -/
def onFrame (beyond : Nat → UInt8) (ip : Text) (protocol : UnPacked) (finder : AgvFinder) :
    AgvFinder :=
  match finder.workMode with
  | .finder =>
      if protocol.message.cmd = cmdReply then
        if protocol.dataLength < 18 then finder
        else
          let reply := decodeReply protocol.length (dataOf beyond protocol)
          finder.addFindedList ip reply.1 reply.2
      else finder
  | .replier =>
      if protocol.message.cmd = cmdFind then finder.replyFindSignal ip 3 else finder

/-- The loop of `onReceiveData`, with the frames counted so far. -/
def receiveFrames (beyond : Nat → UInt8) (ip : Text) (buf : List UInt8) (cnt : Int)
    (finder : AgvFinder) : AgvFinder × Int :=
  match unpacked : unPackData beyond buf with
  | .error _ => (finder, -1)
  | .ok protocol =>
      let next := finder.onFrame beyond ip protocol
      if protocol.left.length > 0 then receiveFrames beyond ip protocol.left (cnt + 1) next
      else (next, cnt + 1)
termination_by buf.length
decreasing_by exact length_left_lt unpacked

/-- `onReceiveData`. -/
def onReceiveData (beyond : Nat → UInt8) (ip : Text) (buf : List UInt8) (finder : AgvFinder) :
    AgvFinder × Int := finder.receiveFrames beyond ip buf 0

/-! ## What is to hold -/

/-- The bytes of the payload that the frame declares and carries. -/
def payload (protocol : UnPacked) : List UInt8 :=
  (protocol.body.drop 8).take protocol.dataLength.toNat

/-- The id and the product id of a reply; an old one has eighteen bytes and no product id. -/
def replyOf (payload : List UInt8) : UInt16 × Text :=
  ((Utils.buffer2Bin (payload.take 2)).toUInt32.toUInt16,
    if payload.length = 18 then [] else cText ((payload.drop 2).take 15))

/-- The reply is recorded as it was sent, and only its bytes are read. -/
def DecodedAsSent (beyond : Nat → UInt8) (ip : Text) (protocol : UnPacked)
    (finder : AgvFinder) : Prop :=
  finder.onFrame beyond ip protocol =
      finder.addFindedList ip (replyOf (payload protocol)).1 (replyOf (payload protocol)).2 ∧
    ∀ i ∈ replyReads protocol.length (dataOf beyond protocol), i < (payload protocol).length

/-- The payload has all fields of the new format, or its last one ends within it. -/
def AddressEnds (payload : List UInt8) : Prop :=
  33 ≤ payload.length ∨ 0 ∈ payload.drop 18

/-! ## What is copied -/

section Copies

variable {data : Nat → UInt8}

theorem copied_eq_cText (data : Nat → UInt8) (bytes : List UInt8) (offset : Nat)
    (agree : ∀ i (within : i < bytes.length), data (offset + i) = bytes[i]) :
    copied data offset bytes.length = cText bytes := by
  induction bytes generalizing offset with
  | nil => rfl
  | cons byte bytes ih =>
      have first : data offset = byte := agree 0 (Nat.zero_lt_succ _)
      have rest : copied data (offset + 1) bytes.length = cText bytes := by
        apply ih
        intro i within
        have later := agree (i + 1) (Nat.succ_lt_succ within)
        rwa [Nat.add_right_comm, Nat.add_assoc]
      rw [List.length_cons, copied, first, rest, cText, cText, List.takeWhile_cons]
      by_cases zero : byte = 0
      · simp [zero]
      · simp [zero]

/-- The reads of `strncpy` stay below a bound exactly if all of them would or a null byte ends
them before. -/
theorem copiedFrom_below_iff (data : Nat → UInt8) {bound : Nat} (count : Nat) {offset : Nat}
    (within : offset ≤ bound) :
    (∀ i ∈ copiedFrom data offset count, i < bound) ↔
      offset + count ≤ bound ∨ ∃ i, offset ≤ i ∧ i < bound ∧ data i = 0 := by
  induction count generalizing offset with
  | zero => simp [copiedFrom, within]
  | succ count ih =>
      rw [copiedFrom, List.forall_mem_cons]
      rcases Nat.lt_or_eq_of_le within with inside | last
      · by_cases zero : data offset = 0
        · rw [if_pos zero]
          constructor
          · exact fun _ => .inr ⟨offset, Nat.le_refl _, inside, zero⟩
          · intro _
            refine ⟨inside, fun i none => ?_⟩
            cases none
        · rw [if_neg zero, ih inside]
          constructor
          · rintro ⟨-, whole | ⟨i, behind, before, null⟩⟩
            · exact .inl (by omega)
            · exact .inr ⟨i, Nat.le_of_succ_le behind, before, null⟩
          · rintro (whole | ⟨i, behind, before, null⟩)
            · exact ⟨inside, .inl (by omega)⟩
            · have other : offset ≠ i := by
                rintro rfl
                exact zero null
              exact ⟨inside, .inr ⟨i, Nat.lt_of_le_of_ne behind other, before, null⟩⟩
      · constructor
        · rintro ⟨inside, -⟩
          omega
        · rintro (whole | ⟨i, behind, before, -⟩)
          · omega
          · omega

theorem take_two {bytes : List UInt8} (long : 1 < bytes.length) :
    bytes.take 2 = [bytes[0], bytes[1]] := by
  cases bytes with
  | nil => cases long
  | cons first rest =>
      cases rest with
      | nil => simp at long
      | cons second rest => rfl

/-- A reply of the new format is read from its first seventeen bytes. -/
theorem decodeReply_eq {length : UInt16} {bytes : List UInt8} (notOld : length ≠ 18)
    (long : 17 ≤ bytes.length)
    (agree : ∀ i (_ : i < 17) (within : i < bytes.length), data i = bytes[i]) :
    decodeReply length data =
      ((Utils.buffer2Bin (bytes.take 2)).toUInt32.toUInt16, cText ((bytes.drop 2).take 15)) := by
  have head : bytes.take 2 = [data 0, data 1] := by
    rw [take_two (by omega), agree 0 (by decide) (by omega), agree 1 (by decide) (by omega)]
  have fifteen : ((bytes.drop 2).take 15).length = 15 := by
    rw [List.length_take, List.length_drop]
    omega
  have text : copied data 2 15 = cText ((bytes.drop 2).take 15) := by
    rw [← copied_eq_cText data _ 2, fifteen]
    intro i within
    rw [fifteen] at within
    rw [agree (2 + i) (by omega) (by omega)]
    simp
  rw [decodeReply, if_neg notOld, head, text]

end Copies

/-! ## Accepted frames -/

section Accepted

variable {beyond : Nat → UInt8} {buf : List UInt8} {protocol : UnPacked}

/-- The payload's length is six less than the length field, and the payload lies behind the
header. -/
theorem fields_of_accepted (accepted : unPackData beyond buf = .ok protocol) :
    protocol.dataLength = protocol.length - 6 ∧
      protocol.message.data =
        readMemory (bufferMemory beyond protocol.body) 8 protocol.dataLength.toNat := by
  obtain ⟨start, stop, -, opened⟩ := unPackData_eq_ok accepted
  rw [unPackBody_eq] at opened
  split at opened
  · cases opened
    exact ⟨rfl, rfl⟩
  · cases opened

/-- The bytes at `protocol.data` are those of the payload. -/
theorem dataOf_eq_getElem (beyond : Nat → UInt8) (protocol : UnPacked) {i : Nat}
    (few : i < 33) (within : i < (payload protocol).length) :
    dataOf beyond protocol i = (payload protocol)[i] := by
  have carried : 8 + i < protocol.body.length := by
    rw [payload, List.length_take, List.length_drop] at within
    omega
  have inBuffer : 8 + i < bufferSize := by
    rw [bufferSize]
    omega
  rw [dataOf, bufferMemory, if_pos inBuffer]
  simp [payload, carried]

/-- A reply with eighteen bytes of payload is not taken for an old one. -/
theorem length_ne_of_accepted (accepted : unPackData beyond buf = .ok protocol)
    (long : 18 ≤ (payload protocol).length) :
    ¬ protocol.dataLength < 18 ∧ protocol.length ≠ 18 := by
  have declared : 18 ≤ protocol.dataLength.toNat := by
    rw [payload, List.length_take] at long
    omega
  constructor
  · intro short
    have fewer : protocol.dataLength.toNat < 18 := short
    omega
  · intro old
    rw [(fields_of_accepted accepted).1, old] at declared
    exact absurd declared (by decide)

/-- Such a reply is handled as one of the new format. -/
theorem onFrame_reply (accepted : unPackData beyond buf = .ok protocol)
    (reply : protocol.message.cmd = cmdReply) (long : 18 ≤ (payload protocol).length)
    (ip : Text) {finder : AgvFinder} (finding : finder.workMode = .finder) :
    finder.onFrame beyond ip protocol =
      finder.addFindedList ip
        (Utils.buffer2Bin ((payload protocol).take 2)).toUInt32.toUInt16
        (cText (((payload protocol).drop 2).take 15)) := by
  obtain ⟨notShort, notOld⟩ := length_ne_of_accepted accepted long
  have decoded := decodeReply_eq notOld (by omega) fun i few within =>
    dataOf_eq_getElem beyond protocol (by omega) within
  rw [onFrame, finding]
  simp only [if_pos reply, if_neg notShort]
  rw [decoded]

/-- Behind eighteen bytes, a null byte of the payload is one that `strncpy` finds. -/
theorem zero_mem_drop_iff (beyond : Nat → UInt8) (protocol : UnPacked)
    (short : (payload protocol).length < 33) :
    0 ∈ (payload protocol).drop 18 ↔
      ∃ i, 18 ≤ i ∧ i < (payload protocol).length ∧ dataOf beyond protocol i = 0 := by
  rw [List.mem_iff_getElem]
  constructor
  · rintro ⟨i, within, null⟩
    rw [List.length_drop] at within
    rw [List.getElem_drop] at null
    refine ⟨18 + i, Nat.le_add_right _ _, by omega, ?_⟩
    rw [dataOf_eq_getElem beyond protocol (by omega) (by omega)]
    exact null
  · rintro ⟨i, behind, within, null⟩
    rw [dataOf_eq_getElem beyond protocol (by omega) within] at null
    refine ⟨i - 18, by rw [List.length_drop]; omega, ?_⟩
    rw [List.getElem_drop]
    simpa only [Nat.add_sub_cancel' behind] using null

/-- The reads for a reply stay inside its payload exactly if its address ends there. -/
theorem replyReads_iff (accepted : unPackData beyond buf = .ok protocol)
    (long : 18 ≤ (payload protocol).length) :
    (∀ i ∈ replyReads protocol.length (dataOf beyond protocol), i < (payload protocol).length) ↔
      AddressEnds (payload protocol) := by
  have notOld := (length_ne_of_accepted accepted long).2
  have product : ∀ i ∈ copiedFrom (dataOf beyond protocol) 2 15, i < (payload protocol).length :=
    (copiedFrom_below_iff _ 15 (by omega)).mpr (.inl (by omega))
  have front : ∀ i ∈ [0, 1] ++ copiedFrom (dataOf beyond protocol) 2 15,
      i < (payload protocol).length := by
    intro i among
    rcases List.mem_append.mp among with id | text
    · have few : i < 2 := by
        simp only [List.mem_cons, List.not_mem_nil, or_false] at id
        omega
      omega
    · exact product i text
  rw [replyReads, if_neg notOld, List.forall_mem_append, copiedFrom_below_iff _ 15 long,
    AddressEnds]
  rcases Nat.lt_or_ge (payload protocol).length 33 with short | whole
  · rw [zero_mem_drop_iff beyond protocol short]
    exact ⟨fun reads => reads.2, fun ends => ⟨front, ends⟩⟩
  · exact ⟨fun _ => .inl whole, fun _ => ⟨front, .inl whole⟩⟩

/-- A reply with more than eighteen bytes is recorded as it was sent. -/
theorem onFrame_replyOf (accepted : unPackData beyond buf = .ok protocol)
    (reply : protocol.message.cmd = cmdReply) (long : 18 < (payload protocol).length)
    (ip : Text) {finder : AgvFinder} (finding : finder.workMode = .finder) :
    finder.onFrame beyond ip protocol =
      finder.addFindedList ip (replyOf (payload protocol)).1 (replyOf (payload protocol)).2 := by
  rw [onFrame_reply accepted reply (Nat.le_of_lt long) ip finding, replyOf]
  simp only [if_neg (Nat.ne_of_gt long)]

theorem decodedAsSent_iff (accepted : unPackData beyond buf = .ok protocol)
    (reply : protocol.message.cmd = cmdReply) (long : 18 ≤ (payload protocol).length)
    (ip : Text) {finder : AgvFinder} (finding : finder.workMode = .finder) :
    DecodedAsSent beyond ip protocol finder ↔ AddressEnds (payload protocol) := by
  rw [DecodedAsSent, replyReads_iff accepted long]
  constructor
  · exact fun decoded => decoded.2
  · intro ends
    refine ⟨onFrame_replyOf accepted reply ?_ ip finding, ends⟩
    -- Eighteen bytes leave no room for the end of an address.
    apply Nat.lt_of_le_of_ne long
    intro bare
    rcases ends with whole | null
    · omega
    · rw [List.drop_eq_nil_of_le (Nat.le_of_eq bare.symm)] at null
      cases null

end Accepted

/-! ## Replies that were packed -/

theorem length_textField (text : Text) : (textField text).length = 16 := by
  have cut : ((cText text).take 15).length ≤ 15 := List.length_take_le _ _
  rw [textField, List.length_append, List.length_replicate]
  omega

/-- A text field gives back the text before its first null byte, cut to fifteen characters. -/
theorem cText_textField (text : Text) :
    cText ((textField text).take 15) = (cText text).take 15 := by
  have cut : ((cText text).take 15).length ≤ 15 := List.length_take_le _ _
  have proper : ∀ character ∈ (cText text).take 15, decide (character ≠ 0) = true := by
    intro character among
    have within : character ∈ cText text := List.mem_of_mem_take among
    simpa using List.mem_takeWhile_imp within
  rw [textField, List.take_append, List.take_of_length_le cut, cText,
    List.takeWhile_append_of_pos proper, List.take_replicate, List.takeWhile_replicate]
  simp

theorem length_replyData (replier : AgvFinder) : replier.replyData.length = 34 := by
  rw [replyData, List.length_append, List.length_append, length_packShort, length_textField,
    length_textField]

/-- What `ReplyFindSignal` packed is recorded with its id and its product id. -/
theorem onFrame_replyFindSignal (beyond : Nat → UInt8) {protocol : UnPacked}
    {buf : List UInt8} (accepted : unPackData beyond buf = .ok protocol) (replier : AgvFinder)
    (packed : protocol.message = { type := 2, cmd := cmdReply, data := replier.replyData })
    (ip : Text) {finder : AgvFinder} (finding : finder.workMode = .finder) :
    finder.onFrame beyond ip protocol =
      finder.addFindedList ip replier.agvId ((cText replier.agvPid).take 15) := by
  obtain ⟨lengths, data⟩ := fields_of_accepted accepted
  have carried : replier.replyData =
      readMemory (bufferMemory beyond protocol.body) 8 protocol.dataLength.toNat := by
    rw [← data, packed]
  have size := length_replyData replier
  have declared : protocol.dataLength.toNat = 34 := by
    rw [← size, congrArg List.length carried, length_readMemory]
  have notShort : ¬ protocol.dataLength < 18 := by
    intro short
    have fewer : protocol.dataLength.toNat < 18 := short
    omega
  have notOld : protocol.length ≠ 18 := by
    intro old
    rw [lengths, old] at declared
    exact absurd declared (by decide)
  have agree : ∀ i (_ : i < 17) (within : i < replier.replyData.length),
      dataOf beyond protocol i = replier.replyData[i] := by
    intro i few within
    rw [List.getElem_of_eq carried within, dataOf]
    simp [readMemory]
  have decoded := decodeReply_eq notOld (by omega) agree
  have front : replier.replyData.take 2 = packShort replier.agvId := by
    rw [replyData, List.append_assoc, List.take_left' (length_packShort _)]
  have middle : (replier.replyData.drop 2).take 15 = (textField replier.agvPid).take 15 := by
    rw [replyData, List.append_assoc, List.drop_left' (length_packShort _),
      List.take_append_of_le_length (by rw [length_textField]; decide)]
  rw [onFrame, finding]
  simp only [packed, if_neg notShort]
  rw [decoded, front, middle, cText_textField, packShort_eq]
  change finder.addFindedList ip
    (Utils.buffer2Bin (Utils.shortBytes replier.agvId)).toUInt32.toUInt16 _ = _
  rw [Utils.buffer2Bin_shortBytes]
  simp

/-- A packed reply is received as one frame. -/
theorem onReceiveData_replyFindSignal (beyond : Nat → UInt8) (ip caller : Text) (times : Int)
    (replier : AgvFinder) {finder : AgvFinder} (finding : finder.workMode = .finder) :
    finder.onReceiveData beyond ip (replier.replyFindSignal caller times).sendBuf =
      (finder.addFindedList ip replier.agvId ((cText replier.agvPid).take 15), 1) := by
  have fits : replier.replyData.length + 8 ≤ bufferSize := by
    rw [length_replyData]
    decide
  obtain ⟨protocol, accepted, packed, left⟩ := unPackData_packData beyond
    { type := 2, cmd := cmdReply, data := replier.replyData } fits []
  rw [List.append_nil] at accepted
  have recorded := onFrame_replyFindSignal beyond accepted replier packed ip finding
  rw [onReceiveData, receiveFrames, replyFindSignal]
  split
  · next refused =>
      rw [accepted] at refused
      cases refused
  · next other unpacked =>
      rw [accepted] at unpacked
      cases unpacked
      simp [left, recorded]

/-- A reply is decoded as it was sent exactly if it has all fields of the new format or its
address ends within it, and one that `ReplyFindSignal` built gives the sender's id and its
product id, cut to fifteen characters. -/
theorem decodedAsSent_iff_addressEnds (beyond : Nat → UInt8) (ip : Text) (finder : AgvFinder)
    (finding : finder.workMode = .finder) :
    (∀ (buf : List UInt8) (protocol : UnPacked),
      unPackData beyond buf = .ok protocol → protocol.message.cmd = cmdReply →
        18 ≤ (payload protocol).length →
          (DecodedAsSent beyond ip protocol finder ↔ AddressEnds (payload protocol))) ∧
      ∀ (caller : Text) (times : Int) (replier : AgvFinder),
        finder.onReceiveData beyond ip (replier.replyFindSignal caller times).sendBuf =
          (finder.addFindedList ip replier.agvId ((cText replier.agvPid).take 15), 1) := by
  constructor
  · intro buf protocol accepted reply long
    exact decodedAsSent_iff accepted reply long ip finding
  · intro caller times replier
    exact onReceiveData_replyFindSignal beyond ip caller times replier finding

/-- An old reply: the id 7 and the address `10.0.0.10`, without a product id. -/
def oldReply : List UInt8 :=
  packData { type := 2, cmd := cmdReply,
             data := [0, 7, 49, 48, 46, 48, 46, 48, 46, 49, 48, 0, 0, 0, 0, 0, 0, 0] }

/-- What is unpacked from it. -/
def oldUnPacked : UnPacked :=
  reported (fun _ => 0) (innerBytes oldReply) (oldReply.drop 29)

theorem unPackData_oldReply : unPackData (fun _ => 0) oldReply = .ok oldUnPacked :=
  unPackData_of_sum (show checkProtocol oldReply = some (0, 28) by decide +kernel)
    (by decide +kernel)

theorem decodedAsSent_iff_addressEnds_replies :
    (DecodedAsSent (fun _ => 0) [1] oldUnPacked { workMode := .finder } ↔
        AddressEnds (payload oldUnPacked)) ∧
      AgvFinder.onReceiveData (fun _ => 0) [1]
          (replyFindSignal [2] 3 { workMode := .replier, agvPid := [65, 66], agvId := 7 }).sendBuf
          { workMode := .finder } =
        (addFindedList [1] 7 [65, 66] { workMode := .finder }, 1) :=
  ⟨(decodedAsSent_iff_addressEnds (fun _ => 0) [1] { workMode := .finder } rfl).1 oldReply
      oldUnPacked unPackData_oldReply (by decide +kernel) (by decide +kernel),
    (decodedAsSent_iff_addressEnds (fun _ => 0) [1] { workMode := .finder } rfl).2 [2] 3
      { workMode := .replier, agvPid := [65, 66], agvId := 7 }⟩

/-- The address of an old reply is recorded as its product id. -/
theorem decodedAsSent_fails :
    ¬ ∀ (beyond : Nat → UInt8) (buf : List UInt8) (protocol : UnPacked) (ip : Text)
        (finder : AgvFinder),
      unPackData beyond buf = .ok protocol → protocol.message.cmd = cmdReply →
        18 ≤ (payload protocol).length → finder.workMode = .finder →
          DecodedAsSent beyond ip protocol finder := by
  intro all
  have decoded := all (fun _ => 0) oldReply oldUnPacked [1] { workMode := .finder }
    unPackData_oldReply (by decide +kernel) (by decide +kernel) rfl
  exact absurd decoded.1 (by decide +kernel)

end AgvFinder

end DrivingControl.Comm

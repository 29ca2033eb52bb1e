import DrivingControl.Comm.AcceptedFrames

/-!
# The scheduler's receive loop

`CAgvScheduler::Run` hands every read of at least ten bytes to
`ParseReceiveData`, which unpacks frames until no byte is left or one of them is
rejected.  Nothing is kept between reads.

Frames that arrive together are all dispatched.  Frames that arrive in pieces are
not: a stream is dispatched as it would be frame by frame exactly when every read
consists of whole frames.  A rejected frame ends the loop, and what follows it in the
read is lost.
-/

namespace DrivingControl.Controler

open DrivingControl.Comm DrivingControl.Library DrivingControl.Utils

/-- The size of `receiveBuf`. -/
def receiveBufSize : Nat := 2048

/-- What one call of `ParseReceiveData` has done when it returns. -/
structure Parsed where
  /-- The messages handed to the command switch, in order. -/
  dispatched : List SchMessage
  /-- The bytes left when the loop ended. -/
  left : List UInt8
  /-- Why the loop gave up, if it did. -/
  failure : Option UnPackError
  deriving DecidableEq, Repr

/-- The value `ParseReceiveData` returns: the number of frames, or -1. -/
def Parsed.ret (parsed : Parsed) : Int :=
  if parsed.failure.isSome then -1 else parsed.dispatched.length

/-- The decoding loop of `ParseReceiveData`.  What a failure writes to the log has no
effect on it. -/
def parseReceiveData (beyond : Nat → UInt8) (data : List UInt8) : Parsed :=
  match _accepted : unPackData beyond data with
  | .error reason => { dispatched := [], left := data, failure := some reason }
  | .ok unpacked =>
      if unpacked.left.length > 0 then
        let rest := parseReceiveData beyond unpacked.left
        { rest with dispatched := unpacked.message :: rest.dispatched }
      else { dispatched := [unpacked.message], left := unpacked.left, failure := none }
termination_by data.length
decreasing_by exact length_left_lt _accepted

/-- What `Run` does with the bytes of one successful read. -/
def runRead (beyond : Nat → UInt8) (read : List UInt8) : List SchMessage :=
  if read.length < 10 then [] else (parseReceiveData beyond read).dispatched

/-- The messages `Run` dispatches over successive reads. -/
def runReads (beyond : Nat → UInt8) (reads : List (List UInt8)) : List SchMessage :=
  reads.flatMap (runRead beyond)

variable {beyond : Nat → UInt8}

/-! ## One turn of the loop -/

theorem parseReceiveData_error {data : List UInt8} {reason : UnPackError}
    (rejected : unPackData beyond data = .error reason) :
    parseReceiveData beyond data =
      { dispatched := [], left := data, failure := some reason } := by
  rw [parseReceiveData]
  split
  next other equal =>
    cases rejected.symm.trans equal
    rfl
  next unpacked equal => cases rejected.symm.trans equal

theorem parseReceiveData_last {data : List UInt8} {unpacked : UnPacked}
    (accepted : unPackData beyond data = .ok unpacked) (done : unpacked.left = []) :
    parseReceiveData beyond data =
      { dispatched := [unpacked.message], left := [], failure := none } := by
  rw [parseReceiveData]
  split
  next reason equal => cases accepted.symm.trans equal
  next other equal =>
    cases accepted.symm.trans equal
    simp [done]

theorem parseReceiveData_more {data : List UInt8} {unpacked : UnPacked}
    (accepted : unPackData beyond data = .ok unpacked) (more : unpacked.left ≠ []) :
    parseReceiveData beyond data =
      { parseReceiveData beyond unpacked.left with
        dispatched := unpacked.message :: (parseReceiveData beyond unpacked.left).dispatched } := by
  rw [parseReceiveData]
  split
  next reason equal => cases accepted.symm.trans equal
  next other equal =>
    cases accepted.symm.trans equal
    rw [if_pos (List.length_pos_iff.mpr more)]

/-! ## Frames that arrive together -/

/-- The message of a frame that arrives alone. -/
def messageOf (beyond : Nat → UInt8) (frame : List UInt8) : Option SchMessage :=
  match unPackData beyond frame with
  | .error _ => none
  | .ok unpacked => some unpacked.message

theorem messageOf_eq_some {frame : List UInt8} {unpacked : UnPacked}
    (accepted : unPackData beyond frame = .ok unpacked) :
    messageOf beyond frame = some unpacked.message := by
  simp [messageOf, accepted]

/-- Valid frames in one read are all dispatched, in order, and use up the read. -/
theorem parseReceiveData_frames {frames : List (List UInt8)}
    (valid : ∀ frame ∈ frames, IsValidFrame beyond frame) (nonempty : frames ≠ []) :
    parseReceiveData beyond frames.flatten =
      { dispatched := frames.filterMap (messageOf beyond), left := [], failure := none } := by
  induction frames with
  | nil => contradiction
  | cons frame frames ih =>
      obtain ⟨isFrame, unpacked, accepted⟩ := valid frame (by simp)
      have validTail : ∀ other ∈ frames, IsValidFrame beyond other :=
        fun other member => valid other (by simp [member])
      have opened := unPackData_append isFrame accepted frames.flatten
      rw [List.flatten_cons, List.filterMap_cons_some (messageOf_eq_some accepted)]
      cases frames with
      | nil =>
          have closed : unPackData beyond (frame ++ [].flatten) =
              .ok { unpacked with left := [] } := opened
          have parsed := parseReceiveData_last closed rfl
          exact parsed
      | cons next frames =>
          have more : (next :: frames).flatten ≠ [] := by
            simp [(validTail next (by simp)).1.ne_nil]
          rw [parseReceiveData_more opened more, ih validTail (by simp)]

/-- A packed message is the message of its frame. -/
theorem messageOf_packData {message : SchMessage}
    (fits : message.data.length + 8 ≤ bufferSize) :
    messageOf beyond (packData message) = some message := by
  obtain ⟨unpacked, accepted, same, -⟩ := unPackData_packData beyond message fits []
  rw [List.append_nil] at accepted
  rw [messageOf_eq_some accepted, same]

/-- The stream law: unpacking the concatenation of packed messages again and again
gives back the messages and uses up the bytes. -/
theorem parseReceiveData_packData (beyond : Nat → UInt8) {messages : List SchMessage}
    (nonempty : messages ≠ [])
    (fits : ∀ message ∈ messages, message.data.length + 8 ≤ bufferSize) :
    parseReceiveData beyond (messages.map packData).flatten =
      { dispatched := messages, left := [], failure := none } := by
  have valid : ∀ frame ∈ messages.map packData, IsValidFrame beyond frame := by
    intro frame member
    obtain ⟨message, packed, rfl⟩ := List.mem_map.mp member
    exact isValidFrame_packData beyond message (fits message packed)
  have same : (messages.map packData).filterMap (messageOf beyond) = messages := by
    clear valid nonempty
    induction messages with
    | nil => rfl
    | cons message messages ih =>
        rw [List.map_cons, List.filterMap_cons_some (messageOf_packData (fits message (by simp))),
          ih fun other member => fits other (by simp [member])]
  rw [parseReceiveData_frames valid (by simpa using nonempty), same]

/-- A payload that holds the marker and both escape bytes, next to an empty one. -/
theorem parseReceiveData_packData_escapes :
    parseReceiveData (fun _ => 0)
        (([⟨0x0205, 0x85FF, [0xFF, 0x86, 0x85]⟩, ⟨0, 0, []⟩] : List SchMessage).map
          packData).flatten =
      { dispatched := [⟨0x0205, 0x85FF, [0xFF, 0x86, 0x85]⟩, ⟨0, 0, []⟩],
        left := [], failure := none } :=
  parseReceiveData_packData (fun _ => 0) (by simp) (by decide)

/-! ## Frames that arrive in pieces -/

/-- Each dispatched message takes two markers of the read. -/
theorem two_mul_length_dispatched (beyond : Nat → UInt8) (data : List UInt8) :
    2 * (parseReceiveData beyond data).dispatched.length ≤ data.count marker := by
  induction size : data.length using Nat.strongRecOn generalizing data with
  | _ size ih =>
      cases opened : unPackData beyond data with
      | error reason => simp [parseReceiveData_error opened]
      | ok unpacked =>
          have fewer := count_left opened
          by_cases done : unpacked.left = []
          · rw [parseReceiveData_last opened done]
            simp only [List.length_cons, List.length_nil]
            omega
          · have shorter := length_left_lt opened
            have rest := ih unpacked.left.length (by omega) unpacked.left rfl
            rw [parseReceiveData_more opened done, List.length_cons]
            omega

theorem length_runRead_le (beyond : Nat → UInt8) (read : List UInt8) :
    (runRead beyond read).length ≤ read.count marker / 2 := by
  rw [runRead]
  split
  · simp
  · have counted := two_mul_length_dispatched beyond read
    omega

/-- A stream of which some read holds an odd number of markers loses a message. -/
theorem length_runReads_lt (beyond : Nat → UInt8) {reads : List (List UInt8)}
    (odd : ∃ read ∈ reads, read.count marker % 2 = 1) :
    2 * (runReads beyond reads).length < reads.flatten.count marker := by
  have oddCount : ∃ count ∈ reads.map (List.count marker), count % 2 = 1 := by
    obtain ⟨read, member, isOdd⟩ := odd
    exact ⟨_, List.mem_map_of_mem member, isOdd⟩
  have halves := sum_halves_lt_of_odd oddCount
  have bound : ∀ others : List (List UInt8), (runReads beyond others).length ≤
      ((others.map (List.count marker)).map (· / 2)).sum := by
    intro others
    induction others with
    | nil => simp [runReads]
    | cons read others ih =>
        have head := length_runRead_le beyond read
        simp only [runReads, List.flatMap_cons, List.length_append, List.map_cons,
          List.sum_cons] at ih ⊢
        omega
  have total := bound reads
  rw [List.count_flatten]
  omega

/-- A read of whole valid frames dispatches their messages. -/
theorem runRead_frames {frames : List (List UInt8)}
    (valid : ∀ frame ∈ frames, IsValidFrame beyond frame) :
    runRead beyond frames.flatten = frames.filterMap (messageOf beyond) := by
  cases frames with
  | nil => rfl
  | cons frame frames =>
      obtain ⟨-, unpacked, accepted⟩ := valid frame (by simp)
      have enough := ten_le_length accepted
      have long : ¬ (frame :: frames).flatten.length < 10 := by
        simp only [List.flatten_cons, List.length_append]
        omega
      rw [runRead, if_neg long, parseReceiveData_frames valid (by simp)]

/-- A packed message that is read alone is dispatched. -/
theorem runRead_packData {message : SchMessage}
    (fits : message.data.length + 8 ≤ bufferSize) :
    runRead beyond (packData message) = [message] := by
  have alone : runRead beyond [packData message].flatten = _ :=
    runRead_frames (by simpa using isValidFrame_packData beyond message fits)
  simpa [messageOf_packData fits] using alone

/-- Reads of whole valid frames dispatch the messages of the frames. -/
theorem runReads_groups {groups : List (List (List UInt8))}
    (valid : ∀ frame ∈ groups.flatten, IsValidFrame beyond frame) :
    runReads beyond (groups.map List.flatten) =
      groups.flatten.filterMap (messageOf beyond) := by
  induction groups with
  | nil => rfl
  | cons group groups ih =>
      rw [List.flatten_cons] at valid
      have head := runRead_frames fun frame member =>
        valid frame (List.mem_append_left _ member)
      have tail := ih fun frame member => valid frame (List.mem_append_right _ member)
      simp only [runReads, List.map_cons, List.flatMap_cons, List.flatten_cons,
        List.filterMap_append] at tail ⊢
      rw [head, tail]

/-- Valid frames that arrive in reads of their own are all dispatched. -/
theorem runReads_frames {frames : List (List UInt8)}
    (valid : ∀ frame ∈ frames, IsValidFrame beyond frame) :
    runReads beyond frames = frames.filterMap (messageOf beyond) ∧
      (runReads beyond frames).length = frames.length := by
  induction frames with
  | nil => exact ⟨rfl, rfl⟩
  | cons frame frames ih =>
      obtain ⟨dispatched, counted⟩ := ih fun other member => valid other (by simp [member])
      have alone : runRead beyond [frame].flatten = [frame].filterMap (messageOf beyond) :=
        runRead_frames (by simpa using valid frame (by simp))
      obtain ⟨-, unpacked, accepted⟩ := valid frame (by simp)
      have delivered := messageOf_eq_some accepted
      simp only [List.flatten_cons, List.flatten_nil, List.append_nil,
        List.filterMap_cons_some delivered, List.filterMap_nil] at alone
      rw [List.filterMap_cons_some delivered, ← dispatched]
      simp only [runReads, List.flatMap_cons, alone] at counted ⊢
      exact ⟨rfl, by simp [counted]⟩

/-- A stream of valid frames is dispatched as it would be frame by frame exactly when
no read ends inside a frame. -/
theorem runReads_eq_iff (beyond : Nat → UInt8) (frames reads : List (List UInt8))
    (valid : ∀ frame ∈ frames, IsValidFrame beyond frame)
    (stream : reads.flatten = frames.flatten) :
    runReads beyond reads = runReads beyond frames ↔ WholeFrames frames reads := by
  have areFrames : ∀ frame ∈ frames, IsFrame marker frame := fun frame member =>
    (valid frame member).1
  constructor
  · intro same
    apply wholeFrames_of_even_counts areFrames stream
    intro read member
    by_cases even : read.count marker % 2 = 0
    · exact even
    · have fewer := length_runReads_lt beyond ⟨read, member, by omega⟩
      rw [same, (runReads_frames valid).2, stream, count_flatten_frames areFrames] at fewer
      omega
  · rintro ⟨groups, rfl, rfl⟩
    rw [runReads_groups valid, (runReads_frames valid).1]

/-- A run command and a stop command that share a read. -/
theorem runReads_eq_iff_shared_read :
    runReads (fun _ => 0)
        [packData ⟨0, 0x0202, [0, 0, 0, 0]⟩ ++ packData ⟨0, 0x0202, [1, 0, 0, 0]⟩] =
      runReads (fun _ => 0)
        [packData ⟨0, 0x0202, [0, 0, 0, 0]⟩, packData ⟨0, 0x0202, [1, 0, 0, 0]⟩] := by
  refine (runReads_eq_iff (fun _ => 0) [packData ⟨0, 0x0202, [0, 0, 0, 0]⟩,
    packData ⟨0, 0x0202, [1, 0, 0, 0]⟩] _ ?_ (by simp)).mpr ⟨[[_, _]], rfl, by simp⟩
  intro frame member
  simp only [List.mem_cons, List.not_mem_nil, or_false] at member
  rcases member with rfl | rfl
  · exact isValidFrame_packData _ _ (by decide)
  · exact isValidFrame_packData _ _ (by decide)

/-- A stop command whose frame is cut behind its fifth byte is never dispatched. -/
theorem runReads_cut_frame :
    ¬ ∀ frames reads : List (List UInt8),
      (∀ frame ∈ frames, IsValidFrame (fun _ => 0) frame) →
      (∀ read ∈ reads, 1 ≤ read.length ∧ read.length ≤ receiveBufSize) →
      reads.flatten = frames.flatten →
      runReads (fun _ => 0) reads = runReads (fun _ => 0) frames := by
  intro independent
  have valid : ∀ frame ∈ [packData ⟨0, 0x0202, [1, 0, 0, 0]⟩],
      IsValidFrame (fun _ => 0) frame := by
    intro frame member
    rw [List.mem_singleton.mp member]
    exact isValidFrame_packData _ _ (by decide)
  have same := independent [packData ⟨0, 0x0202, [1, 0, 0, 0]⟩]
    [(packData ⟨0, 0x0202, [1, 0, 0, 0]⟩).take 5, (packData ⟨0, 0x0202, [1, 0, 0, 0]⟩).drop 5]
    valid (by decide +kernel) (by simp)
  have dispatched := (runReads_frames valid).2
  rw [← same] at dispatched
  exact absurd dispatched (by decide +kernel)

/-! ## A frame that is rejected -/

/-- A rejected frame is rejected whatever follows it. -/
theorem unPackData_append_rejected {altered : List UInt8} (isFrame : IsFrame marker altered)
    (long : 10 ≤ altered.length) (rejected : ¬ Accepted beyond altered) (rest : List UInt8) :
    unPackData beyond (altered ++ rest) = .error .crc := by
  obtain ⟨body, absent, rfl⟩ := isFrame
  simp only [List.length_cons, List.length_append, List.length_nil] at long
  have alone := checkProtocol_frame absent (by omega) []
  have followed := checkProtocol_frame absent (by omega) rest
  have inner : ((marker :: (body ++ marker :: rest)).take (body.length + 1)).drop (0 + 1) =
      body := by simp
  have innerAlone : ((marker :: (body ++ [marker])).take (body.length + 1)).drop (0 + 1) =
      body := by simp
  have wrong : ¬ unPackShort (bufferMemory beyond (decode body).1) 2 =
      getCrc16 (coveredBytes beyond body) 0 := by
    intro summed
    apply rejected
    simp only [Accepted, unPackData, alone, innerAlone, unPackBody_eq, if_pos summed]
    exact ⟨_, rfl⟩
  simp only [List.cons_append, List.append_assoc, List.nil_append, unPackData, followed, inner,
    unPackBody_eq, if_neg wrong]

/-- Of the valid frames in a read, those before a rejected one are dispatched. -/
theorem parseReceiveData_rejected {before : List (List UInt8)}
    (valid : ∀ frame ∈ before, IsValidFrame beyond frame) {bytes : List UInt8}
    {reason : UnPackError} (rejected : unPackData beyond bytes = .error reason)
    (nonempty : bytes ≠ []) :
    parseReceiveData beyond (before.flatten ++ bytes) =
      { dispatched := before.filterMap (messageOf beyond), left := bytes,
        failure := some reason } := by
  induction before with
  | nil => exact parseReceiveData_error rejected
  | cons frame before ih =>
      obtain ⟨isFrame, unpacked, accepted⟩ := valid frame (by simp)
      have opened := unPackData_append isFrame accepted (before.flatten ++ bytes)
      have more : before.flatten ++ bytes ≠ [] := by simp [nonempty]
      rw [List.flatten_cons, List.append_assoc, parseReceiveData_more opened more,
        ih fun other member => valid other (by simp [member]),
        List.filterMap_cons_some (messageOf_eq_some accepted)]

/-- Every valid frame has a message. -/
theorem length_filterMap_messageOf {frames : List (List UInt8)}
    (valid : ∀ frame ∈ frames, IsValidFrame beyond frame) :
    (frames.filterMap (messageOf beyond)).length = frames.length := by
  induction frames with
  | nil => rfl
  | cons frame frames ih =>
      obtain ⟨-, unpacked, accepted⟩ := valid frame (by simp)
      rw [List.filterMap_cons_some (messageOf_eq_some accepted), List.length_cons,
        ih fun other member => valid other (by simp [member]), List.length_cons]

/-- With an altered frame among valid ones, all of these are dispatched exactly if the
altered one is the last of the read. -/
theorem dispatched_eq_iff (beyond : Nat → UInt8) (before after : List (List UInt8))
    (frame altered : List UInt8) (validBefore : ∀ other ∈ before, IsValidFrame beyond other)
    (valid : IsValidFrame beyond frame) (validAfter : ∀ other ∈ after, IsValidFrame beyond other)
    (isFrame : IsFrame marker altered) (length : altered.length = frame.length)
    (rejected : ¬ Accepted beyond altered) :
    (parseReceiveData beyond (before ++ altered :: after).flatten).dispatched =
      (before ++ after).filterMap (messageOf beyond) ↔ after = [] := by
  obtain ⟨-, unpacked, accepted⟩ := valid
  have long := ten_le_length accepted
  have failed := unPackData_append_rejected isFrame (by omega) rejected after.flatten
  have present : altered ++ after.flatten ≠ [] := by simp [isFrame.ne_nil]
  rw [List.flatten_append, List.flatten_cons,
    parseReceiveData_rejected validBefore failed present, List.filterMap_append]
  constructor
  · intro same
    have none := List.self_eq_append_right.mp same
    have counted := length_filterMap_messageOf validAfter
    rw [none] at counted
    exact List.length_eq_zero_iff.mp counted.symm
  · rintro rfl
    simp

/-- A frame without a payload, a bit of whose last byte has changed. -/
def alteredFrame : List UInt8 := [0xFF, 0x00, 0x06, 0xB5, 0xA2, 0x00, 0x01, 0x02, 0x03, 0xFF]

theorem isFrame_alteredFrame : IsFrame marker alteredFrame :=
  ⟨[0x00, 0x06, 0xB5, 0xA2, 0x00, 0x01, 0x02, 0x03], by decide, rfl⟩

theorem rejected_alteredFrame : ¬ Accepted (fun _ => 0) alteredFrame := by decide +kernel

/-- A stop command before the altered frame. -/
theorem dispatched_eq_iff_last :
    (parseReceiveData (fun _ => 0)
        ([packData ⟨0, 0x0202, [1, 0, 0, 0]⟩] ++ alteredFrame :: []).flatten).dispatched =
      ([packData ⟨0, 0x0202, [1, 0, 0, 0]⟩] ++ []).filterMap (messageOf fun _ => 0) ↔
      ([] : List (List UInt8)) = [] := by
  refine dispatched_eq_iff (fun _ => 0) [packData ⟨0, 0x0202, [1, 0, 0, 0]⟩] []
    (packData ⟨1, 0x0202, []⟩) alteredFrame ?_ (isValidFrame_packData _ _ (by decide)) (by simp)
    isFrame_alteredFrame (by decide +kernel) rejected_alteredFrame
  intro frame member
  rw [List.mem_singleton.mp member]
  exact isValidFrame_packData _ _ (by decide)

/-- A stop command behind the altered frame is lost. -/
theorem frame_behind_altered :
    ¬ ∀ (beyond : Nat → UInt8) (before after : List (List UInt8)) (frame altered : List UInt8),
      (∀ other ∈ before, IsValidFrame beyond other) → IsValidFrame beyond frame →
      (∀ other ∈ after, IsValidFrame beyond other) → IsFrame marker altered →
      altered.length = frame.length → ¬ Accepted beyond altered →
      (parseReceiveData beyond (before ++ altered :: after).flatten).dispatched =
        (before ++ after).filterMap (messageOf beyond) := by
  intro all
  have valid : ∀ other ∈ [packData ⟨0, 0x0202, [1, 0, 0, 0]⟩],
      IsValidFrame (fun _ => 0) other := by
    intro other member
    rw [List.mem_singleton.mp member]
    exact isValidFrame_packData _ _ (by decide)
  have dispatched := all (fun _ => 0) [] [packData ⟨0, 0x0202, [1, 0, 0, 0]⟩]
    (packData ⟨1, 0x0202, []⟩) alteredFrame (by simp)
    (isValidFrame_packData _ _ (by decide)) valid isFrame_alteredFrame (by decide +kernel)
    rejected_alteredFrame
  have failed := unPackData_append_rejected isFrame_alteredFrame (by decide)
    rejected_alteredFrame (packData ⟨0, 0x0202, [1, 0, 0, 0]⟩)
  have counted := length_filterMap_messageOf valid
  simp only [List.nil_append, List.flatten_cons, List.flatten_nil, List.append_nil] at dispatched
  rw [parseReceiveData_error failed] at dispatched
  rw [← dispatched] at counted
  cases counted

end DrivingControl.Controler

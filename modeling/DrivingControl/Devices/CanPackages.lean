import DrivingControl.Devices.CanOperator

/-!
# Packages from one id

The receiver over the frames of one CAN id, with nothing between them.  A package is
delivered unchanged unless its last piece reads as a start frame.  What was collected
behind a start frame is checked before it is handed over, unless the buffer overflows
or the end frame comes early.
-/

namespace DrivingControl.Devices

open DrivingControl.Utils DrivingControl.Library

/-! ## One frame -/

/-- The receiver behind a start frame. -/
def announcing (start : List UInt8) : Receiver where
  recvBuf := []
  totalLength := (buffer2Bin ((start.drop 2).take 2)).toUInt32
  recvCrc := (buffer2Bin ((start.drop 4).take 2)).toUInt32.toUInt16
  multiMode := true

theorem receive_of_isStart {start : List UInt8} (isStart : isStart start = true)
    (receiver : Receiver) : receive start receiver = (announcing start, none) := by
  rw [Devices.isStart, Bool.and_eq_true, beq_iff_eq] at isStart
  rcases isStart with ⟨marked, six⟩
  rw [receive, if_neg (by omega), if_pos marked, if_neg (by omega), if_pos six]
  rfl

/-- An end frame. -/
def isEnd (data : List UInt8) : Bool := isMarked data && data.length == 2

/-- The end of a package. -/
def finish (receiver : Receiver) : Receiver × Option (List UInt8) :=
  if receiver.recvBuf.length = receiver.totalLength.toNat ∧
      getCrc16 receiver.recvBuf 0 = receiver.recvCrc then handOver receiver receiver.recvBuf
  else dropPackage receiver

/-- Which of its branches a frame takes. -/
theorem receive_eq (data : List UInt8) (receiver : Receiver) :
    receive data receiver =
      if data = [] then (receiver, none)
      else if isStart data then (announcing data, none)
      else if isEnd data ∧ receiver.multiMode ∧
          receiver.totalLength.toNat ≤ receiver.recvBuf.length then finish receiver
      else collect data receiver := by
  by_cases empty : data = []
  · rw [if_pos empty, empty]
    rfl
  rw [if_neg empty]
  cases starts : isStart data with
  | true => rw [if_pos rfl, receive_of_isStart starts]
  | false =>
      rw [receive, if_neg (by simpa using empty)]
      cases marked : isMarked data with
      | false => simp [isEnd, marked]
      | true =>
          have notSix : data.length ≠ 6 := by simpa [isStart, marked] using starts
          by_cases two : data.length = 2 ∧ receiver.multiMode = true
          · have ends : isEnd data = true := by simp [isEnd, marked, two.1]
            simp only [ends, two.1, two.2, finish, if_true, true_and, and_true]
            by_cases complete : receiver.recvBuf.length = receiver.totalLength.toNat
            · simp [complete]
            · by_cases longer : receiver.recvBuf.length > receiver.totalLength.toNat
              · simp [complete, longer, Nat.le_of_lt longer]
              · have shorter : ¬ receiver.totalLength.toNat ≤ receiver.recvBuf.length := by omega
                simp [complete, longer, shorter]
          · have notEnd : ¬ (isEnd data = true ∧ receiver.multiMode = true ∧
                receiver.totalLength.toNat ≤ receiver.recvBuf.length) := by
              rintro ⟨ends, collecting, -⟩
              simp only [isEnd, marked, Bool.true_and, beq_iff_eq] at ends
              exact two ⟨ends, collecting⟩
            simp [two, notSix, notEnd]

/-- A frame keeps the collected bytes within the buffer, and hands over no more. -/
theorem receive_fits {data : List UInt8} {receiver : Receiver}
    (fits : receiver.recvBuf.length ≤ recvBufSize) :
    (receive data receiver).1.recvBuf.length ≤ recvBufSize ∧
      ∀ bytes ∈ (receive data receiver).2, bytes.length ≤ recvBufSize := by
  rw [receive_eq]
  split
  · exact ⟨fits, by simp⟩
  · split
    · exact ⟨Nat.zero_le _, by simp⟩
    · split
      · rw [finish]
        split
        · exact ⟨Nat.zero_le _, by simpa [handOver] using fits⟩
        · exact ⟨Nat.zero_le _, by simp [dropPackage]⟩
      · rw [collect]
        split
        · refine ⟨Nat.zero_le _, ?_⟩
          simp [handOver]
          omega
        · split
          · simp
            omega
          · refine ⟨Nat.zero_le _, ?_⟩
            simp [handOver]
            omega

/-! ## Several frames -/

/-- The turns of the loop of `CAgvCanOperator::Run` over some frames, and what the
listeners are handed, oldest first. -/
def receiveAll : List (List UInt8) → Receiver → Receiver × List (List UInt8)
  | [], receiver => (receiver, [])
  | data :: rest, receiver =>
      let received := receive data receiver
      let others := receiveAll rest received.1
      (others.1, received.2.toList ++ others.2)

/-- No package is in progress and nothing is collected. -/
def Receiver.Idle (receiver : Receiver) : Prop :=
  receiver.multiMode = false ∧ receiver.recvBuf = []

instance (receiver : Receiver) : Decidable receiver.Idle :=
  inferInstanceAs (Decidable (_ ∧ _))

theorem receiveAll_append (frames others : List (List UInt8)) (receiver : Receiver) :
    receiveAll (frames ++ others) receiver =
      ((receiveAll others (receiveAll frames receiver).1).1,
        (receiveAll frames receiver).2 ++
          (receiveAll others (receiveAll frames receiver).1).2) := by
  induction frames generalizing receiver with
  | nil => rfl
  | cons data frames ih => simp [receiveAll, ih]

theorem receiveAll_fits {frames : List (List UInt8)} {receiver : Receiver}
    (fits : receiver.recvBuf.length ≤ recvBufSize) :
    ∀ bytes ∈ (receiveAll frames receiver).2, bytes.length ≤ recvBufSize := by
  induction frames generalizing receiver with
  | nil => simp [receiveAll]
  | cons data frames ih =>
      intro bytes member
      rcases receive_fits fits with ⟨kept, handed⟩
      rcases List.mem_append.mp member with member | member
      · exact handed bytes (Option.mem_toList.mp member)
      · exact ih kept bytes member

/-- Pieces that stay within the announced length are collected. -/
theorem receiveAll_pieces {pieces : List (List UInt8)} {receiver : Receiver}
    (nonempty : ∀ piece ∈ pieces, 1 ≤ piece.length)
    (notStart : ∀ piece ∈ pieces, isStart piece = false)
    (collecting : receiver.multiMode = true)
    (within : receiver.recvBuf.length + pieces.flatten.length ≤ receiver.totalLength.toNat)
    (small : receiver.totalLength.toNat ≤ recvBufSize) :
    receiveAll pieces receiver =
      ({ receiver with recvBuf := receiver.recvBuf ++ pieces.flatten }, []) := by
  induction pieces generalizing receiver with
  | nil => simp [receiveAll]
  | cons piece pieces ih =>
      simp only [List.flatten_cons, List.length_append] at within
      have first := receive_chunk (nonempty piece (by simp)) (notStart piece (by simp))
        collecting (by omega) small
      have others := @ih { receiver with recvBuf := receiver.recvBuf ++ piece }
        (fun other member => nonempty other (by simp [member]))
        (fun other member => notStart other (by simp [member])) collecting
        (by simp only [List.length_append]; omega) small
      simp [receiveAll, first, others]

/-! ## The pieces of a payload -/

/-- The bytes of a payload behind its pieces of eight bytes. -/
def lastPiece (payload : List UInt8) : List UInt8 :=
  payload.drop (8 * (payload.length / 8))

theorem lastPiece_of_long (a b c d e f g h : UInt8) (rest : List UInt8) :
    lastPiece (a :: b :: c :: d :: e :: f :: g :: h :: rest) = lastPiece rest := by
  have eights : 8 * ((rest.length + 8) / 8) = 8 * (rest.length / 8) + 8 := by omega
  simp only [lastPiece, List.length_cons, Nat.add_assoc, Nat.reduceAdd, eights]
  rfl

/-- Only the last piece can read as a start frame. -/
theorem isStart_pieces (payload : List UInt8) :
    ∃ pieces, (∀ piece ∈ pieces, isStart piece = false) ∧
      chunks payload = pieces ++ if lastPiece payload = [] then [] else [lastPiece payload] := by
  induction payload using chunks.induct with
  | case1 a b c d e f g h rest ih =>
      rcases ih with ⟨pieces, notStart, split⟩
      refine ⟨[a, b, c, d, e, f, g, h] :: pieces, ?_, ?_⟩
      · intro piece member
        rcases List.mem_cons.mp member with rfl | member
        · simp [isStart]
        · exact notStart piece member
      · rw [chunks, split, lastPiece_of_long]
        rfl
  | case2 => exact ⟨[], by simp, rfl⟩
  | case3 data long nonempty =>
      have short : data.length < 8 := by
        rcases data with _ | ⟨a, _ | ⟨b, _ | ⟨c, _ | ⟨d, _ | ⟨e, _ | ⟨f, _ | ⟨g, _ | ⟨h, rest⟩⟩⟩⟩⟩⟩⟩⟩
        case cons.cons.cons.cons.cons.cons.cons.cons => exact absurd rfl (long a b c d e f g h rest)
        all_goals simp
      have whole : lastPiece data = data := by
        rw [lastPiece, Nat.div_eq_of_lt short]
        rfl
      refine ⟨[], by simp, ?_⟩
      rw [whole, if_neg nonempty, chunks]
      · rfl
      all_goals assumption

/-! ## One package -/

/-- The start frame that announces a payload. -/
def startFrame (payload : List UInt8) : List UInt8 :=
  [0xFE, 0xFE] ++ shortBytes (UInt16.ofNat payload.length) ++ shortBytes (getCrc16 payload 0)

/-- The frames of a package that announces one payload and carries another: what
arrives when bytes of the payload have changed on the way. -/
def packageFrames (announced carried : List UInt8) : List (List UInt8) :=
  startFrame announced :: (chunks carried ++ [[0xFE, 0xFE]])

theorem frames_package (payload : List UInt8) :
    (CanMessage.package payload).frames = packageFrames payload payload := rfl

/-- The receiver behind all pieces of a package. -/
def collected (announced carried : List UInt8) : Receiver where
  recvBuf := carried
  totalLength := (UInt16.ofNat announced.length).toUInt32
  recvCrc := getCrc16 announced 0
  multiMode := true

section Package

variable {announced carried : List UInt8}

theorem totalLength_collected (fits : carried.length ≤ recvBufSize)
    (same : carried.length = announced.length) :
    (collected announced carried).totalLength.toNat = carried.length := by
  rw [recvBufSize] at fits
  simp only [collected, UInt16.toNat_toUInt32, UInt16.toNat_ofNat']
  omega

/-- Behind the start frame the pieces that do not read as a start are collected. -/
theorem receiveAll_startFrame {pieces : List (List UInt8)} {rest : List UInt8}
    (split : carried = pieces.flatten ++ rest) (fits : carried.length ≤ recvBufSize)
    (same : carried.length = announced.length)
    (nonempty : ∀ piece ∈ pieces, 1 ≤ piece.length)
    (notStart : ∀ piece ∈ pieces, isStart piece = false) (receiver : Receiver) :
    receiveAll (startFrame announced :: pieces) receiver =
      (collected announced pieces.flatten, []) := by
  have total := totalLength_collected fits same
  have length := congrArg List.length split
  rw [List.length_append] at length
  have pieced : receiveAll pieces (collected announced []) =
      (collected announced pieces.flatten, []) := by
    apply receiveAll_pieces nonempty notStart rfl
    · change 0 + _ ≤ (collected announced carried).totalLength.toNat
      omega
    · change (collected announced carried).totalLength.toNat ≤ _
      omega
  have started := receive_start receiver (UInt16.ofNat announced.length)
    (getCrc16 announced 0)
  change receive (startFrame announced) receiver = (collected announced [], none) at started
  simp only [receiveAll, started, pieced, Option.toList_none, List.nil_append]

/-- A package whose last piece does not read as a start is collected up to its end
frame. -/
theorem receiveAll_collected (fits : carried.length ≤ recvBufSize)
    (same : carried.length = announced.length) (clear : isStart (lastPiece carried) = false)
    (receiver : Receiver) :
    receiveAll (packageFrames announced carried) receiver =
      receiveAll [[0xFE, 0xFE]] (collected announced carried) := by
  rcases isStart_pieces carried with ⟨pieces, notStart, split⟩
  have clears : ∀ piece ∈ chunks carried, isStart piece = false := by
    intro piece member
    rw [split] at member
    rcases List.mem_append.mp member with member | member
    · exact notStart piece member
    · split at member
      · cases member
      · rw [List.mem_singleton.mp member, clear]
  have whole : carried = (chunks carried).flatten ++ [] := by
    rw [flatten_chunks, List.append_nil]
  have gathered := receiveAll_startFrame whole fits same
    (fun piece member => one_le_length_of_mem_chunks member) clears receiver
  rw [packageFrames, ← List.cons_append, receiveAll_append, gathered, flatten_chunks]
  rfl

/-- The end frame hands over what was collected exactly if the check sum is right, and
leaves the receiver idle. -/
theorem receive_collected (fits : carried.length ≤ recvBufSize)
    (same : carried.length = announced.length) :
    (receiveAll [[0xFE, 0xFE]] (collected announced carried)).2 =
        (if getCrc16 carried 0 = getCrc16 announced 0 then [carried] else []) ∧
      (receiveAll [[0xFE, 0xFE]] (collected announced carried)).1.Idle := by
  have total := totalLength_collected fits same
  by_cases summed : getCrc16 carried 0 = getCrc16 announced 0
  · have ended : receive [0xFE, 0xFE] (collected announced carried) =
        handOver (collected announced carried) carried := receive_end rfl total.symm summed
    rw [if_pos summed]
    simp only [receiveAll, ended]
    exact ⟨rfl, rfl, rfl⟩
  · have ended : receive [0xFE, 0xFE] (collected announced carried) =
        dropPackage (collected announced carried) := by
      rw [receive, if_neg (by simp), if_pos (by rfl), if_pos ⟨rfl, rfl⟩]
      exact (if_pos total.symm).trans (if_neg summed)
    rw [if_neg summed]
    simp only [receiveAll, ended]
    exact ⟨rfl, rfl, rfl⟩

/-- An end frame right behind a start frame delivers the empty package at most. -/
theorem receive_end_announcing (start : List UInt8) {payload : List UInt8}
    (nonempty : payload ≠ []) :
    payload ∉ (receive [0xFE, 0xFE] (announcing start)).2.toList := by
  rw [receive, if_neg (by simp), if_pos (by rfl), if_pos ⟨rfl, rfl⟩]
  split
  · split
    · simpa [handOver, announcing] using nonempty
    · simp [dropPackage]
  · split
    · simp [dropPackage]
    · simp [collect, announcing, recvBufSize]

/-- A last piece that reads as a start frame begins a package of its own, of which
nothing but the empty one is delivered. -/
theorem receiveAll_of_isStart (fits : carried.length ≤ recvBufSize)
    (same : carried.length = announced.length) (starts : isStart (lastPiece carried) = true)
    (receiver : Receiver) {payload : List UInt8} (nonempty : payload ≠ []) :
    payload ∉ (receiveAll (packageFrames announced carried) receiver).2 := by
  rcases isStart_pieces carried with ⟨pieces, notStart, split⟩
  have present : lastPiece carried ≠ [] := by
    intro empty
    simp [empty, isStart] at starts
  rw [if_neg present] at split
  have whole : carried = pieces.flatten ++ lastPiece carried := by
    have flat := flatten_chunks carried
    rw [split] at flat
    simpa using flat.symm
  have gathered := receiveAll_startFrame whole fits same
    (fun piece member => one_le_length_of_mem_chunks (by rw [split]; simp [member]))
    notStart receiver
  have begun := receive_of_isStart starts (collected announced pieces.flatten)
  have shape : packageFrames announced carried =
      (startFrame announced :: pieces) ++ [lastPiece carried, [0xFE, 0xFE]] := by
    simp [packageFrames, split]
  rw [shape, receiveAll_append, gathered]
  have last := receive_end_announcing (lastPiece carried) nonempty
  simpa only [receiveAll, begun, Option.toList_none, List.nil_append, List.append_nil] using last

/-- What a package carries is delivered exactly if its check sum is the announced one and
its last piece does not read as a start frame. -/
theorem mem_receiveAll_package_iff (nonempty : carried ≠ []) (fits : carried.length ≤ recvBufSize)
    (same : carried.length = announced.length) (receiver : Receiver) :
    carried ∈ (receiveAll (packageFrames announced carried) receiver).2 ↔
      getCrc16 carried 0 = getCrc16 announced 0 ∧ isStart (lastPiece carried) = false := by
  cases starts : isStart (lastPiece carried) with
  | true => simpa using receiveAll_of_isStart fits same starts receiver nonempty
  | false =>
      rw [receiveAll_collected fits same starts, (receive_collected fits same).1]
      split
      next summed => simp [summed]
      next differs => simp [differs]

end Package

/-- What a package carries is delivered only if its check sum is the announced one. -/
theorem getCrc16_of_mem_receiveAll {announced carried : List UInt8} (nonempty : carried ≠ [])
    (same : carried.length = announced.length) (receiver : Receiver)
    (delivered : carried ∈ (receiveAll (packageFrames announced carried) receiver).2) :
    getCrc16 carried 0 = getCrc16 announced 0 := by
  by_cases fits : carried.length ≤ recvBufSize
  · exact ((mem_receiveAll_package_iff nonempty fits same receiver).mp delivered).1
  · have started := receive_start receiver (UInt16.ofNat announced.length)
      (getCrc16 announced 0)
    change receive (startFrame announced) receiver = (collected announced [], none) at started
    rw [packageFrames, receiveAll, started] at delivered
    exact absurd (receiveAll_fits (Nat.zero_le _) carried delivered) fits

/-! ## The round trip -/

/-- The frames of a package deliver its payload once and leave the receiver idle. -/
def RoundTrips (payload : List UInt8) (receiver : Receiver) : Prop :=
  (receiveAll (CanMessage.package payload).frames receiver).2 = [payload] ∧
    (receiveAll (CanMessage.package payload).frames receiver).1.Idle

instance (payload : List UInt8) (receiver : Receiver) :
    Decidable (RoundTrips payload receiver) :=
  inferInstanceAs (Decidable (_ ∧ _))

/-- A payload makes the round trip exactly if the bytes behind its last full piece do not
read as a start frame: six bytes that begin with the marking ones. -/
theorem roundTrips_iff (payload : List UInt8) (receiver : Receiver)
    (nonempty : 1 ≤ payload.length) (fits : payload.length ≤ 2048) :
    RoundTrips payload receiver ↔ isStart (lastPiece payload) = false := by
  have present : payload ≠ [] := List.length_pos_iff.mp nonempty
  constructor
  · rintro ⟨delivered, -⟩
    rw [frames_package] at delivered
    have member : payload ∈ (receiveAll (packageFrames payload payload) receiver).2 := by
      rw [delivered]
      exact List.mem_singleton_self payload
    exact ((mem_receiveAll_package_iff present fits rfl receiver).mp member).2
  · intro clear
    rcases receive_collected fits rfl with ⟨delivered, idle⟩
    rw [if_pos rfl] at delivered
    rw [RoundTrips, frames_package, receiveAll_collected fits rfl clear]
    exact ⟨delivered, idle⟩

/-- A payload whose last piece is the end marker itself. -/
theorem roundTrips_iff_marker :
    RoundTrips [1, 2, 3, 4, 5, 6, 7, 8, 0xFE, 0xFE] {} :=
  (roundTrips_iff [1, 2, 3, 4, 5, 6, 7, 8, 0xFE, 0xFE] {} (by decide) (by decide)).mpr
    (by decide)

/-- A payload of six bytes that reads as the start of another package. -/
theorem start_in_payload :
    ¬ ∀ (payload : List UInt8) (receiver : Receiver),
      1 ≤ payload.length → payload.length ≤ 2048 → RoundTrips payload receiver := by
  intro all
  have lost := all [0xFE, 0xFE, 0, 0, 0, 0] {} (by decide) (by decide)
  exact absurd lost (by decide +kernel)

/-! ## What is checked -/

/-- The loop of `Run` for one id. -/
def receiveStep : StepFn Receiver (List UInt8) := fun data receiver =>
  some (receive data receiver).1

/-- The start frame of the package in progress and the bytes of the frames behind it. -/
abbrev Gathered := Option (List UInt8 × List UInt8)

/-- What a frame does to the package in progress. -/
def gather (_ : Receiver) (data : List UInt8) (next : Receiver) (gathered : Gathered) : Gathered :=
  if isStart data then some (data, [])
  else if next.multiMode then gathered.map fun package => (package.1, package.2 ++ data)
  else none

/-- The receiver beside the package in progress. -/
def gatherStep : StepFn (Receiver × Gathered) (List UInt8) := monitored receiveStep gather

/-- The length that a start frame announces. -/
def announcedLength (start : List UInt8) : Nat := (announcing start).totalLength.toNat

/-- The collected bytes are those that the start frame announces. -/
def Matches (start bytes : List UInt8) : Prop :=
  bytes.length = announcedLength start ∧ getCrc16 bytes 0 = (announcing start).recvCrc

/-- A frame is appended to the collected bytes and does not fit into the buffer. -/
def Overflows (data bytes : List UInt8) : Prop :=
  isStart data = false ∧ isEnd data = false ∧ data ≠ [] ∧
    bytes.length + data.length > recvBufSize

/-- An end frame comes before all announced bytes have. -/
def EndsEarly (data start bytes : List UInt8) : Prop :=
  isEnd data = true ∧ bytes.length < announcedLength start

instance (start bytes : List UInt8) : Decidable (Matches start bytes) :=
  inferInstanceAs (Decidable (_ ∧ _))

instance (data bytes : List UInt8) : Decidable (Overflows data bytes) :=
  inferInstanceAs (Decidable (_ ∧ _ ∧ _ ∧ _))

instance (data start bytes : List UInt8) : Decidable (EndsEarly data start bytes) :=
  inferInstanceAs (Decidable (_ ∧ _))

/-- Of the package in progress nothing is handed over but all of it, when it matches; an
end frame without a match and an overflow drop it. -/
def ChecksPackage (state : Receiver × Gathered) (data : List UInt8)
    (next : Receiver × Gathered) : Prop :=
  match state.2 with
  | none => True
  | some (start, bytes) =>
      (∀ handed ∈ (receive data state.1).2, handed = bytes ∧ Matches start bytes) ∧
      ((isEnd data = true ∧ ¬ Matches start bytes) ∨ Overflows data bytes →
        (receive data state.1).2 = none ∧ next.1.Idle)

instance decidableChecksPackage (state : Receiver × Gathered) (data : List UInt8)
    (next : Receiver × Gathered) : Decidable (ChecksPackage state data next) :=
  match state with
  | (_, none) => isTrue trivial
  | (_, some _) => inferInstanceAs (Decidable (_ ∧ _))

/-- A frame neither ends the package early nor overflows the buffer. -/
def Regular (state : Receiver × Gathered) (data : List UInt8) (_ : Receiver × Gathered) : Prop :=
  match state.2 with
  | none => True
  | some (start, bytes) => ¬ EndsEarly data start bytes ∧ ¬ Overflows data bytes

/-- The receiver with the package in progress. -/
def gathering (start bytes : List UInt8) : Receiver := { announcing start with recvBuf := bytes }

theorem finish_gathering (start bytes : List UInt8) :
    finish (gathering start bytes) =
      if Matches start bytes then handOver (gathering start bytes) bytes
      else dropPackage (gathering start bytes) := rfl

theorem collect_gathering (data start bytes : List UInt8) :
    collect data (gathering start bytes) =
      if bytes.length + data.length > recvBufSize then
        handOver (gathering start bytes) (bytes ++ data.take (recvBufSize - bytes.length))
      else (gathering start (bytes ++ data), none) := rfl

/-- The receiver and the package in progress, as it should be. -/
def Tracks (state : Receiver × Gathered) : Prop :=
  match state.2 with
  | none => state.1.Idle
  | some (start, bytes) => state.1 = gathering start bytes

theorem idle_finish (receiver : Receiver) : (finish receiver).1.Idle := by
  rw [finish]
  split <;> exact ⟨rfl, rfl⟩

theorem idle_collect {data : List UInt8} {receiver : Receiver} (idle : receiver.multiMode = false) :
    (collect data receiver).1.Idle := by
  rw [collect]
  split
  · exact ⟨rfl, rfl⟩
  · rw [idle]
    exact ⟨rfl, rfl⟩

/-- A frame that leaves the receiver idle leaves no package in progress. -/
theorem tracks_of_idle {data : List UInt8} {receiver next : Receiver} {gathered : Gathered}
    (notStart : isStart data = false) (idle : next.Idle) :
    Tracks (next, gather receiver data next gathered) := by
  simp only [gather, notStart, idle.1, Bool.false_eq_true, if_false]
  exact idle

/-- The receiver is always at the package in progress. -/
theorem tracks_gatherStep {state next : Receiver × Gathered} {data : List UInt8}
    (tracks : Tracks state) (stepped : gatherStep data state = some next) : Tracks next := by
  rcases monitored_eq_some stepped with ⟨moved, gathered⟩
  rcases state with ⟨receiver, package⟩
  rcases next with ⟨after, following⟩
  simp only [receiveStep, Option.some.injEq] at moved gathered
  subst gathered moved
  rw [receive_eq]
  by_cases empty : data = []
  · subst empty
    cases package with
    | none => exact tracks_of_idle rfl tracks
    | some package =>
        obtain rfl : receiver = gathering package.1 package.2 := tracks
        simp [Tracks, gather, isStart, isMarked, gathering, announcing]
  rw [if_neg empty]
  cases starts : isStart data with
  | true =>
      simp only [if_true, gather, starts]
      rfl
  | false =>
      simp only [Bool.false_eq_true, if_false]
      cases package with
      | none =>
          have closed : receiver.multiMode = false := tracks.1
          rw [if_neg (by simp [closed])]
          exact tracks_of_idle starts (idle_collect closed)
      | some package =>
          obtain rfl : receiver = gathering package.1 package.2 := tracks
          split
          · exact tracks_of_idle starts (idle_finish _)
          · by_cases full : package.2.length + data.length > recvBufSize
            · rw [collect_gathering, if_pos full]
              exact tracks_of_idle starts ⟨rfl, rfl⟩
            · rw [collect_gathering, if_neg full]
              simp [Tracks, gather, starts, gathering, announcing]

/-- A frame is handled as it should be exactly if it is regular. -/
theorem checksPackage_iff {state next : Receiver × Gathered} {data : List UInt8}
    (tracks : Tracks state) (stepped : gatherStep data state = some next) :
    ChecksPackage state data next ↔ Regular state data next := by
  have moved := (monitored_eq_some stepped).1
  rcases state with ⟨receiver, package⟩
  cases package with
  | none => exact Iff.rfl
  | some package =>
      rcases package with ⟨start, bytes⟩
      obtain rfl : receiver = gathering start bytes := tracks
      simp only [receiveStep, Option.some.injEq] at moved
      simp only [ChecksPackage, Regular, ← moved]
      rw [receive_eq]
      by_cases empty : data = []
      · subst empty
        simp [Overflows, EndsEarly, isEnd, isMarked]
      rw [if_neg empty]
      cases starts : isStart data with
      | true =>
          have notEnd : isEnd data = false := by
            simp only [isStart, Bool.and_eq_true, beq_iff_eq] at starts
            simp [isEnd, starts.2]
          simp [Overflows, EndsEarly, starts, notEnd]
      | false =>
          simp only [Bool.false_eq_true, if_false]
          cases ends : isEnd data with
          | true =>
              by_cases early : bytes.length < announcedLength start
              · rw [if_neg fun late => absurd early (Nat.not_lt.mpr late.2.2)]
                have unmatched : ¬ Matches start bytes := fun complete =>
                  absurd complete.1 (by omega)
                apply iff_of_false
                · -- The end frame is collected, and fills the buffer at best.
                  rintro ⟨-, dropped⟩
                  rcases dropped (.inl ⟨rfl, unmatched⟩) with ⟨nothing, closed, -⟩
                  rw [collect_gathering] at nothing closed
                  split at nothing
                  · cases nothing
                  · rw [if_neg ‹_›] at closed
                    cases closed
                · rintro ⟨regular, -⟩
                  exact regular ⟨ends, early⟩
              · rw [if_pos ⟨rfl, rfl, Nat.le_of_not_lt early⟩, finish_gathering]
                have fits : ¬ Overflows data bytes := fun overflow =>
                  Bool.false_ne_true (overflow.2.1.symm.trans ends)
                apply iff_of_true _ ⟨fun ended => early ended.2, fits⟩
                by_cases complete : Matches start bytes
                · rw [if_pos complete]
                  simp [handOver, complete, fits]
                · rw [if_neg complete]
                  simp [dropPackage, Receiver.Idle]
          | false =>
              rw [if_neg fun late => Bool.false_ne_true late.1, collect_gathering]
              by_cases full : bytes.length + data.length > recvBufSize
              · have overflow : Overflows data bytes := ⟨starts, ends, empty, full⟩
                rw [if_pos full]
                apply iff_of_false
                · rintro ⟨-, dropped⟩
                  cases (dropped (.inr overflow)).1
                · rintro ⟨-, fits⟩
                  exact fits overflow
              · have fits : ¬ Overflows data bytes := fun overflow => full overflow.2.2.2
                rw [if_neg full]
                apply iff_of_true _ ⟨fun ended => Bool.false_ne_true (ends.symm.trans ended.1), fits⟩
                simp [fits]

/-! ### Every run -/

/-- In every sequence of frames, what is collected is checked or dropped exactly if no end
frame comes early and no frame overflows the buffer. -/
theorem along_checksPackage_iff (frames : List (List UInt8)) :
    Along gatherStep ChecksPackage frames ({}, none) ↔
      Along gatherStep Regular frames ({}, none) :=
  along_iff_of_guard
    (fun _ _ _ tracks stepped _ => tracks_gatherStep tracks stepped)
    (fun _ _ _ tracks stepped => checksPackage_iff tracks stepped)
    (show Tracks ({}, none) from ⟨rfl, rfl⟩)

/-- A package that is announced with 4096 bytes runs over the buffer, and its first 2048
bytes are handed over unchecked. -/
theorem overflow_unchecked :
    ¬ ∀ frames : List (List UInt8), Along gatherStep ChecksPackage frames ({}, none) := by
  intro all
  have overflow := all ([0xFE, 0xFE, 0x10, 0x00, 0x12, 0x34] ::
    List.replicate 257 [1, 2, 3, 4, 5, 6, 7, 8])
  exact absurd overflow (by decide +kernel)

end DrivingControl.Devices

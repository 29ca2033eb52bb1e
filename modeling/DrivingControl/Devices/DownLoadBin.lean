import DrivingControl.Library.Run
import DrivingControl.Library.StopAndWait

/-!
# The download of firmware

`CAgvDownLoadBin::SendFileViaCanBus` sends a file in frames of eight bytes and waits for the
echo of each.  While it waits it sends the frame again at every hundredth read that finds
nothing.  A frame has no number, and what comes back is compared as far as it goes.

The device appends the data of every frame 0x11 and echoes it.  What it answers to the other
frames is up to it, and the bus delays and loses frames of both directions.  The socket does
not block.
-/

namespace DrivingControl.Devices

open DrivingControl.Library

/-! ## The file -/

/-- `totalFrames`, an `int`. -/
def totalFrames (file : List UInt8) : Int :=
  Int.bmod (file.length / 8 + if file.length % 8 > 0 then 1 else 0 : Nat) 0x100000000

/-- `sendlen` of a frame. -/
def sendlen (file : List UInt8) (i : Nat) : Nat :=
  if (i : Int) = totalFrames file - 1 then file.length - i * 8 else 8

/-- The bytes of a frame, which are read from the file one after the other. -/
def chunkData (file : List UInt8) (i : Nat) : List UInt8 :=
  (file.drop (i * 8)).take (sendlen file i)

/-- The first bytes of `sendBuf`, which is cleared before it is written. -/
def sendBuf (bytes : List UInt8) : List UInt8 := bytes ++ List.replicate (8 - bytes.length) 0

/-- `memcmp` of `sendBuf` and a reply, over the length of the reply. -/
def sameBytes (bytes reply : List UInt8) : Bool := (sendBuf bytes).take reply.length == reply

/-- An `int` that is assigned to an `unsigned char`. -/
def boardByte (boardNo : Int) : UInt8 := .ofNat (boardNo % 256).toNat

/-! ## The sender, the device and the bus -/

/-- A frame 0x11 on the way to the device, and which chunk it is. -/
structure DataFrame where
  chunk : Nat
  data : List UInt8
  deriving DecidableEq, Repr

/-- A frame on the way back, and which chunk it echoes. -/
structure Reply where
  data : List UInt8
  chunk : Option Nat
  deriving DecidableEq, Repr

/-- Where `SendFileViaCanBus` is. -/
inductive Phase where
  | opening
  /-- It waits for the answer to the first frame 0x10; the counters `j` and `i`. -/
  | request (j i : Nat)
  /-- It waits for the device to be ready; the contents of `readBuf`. -/
  | ready (readBuf : List UInt8)
  /-- It comes to a chunk. -/
  | next (i : Nat)
  /-- It is in `readDataToAckCheck` with a chunk; the counters `j` and `i` there. -/
  | waiting (chunk j i : Nat)
  | returned (ret : Int)
  deriving DecidableEq, Repr

/-- The call, the device and the frames under way. -/
structure Download where
  phase : Phase := .opening
  forward : List DataFrame := []
  backward : List Reply := []
  /-- What the device has appended. -/
  appended : List UInt8 := []
  /-- The chunks that the device received, in their order. -/
  received : List Nat := []
  deriving DecidableEq, Repr

/-- The outcome of `CAgvSocketCan::Read`. -/
inductive Reading where
  /-- -3. -/
  | empty
  /-- Any other error. -/
  | failed
  /-- One of the frames under way. -/
  | frame (n : Nat)
  deriving DecidableEq, Repr

/-- What happens next; `written` is whether `Write` succeeds. -/
inductive DownloadStep where
  /-- Up to the first frame. -/
  | start (opened statted written : Bool)
  /-- A turn of one of the loops that read. -/
  | poll (reading : Reading) (written : Bool)
  /-- The next chunk, or the last frame. -/
  | write (readOk written : Bool)
  /-- The device receives a frame 0x11. -/
  | receive (n : Nat)
  /-- The device sends anything else. -/
  | answer (data : List UInt8)
  /-- The bus loses a frame 0x11. -/
  | lose (n : Nat)
  /-- The bus loses a frame on the way back. -/
  | loseReply (n : Nat)
  deriving DecidableEq, Repr

namespace Download

variable (file : List UInt8) (boardNo : Int)

/-- What `Read` returns, with the data of a frame. -/
inductive Fetched where
  | empty
  | failed
  | frame (data : List UInt8)
  deriving DecidableEq, Repr

/-- `CAgvSocketCan::Read`. -/
def fetch (reading : Reading) (download : Download) : Option (Fetched × Download) :=
  match reading with
  | .empty => some (.empty, download)
  | .failed => some (.failed, download)
  | .frame n =>
      download.backward[n]?.map fun reply =>
        (.frame reply.data, { download with backward := download.backward.eraseIdx n })

/-- A turn of the loop that waits for the answer to `0xff 0xff boardNo`.  Every hundredth turn
sends it again. -/
def turnRequest (fetched : Fetched) (j i : Nat) : Phase :=
  let again : Phase :=
    if j = 20000 - 1 then .returned (-2)
    else .request (j + 1) (if i + 1 = 100 then 0 else i + 1)
  match fetched with
  | .failed => .returned (-1)
  | .empty => again
  | .frame data =>
      if sameBytes [0xFF, 0xFF, boardByte boardNo] data then .ready (List.replicate 8 0) else again

/-- A turn of the loop that waits for `0xAA 0xAA boardNo`. -/
def turnReady (fetched : Fetched) (readBuf : List UInt8) : Phase :=
  let readBuf := match fetched with
    | .frame data => data ++ readBuf.drop data.length
    | _ => readBuf
  if readBuf.getD 0 0 = 0xAA ∧ readBuf.getD 1 0 = 0xAA ∧
    ((readBuf.getD 2 0).toNat : Int) = boardNo then .next 0
  else .ready readBuf

/-- A turn of the loop of `readDataToAckCheck`. -/
def turnWaiting (fetched : Fetched) (written : Bool) (chunk j i : Nat) (download : Download) :
    Download :=
  match fetched with
  | .failed => { download with phase := .returned (-1) }
  | .empty =>
      let phase : Phase :=
        if j = 5000 - 1 then .returned (-1)
        else .waiting chunk (j + 1) (if i + 1 ≥ 100 then 0 else i + 1)
      if i + 1 ≥ 100 ∧ written then
        { download with
          phase
          forward := download.forward ++ [⟨chunk, chunkData file chunk⟩] }
      else { download with phase }
  | .frame data =>
      if sameBytes (chunkData file chunk) data then { download with phase := .next (chunk + 1) }
      else { download with phase := .returned (-1) }

/-- The next chunk is read from the file and written, or behind the last one `0xee 0xee`. -/
def turnNext (readOk written : Bool) (i : Nat) (download : Download) : Download :=
  if (i : Int) < totalFrames file then
    if ¬ readOk then { download with phase := .returned (-1) }
    else if (chunkData file i).length > 8 ∨ ¬ written then
      { download with phase := .returned (-1) }
    else
      { download with
        phase := .waiting i 0 0
        forward := download.forward ++ [⟨i, chunkData file i⟩] }
  else { download with phase := .returned (if written then 0 else -1) }

/-- One turn of the sender, or a step of the device or the bus. -/
def step : StepFn Download DownloadStep
  | .start opened statted written, download =>
      match download.phase with
      | .opening =>
          if ¬ opened ∨ ¬ statted ∨ file.length < 80 ∨ ¬ written then
            some { download with phase := .returned (-1) }
          else some { download with phase := .request 0 0 }
      | _ => none
  | .poll reading written, download =>
      match download.phase, download.fetch reading with
      | .request j i, some (fetched, left) =>
          some { left with phase := turnRequest boardNo fetched j i }
      | .ready readBuf, some (fetched, left) =>
          some { left with phase := turnReady boardNo fetched readBuf }
      | .waiting chunk j i, some (fetched, left) =>
          some (left.turnWaiting file fetched written chunk j i)
      | _, _ => none
  | .write readOk written, download =>
      match download.phase with
      | .next i => some (download.turnNext file readOk written i)
      | _ => none
  | .receive n, download =>
      download.forward[n]?.map fun frame =>
        { download with
          forward := download.forward.eraseIdx n
          backward := download.backward ++ [⟨frame.data, some frame.chunk⟩]
          appended := download.appended ++ frame.data
          received := download.received ++ [frame.chunk] }
  | .answer data, download =>
      if data.length ≤ 8 then
        some { download with backward := download.backward ++ [⟨data, none⟩] }
      else none
  | .lose n, download =>
      download.forward[n]?.map fun _ => { download with forward := download.forward.eraseIdx n }
  | .loseReply n, download =>
      download.backward[n]?.map fun _ =>
        { download with backward := download.backward.eraseIdx n }

/-! ## What is to hold -/

/-- The number of chunks of the file. -/
def chunkCount : Nat := file.length / 8 + if file.length % 8 > 0 then 1 else 0

/-- The device has the file, each chunk once and in order. -/
def Exact (download : Download) : Prop :=
  download.appended = file ∧ download.received = List.range (chunkCount file)

/-- Of the frames of a chunk one reaches the device at most. -/
def ReceivedOnce (download : Download) (label : DownloadStep) (_ : Download) : Prop :=
  match label with
  | .receive n => ∀ frame, download.forward[n]? = some frame → frame.chunk ∉ download.received
  | _ => True

/-- What is read while a chunk is sent is an echo. -/
def OnlyEchoes (download : Download) (label : DownloadStep) (_ : Download) : Prop :=
  match label with
  | .poll (.frame n) _ =>
      ∀ chunk j i reply, download.phase = .waiting chunk j i →
        download.backward[n]? = some reply → reply.chunk.isSome = true
  | _ => True

/-! ## The chunks make up the file -/

variable {file} {boardNo}

theorem chunkCount_bounds (file : List UInt8) :
    file.length ≤ 8 * chunkCount file ∧ 8 * chunkCount file ≤ file.length + 7 := by
  rw [chunkCount]
  split <;> omega

/-- A file below 2 GiB has as many frames as chunks. -/
theorem totalFrames_eq (small : file.length < 0x80000000) :
    totalFrames file = chunkCount file := by
  have bounds := chunkCount_bounds file
  change Int.bmod (chunkCount file) 0x100000000 = _
  exact Int.bmod_eq_of_le (by omega) (by omega)

theorem chunkData_eq (small : file.length < 0x80000000) (i : Nat) :
    chunkData file i = (file.drop (i * 8)).take 8 := by
  rw [chunkData, sendlen, totalFrames_eq small]
  split
  next last =>
    have bounds := chunkCount_bounds file
    rw [List.take_of_length_le, List.take_of_length_le]
    · rw [List.length_drop]
      omega
    · rw [List.length_drop]
  next => rfl

/-- The first chunks make up the beginning of the file. -/
theorem flatMap_chunkData (small : file.length < 0x80000000) {count : Nat}
    (inside : count ≤ chunkCount file) :
    (List.range count).flatMap (chunkData file) = file.take (count * 8) := by
  induction count with
  | zero => simp
  | succ count ih =>
      rw [List.range_succ, List.flatMap_append, ih (by omega), List.flatMap_singleton,
        chunkData_eq small count, ← List.take_add, Nat.add_mul]

theorem flatMap_chunkCount (small : file.length < 0x80000000) :
    (List.range (chunkCount file)).flatMap (chunkData file) = file := by
  have bounds := chunkCount_bounds file
  rw [flatMap_chunkData small (Nat.le_refl _), List.take_of_length_le (by omega)]

/-! ## The frames under way -/

/-- The numbers of the chunks under way. -/
def traffic (download : Download) : Traffic where
  forward := (download.forward.map DataFrame.chunk : List Nat)
  received := download.received
  backward := (download.backward.filterMap Reply.chunk : List Nat)

/-- One element less of a list is one less of its bag. -/
theorem coe_filterMap_eraseIdx {α : Type} (f : α → Option Nat) {list : List α} {n : Nat}
    {element : α} (found : list[n]? = some element) :
    ((list.filterMap f : List Nat) : Multiset Nat) =
      ((f element).toList ++ (list.eraseIdx n).filterMap f : List Nat) := by
  rcases List.getElem?_eq_some_iff.mp found with ⟨inside, equal⟩
  have same := (List.getElem_cons_eraseIdx_perm inside).filterMap f
  rw [← Multiset.coe_eq_coe.mpr same, equal, List.filterMap_cons]
  cases f element <;> rfl

variable {download next left : Download} {label : DownloadStep} {fetched : Fetched}

/-- An echo is one more number on the way back. -/
theorem coe_filterMap_echo (replies : List Reply) (data : List UInt8) (chunk : Nat) :
    ((replies ++ [Reply.mk data (some chunk)]).filterMap Reply.chunk : Multiset Nat) =
      chunk ::ₘ (replies.filterMap Reply.chunk : List Nat) := by
  rw [List.filterMap_append, ← Multiset.coe_add, Multiset.add_comm]
  rfl

/-- A frame that leaves the way to the device. -/
theorem traffic_forward {n : Nat} {frame : DataFrame} (found : download.forward[n]? = some frame) :
    frame.chunk ∈ download.traffic.forward ∧
      ((download.forward.eraseIdx n).map DataFrame.chunk : List Nat) =
        download.traffic.forward.erase frame.chunk := by
  have one := coe_filterMap_eraseIdx (fun frame => some frame.chunk) found
  simp only [Option.toList_some, List.singleton_append, List.filterMap_eq_map',
    ← Multiset.cons_coe] at one
  have forward : download.traffic.forward = _ := one
  rw [forward]
  exact ⟨Multiset.mem_cons_self _ _, (Multiset.erase_cons_head _ _).symm⟩

/-- A frame that leaves the way back. -/
theorem traffic_backward {n : Nat} {reply : Reply} (found : download.backward[n]? = some reply) :
    (reply.chunk = none ∧ ({ download with
        backward := download.backward.eraseIdx n } : Download).traffic = download.traffic) ∨
      ∃ chunk, reply.chunk = some chunk ∧ chunk ∈ download.traffic.backward ∧
        ({ download with backward := download.backward.eraseIdx n } : Download).traffic =
          download.traffic.takeEcho chunk := by
  have one := coe_filterMap_eraseIdx Reply.chunk found
  have backward : download.traffic.backward = _ := one
  cases echo : reply.chunk with
  | none =>
      refine .inl ⟨rfl, ?_⟩
      rw [echo] at backward
      simp only [traffic] at backward ⊢
      rw [backward]
      rfl
  | some chunk =>
      rw [echo, Option.toList_some, List.singleton_append, ← Multiset.cons_coe] at backward
      refine .inr ⟨chunk, rfl, ?_, ?_⟩
      · rw [backward]
        exact Multiset.mem_cons_self _ _
      · simp only [Traffic.takeEcho]
        rw [backward, Multiset.erase_cons_head]
        rfl

/-! ## The invariant -/

/-- Where the traffic is when the sender is somewhere. -/
def Place (file : List UInt8) (traffic : Traffic) : Phase → Prop
  | .opening | .request _ _ | .ready _ => traffic.Settled 0
  | .next i => i ≤ chunkCount file ∧ traffic.Settled i
  | .waiting chunk _ _ => chunk < chunkCount file ∧ traffic.Waiting chunk
  | .returned ret => ret = 0 → traffic.Settled (chunkCount file)

variable {phase : Phase} {bus : Traffic} {number : Nat}

theorem Place.lose (place : Place file bus phase) (number : Nat) :
    Place file (bus.lose number) phase := by
  cases phase with
  | opening | request | ready => exact Traffic.Settled.lose place number
  | next i => exact ⟨place.1, place.2.lose number⟩
  | waiting chunk j i => exact ⟨place.1, place.2.lose number⟩
  | returned ret => exact fun success => (place success).lose number

/-- An echo under way can be lost; it is under way only while it is awaited. -/
theorem Place.takeEcho (place : Place file bus phase) (echoed : number ∈ bus.backward) :
    Place file (bus.takeEcho number) phase := by
  cases phase with
  | opening | request | ready => exact absurd echoed place.not_mem_backward
  | next i => exact absurd echoed place.2.not_mem_backward
  | waiting chunk j i => exact ⟨place.1, place.2.takeEcho echoed⟩
  | returned ret => exact fun success => absurd echoed (place success).not_mem_backward

/-- A new chunk is received only while its echo is awaited. -/
theorem Place.receive (place : Place file bus phase) (sent : number ∈ bus.forward)
    (new : number ∉ bus.received) : Place file (bus.receive number) phase := by
  cases phase with
  | opening | request | ready => exact absurd (Traffic.Settled.mem_received place sent) new
  | next i => exact absurd (place.2.mem_received sent) new
  | waiting chunk j i => exact ⟨place.1, place.2.receive sent new⟩
  | returned ret => exact fun success => absurd ((place success).mem_received sent) new

/-- The frames under way hold their chunks, the device has appended what it received, and the
traffic is where the sender takes it to be. -/
structure Held (file : List UInt8) (download : Download) : Prop where
  data : ∀ frame ∈ download.forward, frame.data = chunkData file frame.chunk
  appended : download.appended = download.received.flatMap (chunkData file)
  place : Place file download.traffic download.phase

theorem held_start (file : List UInt8) : Held file {} where
  data frame sent := by cases sent
  appended := rfl
  place := Traffic.settled_start

/-- A read that takes a frame loses no more than an echo. -/
theorem held_fetch {reading : Reading} (held : Held file download)
    (read : download.fetch reading = some (fetched, left)) :
    left.phase = download.phase ∧ left.Held file := by
  cases reading with
  | empty | failed =>
      cases read
      exact ⟨rfl, held⟩
  | frame n =>
      rcases Option.map_eq_some_iff.mp read with ⟨reply, found, equal⟩
      cases equal
      refine ⟨rfl, held.data, held.appended, ?_⟩
      rcases traffic_backward found with ⟨-, same⟩ | ⟨chunk, -, echoed, taken⟩
      · rw [same]
        exact held.place
      · rw [taken]
        exact held.place.takeEcho echoed

/-- The sender changes its place, and nothing moves. -/
theorem Held.moves (held : Held file download)
    (place : Place file download.traffic phase) : Held file { download with phase } :=
  ⟨held.data, held.appended, place⟩

/-- The chunk that is awaited, or the next one, is sent. -/
theorem Held.sends (held : Held file download) {i : Nat}
    (place : Place file (download.traffic.send i) phase) :
    Held file { download with
      phase, forward := download.forward ++ [⟨i, chunkData file i⟩] } := by
  refine ⟨fun frame sent => ?_, held.appended, ?_⟩
  · rcases List.mem_append.mp sent with before | new
    · exact held.data frame before
    · rw [List.mem_singleton.mp new]
  · have bag : ((download.forward ++ [(⟨i, chunkData file i⟩ : DataFrame)]).map
        DataFrame.chunk : Multiset Nat) = i ::ₘ download.traffic.forward := by
      rw [List.map_append, ← Multiset.coe_add, Multiset.add_comm]
      rfl
    simp only [traffic, bag]
    exact place

/-! ## The steps -/

theorem held_turnRequest (held : Held file download) (start : download.traffic.Settled 0)
    (fetched : Fetched) (j i : Nat) :
    Held file { download with phase := turnRequest boardNo fetched j i } := by
  apply held.moves
  simp only [turnRequest]
  cases fetched with
  | failed => exact nofun
  | empty =>
      dsimp only
      split
      · exact nofun
      · exact start
  | frame data =>
      dsimp only
      split
      · exact start
      · split
        · exact nofun
        · exact start

theorem held_turnReady (held : Held file download) (start : download.traffic.Settled 0)
    (fetched : Fetched) (readBuf : List UInt8) :
    Held file { download with phase := turnReady boardNo fetched readBuf } := by
  apply held.moves
  simp only [turnReady]
  cases fetched
  all_goals
    dsimp only
    split
    · exact ⟨Nat.zero_le _, start⟩
    · exact start

theorem held_turnNext (small : file.length < 0x80000000) (held : Held file download)
    (readOk written : Bool) {i : Nat} (first : i ≤ chunkCount file)
    (settled : download.traffic.Settled i) :
    Held file (download.turnNext file readOk written i) := by
  rw [turnNext]
  rw [totalFrames_eq small]
  split
  next more =>
    split
    · exact held.moves nofun
    · split
      · exact held.moves nofun
      · exact held.sends ⟨by omega, settled.send⟩
  next last =>
    have all : i = chunkCount file := by omega
    subst all
    exact held.moves fun _ => settled

/-- A turn that reads nothing keeps waiting, or gives up. -/
theorem held_turnWaiting_empty (held : Held file download) (written : Bool) {chunk : Nat}
    (j i : Nat) (inside : chunk < chunkCount file) (waiting : download.traffic.Waiting chunk) :
    Held file (download.turnWaiting file .empty written chunk j i) := by
  unfold turnWaiting
  dsimp only
  split
  · refine held.sends ?_
    split
    · exact nofun
    · exact ⟨inside, waiting.send⟩
  · refine held.moves ?_
    split
    · exact nofun
    · exact ⟨inside, waiting⟩

/-- With the echo of a chunk the sender goes on to the next one. -/
theorem held_turnWaiting_frame (held : Held file download) (data : List UInt8) (written : Bool)
    {chunk : Nat} (j i : Nat) (inside : chunk < chunkCount file)
    (settled : download.traffic.Settled (chunk + 1)) :
    Held file (download.turnWaiting file (.frame data) written chunk j i) := by
  unfold turnWaiting
  dsimp only
  split
  · exact held.moves ⟨inside, settled⟩
  · exact held.moves nofun

theorem Held.poll (held : Held file download) {reading : Reading} {written : Bool}
    (stepped : Download.step file boardNo (.poll reading written) download = some next)
    (echoes : OnlyEchoes download (.poll reading written) next) : Held file next := by
  simp only [step] at stepped
  split at stepped
  next j i fetched left requests read =>
    cases stepped
    rcases held_fetch held read with ⟨phase, after⟩
    have start := after.place
    rw [phase, requests] at start
    exact held_turnRequest after start fetched j i
  next readBuf fetched left ready read =>
    cases stepped
    rcases held_fetch held read with ⟨phase, after⟩
    have start := after.place
    rw [phase, ready] at start
    exact held_turnReady after start fetched readBuf
  next chunk j i fetched left waits read =>
    cases stepped
    rcases held_fetch held read with ⟨-, after⟩
    have before := held.place
    rw [waits] at before
    cases reading with
    | empty =>
        cases read
        exact held_turnWaiting_empty after written j i before.1 before.2
    | failed =>
        cases read
        exact after.moves nofun
    | frame n =>
        rcases Option.map_eq_some_iff.mp read with ⟨reply, found, equal⟩
        cases equal
        refine held_turnWaiting_frame after reply.data written j i before.1 ?_
        rcases traffic_backward found with ⟨other, -⟩ | ⟨echo, -, echoed, taken⟩
        · have isEcho := echoes chunk j i reply waits found
          simp [other] at isEcho
        · rw [taken]
          exact before.2.settled echoed
  next => cases stepped

theorem Held.step (small : file.length < 0x80000000) (held : Held file download)
    (stepped : Download.step file boardNo label download = some next)
    (once : ReceivedOnce download label next) (echoes : OnlyEchoes download label next) :
    Held file next := by
  cases label with
  | start opened statted written =>
      simp only [Download.step] at stepped
      split at stepped
      next opening =>
        have start := held.place
        rw [opening] at start
        split at stepped
        · cases stepped
          exact held.moves nofun
        · cases stepped
          exact held.moves start
      next => cases stepped
  | poll reading written => exact held.poll stepped echoes
  | write readOk written =>
      simp only [Download.step] at stepped
      split at stepped
      next i comes =>
        rw [Option.some.injEq] at stepped
        subst stepped
        have place := held.place
        rw [comes] at place
        exact held_turnNext small held readOk written place.1 place.2
      next => cases stepped
  | receive n =>
      rcases Option.map_eq_some_iff.mp stepped with ⟨frame, found, equal⟩
      subst equal
      rcases traffic_forward found with ⟨sent, erased⟩
      have data := held.data frame (List.mem_of_getElem? found)
      have place := held.place.receive sent (once frame found)
      refine ⟨fun other still => held.data other (List.mem_of_mem_eraseIdx still), ?_, ?_⟩
      · simp only [List.flatMap_append, List.flatMap_singleton, held.appended, data]
      · simp only [traffic, erased, coe_filterMap_echo]
        exact place
  | answer data =>
      simp only [Download.step] at stepped
      split at stepped
      · cases stepped
        refine ⟨held.data, held.appended, ?_⟩
        have same : ({ download with
            backward := download.backward ++ [⟨data, none⟩] } : Download).traffic =
            download.traffic := by
          simp [traffic]
        rw [same]
        exact held.place
      · cases stepped
  | lose n =>
      rcases Option.map_eq_some_iff.mp stepped with ⟨frame, found, equal⟩
      subst equal
      rcases traffic_forward found with ⟨sent, erased⟩
      refine ⟨fun other still => held.data other (List.mem_of_mem_eraseIdx still),
        held.appended, ?_⟩
      have place := held.place.lose frame.chunk
      simp only [Traffic.lose, ← erased] at place
      exact place
  | loseReply n =>
      rcases Option.map_eq_some_iff.mp stepped with ⟨reply, found, equal⟩
      subst equal
      have read : download.fetch (.frame n) = download.backward[n]?.map _ := rfl
      rw [found] at read
      exact (held_fetch held read).2

/-! ## What the device has when the call returns -/

theorem Held.exact (small : file.length < 0x80000000) (held : Held file download)
    (success : download.phase = .returned 0) : Exact file download := by
  have place := held.place
  rw [success] at place
  have received : download.received = _ := (place rfl).received
  refine ⟨?_, received⟩
  rw [held.appended, received, flatMap_chunkCount small]

theorem received_fetch {reading : Reading}
    (read : download.fetch reading = some (fetched, left)) :
    left.received = download.received := by
  cases reading with
  | empty | failed =>
      cases read
      rfl
  | frame n =>
      rcases Option.map_eq_some_iff.mp read with ⟨reply, found, equal⟩
      cases equal
      rfl

theorem received_turnWaiting (fetched : Fetched) (written : Bool) (chunk j i : Nat)
    (download : Download) :
    (download.turnWaiting file fetched written chunk j i).received = download.received := by
  simp only [turnWaiting]
  cases fetched with
  | failed => rfl
  | empty =>
      dsimp only
      split <;> rfl
  | frame data =>
      dsimp only
      split <;> rfl

theorem received_turnNext (readOk written : Bool) (i : Nat) (download : Download) :
    (download.turnNext file readOk written i).received = download.received := by
  rw [turnNext]
  split
  · split
    · rfl
    · split <;> rfl
  · rfl

/-- What was received stays so. -/
theorem received_step (stepped : Download.step file boardNo label download = some next) :
    ∃ more, next.received = download.received ++ more := by
  cases label with
  | receive n =>
      rcases Option.map_eq_some_iff.mp stepped with ⟨frame, found, equal⟩
      subst equal
      exact ⟨[frame.chunk], rfl⟩
  | poll reading written =>
      simp only [Download.step] at stepped
      split at stepped
      next fetched left requests read =>
        cases stepped
        exact ⟨[], by simp [received_fetch read]⟩
      next fetched left ready read =>
        cases stepped
        exact ⟨[], by simp [received_fetch read]⟩
      next fetched left waits read =>
        cases stepped
        exact ⟨[], by simp [received_turnWaiting, received_fetch read]⟩
      next => cases stepped
  | write readOk written =>
      simp only [Download.step] at stepped
      split at stepped
      next i comes =>
        rw [Option.some.injEq] at stepped
        subst stepped
        exact ⟨[], by simp [received_turnNext]⟩
      next => cases stepped
  | start opened statted written =>
      simp only [Download.step] at stepped
      split at stepped
      · split at stepped
        all_goals
          cases stepped
          exact ⟨[], (List.append_nil _).symm⟩
      · cases stepped
  | answer data =>
      simp only [Download.step] at stepped
      split at stepped
      · cases stepped
        exact ⟨[], (List.append_nil _).symm⟩
      · cases stepped
  | lose n | loseReply n =>
      rcases Option.map_eq_some_iff.mp stepped with ⟨gone, found, equal⟩
      subst equal
      exact ⟨[], (List.append_nil _).symm⟩

/-- If no chunk was received twice in the end, none ever was. -/
theorem along_receivedOnce {steps : List DownloadStep} {final : Download}
    (reached : run (Download.step file boardNo) steps download = some final)
    (nodup : final.received.Nodup) :
    Along (Download.step file boardNo) ReceivedOnce steps download ∧ download.received.Nodup := by
  induction steps generalizing download with
  | nil =>
      cases reached
      exact ⟨trivial, nodup⟩
  | cons label steps ih =>
      rw [run_cons] at reached
      obtain ⟨next, stepped, rest⟩ := Option.bind_eq_some_iff.mp reached
      rcases ih rest with ⟨along, later⟩
      rcases received_step stepped with ⟨more, received⟩
      have nodupMore : (download.received ++ more).Nodup := received ▸ later
      refine ⟨along_cons stepped ?_ along, (List.nodup_append.mp nodupMore).1⟩
      cases label with
      | receive n =>
          intro frame found already
          simp only [Download.step, found, Option.map_some, Option.some.injEq] at stepped
          subst stepped
          rw [List.nodup_append] at later
          exact later.2.2 _ already _ (List.mem_singleton_self _) rfl
      | _ => trivial

end Download

/-- A download of any file that returns 0, whatever the bus delays or loses: the device has
the file, each chunk once and in order, if the file is below 2 GiB, only echoes are read while
the chunks are sent, and one of the frames of a chunk at most reaches the device; and it has
it only if the last is so. -/
theorem download_exact (file : List UInt8) (boardNo : Int) (steps : List DownloadStep)
    (final : Download)
    (reached : run (Download.step file boardNo) steps {} = some final)
    (success : final.phase = .returned 0) :
    (file.length < 0x80000000 →
      Along (Download.step file boardNo) Download.OnlyEchoes steps {} →
      Along (Download.step file boardNo) Download.ReceivedOnce steps {} →
      Download.Exact file final) ∧
    (Download.Exact file final →
      Along (Download.step file boardNo) Download.ReceivedOnce steps {}) := by
  constructor
  · intro small echoes once
    have held : Download.Held file final := by
      refine invariant_of_guard ?_ (Download.held_start file) (along_and once echoes) reached
      intro download label next held stepped both
      exact held.step small stepped both.1 both.2
    exact held.exact small success
  · intro exact
    have nodup : final.received.Nodup := exact.2 ▸ List.nodup_range
    exact (Download.along_receivedOnce reached nodup).1

/-- A file of ten chunks. -/
def countingFile : List UInt8 := (List.range 80).map UInt8.ofNat

/-- The device answers and is ready. -/
def handshake : List DownloadStep :=
  [.start true true true, .answer [0xFF, 0xFF, 1], .poll (.frame 0) true,
    .answer [0xAA, 0xAA, 1], .poll (.frame 0) true]

/-- Chunks that are received and echoed at once. -/
def promptChunks (count : Nat) : List DownloadStep :=
  (List.replicate count [.write true true, .receive 0, .poll (.frame 0) true]).flatten

/-- A download on a prompt bus. -/
theorem download_exact_prompt :
    (countingFile.length < 0x80000000 →
      Along (Download.step countingFile 1) Download.OnlyEchoes
        (handshake ++ promptChunks 10 ++ [.write true true]) {} →
      Along (Download.step countingFile 1) Download.ReceivedOnce
        (handshake ++ promptChunks 10 ++ [.write true true]) {} →
      Download.Exact countingFile ⟨.returned 0, [], [], countingFile, List.range 10⟩) ∧
    (Download.Exact countingFile ⟨.returned 0, [], [], countingFile, List.range 10⟩ →
      Along (Download.step countingFile 1) Download.ReceivedOnce
        (handshake ++ promptChunks 10 ++ [.write true true]) {}) :=
  download_exact countingFile 1 _ ⟨.returned 0, [], [], countingFile, List.range 10⟩
    (by decide +kernel) rfl

/-- The first chunk is sent twice before its echo is read, and the device has it twice. -/
theorem download_doubles :
    ¬ ∀ (file : List UInt8) (boardNo : Int) (steps : List DownloadStep) (final : Download),
      80 ≤ file.length → run (Download.step file boardNo) steps {} = some final →
      final.phase = .returned 0 → Download.Exact file final := by
  intro exact
  have doubled := exact countingFile 1
    (handshake ++ [.write true true] ++ List.replicate 100 (.poll .empty true) ++
      [.receive 0, .receive 0, .poll (.frame 0) true, .loseReply 0] ++ promptChunks 9 ++
      [.write true true])
    ⟨.returned 0, [], [], countingFile.take 8 ++ countingFile, 0 :: List.range 10⟩
    (by decide) (by decide +kernel) rfl
  exact absurd doubled.2 (by decide)

end DrivingControl.Devices

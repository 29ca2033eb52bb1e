import DrivingControl.Devices.DownLoadBin
import DrivingControl.Library.Budget

/-!
# The end of a download

The call of `SendFileViaCanBus` on a device and a bus that may answer anything.  It has three
loops that read.  The one behind the request and the one of `readDataToAckCheck` count their
turns; the one between them, which waits for `0xAA 0xAA boardNo`, has no counter and looks at
no error.

Everything else is paid from a bound that depends on the length of the file.
-/

namespace DrivingControl.Devices

open DrivingControl.Library

/-- What the calls give that are made in one turn: whether the file is opened, its length is
known and its bytes are read, what `Read` gives, and whether `Write` succeeds. -/
structure BusTurn where
  opened : Bool := true
  statted : Bool := true
  readOk : Bool := true
  fetched : Download.Fetched := .empty
  written : Bool := true
  deriving DecidableEq, Repr

namespace Download

variable (file : List UInt8) (boardNo : Int)

/-- The call comes to its first loop. -/
def Started (bus : BusTurn) : Prop :=
  bus.opened = true ∧ bus.statted = true ∧ 80 ≤ file.length ∧ bus.written = true

instance (bus : BusTurn) : Decidable (Started file bus) :=
  inferInstanceAs (Decidable (_ ∧ _ ∧ _ ∧ _))

/-- The answer to the request. -/
def answersRequest : Fetched → Bool
  | .frame data => sameBytes [0xFF, 0xFF, boardByte boardNo] data
  | _ => false

/-- Neither the answer nor an error. -/
def leavesRequest (fetched : Fetched) : Bool :=
  fetched ≠ .failed && !answersRequest boardNo fetched

/-- One turn of the call. -/
def turn (bus : BusTurn) (download : Download) : Download :=
  match download.phase with
  | .opening =>
      { download with phase := if Started file bus then .request 0 0 else .returned (-1) }
  | .request j i => { download with phase := turnRequest boardNo bus.fetched j i }
  | .ready readBuf => { download with phase := turnReady boardNo bus.fetched readBuf }
  | .next i => download.turnNext file bus.readOk bus.written i
  | .waiting chunk j i => download.turnWaiting file bus.fetched bus.written chunk j i
  | .returned _ => download

/-- The calls of `CAgvSocketCan::Read` and `CAgvSocketCan::Write` in a turn. -/
def accesses (bus : BusTurn) : Phase → Nat
  | .opening => if bus.opened ∧ bus.statted ∧ 80 ≤ file.length then 1 else 0
  | .request _ i => if leavesRequest boardNo bus.fetched ∧ i + 1 = 100 then 2 else 1
  | .ready _ => 1
  | .next i => if (i : Int) < totalFrames file ∧ ¬ bus.readOk then 0 else 1
  | .waiting _ _ i => if bus.fetched = .empty ∧ i + 1 ≥ 100 then 2 else 1
  | .returned _ => 0

/-- The call after its first turns. -/
abbrev after (bus : Nat → BusTurn) (turns : Nat) : Download :=
  stateAfter (turn file boardNo) {} bus turns

/-- How often it read and wrote in them. -/
abbrev accessesAfter (bus : Nat → BusTurn) (turns : Nat) : Nat :=
  spent (turn file boardNo) (fun bus download => accesses file boardNo bus download.phase) {}
    bus turns

/-- The call returns, and it reads and writes no more than so often. -/
def EndsWithin (bus : Nat → BusTurn) (bound : Nat) : Prop :=
  ∃ turns ret, (after file boardNo bus turns).phase = .returned ret ∧
    accessesAfter file boardNo bus turns ≤ bound

/-! ## What the device answers -/

/-- What a read leaves in `readBuf`. -/
def readInto (fetched : Fetched) (readBuf : List UInt8) : List UInt8 :=
  match fetched with
  | .frame data => data ++ readBuf.drop data.length
  | _ => readBuf

/-- What `readBuf` holds after some reads into a cleared one. -/
def bufferAfter (bus : Nat → BusTurn) : Nat → List UInt8
  | 0 => List.replicate 8 0
  | n + 1 => readInto (bus n).fetched (bufferAfter bus n)

/-- `0xAA 0xAA boardNo`. -/
def ShowsReady (readBuf : List UInt8) : Prop :=
  readBuf.getD 0 0 = 0xAA ∧ readBuf.getD 1 0 = 0xAA ∧ ((readBuf.getD 2 0).toNat : Int) = boardNo

instance (readBuf : List UInt8) : Decidable (ShowsReady boardNo readBuf) :=
  inferInstanceAs (Decidable (_ ∧ _ ∧ _))

/-- The request is answered at a read, without an error before. -/
structure AnsweredAt (bus : Nat → BusTurn) (read : Nat) : Prop where
  first : 1 ≤ read
  last : read ≤ 20000
  answers : answersRequest boardNo (bus read).fetched = true
  before : ∀ earlier, 1 ≤ earlier → earlier < read →
    leavesRequest boardNo (bus earlier).fetched = true

/-- When the request is answered, the device is ready within so many reads more. -/
def ReadyWithin (bus : Nat → BusTurn) (patience : Nat) : Prop :=
  Started file (bus 0) → ∀ read, AnsweredAt boardNo bus read →
    ∃ n, 1 ≤ n ∧ n ≤ patience ∧
      ShowsReady boardNo (bufferAfter (fun m => bus (read + 1 + m)) n)

variable {file boardNo} {bus : BusTurn} {phase : Phase} {fetched : Fetched}

/-! ## The turns of the loops -/

theorem turnRequest_of_answers (answers : answersRequest boardNo fetched = true) (j i : Nat) :
    turnRequest boardNo fetched j i = .ready (List.replicate 8 0) := by
  cases fetched with
  | empty | failed => cases answers
  | frame data => exact if_pos answers

theorem turnRequest_of_leaves (leaves : leavesRequest boardNo fetched = true) (j i : Nat) :
    turnRequest boardNo fetched j i =
      if j = 20000 - 1 then .returned (-2)
      else .request (j + 1) (if i + 1 = 100 then 0 else i + 1) := by
  cases fetched with
  | failed => cases leaves
  | empty => rfl
  | frame data =>
      have other : sameBytes [0xFF, 0xFF, boardByte boardNo] data = false := by
        simpa [leavesRequest, answersRequest] using leaves
      rw [turnRequest, if_neg (by rw [other]; exact Bool.false_ne_true)]

theorem turnRequest_of_fails (answers : answersRequest boardNo fetched = false)
    (leaves : leavesRequest boardNo fetched = false) (j i : Nat) :
    turnRequest boardNo fetched j i = .returned (-1) := by
  cases fetched with
  | failed => rfl
  | empty => cases leaves
  | frame data => simp [leavesRequest, answers] at leaves

section Turns

variable (file boardNo) (bus : BusTurn) {download : Download}

theorem turn_opening (opening : download.phase = .opening) :
    (Started file bus ∧ accesses file boardNo bus .opening = 1 ∧
      (turn file boardNo bus download).phase = .request 0 0) ∨
    (accesses file boardNo bus .opening ≤ 1 ∧
      ∃ ret, (turn file boardNo bus download).phase = .returned ret) := by
  simp only [turn, opening, accesses]
  by_cases started : Started file bus
  · refine .inl ⟨started, ?_, if_pos started⟩
    exact if_pos ⟨started.1, started.2.1, started.2.2.1⟩
  · refine .inr ⟨?_, -1, if_neg started⟩
    split
    · exact Nat.le_refl 1
    · exact Nat.zero_le 1

theorem phase_turn_request {j i : Nat} (waits : download.phase = .request j i) :
    (turn file boardNo bus download).phase = turnRequest boardNo bus.fetched j i := by
  rw [turn, waits]

theorem turn_request {j i : Nat} (waits : download.phase = .request j i) :
    (answersRequest boardNo bus.fetched = true ∧ accesses file boardNo bus (.request j i) = 1 ∧
      (turn file boardNo bus download).phase = .ready (List.replicate 8 0)) ∨
    (leavesRequest boardNo bus.fetched = true ∧
      accesses file boardNo bus (.request j i) = (if i + 1 = 100 then 2 else 1) ∧
      (turn file boardNo bus download).phase = if j = 20000 - 1 then .returned (-2)
        else .request (j + 1) (if i + 1 = 100 then 0 else i + 1)) ∨
    (accesses file boardNo bus (.request j i) = 1 ∧
      (turn file boardNo bus download).phase = .returned (-1)) := by
  rw [phase_turn_request file boardNo bus waits, accesses]
  cases answers : answersRequest boardNo bus.fetched with
  | true =>
      have other : leavesRequest boardNo bus.fetched = false := by
        simp [leavesRequest, answers]
      refine .inl ⟨rfl, ?_, turnRequest_of_answers answers j i⟩
      simp [other]
  | false =>
      cases leaves : leavesRequest boardNo bus.fetched with
      | true =>
          refine .inr (.inl ⟨rfl, ?_, turnRequest_of_leaves leaves j i⟩)
          simp
      | false =>
          refine .inr (.inr ⟨?_, turnRequest_of_fails answers leaves j i⟩)
          simp

theorem turn_ready {readBuf : List UInt8} (waits : download.phase = .ready readBuf) :
    (turn file boardNo bus download).phase =
      if ShowsReady boardNo (readInto bus.fetched readBuf) then .next 0
      else .ready (readInto bus.fetched readBuf) := by
  rw [turn, waits]
  rfl

theorem turn_next {i : Nat} (comes : download.phase = .next i) :
    ((i : Int) < totalFrames file ∧ accesses file boardNo bus (.next i) = 1 ∧
      (turn file boardNo bus download).phase = .waiting i 0 0) ∨
    (accesses file boardNo bus (.next i) ≤ 1 ∧
      ∃ ret, (turn file boardNo bus download).phase = .returned ret) := by
  have turned : turn file boardNo bus download =
      download.turnNext file bus.readOk bus.written i := by
    rw [turn, comes]
  have few : accesses file boardNo bus (.next i) ≤ 1 := by
    rw [accesses]
    split
    · exact Nat.zero_le 1
    · exact Nat.le_refl 1
  rw [turned, turnNext]
  split
  next more =>
    split
    · exact .inr ⟨few, -1, rfl⟩
    next read =>
      split
      · exact .inr ⟨few, -1, rfl⟩
      · refine .inl ⟨more, ?_, rfl⟩
        rw [accesses, if_neg fun unread => read unread.2]
  · exact .inr ⟨few, _, rfl⟩

theorem turn_waiting {chunk j i : Nat} (waits : download.phase = .waiting chunk j i) :
    (accesses file boardNo bus (.waiting chunk j i) = (if i + 1 ≥ 100 then 2 else 1) ∧
      (turn file boardNo bus download).phase = if j = 5000 - 1 then .returned (-1)
        else .waiting chunk (j + 1) (if i + 1 ≥ 100 then 0 else i + 1)) ∨
    (accesses file boardNo bus (.waiting chunk j i) = 1 ∧
      ((turn file boardNo bus download).phase = .next (chunk + 1) ∨
        ∃ ret, (turn file boardNo bus download).phase = .returned ret)) := by
  have turned : turn file boardNo bus download =
      download.turnWaiting file bus.fetched bus.written chunk j i := by
    rw [turn, waits]
  rw [turned, accesses]
  simp only [turnWaiting]
  cases fetched : bus.fetched with
  | failed =>
      have other : ¬ (Fetched.failed = .empty ∧ i + 1 ≥ 100) := by simp
      exact .inr ⟨if_neg other, .inr ⟨-1, rfl⟩⟩
  | empty =>
      refine .inl ⟨by simp, ?_⟩
      dsimp only
      split <;> rfl
  | frame data =>
      have other : ¬ (Fetched.frame data = .empty ∧ i + 1 ≥ 100) := by simp
      refine .inr ⟨if_neg other, ?_⟩
      dsimp only
      split
      · exact .inl rfl
      · exact .inr ⟨-1, rfl⟩

end Turns

/-! ## What the counted loops cost -/

/-- The reads and writes of all but the loop that waits for the device: 20000 reads and a write
at every hundredth behind the first request, 5000 and as many behind each chunk, and the
writes of the first frame, the chunks and the last frame. -/
def accessBound (length : Nat) : Nat := 20202 + 5051 * ((length + 7) / 8)

/-- What is left to read and write from a chunk on. -/
def chunksCost (file : List UInt8) (i : Nat) : Nat := ((totalFrames file).toNat - i) * 5051 + 1

/-- What is left to read and write in a loop with its counters. -/
def loopCost (bound j i : Nat) : Nat := (bound - j) + (bound - j + i) / 100

/-- What is left to read and write, at most. -/
def potential (file : List UInt8) : Phase → Nat
  | .opening => 1 + loopCost 20000 0 0 + chunksCost file 0
  | .request j i => loopCost 20000 j i + chunksCost file 0
  | .ready _ => chunksCost file 0
  | .next i => chunksCost file i
  | .waiting chunk j i => loopCost 5000 j i + chunksCost file (chunk + 1)
  | .returned _ => 0

/-- A turn of the loop that waits for the device. -/
def readyTurn : Phase → Nat
  | .ready _ => 1
  | _ => 0

/-- The counters are below their bounds. -/
def Counted : Phase → Prop
  | .request j i => j < 20000 ∧ i < 100
  | .waiting _ j i => j < 5000 ∧ i < 100
  | _ => True

/-- The call has returned. -/
def Returned (download : Download) : Prop := ∃ ret, download.phase = .returned ret

theorem toNat_totalFrames_le (file : List UInt8) :
    (totalFrames file).toNat ≤ (file.length + 7) / 8 := by
  have bounds := chunkCount_bounds file
  have wrapped : totalFrames file ≤ chunkCount file := by
    change Int.bmod (chunkCount file) 0x100000000 ≤ _
    simp only [Int.bmod]
    split
    · omega
    · omega
  omega

theorem potential_opening_le (file : List UInt8) :
    potential file .opening ≤ accessBound file.length := by
  have chunks := toNat_totalFrames_le file
  rw [potential, loopCost, chunksCost, accessBound]
  omega

/-- A turn of a loop that writes at every hundredth read. -/
theorem loopCost_step {bound j i : Nat} {hundredth : Prop} [Decidable hundredth]
    (bounded : j < bound) (agree : hundredth ↔ i + 1 = 100) :
    (if hundredth then 2 else 1) + loopCost bound (j + 1) (if hundredth then 0 else i + 1) ≤
      loopCost bound j i := by
  rw [loopCost, loopCost]
  split
  next again =>
    have last := agree.mp again
    omega
  next quiet => omega

section Accounts

variable (file boardNo) (bus : BusTurn) {download : Download}

theorem returned_turn (returned : Returned download) :
    Returned (turn file boardNo bus download) := by
  rcases returned with ⟨ret, phase⟩
  refine ⟨ret, ?_⟩
  rw [turn, phase]
  exact phase

/-- No turn but the last is free. -/
theorem access_of_busy (busy : ¬ Returned (turn file boardNo bus download)) :
    1 ≤ accesses file boardNo bus download.phase := by
  cases phase : download.phase with
  | opening =>
      rcases turn_opening file boardNo bus phase with ⟨-, cost, -⟩ | ⟨-, returned⟩
      · exact Nat.le_of_eq cost.symm
      · exact absurd returned busy
  | request j i =>
      rw [accesses]
      split <;> omega
  | ready readBuf => exact Nat.le_refl 1
  | next i =>
      rcases turn_next file boardNo bus phase with ⟨-, cost, -⟩ | ⟨-, returned⟩
      · exact Nat.le_of_eq cost.symm
      · exact absurd returned busy
  | waiting chunk j i =>
      rw [accesses]
      split <;> omega
  | returned ret => exact absurd (returned_turn file boardNo bus ⟨ret, phase⟩) busy

theorem counted_turn (counted : Counted download.phase) :
    Counted (turn file boardNo bus download).phase := by
  cases phase : download.phase with
  | opening =>
      rcases turn_opening file boardNo bus phase with ⟨-, -, next⟩ | ⟨-, ret, next⟩
      · rw [next]
        exact ⟨by decide, by decide⟩
      · rw [next]
        trivial
  | request j i =>
      rw [phase] at counted
      rcases counted with ⟨bounded, few⟩
      rcases turn_request file boardNo bus phase with ⟨-, -, next⟩ | ⟨-, -, next⟩ | ⟨-, next⟩
      · rw [next]
        trivial
      · rw [next]
        split
        · trivial
        · exact ⟨by omega, by split <;> omega⟩
      · rw [next]
        trivial
  | ready readBuf =>
      rw [turn_ready file boardNo bus phase]
      split <;> trivial
  | next i =>
      rcases turn_next file boardNo bus phase with ⟨-, -, next⟩ | ⟨-, ret, next⟩
      · rw [next]
        exact ⟨by decide, by decide⟩
      · rw [next]
        trivial
  | waiting chunk j i =>
      rw [phase] at counted
      rcases counted with ⟨bounded, few⟩
      rcases turn_waiting file boardNo bus phase with ⟨-, next⟩ | ⟨-, next | ⟨ret, next⟩⟩
      · rw [next]
        split
        · trivial
        · exact ⟨by omega, by split <;> omega⟩
      · rw [next]
        trivial
      · rw [next]
        trivial
  | returned ret =>
      rw [turn, phase]
      exact counted

/-- Every turn is paid from what is left, but for those of the loop that waits for the
device. -/
theorem access_paid (counted : Counted download.phase) :
    accesses file boardNo bus download.phase +
        potential file (turn file boardNo bus download).phase ≤
      potential file download.phase + readyTurn download.phase := by
  cases phase : download.phase with
  | opening =>
      rcases turn_opening file boardNo bus phase with ⟨-, cost, next⟩ | ⟨cost, ret, next⟩
      · rw [cost, next, potential, potential]
        omega
      · rw [next, potential, potential]
        omega
  | request j i =>
      rw [phase] at counted
      rcases counted with ⟨bounded, few⟩
      have paid := loopCost_step (i := i) bounded Iff.rfl
      rcases turn_request file boardNo bus phase with
        ⟨-, cost, next⟩ | ⟨-, cost, next⟩ | ⟨cost, next⟩
      · rw [cost, next, potential, potential, loopCost]
        omega
      · rw [cost, next]
        by_cases last : j = 20000 - 1
        · rw [if_pos last, potential, potential]
          omega
        · rw [if_neg last, potential, potential]
          omega
      · rw [cost, next, potential, potential, loopCost]
        omega
  | ready readBuf =>
      rw [turn_ready file boardNo bus phase]
      split
      · exact Nat.le_of_eq (Nat.add_comm _ _)
      · exact Nat.le_of_eq (Nat.add_comm _ _)
  | next i =>
      rcases turn_next file boardNo bus phase with ⟨more, cost, next⟩ | ⟨cost, ret, next⟩
      · rw [cost, next, potential, potential, loopCost, chunksCost, chunksCost]
        omega
      · rw [next, potential, potential, chunksCost]
        omega
  | waiting chunk j i =>
      rw [phase] at counted
      rcases counted with ⟨bounded, few⟩
      have hundredth : i + 1 ≥ 100 ↔ i + 1 = 100 := by omega
      have paid := loopCost_step bounded hundredth
      rcases turn_waiting file boardNo bus phase with ⟨cost, next⟩ | ⟨cost, next | ⟨ret, next⟩⟩
      · rw [cost, next]
        by_cases last : j = 5000 - 1
        · rw [if_pos last, potential, potential]
          omega
        · rw [if_neg last, potential, potential]
          omega
      · rw [cost, next, potential, potential, loopCost]
        omega
      · rw [cost, next, potential, potential, loopCost]
        omega
  | returned ret =>
      have stays : turn file boardNo bus download = download := by rw [turn, phase]
      rw [stays, phase]
      exact Nat.le_refl _

end Accounts

/-! ## Where the call is -/

section Runs

variable (file boardNo) (bus : Nat → BusTurn)

/-- How often it read in the loop that waits for the device. -/
abbrev readyTurnsAfter (turns : Nat) : Nat :=
  spent (turn file boardNo) (fun _ download => readyTurn download.phase) {} bus turns

/-- What the device answers behind the answer to the request. -/
abbrev behind (read : Nat) : Nat → BusTurn := fun m => bus (read + 1 + m)

/-- What held of the reads so far and holds of this one. -/
theorem forall_reads_succ {P : Nat → Prop} {last : Nat} (before : ∀ n, 1 ≤ n → n ≤ last → P n)
    (here : P (last + 1)) : ∀ n, 1 ≤ n → n ≤ last + 1 → P n := by
  intro n first upTo
  rcases Nat.lt_or_eq_of_le upTo with earlier | same
  · exact before n first (Nat.le_of_lt_succ earlier)
  · exact same ▸ here

/-- What brought the call where it is, up to the end of the loop that waits for the device. -/
def Located (turns waited : Nat) : Phase → Prop
  | .opening => turns = 0 ∧ waited = 0
  | .request j _ =>
      Started file (bus 0) ∧ turns = j + 1 ∧ waited = 0 ∧ j < 20000 ∧
        ∀ read, 1 ≤ read → read ≤ j → leavesRequest boardNo (bus read).fetched = true
  | .ready readBuf =>
      Started file (bus 0) ∧ ∃ read, AnsweredAt boardNo bus read ∧ turns = read + 1 + waited ∧
        readBuf = bufferAfter (behind bus read) waited ∧
        ∀ n, 1 ≤ n → n ≤ waited → ¬ ShowsReady boardNo (bufferAfter (behind bus read) n)
  | _ => True

variable {file boardNo bus} {download : Download} {turns waited : Nat}

theorem located_turn (located : Located file boardNo bus turns waited download.phase) :
    Located file boardNo bus (turns + 1) (waited + readyTurn download.phase)
      (turn file boardNo (bus turns) download).phase := by
  cases phase : download.phase with
  | opening =>
      rw [phase] at located
      rcases located with ⟨rfl, rfl⟩
      rcases turn_opening file boardNo (bus 0) phase with ⟨started, -, next⟩ | ⟨-, ret, next⟩
      · rw [next]
        exact ⟨started, rfl, rfl, by decide, fun read first last => by omega⟩
      · rw [next]
        trivial
  | request j i =>
      rw [phase] at located
      rcases located with ⟨started, rfl, rfl, bounded, leaves⟩
      rcases turn_request file boardNo (bus (j + 1)) phase with
        ⟨answers, -, next⟩ | ⟨leavesHere, -, next⟩ | ⟨-, next⟩
      · rw [next]
        refine ⟨started, j + 1, ⟨by omega, by omega, answers, ?_⟩, rfl, rfl, ?_⟩
        · exact fun earlier first before => leaves earlier first (by omega)
        · exact fun n first last => absurd (Nat.le_trans first last) (Nat.not_succ_le_zero 0)
      · rw [next]
        split
        · trivial
        · exact ⟨started, rfl, rfl, by omega, forall_reads_succ leaves leavesHere⟩
      · rw [next]
        trivial
  | ready readBuf =>
      rw [phase] at located
      rcases located with ⟨started, read, answered, rfl, rfl, notYet⟩
      rw [turn_ready file boardNo _ phase]
      split
      · trivial
      next notShown =>
        exact ⟨started, read, answered, rfl, rfl, forall_reads_succ notYet notShown⟩
  | next i =>
      rcases turn_next file boardNo (bus turns) phase with ⟨-, -, next⟩ | ⟨-, ret, next⟩
      all_goals
        rw [next]
        trivial
  | waiting chunk j i =>
      rcases turn_waiting file boardNo (bus turns) phase with ⟨-, next⟩ | ⟨-, next | ⟨ret, next⟩⟩
      · rw [next]
        split <;> trivial
      all_goals
        rw [next]
        trivial
  | returned ret =>
      rw [turn, phase]
      dsimp only
      rw [phase]
      trivial

variable (file boardNo bus) in
theorem located_after (turns : Nat) :
    Located file boardNo bus turns (readyTurnsAfter file boardNo bus turns)
      (after file boardNo bus turns).phase := by
  induction turns with
  | zero => exact ⟨rfl, rfl⟩
  | succ turns ih => exact located_turn ih

/-! ## When the call returns -/

/-- A device that is ready within some reads is not asked more often. -/
theorem readyTurns_le {patience : Nat} (ready : ReadyWithin file boardNo bus patience)
    (turns : Nat) : readyTurnsAfter file boardNo bus turns ≤ patience := by
  induction turns with
  | zero => exact Nat.zero_le _
  | succ turns ih =>
      have located := located_after file boardNo bus turns
      cases phase : (after file boardNo bus turns).phase with
      | ready readBuf =>
          rw [phase] at located
          rcases located with ⟨started, read, answered, -, -, notYet⟩
          rcases ready started read answered with ⟨n, first, last, shows⟩
          have later : readyTurnsAfter file boardNo bus turns < n := by
            apply Nat.lt_of_not_le
            intro already
            exact notYet n first already shows
          rw [readyTurnsAfter, spent, phase]
          exact Nat.le_trans later last
      | _ =>
          rw [readyTurnsAfter, spent, phase]
          exact ih

variable (file boardNo bus) in
/-- What it reads and writes is paid from the bound, but for the reads that wait for the
device. -/
theorem accessesAfter_le (turns : Nat) :
    accessesAfter file boardNo bus turns ≤
      accessBound file.length + readyTurnsAfter file boardNo bus turns := by
  have counted : Counted ({} : Download).phase := trivial
  have paid : accessesAfter file boardNo bus turns +
        potential file (after file boardNo bus turns).phase ≤
      potential file .opening + readyTurnsAfter file boardNo bus turns :=
    spent_add_potential_le (fun download : Download => Counted download.phase)
      (fun download : Download => potential file download.phase) counted
      (fun bus _ counted => counted_turn file boardNo bus counted)
      (fun bus _ counted => access_paid file boardNo bus counted) turns
  have start := potential_opening_le file
  omega

theorem le_accessesAfter (busy : ¬ Returned (after file boardNo bus turns)) :
    turns ≤ accessesAfter file boardNo bus turns :=
  le_spent Returned (fun bus _ => access_of_busy file boardNo bus)
    (fun bus _ => returned_turn file boardNo bus) busy

/-- When the device is ready in time, the call returns. -/
theorem endsWithin_of_readyWithin {patience : Nat}
    (ready : ReadyWithin file boardNo bus patience) :
    EndsWithin file boardNo bus (accessBound file.length + patience) := by
  have affordable (turns : Nat) :
      accessesAfter file boardNo bus turns ≤ accessBound file.length + patience := by
    have paid := accessesAfter_le file boardNo bus turns
    have few := readyTurns_le ready turns
    omega
  have returned : Returned (after file boardNo bus (accessBound file.length + patience + 1)) := by
    apply Classical.byContradiction
    intro busy
    have spent := le_accessesAfter busy
    have bound := affordable (accessBound file.length + patience + 1)
    omega
  rcases returned with ⟨ret, phase⟩
  exact ⟨_, ret, phase, affordable _⟩

/-- While the answer to the request is not there the call asks for it. -/
theorem phase_of_leaves (started : Started file (bus 0)) {j : Nat} (bounded : j < 20000)
    (leaves : ∀ read, 1 ≤ read → read ≤ j → leavesRequest boardNo (bus read).fetched = true) :
    ∃ i, (after file boardNo bus (j + 1)).phase = .request j i := by
  induction j with
  | zero => exact ⟨0, if_pos started⟩
  | succ j ih =>
      rcases ih (by omega) (fun read first last => leaves read first (by omega)) with ⟨i, phase⟩
      have here := leaves (j + 1) (by omega) (Nat.le_refl _)
      have turned := phase_turn_request file boardNo (bus (j + 1)) phase
      rw [turnRequest_of_leaves here, if_neg (by omega)] at turned
      exact ⟨_, turned⟩

/-- Behind the answer it waits as long as the device is not ready. -/
theorem phase_of_answered (started : Started file (bus 0)) {read : Nat}
    (answered : AnsweredAt boardNo bus read) {waited : Nat}
    (notYet : ∀ n, 1 ≤ n → n ≤ waited →
      ¬ ShowsReady boardNo (bufferAfter (behind bus read) n)) :
    (after file boardNo bus (read + 1 + waited)).phase =
      .ready (bufferAfter (behind bus read) waited) := by
  induction waited with
  | zero =>
      obtain ⟨j, rfl⟩ : ∃ j, read = j + 1 := ⟨read - 1, by have := answered.first; omega⟩
      have last := answered.last
      rcases phase_of_leaves started (by omega : j < 20000)
        (fun read first before => answered.before read first (by omega)) with ⟨i, phase⟩
      exact (phase_turn_request file boardNo (bus (j + 1)) phase).trans
        (turnRequest_of_answers answered.answers j i)
  | succ waited ih =>
      have phase := ih fun n first last => notYet n first (by omega)
      have here := notYet (waited + 1) (by omega) (Nat.le_refl _)
      exact (turn_ready file boardNo (bus (read + 1 + waited)) phase).trans (if_neg here)

/-- When the call returns, the device was ready in time. -/
theorem readyWithin_of_endsWithin {bound : Nat} (ends : EndsWithin file boardNo bus bound) :
    ReadyWithin file boardNo bus bound := by
  intro started read answered
  rcases ends with ⟨turns, ret, phase, few⟩
  apply Classical.byContradiction
  intro never
  have notYet : ∀ n, 1 ≤ n → n ≤ bound →
      ¬ ShowsReady boardNo (bufferAfter (behind bus read) n) :=
    fun n first last shows => never ⟨n, first, last, shows⟩
  have waits := phase_of_answered started answered notYet
  have busy : ¬ Returned (after file boardNo bus (read + 1 + bound)) := by
    rintro ⟨other, returned⟩
    cases waits.symm.trans returned
  have later : read + 1 + bound ≤ turns := by
    apply Nat.le_of_not_lt
    intro before
    exact busy (ended_of_le (fun bus _ => returned_turn file boardNo bus) ⟨ret, phase⟩
      (Nat.le_of_lt before))
  have spent := le_accessesAfter busy
  have more : accessesAfter file boardNo bus (read + 1 + bound) ≤
      accessesAfter file boardNo bus turns := spent_le_of_le later
  omega

end Runs

/-! ## The call in the system -/

section System

variable {file : List UInt8} {boardNo : Int} {download other next final : Download}
  {label : DownloadStep}

/-- A turn goes on from where the call is, whatever is under way. -/
theorem phase_turn_congr (bus : BusTurn) (same : download.phase = other.phase) :
    (turn file boardNo bus download).phase = (turn file boardNo bus other).phase := by
  rw [turn, turn, ← same]
  cases download.phase with
  | opening | request | ready => rfl
  | next i =>
      simp only [turnNext]
      split
      · split
        · rfl
        · split <;> rfl
      · rfl
  | waiting chunk j i =>
      simp only [turnWaiting]
      cases bus.fetched with
      | failed => rfl
      | empty =>
          dsimp only
          split <;> rfl
      | frame data =>
          dsimp only
          split <;> rfl
  | returned ret => exact same

theorem phase_fetch {reading : Reading} {fetched : Fetched} {left : Download}
    (read : download.fetch reading = some (fetched, left)) : left.phase = download.phase := by
  cases reading with
  | empty | failed =>
      cases read
      rfl
  | frame n =>
      rcases Option.map_eq_some_iff.mp read with ⟨reply, -, equal⟩
      cases equal
      rfl

/-- The checks in front of the first frame, as the system makes them. -/
theorem not_started_of_failed {opened statted written : Bool}
    (failed : ¬ opened ∨ ¬ statted ∨ file.length < 80 ∨ ¬ written) :
    ¬ Started file { opened, statted, written } := by
  rintro ⟨isOpened, isStatted, long, isWritten⟩
  rcases failed with closed | unknown | short | unsent
  · exact closed isOpened
  · exact unknown isStatted
  · exact Nat.not_lt.mpr long short
  · exact unsent isWritten

theorem phase_of_start {opened statted written : Bool}
    (stepped : Download.step file boardNo (.start opened statted written) download = some next) :
    next.phase = (turn file boardNo { opened, statted, written } download).phase := by
  simp only [Download.step] at stepped
  split at stepped
  next opening =>
    rw [turn, opening]
    split at stepped
    next failed =>
      cases stepped
      exact (if_neg (not_started_of_failed failed)).symm
    next passed =>
      cases stepped
      simp only [not_or, not_not, Nat.not_lt] at passed
      exact (if_pos ⟨passed.1, passed.2.1, passed.2.2.1, passed.2.2.2⟩).symm
  next => cases stepped

/-- A poll is a turn of the loop that the call is in, whatever it fetches. -/
theorem phase_of_poll {reading : Reading} {written : Bool}
    (stepped : Download.step file boardNo (.poll reading written) download = some next) :
    ∃ fetched, next.phase = (turn file boardNo { fetched, written } download).phase := by
  simp only [Download.step] at stepped
  split at stepped
  next fetched left waits read =>
    cases stepped
    exact ⟨fetched, (phase_turn_request file boardNo { fetched, written } waits).symm⟩
  next fetched left waits read =>
    cases stepped
    exact ⟨fetched, (turn_ready file boardNo { fetched, written } waits).symm⟩
  next fetched left waits read =>
    cases stepped
    have here : left.phase = .waiting _ _ _ := (phase_fetch read).trans waits
    refine ⟨fetched, ?_⟩
    rw [← phase_turn_congr _ (phase_fetch read), turn, here]
  next => cases stepped

/-- A step of the system leaves the call where it is, or is a turn of it. -/
theorem phase_of_step (stepped : Download.step file boardNo label download = some next) :
    next.phase = download.phase ∨
      ∃ bus, next.phase = (turn file boardNo bus download).phase := by
  cases label with
  | start opened statted written =>
      exact .inr ⟨{ opened, statted, written }, phase_of_start stepped⟩
  | poll reading written =>
      rcases phase_of_poll stepped with ⟨fetched, moves⟩
      exact .inr ⟨{ fetched, written }, moves⟩
  | write readOk written =>
      simp only [Download.step] at stepped
      split at stepped
      next i comes =>
        rw [Option.some.injEq] at stepped
        subst stepped
        refine .inr ⟨{ readOk, written }, ?_⟩
        rw [turn, comes]
      next => cases stepped
  | receive n =>
      rcases Option.map_eq_some_iff.mp stepped with ⟨frame, -, equal⟩
      exact .inl (equal ▸ rfl)
  | answer data =>
      simp only [Download.step] at stepped
      split at stepped
      · cases stepped
        exact .inl rfl
      · cases stepped
  | lose n | loseReply n =>
      rcases Option.map_eq_some_iff.mp stepped with ⟨gone, -, equal⟩
      exact .inl (equal ▸ rfl)

/-- Wherever a run of the system brings the call, some bus brings it there too. -/
theorem exists_bus_of_run {steps : List DownloadStep} {bus : Nat → BusTurn} {turns : Nat}
    (same : (after file boardNo bus turns).phase = download.phase)
    (reached : run (Download.step file boardNo) steps download = some final) :
    ∃ bus turns, (after file boardNo bus turns).phase = final.phase := by
  induction steps generalizing download bus turns with
  | nil =>
      cases reached
      exact ⟨bus, turns, same⟩
  | cons label steps ih =>
      obtain ⟨next, stepped, rest⟩ := Option.bind_eq_some_iff.mp reached
      rcases phase_of_step stepped with stays | ⟨outcome, moves⟩
      · exact ih (same.trans stays.symm) rest
      · let longer : Nat → BusTurn := fun n => if n = turns then outcome else bus n
        have before : after file boardNo longer turns = after file boardNo bus turns :=
          stateAfter_congr fun n earlier => if_neg (Nat.ne_of_lt earlier)
        have last : (after file boardNo longer (turns + 1)).phase = next.phase := by
          rw [after, stateAfter, show longer turns = outcome from if_pos rfl, moves]
          exact phase_turn_congr outcome ((congrArg phase before).trans same)
        exact ih last rest

end System

end Download

/-! ## The bound -/

/-- Over any class of files, boards and buses: the call returns after a number of reads and
writes that depends on the length of the file only, exactly if the device is ready within such
a number of reads after it answered the request. -/
theorem download_ends_iff (admitted : List UInt8 → Int → (Nat → BusTurn) → Prop) :
    (∃ bound : Nat → Nat, ∀ file boardNo bus, admitted file boardNo bus →
      Download.EndsWithin file boardNo bus (bound file.length)) ↔
    ∃ patience : Nat → Nat, ∀ file boardNo bus, admitted file boardNo bus →
      Download.ReadyWithin file boardNo bus (patience file.length) := by
  constructor
  · rintro ⟨bound, ends⟩
    exact ⟨bound, fun file boardNo bus admits =>
      Download.readyWithin_of_endsWithin (ends file boardNo bus admits)⟩
  · rintro ⟨patience, ready⟩
    exact ⟨fun length => Download.accessBound length + patience length,
      fun file boardNo bus admits =>
        Download.endsWithin_of_readyWithin (ready file boardNo bus admits)⟩

/-- A device that answers the request, is ready and echoes, each at the first read. -/
def promptDevice (n : Nat) : BusTurn :=
  { fetched := .frame <|
      if n = 1 then [0xFF, 0xFF, 1]
      else if n = 2 then [0xAA, 0xAA, 1]
      else chunkData countingFile ((n - 4) / 2) }

example :
    (Download.after countingFile 1 promptDevice 24).phase = .returned 0 ∧
      Download.accessesAfter countingFile 1 promptDevice 24 = 24 := by
  decide +kernel

/-- A device that answers the request and then is silent. -/
def silentDevice (n : Nat) : BusTurn :=
  if n = 1 then { fetched := .frame [0xFF, 0xFF, 1] } else {}

/-- The call never returns from a device that is silent behind its first answer. -/
theorem download_hangs :
    ¬ ∃ bound : Nat → Nat, ∀ file boardNo bus,
      Download.EndsWithin file boardNo bus (bound file.length) := by
  rintro ⟨bound, ends⟩
  have ready := Download.readyWithin_of_endsWithin (ends countingFile 1 silentDevice)
  have answered : Download.AnsweredAt 1 silentDevice 1 :=
    ⟨by decide, by decide, by decide, fun earlier first before => absurd before (by omega)⟩
  rcases ready (by decide) 1 answered with ⟨n, -, -, shows⟩
  have silent (n : Nat) :
      Download.bufferAfter (Download.behind silentDevice 1) n = List.replicate 8 0 := by
    induction n with
    | zero => rfl
    | succ n ih =>
        have other : silentDevice (1 + 1 + n) = {} := if_neg (by omega)
        rw [Download.bufferAfter, Download.behind, other]
        exact ih
  rw [silent n] at shows
  exact absurd shows (by decide)

end DrivingControl.Devices

import DrivingControl.Controler.Scheduler
import DrivingControl.Library.Run

/-!
# Commands and their acknowledgements

`SendCmdAndReceive` writes a command and waits at a semaphore for its acknowledgement,
which the receive loop leaves in one slot.  Neither the semaphore nor the slot is cleared
when the wait times out: what comes later is there for the next call.
-/

namespace DrivingControl.Controler

open DrivingControl.Comm DrivingControl.Library

/-- An acknowledgement, and the number of commands that had been written to the socket when
its frame was read. -/
structure Received where
  ack : ServerAck
  since : Nat
  deriving DecidableEq, Repr

/-- Where the caller is in `SendCmdAndReceive`. -/
inductive Caller where
  | idle
  /-- The command is written, and `lastCmd` is the one before. -/
  | written (cmd : Int)
  | waiting (cmd : Int)
  /-- The wait succeeded, and the slot is not copied. -/
  | woken (cmd : Int)
  deriving DecidableEq, Repr

/-- Where the receive loop is with an acknowledgement. -/
inductive Receiver where
  | idle
  | unpacked (received : Received)
  /-- Its command is `lastCmd`. -/
  | accepted (received : Received)
  /-- It is in the slot, and the semaphore is not posted. -/
  | stored
  deriving DecidableEq, Repr

/-- `CAgvScheduler` with the threads that meet at `cmdSem`. -/
structure Exchange where
  lastCmd : Int := 0
  lastCmdAck : Received
  cmdSem : Nat := 0
  caller : Caller := .idle
  /-- What the last call returned. -/
  ret : Int := 0
  /-- What the `ack` of the caller holds. -/
  ack : Received
  receiver : Receiver := .idle
  /-- The messages of the last read that are not yet unpacked. -/
  pending : List SchMessage := []
  /-- The number of commands written before the last read. -/
  readSince : Nat := 0
  /-- The number of commands written. -/
  writes : Nat := 0
  deriving DecidableEq, Repr

/-- What happens next. -/
inductive ExchangeStep where
  /-- A call up to the write, which needs a connection and can fail. -/
  | call (cmd : Int) (connected sent : Bool)
  /-- `lastCmd = cmd`. -/
  | assign
  /-- `sem_timedwait` takes a post. -/
  | wake
  | timeOut
  /-- `*ack = lastCmdAck`. -/
  | copy
  /-- A successful read of the receive loop. -/
  | read (bytes : List UInt8)
  /-- The next message, with what the memory of a local `ServerAck` holds. -/
  | unpack (fresh : ServerAck)
  /-- `ack.cmd == lastCmd`. -/
  | compare
  /-- `lastCmdAck = ack`. -/
  | store
  /-- `sem_post`. -/
  | post
  deriving DecidableEq, Repr

/-- Whether a step is one of the receive loop. -/
def ExchangeStep.receives : ExchangeStep → Bool
  | .read _ | .unpack _ | .compare | .store | .post => true
  | _ => false

/-- The command of a call that has written it. -/
def Caller.cmd? : Caller → Option Int
  | .idle => none
  | .written cmd | .waiting cmd | .woken cmd => some cmd

/-- Whether an accepted acknowledgement is not yet posted. -/
def Receiver.posting : Receiver → Bool
  | .accepted _ | .stored => true
  | _ => false

/-- An acknowledgement is for a command. -/
def Received.isFor (received : Received) (cmd : Int) : Prop := (received.ack.cmd.toNat : Int) = cmd

instance (received : Received) (cmd : Int) : Decidable (received.isFor cmd) :=
  inferInstanceAs (Decidable ((received.ack.cmd.toNat : Int) = cmd))

namespace Exchange

variable (beyond : Nat → UInt8)

/-- `SendCmdAndReceive` up to the write. -/
def call (cmd : Int) (connected sent : Bool) (exchange : Exchange) : Exchange :=
  if ¬ connected then { exchange with ret := -1 }
  else if ¬ sent then { exchange with ret := -2 }
  else { exchange with caller := .written cmd, writes := exchange.writes + 1 }

/-- The next message of a read; those with other commands do not meet the caller. -/
def unpack (fresh : ServerAck) (message : SchMessage) (rest : List SchMessage)
    (exchange : Exchange) : Exchange :=
  if message.cmd = serverResponseAck then
    { exchange with
      receiver := .unpacked ⟨fresh.unPackData message.data, exchange.readSince⟩
      pending := rest }
  else { exchange with pending := rest }

/-- One statement of the caller or of the receive loop. -/
def step : StepFn Exchange ExchangeStep
  | .call cmd connected sent, exchange =>
      if exchange.caller = .idle then some (exchange.call cmd connected sent) else none
  | .assign, exchange =>
      match exchange.caller with
      | .written cmd => some { exchange with lastCmd := cmd, caller := .waiting cmd }
      | _ => none
  | .wake, exchange =>
      match exchange.caller, exchange.cmdSem with
      | .waiting cmd, posts + 1 => some { exchange with cmdSem := posts, caller := .woken cmd }
      | _, _ => none
  | .timeOut, exchange =>
      match exchange.caller with
      | .waiting _ => some { exchange with caller := .idle, ret := 1 }
      | _ => none
  | .copy, exchange =>
      match exchange.caller with
      | .woken _ => some { exchange with caller := .idle, ret := 0, ack := exchange.lastCmdAck }
      | _ => none
  | .read bytes, exchange =>
      if exchange.receiver = .idle ∧ exchange.pending = [] then
        some { exchange with pending := runRead beyond bytes, readSince := exchange.writes }
      else none
  | .unpack fresh, exchange =>
      match exchange.receiver, exchange.pending with
      | .idle, message :: rest => some (exchange.unpack fresh message rest)
      | _, _ => none
  | .compare, exchange =>
      match exchange.receiver with
      | .unpacked received =>
          if received.isFor exchange.lastCmd then
            some { exchange with receiver := .accepted received }
          else some { exchange with receiver := .idle }
      | _ => none
  | .store, exchange =>
      match exchange.receiver with
      | .accepted received => some { exchange with lastCmdAck := received, receiver := .stored }
      | _ => none
  | .post, exchange =>
      match exchange.receiver with
      | .stored => some { exchange with cmdSem := exchange.cmdSem + 1, receiver := .idle }
      | _ => none

/-- The scheduler after its construction, with what its members and the caller's `ack` hold. -/
def boot (lastCmdAck ack : Received) : Exchange := { lastCmdAck, ack }

/-! ## What is to hold -/

/-- A call that returns 0 has an acknowledgement for its command, read after the command
was written. -/
def Matches (exchange : Exchange) (_ : ExchangeStep) (next : Exchange) : Prop :=
  ∀ cmd, exchange.caller.cmd? = some cmd → next.caller = .idle → next.ret = 0 →
    next.ack.isFor cmd ∧ exchange.writes ≤ next.ack.since

/-- A command is written while no acknowledgement waits to be consumed, and what is accepted
until the call returns is for the command and was read after it was written. -/
def Clean (exchange : Exchange) (label : ExchangeStep) (_ : Exchange) : Prop :=
  match label with
  | .call _ connected sent =>
      connected = true → sent = true →
        exchange.cmdSem = 0 ∧ exchange.receiver.posting = false
  | .compare =>
      ∀ received cmd, exchange.receiver = .unpacked received →
        received.isFor exchange.lastCmd → exchange.caller.cmd? = some cmd →
        exchange.lastCmd = cmd ∧ exchange.writes ≤ received.since
  | _ => True

variable {beyond} {exchange next : Exchange} {label : ExchangeStep}

/-! ## What a step does -/

/-- The steps that are possible, with what each leaves. -/
inductive Steps (beyond : Nat → UInt8) (exchange : Exchange) : ExchangeStep → Exchange → Prop
  | call {cmd connected sent} (idle : exchange.caller = .idle) :
      Steps beyond exchange (.call cmd connected sent) (exchange.call cmd connected sent)
  | assign {cmd} (calls : exchange.caller = .written cmd) :
      Steps beyond exchange .assign { exchange with lastCmd := cmd, caller := .waiting cmd }
  | wake {cmd posts} (calls : exchange.caller = .waiting cmd)
      (posted : exchange.cmdSem = posts + 1) :
      Steps beyond exchange .wake { exchange with cmdSem := posts, caller := .woken cmd }
  | timeOut {cmd} (calls : exchange.caller = .waiting cmd) :
      Steps beyond exchange .timeOut { exchange with caller := .idle, ret := 1 }
  | copy {cmd} (calls : exchange.caller = .woken cmd) :
      Steps beyond exchange .copy
        { exchange with caller := .idle, ret := 0, ack := exchange.lastCmdAck }
  | read {bytes} (idle : exchange.receiver = .idle) (nothing : exchange.pending = []) :
      Steps beyond exchange (.read bytes)
        { exchange with pending := runRead beyond bytes, readSince := exchange.writes }
  | unpack {fresh message rest} (idle : exchange.receiver = .idle)
      (waits : exchange.pending = message :: rest) :
      Steps beyond exchange (.unpack fresh) (exchange.unpack fresh message rest)
  | accept {received} (unpacked : exchange.receiver = .unpacked received)
      (same : received.isFor exchange.lastCmd) :
      Steps beyond exchange .compare { exchange with receiver := .accepted received }
  | drop {received} (unpacked : exchange.receiver = .unpacked received)
      (other : ¬received.isFor exchange.lastCmd) :
      Steps beyond exchange .compare { exchange with receiver := .idle }
  | store {received} (accepted : exchange.receiver = .accepted received) :
      Steps beyond exchange .store
        { exchange with lastCmdAck := received, receiver := .stored }
  | post (stored : exchange.receiver = .stored) :
      Steps beyond exchange .post
        { exchange with cmdSem := exchange.cmdSem + 1, receiver := .idle }

theorem steps_of_step (stepped : Exchange.step beyond label exchange = some next) :
    Steps beyond exchange label next := by
  cases label with
  | call cmd connected sent =>
      simp only [Exchange.step] at stepped
      split at stepped
      next idle =>
        cases stepped
        exact .call idle
      next => cases stepped
  | assign =>
      simp only [Exchange.step] at stepped
      split at stepped
      next cmd calls =>
        cases stepped
        exact .assign calls
      next => cases stepped
  | wake =>
      simp only [Exchange.step] at stepped
      split at stepped
      next cmd posts calls posted =>
        cases stepped
        exact .wake calls posted
      next => cases stepped
  | timeOut =>
      simp only [Exchange.step] at stepped
      split at stepped
      next cmd calls =>
        cases stepped
        exact .timeOut calls
      next => cases stepped
  | copy =>
      simp only [Exchange.step] at stepped
      split at stepped
      next cmd calls =>
        cases stepped
        exact .copy calls
      next => cases stepped
  | read bytes =>
      simp only [Exchange.step] at stepped
      split at stepped
      next waits =>
        cases stepped
        exact .read waits.1 waits.2
      next => cases stepped
  | unpack fresh =>
      simp only [Exchange.step] at stepped
      split at stepped
      next message rest idle waits =>
        cases stepped
        exact .unpack idle waits
      next => cases stepped
  | compare =>
      simp only [Exchange.step] at stepped
      split at stepped
      next received unpacked =>
        split at stepped
        next same =>
          cases stepped
          exact .accept unpacked same
        next other =>
          cases stepped
          exact .drop unpacked other
      next => cases stepped
  | store =>
      simp only [Exchange.step] at stepped
      split at stepped
      next received accepted =>
        cases stepped
        exact .store accepted
      next => cases stepped
  | post =>
      simp only [Exchange.step] at stepped
      split at stepped
      next stored =>
        cases stepped
        exact .post stored
      next => cases stepped

/-! ## The invariant -/

/-- While a call is in progress, what was accepted and not yet consumed is for its command,
and was read after the command was written. -/
structure Current (exchange : Exchange) : Prop where
  accepted : ∀ received cmd, exchange.receiver = .accepted received →
    exchange.caller.cmd? = some cmd → received.isFor cmd ∧ exchange.writes ≤ received.since
  stored : ∀ cmd, exchange.caller.cmd? = some cmd →
    exchange.receiver = .stored ∨ 0 < exchange.cmdSem ∨ exchange.caller = .woken cmd →
    exchange.lastCmdAck.isFor cmd ∧ exchange.writes ≤ exchange.lastCmdAck.since

/-- Between two calls there is nothing to hold. -/
theorem current_of_idle (idle : exchange.caller = .idle) : exchange.Current where
  accepted received cmd _ called := by simp [idle, Caller.cmd?] at called
  stored cmd called := by simp [idle, Caller.cmd?] at called

/-- The caller's part of a step: the slot and the receive loop stay. -/
theorem Current.caller (current : exchange.Current)
    (called : ∀ cmd, next.caller.cmd? = some cmd → exchange.caller.cmd? = some cmd)
    (posts : next.cmdSem ≤ exchange.cmdSem)
    (woken : ∀ cmd, next.caller = .woken cmd → 0 < exchange.cmdSem)
    (receiver : next.receiver = exchange.receiver)
    (slot : next.lastCmdAck = exchange.lastCmdAck) (writes : next.writes = exchange.writes) :
    next.Current where
  accepted received cmd accepted calls := by
    rw [writes]
    exact current.accepted received cmd (receiver ▸ accepted) (called cmd calls)
  stored cmd calls posted := by
    rw [writes, slot]
    refine current.stored cmd (called cmd calls) ?_
    rcases posted with stored | posted | wakes
    · exact .inl (receiver ▸ stored)
    · exact .inr (.inl (by omega))
    · exact .inr (.inl (woken cmd wakes))

/-- The receive loop's part of a step that neither accepts nor stores. -/
theorem Current.receiver (current : exchange.Current) (idle : next.receiver.posting = false)
    (caller : next.caller = exchange.caller) (posts : next.cmdSem = exchange.cmdSem)
    (slot : next.lastCmdAck = exchange.lastCmdAck) (writes : next.writes = exchange.writes) :
    next.Current where
  accepted received cmd accepted _ := by simp [accepted, Receiver.posting] at idle
  stored cmd calls posted := by
    rw [caller] at calls posted
    rw [posts] at posted
    rw [writes, slot]
    apply current.stored cmd calls
    rcases posted with stored | later
    · simp [stored, Receiver.posting] at idle
    · exact .inr later

/-- A command that is written while nothing waits to be consumed. -/
theorem current_call {cmd : Int} {connected sent : Bool} (idle : exchange.caller = .idle)
    (clean : Clean exchange (.call cmd connected sent) next) :
    (exchange.call cmd connected sent).Current := by
  rw [call]
  split
  · exact current_of_idle idle
  · split
    · exact current_of_idle idle
    next on written =>
      rcases clean (by simpa using on) (by simpa using written) with ⟨posts, posting⟩
      refine ⟨fun received other accepted => ?_, fun other _ posted => ?_⟩
      · have unposted : exchange.receiver = .accepted received := accepted
        simp [unposted, Receiver.posting] at posting
      · rcases posted with stored | posted | wakes
        · have unposted : exchange.receiver = .stored := stored
          simp [unposted, Receiver.posting] at posting
        · exact absurd posted (by simp [posts])
        · cases wakes

theorem Current.step (current : exchange.Current)
    (stepped : Exchange.step beyond label exchange = some next)
    (clean : Clean exchange label next) : next.Current := by
  cases steps_of_step stepped with
  | call idle => exact current_call idle clean
  | assign calls =>
      refine current.caller (fun other same => ?_) (Nat.le_refl _) nofun rfl rfl rfl
      rw [calls]
      exact same
  | wake calls posted =>
      refine current.caller (fun other same => ?_) (by simp [posted]) (fun _ _ => ?_) rfl rfl rfl
      · rw [calls]
        exact same
      · rw [posted]
        exact Nat.succ_pos _
  | timeOut calls => exact current_of_idle rfl
  | copy calls => exact current_of_idle rfl
  | read idle nothing => exact ⟨current.accepted, current.stored⟩
  | unpack idle waits =>
      rw [unpack]
      split
      · exact current.receiver rfl rfl rfl rfl rfl
      · exact ⟨current.accepted, current.stored⟩
  | @accept received unpacked same =>
      refine ⟨fun other cmd accepted calls => ?_, fun cmd calls posted => ?_⟩
      · cases accepted
        rcases clean received cmd unpacked same calls with ⟨assigned, later⟩
        exact ⟨assigned ▸ same, later⟩
      · rcases posted with stored | posted
        · cases stored
        · exact current.stored cmd calls (.inr posted)
  | drop unpacked other => exact current.receiver rfl rfl rfl rfl rfl
  | @store received accepted =>
      exact ⟨nofun, fun cmd calls _ => current.accepted received cmd accepted calls⟩
  | post stored => exact ⟨nofun, fun cmd calls _ => current.stored cmd calls (.inl stored)⟩

/-- A step of the receive loop leaves the call where it is. -/
theorem caller_step (receives : label.receives = true)
    (stepped : Exchange.step beyond label exchange = some next) :
    next.caller = exchange.caller := by
  cases steps_of_step stepped with
  | unpack idle waits =>
      rw [unpack]
      split <;> rfl
  | read | accept | drop | store | post => rfl
  | call | assign | wake | timeOut | copy => cases receives

/-- A call that returns 0 has copied the slot. -/
theorem Current.matches (current : exchange.Current)
    (stepped : Exchange.step beyond label exchange = some next) :
    Matches exchange label next := by
  intro cmd calls idle success
  cases steps_of_step stepped with
  | call before => simp [before, Caller.cmd?] at calls
  | assign | wake => cases idle
  | timeOut => cases success
  | copy woken =>
      rw [woken] at calls
      cases calls
      refine current.stored cmd ?_ (.inr (.inr woken))
      rw [woken]
      rfl
  | read | unpack | accept | drop | store | post =>
      rw [caller_step rfl stepped] at idle
      simp [idle, Caller.cmd?] at calls

/-- A call made while a post is left over can return at once, with an acknowledgement read
before its command was written. -/
theorem not_along_of_left_over (idle : exchange.caller = .idle) (posted : 0 < exchange.cmdSem)
    (past : exchange.lastCmdAck.since ≤ exchange.writes) (cmd : Int) :
    ¬ Along (step beyond) Matches [.call cmd true true, .assign, .wake, .copy] exchange := by
  obtain ⟨_, slot, cmdSem, caller, ret, ack, receiver, pending, _, writes⟩ := exchange
  cases idle
  cases cmdSem with
  | zero => exact absurd posted (Nat.lt_irrefl 0)
  | succ posts =>
      intro along
      have assigned := (along _ rfl).2
      have woken := (assigned _ rfl).2
      have copied := ((woken _ rfl).2 _ rfl).1 cmd rfl rfl rfl
      exact absurd copied.2 (Nat.not_le_of_lt (Nat.lt_succ_of_le past))

end Exchange

/-- A command is never acknowledged by what came before it, from any contents of the slot and
of the caller's `ack`, if every command is written while no acknowledgement waits to be
consumed, and what is accepted until its call returns is for it and was read after it. -/
theorem acknowledged_along (beyond : Nat → UInt8) (lastCmdAck ack : Received)
    (steps : List ExchangeStep)
    (clean : Along (Exchange.step beyond) Exchange.Clean steps (.boot lastCmdAck ack)) :
    Along (Exchange.step beyond) Exchange.Matches steps (.boot lastCmdAck ack) := by
  have initial : (Exchange.boot lastCmdAck ack).Current := Exchange.current_of_idle rfl
  apply along_of_guard _ _ initial clean
  · intro exchange label next current stepped met
    exact current.step stepped met
  · intro exchange label next current stepped _
    exact current.matches stepped

/-- An acknowledgement of `AgvReportStatus`. -/
def statusAck : SchMessage := ⟨1, serverResponseAck, [0x01, 0x01, 0, 0, 0, 0]⟩

/-- A report that is acknowledged in time. -/
theorem acknowledged_along_in_time :
    Along (Exchange.step fun _ => 0) Exchange.Matches
      [.call 0x0101 true true, .assign, .read (packData statusAck), .unpack ⟨0, 0, 0, none⟩,
        .compare, .store, .post, .wake, .copy]
      (.boot ⟨⟨0, 0, 0, none⟩, 0⟩ ⟨⟨0, 0, 0, none⟩, 0⟩) := by
  refine acknowledged_along (fun _ => 0) _ _ _ ?_
  have fits : statusAck.data.length + 8 ≤ bufferSize := by decide
  refine along_cons rfl (fun _ _ => ⟨rfl, rfl⟩) (along_cons rfl trivial ?_)
  refine along_cons (by simp only [Exchange.step, runRead_packData fits]; rfl) trivial ?_
  refine along_cons rfl trivial (along_cons rfl ?_ ?_)
  · intro received cmd unpacked _ calls
    cases unpacked
    cases calls
    exact ⟨rfl, by decide⟩
  · exact along_cons rfl trivial (along_cons rfl trivial (along_cons rfl trivial
      (along_cons rfl trivial trivial)))

/-- The acknowledgement of a report that timed out is taken for that of a request. -/
theorem late_acknowledgement :
    ¬ Along (Exchange.step fun _ => 0) Exchange.Matches
      [.call 0x0101 true true, .assign, .timeOut, .read (packData statusAck),
        .unpack ⟨0, 0, 0, none⟩, .compare, .store, .post,
        .call 0x0102 true true, .assign, .wake, .copy]
      (.boot ⟨⟨0, 0, 0, none⟩, 0⟩ ⟨⟨0, 0, 0, none⟩, 0⟩) := by
  intro along
  have fits : statusAck.data.length + 8 ≤ bufferSize := by decide
  have timedOut := (((along _ rfl).2 _ rfl).2 _ rfl).2
  have read := (timedOut _ (by simp only [Exchange.step, runRead_packData fits]; rfl)).2
  have posted := ((((read _ rfl).2 _ rfl).2 _ rfl).2 _ rfl).2
  exact Exchange.not_along_of_left_over rfl (by decide) (by decide) 0x0102 posted

end DrivingControl.Controler

import DrivingControl.Controler.Scheduler
import DrivingControl.Event.EventHelper
import DrivingControl.Library.Run

/-!
# The link to the scheduler

The threads in `CAgvScheduler::Run` connect to the server, and give the link up when a socket
call fails or when the server has not acknowledged anything for 52 idle turns.  `StartSchedule`
starts a thread whether there is one or not, and `StopSchedule` cancels the one that was started
last.  A thread that is left ends at its next turn.
-/

namespace DrivingControl.Controler

open DrivingControl.Comm DrivingControl.Event DrivingControl.Library

/-- `CAgvScheduler`, as far as its link goes, with the state of its `CAgvThread`. -/
structure SchedulerLink where
  loopEnable : Bool := false
  isConnected : Bool := false
  heartBeatTimeout : Int := 0
  heartBeatEnable : Bool := false
  /-- The threads in `Run`, by the order in which they were created. -/
  threads : List Nat := []
  created : Nat := 0
  /-- `m_thread`. -/
  thread : Option Nat := none
  /-- `m_running`. -/
  running : Bool := false
  deriving DecidableEq, Repr

/-- What `select` and the read behind it give. -/
inductive SelectResult where
  /-- An error, which is or is not `EINTR`. -/
  | failed (interrupted : Bool)
  | timedOut
  /-- The socket is not in the set. -/
  | otherSocket
  | readFailed
  | bytes (read : List UInt8)
  deriving DecidableEq, Repr

/-- What a turn of `Run` meets. -/
structure LinkTurn where
  /-- `SocketInit` returns 0. -/
  connects : Bool := true
  received : SelectResult := .timedOut
  deriving DecidableEq, Repr

namespace SchedulerLink

variable (beyond : Nat → UInt8) (link : SchedulerLink)

/-- `evSchedulerOnline` and `evSchedulerOffline`, as they are queued. -/
def online : AgvEvent := { event := .evSchedulerOnline, priority := normal }
def offline : AgvEvent := { event := .evSchedulerOffline, priority := important }

/-- `Disconnect`. -/
def disconnect : SchedulerLink × List AgvEvent :=
  if link.isConnected then
    ({ link with heartBeatTimeout := 0, isConnected := false }, [offline])
  else (link, [])

/-- `StartSchedule`. -/
def startSchedule : SchedulerLink :=
  { link with
    isConnected := false
    loopEnable := true
    heartBeatEnable := true
    threads := link.threads ++ [link.created]
    created := link.created + 1
    thread := some link.created
    running := true }

/-- `CAgvThread::Stop`. -/
def stop : SchedulerLink :=
  match link.thread with
  | none => link
  | some thread =>
      if link.running then { link with threads := link.threads.erase thread, running := false }
      else link

/-- `StopSchedule`. -/
def stopSchedule : SchedulerLink × List AgvEvent :=
  if link.loopEnable then
    let disconnected := { link with loopEnable := false }.disconnect
    (disconnected.1.stop, disconnected.2)
  else (link, [])

/-- The server has not answered for a turn. -/
def wait : SchedulerLink × List AgvEvent :=
  if link.heartBeatEnable then
    if link.heartBeatTimeout > 50 then { link with heartBeatTimeout := 0 }.disconnect
    else ({ link with heartBeatTimeout := link.heartBeatTimeout + 1 }, [])
  else (link, [])

/-- An acknowledgement is among the messages of a read. -/
def acknowledges (read : List UInt8) : Bool :=
  (runRead beyond read).any fun message => message.cmd == serverResponseAck

/-- The part of a turn behind `select`.  What other messages do is not part of the link. -/
def receive : SelectResult → SchedulerLink × List AgvEvent
  | .failed interrupted => if interrupted then (link, []) else link.disconnect
  | .timedOut => link.wait
  | .otherSocket => (link, [])
  | .readFailed => link.disconnect
  | .bytes read =>
      (if acknowledges beyond read then { link with heartBeatTimeout := 0 } else link, [])

/-- A turn of `Run`. -/
def run (turn : LinkTurn) : SchedulerLink × List AgvEvent :=
  if link.isConnected then link.receive beyond turn.received
  else if turn.connects then
    let received := { link with isConnected := true }.receive beyond turn.received
    (received.1, online :: received.2)
  else (link, [offline])

/-- A thread takes its turn, or ends. -/
def threadTurn (thread : Nat) (turn : LinkTurn) : Option (SchedulerLink × List AgvEvent) :=
  if thread ∈ link.threads then
    some (if link.loopEnable then link.run beyond turn
      else ({ link with threads := link.threads.erase thread }, []))
  else none

end SchedulerLink

/-- What happens to the link. -/
inductive LinkLabel where
  | startSchedule
  | stopSchedule
  | turn (thread : Nat) (turn : LinkTurn)
  deriving DecidableEq, Repr

/-- A label, and what it queues. -/
def SchedulerLink.act (beyond : Nat → UInt8) (link : SchedulerLink) :
    LinkLabel → Option (SchedulerLink × List AgvEvent)
  | .startSchedule => some (link.startSchedule, [])
  | .stopSchedule => some link.stopSchedule
  | .turn thread turn => link.threadTurn beyond thread turn

def linkStep (beyond : Nat → UInt8) : StepFn SchedulerLink LinkLabel :=
  fun label link => (link.act beyond label).map Prod.fst

/-! ## Giving the link up -/

/-- The server sends nothing, or nothing that acknowledges, and no call fails. -/
def SelectResult.Silent (beyond : Nat → UInt8) : SelectResult → Prop
  | .failed interrupted => interrupted = true
  | .readFailed => False
  | .bytes read => SchedulerLink.acknowledges beyond read = false
  | _ => True

/-- The number of turns in which nothing is received. -/
def idleTurns (turns : List (Nat × LinkTurn)) : Nat :=
  turns.countP fun pair => pair.2.received == .timedOut

namespace SchedulerLink

variable {beyond : Nat → UInt8} {link next : SchedulerLink} {events : List AgvEvent}

/-- What holds of every link. -/
structure Kept (link : SchedulerLink) : Prop where
  counted : 0 ≤ link.heartBeatTimeout ∧ link.heartBeatTimeout ≤ 51
  enabled : link.threads ≠ [] → link.heartBeatEnable = true
  connected : link.isConnected = true → link.loopEnable = true ∧ link.heartBeatEnable = true

theorem counted_zero : (0 : Int) ≤ 0 ∧ (0 : Int) ≤ 51 := by decide

theorem kept_disconnect (link : SchedulerLink)
    (counted : 0 ≤ link.heartBeatTimeout ∧ link.heartBeatTimeout ≤ 51)
    (enabled : link.threads ≠ [] → link.heartBeatEnable = true) :
    link.disconnect.1.Kept ∧ link.disconnect.1.isConnected = false := by
  rw [disconnect]
  split
  next => exact ⟨⟨counted_zero, enabled, nofun⟩, rfl⟩
  next down =>
    have still := Bool.eq_false_iff.mpr down
    refine ⟨⟨counted, enabled, fun connected => ?_⟩, still⟩
    rw [still] at connected
    cases connected

theorem kept_stop (kept : link.Kept) : link.stop.Kept := by
  rw [stop]
  split
  · exact kept
  · split
    · refine ⟨kept.counted, fun left => kept.enabled ?_, kept.connected⟩
      rintro empty
      dsimp only at left
      rw [empty] at left
      exact left rfl
    · exact kept

theorem kept_wait (kept : link.Kept) : link.wait.1.Kept := by
  rcases kept with ⟨⟨low, high⟩, enabled, connected⟩
  rw [wait]
  split
  · split
    · exact (kept_disconnect { link with heartBeatTimeout := 0 } counted_zero enabled).1
    next below => exact ⟨⟨by dsimp only; omega, by dsimp only; omega⟩, enabled, connected⟩
  · exact ⟨⟨low, high⟩, enabled, connected⟩

theorem kept_receive (kept : link.Kept) (received : SelectResult) :
    (link.receive beyond received).1.Kept := by
  cases received with
  | failed interrupted =>
      cases interrupted with
      | true => exact kept
      | false => exact (kept_disconnect link kept.counted kept.enabled).1
  | timedOut => exact kept_wait kept
  | otherSocket => exact kept
  | readFailed => exact (kept_disconnect link kept.counted kept.enabled).1
  | bytes read =>
      rw [receive]
      split
      · exact ⟨counted_zero, kept.enabled, kept.connected⟩
      · exact kept

theorem kept_startSchedule (kept : link.Kept) : link.startSchedule.Kept :=
  ⟨kept.counted, fun _ => rfl, nofun⟩

theorem kept_stopSchedule (kept : link.Kept) : link.stopSchedule.1.Kept := by
  rw [stopSchedule]
  split
  · exact kept_stop
      (kept_disconnect { link with loopEnable := false } kept.counted kept.enabled).1
  · exact kept

theorem kept_run (kept : link.Kept) (enable : link.loopEnable = true)
    (beats : link.heartBeatEnable = true) (turn : LinkTurn) : (link.run beyond turn).1.Kept := by
  rw [run]
  split
  · exact kept_receive kept turn.received
  · split
    · have up : Kept { link with isConnected := true } :=
        ⟨kept.counted, kept.enabled, fun _ => ⟨enable, beats⟩⟩
      exact kept_receive up turn.received
    · exact kept

theorem kept_act {label : LinkLabel} (kept : link.Kept)
    (acted : link.act beyond label = some (next, events)) : next.Kept := by
  cases label with
  | startSchedule =>
      cases acted
      exact kept_startSchedule kept
  | stopSchedule =>
      have same : link.stopSchedule = (next, events) := Option.some.inj acted
      have stopped := kept_stopSchedule kept
      rw [same] at stopped
      exact stopped
  | turn thread turn =>
      rw [act, threadTurn] at acted
      split at acted
      next alive =>
        have beats := kept.enabled (List.ne_nil_of_mem alive)
        split at acted
        next enable =>
          have same : link.run beyond turn = (next, events) := Option.some.inj acted
          have ran : (link.run beyond turn).1.Kept := kept_run kept enable beats turn
          rw [same] at ran
          exact ran
        next =>
          cases acted
          exact ⟨kept.counted, fun _ => beats, kept.connected⟩
      next => cases acted

/-- Two links with the same threads. -/
structure SameThreads (link next : SchedulerLink) : Prop where
  loopEnable : next.loopEnable = link.loopEnable
  threads : next.threads = link.threads
  thread : next.thread = link.thread
  running : next.running = link.running

theorem SameThreads.refl (link : SchedulerLink) : SameThreads link link := ⟨rfl, rfl, rfl, rfl⟩

theorem sameThreads_disconnect (link : SchedulerLink) : SameThreads link link.disconnect.1 := by
  rw [disconnect]
  split
  · exact ⟨rfl, rfl, rfl, rfl⟩
  · exact .refl link

theorem sameThreads_wait (link : SchedulerLink) : SameThreads link link.wait.1 := by
  rw [wait]
  split
  · split
    · have given := sameThreads_disconnect { link with heartBeatTimeout := 0 }
      exact ⟨given.loopEnable, given.threads, given.thread, given.running⟩
    · exact ⟨rfl, rfl, rfl, rfl⟩
  · exact .refl link

theorem sameThreads_receive (link : SchedulerLink) (received : SelectResult) :
    SameThreads link (link.receive beyond received).1 := by
  cases received with
  | failed interrupted =>
      cases interrupted with
      | true => exact .refl link
      | false => exact sameThreads_disconnect link
  | timedOut => exact sameThreads_wait link
  | otherSocket => exact .refl link
  | readFailed => exact sameThreads_disconnect link
  | bytes read =>
      rw [receive]
      split
      · exact ⟨rfl, rfl, rfl, rfl⟩
      · exact .refl link

theorem sameThreads_run (link : SchedulerLink) (turn : LinkTurn) :
    SameThreads link (link.run beyond turn).1 := by
  rw [run]
  split
  · exact sameThreads_receive link turn.received
  · split
    · let up : SchedulerLink := { link with isConnected := true }
      have received : SameThreads up (up.receive beyond turn.received).1 :=
        sameThreads_receive up turn.received
      exact ⟨received.loopEnable, received.threads, received.thread, received.running⟩
    · exact .refl link

theorem stop_of_running {thread : Nat} (last : link.thread = some thread)
    (running : link.running = true) :
    link.stop = { link with threads := link.threads.erase thread, running := false } := by
  rw [stop, last]
  exact if_pos running

theorem loopEnable_threadTurn {thread : Nat} {turn : LinkTurn}
    (turned : link.threadTurn beyond thread turn = some (next, events)) :
    next.loopEnable = link.loopEnable := by
  rw [threadTurn] at turned
  split at turned
  · split at turned
    · have ran : link.run beyond turn = (next, events) := Option.some.inj turned
      have same : SameThreads link (link.run beyond turn).1 := sameThreads_run link turn
      rw [ran] at same
      exact same.loopEnable
    · cases turned
      rfl
  · cases turned

/-- What a step announces.  A link that comes up may be given up at once. -/
inductive Announces (link next : SchedulerLink) : List AgvEvent → Prop where
  | nothing (same : next.isConnected = link.isConnected) : Announces link next []
  | down (down : next.isConnected = false) : Announces link next [offline]
  | up (was : link.isConnected = false) (up : next.isConnected = true) :
      Announces link next [online]
  | both (was : link.isConnected = false) (down : next.isConnected = false) :
      Announces link next [online, offline]

/-- A link that is up announces at most that it goes down. -/
theorem announces_disconnect (up : link.isConnected = true) :
    Announces link link.disconnect.1 link.disconnect.2 := by
  rw [disconnect, if_pos up]
  exact .down rfl

theorem announces_receive (up : link.isConnected = true) (received : SelectResult) :
    Announces link (link.receive beyond received).1 (link.receive beyond received).2 := by
  cases received with
  | failed interrupted =>
      cases interrupted with
      | true => exact .nothing rfl
      | false => exact announces_disconnect up
  | timedOut =>
      rw [receive, wait]
      split
      · split
        · rw [disconnect, if_pos up]
          exact .down rfl
        · exact .nothing rfl
      · exact .nothing rfl
  | otherSocket => exact .nothing rfl
  | readFailed => exact announces_disconnect up
  | bytes read =>
      rw [receive]
      split <;> exact .nothing rfl

theorem announces_run (link : SchedulerLink) (turn : LinkTurn) :
    Announces link (link.run beyond turn).1 (link.run beyond turn).2 := by
  cases connected : link.isConnected with
  | true =>
      rw [run, if_pos connected]
      exact announces_receive connected turn.received
  | false =>
      rw [run, if_neg (by simp [connected])]
      split
      · let up : SchedulerLink := { link with isConnected := true }
        have received : Announces up (up.receive beyond turn.received).1
          (up.receive beyond turn.received).2 := announces_receive rfl turn.received
        dsimp only
        generalize up.receive beyond turn.received = result at received
        rcases result with ⟨next, events⟩
        cases received with
        | nothing same => exact .up connected same
        | down given => exact .both connected given
        | up was | both was => cases was
      · exact .down connected

theorem announces_stopSchedule (link : SchedulerLink) :
    Announces link link.stopSchedule.1 link.stopSchedule.2 := by
  rw [stopSchedule]
  split
  · have still : ∀ link : SchedulerLink, link.stop.isConnected = link.isConnected := by
      intro link
      rw [stop]
      split
      · rfl
      · split <;> rfl
    rw [disconnect]
    split
    · exact .down (still _)
    · exact .nothing (still _)
  · exact .nothing rfl

theorem announces_threadTurn {thread : Nat} {turn : LinkTurn}
    (turned : link.threadTurn beyond thread turn = some (next, events)) :
    Announces link next events := by
  rw [threadTurn] at turned
  split at turned
  · split at turned
    · have ran : link.run beyond turn = (next, events) := Option.some.inj turned
      have announced : Announces link (link.run beyond turn).1 (link.run beyond turn).2 :=
        announces_run link turn
      rw [ran] at announced
      exact announced
    · cases turned
      exact .nothing rfl
  · cases turned

/-- What holds of a link that waits for an acknowledgement. -/
structure Awaits (link : SchedulerLink) : Prop where
  kept : link.Kept
  connected : link.isConnected = true

/-- A silent turn of any thread counts if nothing is received.  The 52nd that counts gives the
link up. -/
theorem threadTurn_silent (awaits : link.Awaits) {thread : Nat} {turn : LinkTurn}
    (alive : thread ∈ link.threads) (silent : turn.received.Silent beyond) :
    if turn.received = .timedOut then
      if link.heartBeatTimeout = 51 then
        link.threadTurn beyond thread turn = some
          ({ link with heartBeatTimeout := 0, isConnected := false }, [offline])
      else link.threadTurn beyond thread turn = some
          ({ link with heartBeatTimeout := link.heartBeatTimeout + 1 }, [])
    else link.threadTurn beyond thread turn = some (link, []) := by
  rcases awaits.kept.connected awaits.connected with ⟨enable, beats⟩
  have turned : link.threadTurn beyond thread turn =
      some (link.receive beyond turn.received) := by
    rw [threadTurn, if_pos alive, if_pos enable, run, if_pos awaits.connected]
  rw [turned]
  cases received : turn.received with
  | timedOut =>
      rw [if_pos rfl, receive, wait, if_pos beats]
      split
      next last =>
        rw [if_pos (by omega), disconnect]
        exact congrArg some (if_pos awaits.connected)
      next before =>
        have high := awaits.kept.counted.2
        rw [if_neg (by omega)]
  | failed interrupted =>
      rw [received] at silent
      have again : interrupted = true := silent
      rw [if_neg nofun, receive, if_pos again]
  | otherSocket => rw [if_neg nofun, receive]
  | readFailed =>
      rw [received] at silent
      exact silent.elim
  | bytes read =>
      rw [received] at silent
      have quiet : acknowledges beyond read = false := silent
      rw [if_neg nofun, receive, quiet]
      rfl

/-- A link that goes on without an acknowledgement. -/
def StaysUp (beyond : Nat → UInt8) (turns : List (Nat × LinkTurn)) (link : SchedulerLink) : Prop :=
  Along (linkStep beyond) (fun _ _ next => next.isConnected = true)
    (turns.map fun pair => .turn pair.1 pair.2) link

theorem staysUp_cons {pair : Nat × LinkTurn} {turns : List (Nat × LinkTurn)}
    (turned : link.threadTurn beyond pair.1 pair.2 = some (next, events)) :
    link.StaysUp beyond (pair :: turns) ↔
      next.isConnected = true ∧ next.StaysUp beyond turns := by
  have stepped : linkStep beyond (.turn pair.1 pair.2) link = some next := by
    rw [linkStep, act, turned]
    rfl
  constructor
  · exact fun up => up next stepped
  · exact fun up => along_cons stepped up.1 up.2

theorem staysUp_iff (awaits : link.Awaits) {turns : List (Nat × LinkTurn)}
    (alive : ∀ pair ∈ turns, pair.1 ∈ link.threads)
    (silent : ∀ pair ∈ turns, pair.2.received.Silent beyond) :
    link.StaysUp beyond turns ↔ link.heartBeatTimeout + idleTurns turns ≤ 51 := by
  induction turns generalizing link with
  | nil =>
      apply iff_of_true
      · trivial
      · have high := awaits.kept.counted.2
        simpa [idleTurns] using high
  | cons pair turns ih =>
      rw [List.forall_mem_cons] at alive silent
      have turned := threadTurn_silent awaits alive.1 silent.1
      rw [idleTurns, List.countP_cons, ← idleTurns]
      split at turned
      next idle =>
        have counts : (pair.2.received == .timedOut) = true := beq_iff_eq.mpr idle
        rw [if_pos counts, Int.natCast_add]
        split at turned
        next last =>
          rw [staysUp_cons turned]
          apply iff_of_false
          · rintro ⟨up, -⟩
            cases up
          · omega
        next before =>
          have next : Awaits { link with heartBeatTimeout := link.heartBeatTimeout + 1 } := by
            have kept := awaits.kept
            have counted := kept.counted
            exact ⟨⟨⟨by dsimp only; omega, by dsimp only; omega⟩, kept.enabled, kept.connected⟩,
              awaits.connected⟩
          rw [staysUp_cons turned, ih next alive.2 silent.2, and_iff_right awaits.connected]
          rw [Int.add_right_comm, Int.add_assoc]
          rfl
      next busy =>
        have counts : ¬ (pair.2.received == .timedOut) = true :=
          fun idle => busy (beq_iff_eq.mp idle)
        rw [if_neg counts, add_zero, staysUp_cons turned, ih awaits alive.2 silent.2,
          and_iff_right awaits.connected]

/-- In every run, whatever threads there are: the count of a link is never above 51, and without
an acknowledgement a connected link stays up exactly as long as no more than 51 turns are counted.
A turn counts if nothing at all is received in it. -/
theorem given_up_iff (beyond : Nat → UInt8) {labels : List LinkLabel} {link : SchedulerLink}
    (reached : Library.run (linkStep beyond) labels {} = some link) :
    0 ≤ link.heartBeatTimeout ∧ link.heartBeatTimeout ≤ 51 ∧
      (link.isConnected = true → ∀ turns : List (Nat × LinkTurn),
        (∀ pair ∈ turns, pair.1 ∈ link.threads) →
        (∀ pair ∈ turns, pair.2.received.Silent beyond) →
        (link.StaysUp beyond turns ↔ link.heartBeatTimeout + idleTurns turns ≤ 51)) := by
  have kept : link.Kept := by
    apply invariant_of_run _ (⟨counted_zero, nofun, nofun⟩ : Kept {}) reached
    intro before label after kept stepped
    rcases Option.map_eq_some_iff.mp stepped with ⟨⟨next, events⟩, acted, rfl⟩
    exact kept_act kept acted
  exact ⟨kept.counted.1, kept.counted.2,
    fun up _ alive silent => staysUp_iff ⟨kept, up⟩ alive silent⟩

/-- A server that has never sent anything. -/
theorem given_up_iff_mute :
    ∃ link, Library.run (linkStep fun _ => 0) [.startSchedule, .turn 0 {}] {} = some link ∧
      link.StaysUp (fun _ => 0) (List.replicate 50 (0, {})) ∧
      ¬ link.StaysUp (fun _ => 0) (List.replicate 51 (0, {})) := by
  let link : SchedulerLink :=
    { loopEnable := true
      isConnected := true
      heartBeatTimeout := 1
      heartBeatEnable := true
      threads := [0]
      created := 1
      thread := some 0
      running := true }
  have reached : Library.run (linkStep fun _ => 0) [.startSchedule, .turn 0 {}] {} =
      some link := rfl
  have alive (turns : Nat) :
      ∀ pair ∈ List.replicate turns ((0, {}) : Nat × LinkTurn), pair.1 ∈ link.threads := by
    intro pair mem
    rw [List.eq_of_mem_replicate mem]
    decide
  have silent (turns : Nat) :
      ∀ pair ∈ List.replicate turns ((0, {}) : Nat × LinkTurn),
        pair.2.received.Silent fun _ => 0 := by
    intro pair mem
    rw [List.eq_of_mem_replicate mem]
    trivial
  refine ⟨link, reached, ?_, ?_⟩
  · rw [(given_up_iff _ reached).2.2 rfl _ (alive 50) (silent 50)]
    decide
  · rw [(given_up_iff _ reached).2.2 rfl _ (alive 51) (silent 51)]
    decide

end SchedulerLink

end DrivingControl.Controler

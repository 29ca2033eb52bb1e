import DrivingControl.Library.Run
import Mathlib.Data.Finset.Basic
import Mathlib.Data.List.Nodup
import Mathlib.Logic.Function.Basic

/-!
# The socket server

`ServerRunning` serves its connections from one loop: `select` names the sockets that
are ready, and the loop goes through them by descriptor.  A message of two bytes
announces the id of a caller and enters it into `allConnInfo`.  Entries are erased when
a connection goes offline and when another connection takes an id over.

The registry knows a connection by its descriptor, which the system gives away again
once it is closed.  Connections are therefore told apart here by the number of their
accept.
-/

namespace DrivingControl.Comm

open DrivingControl.Library

/-- An entry of `allConnInfo`. -/
structure ConnInfo where
  /-- The id of the caller. -/
  id : Int
  fd : Nat
  deriving DecidableEq, Repr

/-- The registered callers, with the connections of the process. -/
structure Registry where
  allConnInfo : List ConnInfo := []
  /-- The connection that is open under a descriptor. -/
  connections : Nat → Option Nat := fun _ => none
  /-- The number of connections accepted so far. -/
  accepted : Nat := 0

structure SocketServer extends Registry where
  serverFd : Nat
  activeFdSet : Finset Nat := {serverFd}
  /-- The part of `read_fd_set` that the loop has not come to. -/
  readFdSet : List Nat := []
  /-- `ServerRunning` has not returned. -/
  running : Bool := true

/-- What the loop gets from the system. -/
inductive ServerInput where
  | select (ready : List Nat)
  | selectFails
  /-- A connection, and whether its options could be set. -/
  | accept (conn : Nat) (configured : Bool)
  | acceptFails
  /-- What is read from a client; nothing if it is offline or the read fails. -/
  | read (data : List UInt8)
  deriving DecidableEq, Repr

/-- The number of descriptors that an `fd_set` holds. -/
def fdSetSize : Nat := 1024

namespace SocketServer

/-- `close` and `FD_CLR`. -/
def clear (fd : Nat) (server : SocketServer) : SocketServer :=
  { server with
    connections := Function.update server.connections fd none
    activeFdSet := server.activeFdSet.erase fd }

/-- The branch for the server's own socket.  The system gives out a descriptor that is not
in use; `FD_SET` cannot hold one beyond the size of the set. -/
def acceptConnection (conn : Nat) (configured : Bool) (server : SocketServer) :
    Option SocketServer :=
  if conn < fdSetSize ∧ conn ≠ server.serverFd ∧ server.connections conn = none then
    let opened :=
      { server with
        connections := Function.update server.connections conn (some server.accepted)
        accepted := server.accepted + 1 }
    if configured then some { opened with activeFdSet := insert conn opened.activeFdSet }
    else some { opened with running := false }
  else none

end SocketServer

/-- The id of a keep-alive message. -/
def callerIdOf (high low : UInt8) : Int := high.toNat * 256 + low.toNat

/-- The loop of `processClentsKeepAliveData`: the entries it leaves, the descriptor it
closes, and `isIn`. -/
def searchCaller (id : Int) (fd : Nat) : List ConnInfo → List ConnInfo × Option Nat × Bool
  | [] => ([], none, false)
  | info :: rest =>
      if info.id = id then
        if info.fd ≠ fd then (rest, some info.fd, false)
        else
          let found := searchCaller id fd rest
          (info :: found.1, found.2.1, true)
      else
        let found := searchCaller id fd rest
        (info :: found.1, found.2)

namespace SocketServer

def processClientsKeepAliveData (fd : Nat) (high low : UInt8) (server : SocketServer) :
    SocketServer :=
  let id := callerIdOf high low
  let found := searchCaller id fd server.allConnInfo
  let cleared :=
    match found.2.1 with
    | some other => server.clear other
    | none => server
  { cleared with allConnInfo := if found.2.2 then found.1 else found.1 ++ [⟨id, fd⟩] }

/-- The branch for a client that is offline.  `close` fails for a descriptor that is not
open, and then `ServerRunning` returns. -/
def disconnect (fd : Nat) (server : SocketServer) : SocketServer :=
  if server.connections fd = none then { server with running := false }
  else
    { server.clear fd with
      allConnInfo := server.allConnInfo.eraseP (fun info => info.fd = fd) }

/-- The branch for a client's socket.  Nothing can be read from one that is closed.  Other
data than two bytes goes to the listener. -/
def readClient (fd : Nat) (data : List UInt8) (server : SocketServer) : Option SocketServer :=
  match data with
  | [] => some (server.disconnect fd)
  | first :: rest =>
      if server.connections fd = none then none
      else
        match rest with
        | [second] => some (server.processClientsKeepAliveData fd first second)
        | _ => some server

end SocketServer

/-- `ServerWriteToOneConnection`: the descriptor that is written to, and the result.  How
many bytes `write` takes is the system's. -/
def Registry.serverWriteToOneConnection (write : Nat → Int) (len callerId : Int)
    (registry : Registry) : Option Nat × Int :=
  match registry.allConnInfo.find? (fun info => info.id = callerId) with
  | some info => (some info.fd, if write info.fd ≠ len then -1 else 0)
  | none => (none, -2)

/-- One step of `ServerRunning`: the call of `select`, or the turn of the loop for the next
descriptor that is ready. -/
def serverStep : StepFn SocketServer ServerInput := fun input server =>
  if server.running then
    match input, server.readFdSet with
    | .select ready, [] =>
        if ready.Pairwise (· < ·) ∧ ∀ fd ∈ ready, fd ∈ server.activeFdSet then
          some { server with readFdSet := ready }
        else none
    | .selectFails, [] => some { server with running := false }
    | .accept conn configured, fd :: rest =>
        if fd = server.serverFd then
          { server with readFdSet := rest }.acceptConnection conn configured
        else none
    | .acceptFails, fd :: rest =>
        if fd = server.serverFd then some { server with readFdSet := rest, running := false }
        else none
    | .read data, fd :: rest =>
        if fd = server.serverFd then none
        else { server with readFdSet := rest }.readClient fd data
    | _, _ => none
  else none

/-! ## What is announced -/

/-- The history of announcements, the newest first: an id and the connection that sent it. -/
abbrev Announcements := List (Int × Nat)

/-- The announcement in what is read from a client. -/
def Registry.announcedBy (registry : Registry) (fd : Nat) : List UInt8 → Option (Int × Nat)
  | [high, low] => (registry.connections fd).map fun conn => (callerIdOf high low, conn)
  | _ => none

/-- The announcement that a step takes in. -/
def announcement (server : SocketServer) (input : ServerInput) : Option (Int × Nat) :=
  match input, server.readFdSet with
  | .read data, fd :: _ => server.announcedBy fd data
  | _, _ => none

/-- The server beside the history of announcements. -/
def watchedStep : StepFn (SocketServer × Announcements) ServerInput :=
  monitored serverStep fun server input _ announced =>
    (announcement server input).toList ++ announced

namespace Registry

/-- The connection is open. -/
def IsOpen (registry : Registry) (conn : Nat) : Prop :=
  ∃ fd, registry.connections fd = some conn

/-- Of the open connections that have announced the id, this one did so last. -/
def LastAnnouncer (registry : Registry) (announced : Announcements) (callerId : Int)
    (conn : Nat) : Prop :=
  registry.IsOpen conn ∧
    ∃ newer older, announced = newer ++ (callerId, conn) :: older ∧
      ∀ other, (callerId, other) ∈ newer → ¬ registry.IsOpen other

/-- The registry is exact: its entries are open, no id is in it twice, and a write goes to
the open connection that announced the id last, or fails if there is none. -/
structure Exact (registry : Registry) (announced : Announcements) : Prop where
  entriesOpen : ∀ info ∈ registry.allConnInfo, (registry.connections info.fd).isSome = true
  nodup : (registry.allConnInfo.map ConnInfo.id).Nodup
  writes : ∀ write len callerId,
    (∃ conn fd, registry.LastAnnouncer announced callerId conn ∧
      registry.connections fd = some conn ∧
      (registry.serverWriteToOneConnection write len callerId).1 = some fd) ∨
    ((∀ conn, ¬ registry.LastAnnouncer announced callerId conn) ∧
      registry.serverWriteToOneConnection write len callerId = (none, -2))

/-- The descriptor has at most one entry. -/
def AtMostOne (registry : Registry) (fd : Nat) : Prop :=
  ∀ first ∈ registry.allConnInfo, ∀ second ∈ registry.allConnInfo,
    first.fd = fd → second.fd = fd → first = second

instance (registry : Registry) (fd : Nat) : Decidable (registry.AtMostOne fd) :=
  inferInstanceAs (Decidable (∀ first ∈ registry.allConnInfo, _))

/-- The descriptor that is closed for what is read from a client: its own if it is offline,
or that of the connection whose id it takes over. -/
def closedBy (registry : Registry) (fd : Nat) : List UInt8 → Option Nat
  | [] => if registry.connections fd = none then none else some fd
  | [high, low] => (searchCaller (callerIdOf high low) fd registry.allConnInfo).2.1
  | _ => none

end Registry

/-- The descriptor that a step closes. -/
def closing (server : SocketServer) (input : ServerInput) : Option Nat :=
  match input, server.readFdSet with
  | .read data, fd :: _ => server.closedBy fd data
  | _, _ => none

/-- A connection that is closed has at most one entry in the registry. -/
def ClosesOneEntry (server : SocketServer) (input : ServerInput) : Prop :=
  ∀ fd ∈ closing server input, server.AtMostOne fd

/-! ## Moves of the registry -/

/-- What a step does to the registry, the descriptor it closes, and what is announced. -/
inductive RegistryMove (registry : Registry) :
    Registry → Option Nat → Option (Int × Nat) → Prop where
  | stay : RegistryMove registry registry none none
  | accept (fd : Nat) (free : registry.connections fd = none) :
      RegistryMove registry
        { registry with
          connections := Function.update registry.connections fd (some registry.accepted)
          accepted := registry.accepted + 1 } none none
  | offline (fd : Nat) (isOpen : registry.connections fd ≠ none) :
      RegistryMove registry
        { registry with
          connections := Function.update registry.connections fd none
          allConnInfo := registry.allConnInfo.eraseP (fun info => info.fd = fd) }
        (some fd) none
  /-- The id is new, or it is announced again. -/
  | announce (id : Int) (fd conn : Nat) (isOpen : registry.connections fd = some conn)
      (left : List ConnInfo) (isIn : Bool)
      (searched : searchCaller id fd registry.allConnInfo = (left, none, isIn)) :
      RegistryMove registry
        { registry with allConnInfo := if isIn then left else left ++ [⟨id, fd⟩] }
        none (some (id, conn))
  /-- The id is taken over from another connection. -/
  | takeOver (id : Int) (fd conn other : Nat) (isOpen : registry.connections fd = some conn)
      (left : List ConnInfo) (isIn : Bool)
      (searched : searchCaller id fd registry.allConnInfo = (left, some other, isIn)) :
      RegistryMove registry
        { registry with
          connections := Function.update registry.connections other none
          allConnInfo := if isIn then left else left ++ [⟨id, fd⟩] }
        (some other) (some (id, conn))

variable {server next : SocketServer} {input : ServerInput}

theorem readClient_move {fd : Nat} {data : List UInt8}
    (read : server.readClient fd data = some next) :
    RegistryMove server.toRegistry next.toRegistry (server.closedBy fd data)
      (server.announcedBy fd data) := by
  match data, read with
  | [], read =>
      cases read
      simp only [SocketServer.disconnect, Registry.closedBy]
      split
      · exact .stay
      next isOpen => exact .offline fd isOpen
  | first :: rest, read =>
      simp only [SocketServer.readClient, Option.ite_none_left_eq_some] at read
      rcases read with ⟨isOpen, read⟩
      rcases Option.ne_none_iff_exists'.mp isOpen with ⟨conn, named⟩
      match rest, read with
      | [second], read =>
          cases read
          simp only [Registry.announcedBy, Registry.closedBy, named, Option.map_some,
            SocketServer.processClientsKeepAliveData]
          rcases searched : searchCaller (callerIdOf first second) fd server.allConnInfo with
            ⟨left, _ | other, isIn⟩
          · exact .announce _ fd conn named left isIn searched
          · exact .takeOver _ fd conn other named left isIn searched
      | [], read => cases read; exact .stay
      | _ :: _ :: _, read => cases read; exact .stay

theorem acceptConnection_move {conn : Nat} {configured : Bool}
    (accepted : server.acceptConnection conn configured = some next) :
    RegistryMove server.toRegistry next.toRegistry none none := by
  simp only [SocketServer.acceptConnection, Option.ite_none_right_eq_some] at accepted
  rcases accepted with ⟨⟨-, -, free⟩, accepted⟩
  split at accepted
  · cases accepted
    exact .accept conn free
  · cases accepted
    exact .accept conn free

/-- Every step of the server moves its registry. -/
theorem serverStep_move (stepped : serverStep input server = some next) :
    RegistryMove server.toRegistry next.toRegistry (closing server input)
      (announcement server input) := by
  simp only [serverStep, Option.ite_none_right_eq_some] at stepped
  rcases stepped with ⟨-, stepped⟩
  cases input with
  | select ready =>
      cases waiting : server.readFdSet with
      | nil =>
          simp only [waiting, Option.ite_none_right_eq_some] at stepped
          cases stepped.2
          exact .stay
      | cons fd rest => simp [waiting] at stepped
  | selectFails =>
      cases waiting : server.readFdSet with
      | nil =>
          simp only [waiting] at stepped
          cases stepped
          exact .stay
      | cons fd rest => simp [waiting] at stepped
  | accept conn configured =>
      cases waiting : server.readFdSet with
      | nil => simp [waiting] at stepped
      | cons fd rest =>
          simp only [waiting, Option.ite_none_right_eq_some] at stepped
          exact @acceptConnection_move { server with readFdSet := rest } _ _ _ stepped.2
  | acceptFails =>
      cases waiting : server.readFdSet with
      | nil => simp [waiting] at stepped
      | cons fd rest =>
          simp only [waiting, Option.ite_none_right_eq_some] at stepped
          cases stepped.2
          exact .stay
  | read data =>
      cases waiting : server.readFdSet with
      | nil => simp [waiting] at stepped
      | cons fd rest =>
          simp only [waiting, Option.ite_none_left_eq_some] at stepped
          simp only [closing, announcement, waiting]
          exact @readClient_move { server with readFdSet := rest } _ _ _ stepped.2

/-! ## The registry against the announcements -/

/-- What holds as long as no connection is closed with entries left over. -/
structure Registry.Tracks (registry : Registry) (announced : Announcements) : Prop where
  numbered : ∀ fd conn, registry.connections fd = some conn → conn < registry.accepted
  apart : ∀ fd other conn, registry.connections fd = some conn →
    registry.connections other = some conn → fd = other
  earlier : ∀ id conn, (id, conn) ∈ announced → conn < registry.accepted
  nodup : (registry.allConnInfo.map ConnInfo.id).Nodup
  named : ∀ info ∈ registry.allConnInfo,
    ∃ conn, registry.connections info.fd = some conn ∧ (info.id, conn) ∈ announced
  entered : ∀ id conn fd, (id, conn) ∈ announced → registry.connections fd = some conn →
    ⟨id, fd⟩ ∈ registry.allConnInfo

/-- What the search finds among entries with different ids. -/
theorem searchCaller_cases (id : Int) (fd : Nat) {entries : List ConnInfo}
    (nodup : (entries.map ConnInfo.id).Nodup) :
    ((∀ info ∈ entries, info.id ≠ id) ∧ searchCaller id fd entries = (entries, none, false)) ∨
    (⟨id, fd⟩ ∈ entries ∧ searchCaller id fd entries = (entries, none, true)) ∨
    ∃ other, ⟨id, other⟩ ∈ entries ∧ other ≠ fd ∧
      searchCaller id fd entries = (entries.erase ⟨id, other⟩, some other, false) := by
  induction entries with
  | nil => exact .inl ⟨by simp, rfl⟩
  | cons info rest ih =>
      rw [List.map_cons, List.nodup_cons] at nodup
      by_cases same : info.id = id
      · subst same
        have absent : ∀ later ∈ rest, later.id ≠ info.id := fun later mem equal =>
          nodup.1 (equal ▸ List.mem_map_of_mem mem)
        by_cases own : info.fd = fd
        · subst own
          have unfound : searchCaller info.id info.fd rest = (rest, none, false) := by
            rcases ih nodup.2 with ⟨-, found⟩ | ⟨mem, -⟩ | ⟨other, mem, -⟩
            · exact found
            · exact absurd rfl (absent ⟨info.id, info.fd⟩ mem)
            · exact absurd rfl (absent ⟨info.id, other⟩ mem)
          refine .inr (.inl ⟨List.mem_cons_self, ?_⟩)
          simp [searchCaller, unfound]
        · refine .inr (.inr ⟨info.fd, List.mem_cons_self, own, ?_⟩)
          simp [searchCaller, own]
      · have later : searchCaller id fd (info :: rest) =
            (info :: (searchCaller id fd rest).1, (searchCaller id fd rest).2) := by
          rw [searchCaller, if_neg same]
        rw [later]
        rcases ih nodup.2 with ⟨absent, found⟩ | ⟨mem, found⟩ | ⟨other, mem, apart, found⟩
        · exact .inl ⟨List.forall_mem_cons.mpr ⟨same, absent⟩, by rw [found]⟩
        · exact .inr (.inl ⟨List.mem_cons_of_mem info mem, by rw [found]⟩)
        · refine .inr (.inr ⟨other, List.mem_cons_of_mem info mem, apart, ?_⟩)
          have other : (info == ⟨id, other⟩) = false :=
            beq_false_of_ne fun equal => same (congrArg ConnInfo.id equal)
          rw [found, List.erase_cons_tail (by simpa using other)]

/-- `eraseP` erases an entry of the descriptor, if there is one. -/
theorem eraseP_cases (fd : Nat) (entries : List ConnInfo) :
    ((∀ info ∈ entries, info.fd ≠ fd) ∧ entries.eraseP (fun info => info.fd = fd) = entries) ∨
    ∃ first ∈ entries, first.fd = fd ∧
      entries.eraseP (fun info => info.fd = fd) = entries.erase first := by
  by_cases some : ∃ info ∈ entries, info.fd = fd
  · rcases some with ⟨info, mem, same⟩
    rcases @List.exists_of_eraseP ConnInfo (fun info => info.fd = fd) _ info mem
      (decide_eq_true same) with ⟨first, front, back, before, matched, split, erased⟩
    have matched := of_decide_eq_true matched
    have outside : first ∉ front := fun inside => before first inside (decide_eq_true matched)
    refine .inr ⟨first, split ▸ by simp, matched, ?_⟩
    rw [erased, split, List.erase_append_right _ outside, List.erase_cons_head]
  · have none : ∀ info ∈ entries, info.fd ≠ fd := fun info mem same => some ⟨info, mem, same⟩
    exact .inl ⟨none, List.eraseP_of_forall_not fun info mem => by simpa using none info mem⟩

namespace Registry

variable {registry : Registry} {announced : Announcements} {id : Int} {fd conn : Nat}

theorem Tracks.nodupEntries (tracks : registry.Tracks announced) : registry.allConnInfo.Nodup :=
  tracks.nodup.of_map

/-- Without the only entry of a descriptor, none is left of it. -/
theorem Tracks.mem_erase (tracks : registry.Tracks announced) (one : registry.AtMostOne fd)
    {first : ConnInfo} (mem : first ∈ registry.allConnInfo) (named : first.fd = fd)
    (info : ConnInfo) :
    info ∈ registry.allConnInfo.erase first ↔ info ∈ registry.allConnInfo ∧ info.fd ≠ fd := by
  rw [tracks.nodupEntries.mem_erase_iff]
  constructor
  · rintro ⟨other, kept⟩
    exact ⟨kept, fun same => other (one info kept first mem same named)⟩
  · rintro ⟨kept, apart⟩
    refine ⟨?_, kept⟩
    rintro rfl
    exact apart named

/-- A descriptor of which an erased entry leaves none has had only that one. -/
theorem Tracks.atMostOne_of_erase (tracks : registry.Tracks announced) (first : ConnInfo)
    (none : ∀ info ∈ registry.allConnInfo.erase first, info.fd ≠ fd) :
    registry.AtMostOne fd := by
  have only : ∀ info ∈ registry.allConnInfo, info.fd = fd → info = first := by
    intro info mem same
    by_contra other
    exact none info (tracks.nodupEntries.mem_erase_iff.mpr ⟨other, mem⟩) same
  intro one mem other otherMem same otherSame
  rw [only one mem same, only other otherMem otherSame]

theorem Tracks.close (tracks : registry.Tracks announced) {left : List ConnInfo}
    (sub : left.Sublist registry.allConnInfo)
    (mem : ∀ info, info ∈ left ↔ info ∈ registry.allConnInfo ∧ info.fd ≠ fd) :
    Tracks { registry with
      connections := Function.update registry.connections fd none
      allConnInfo := left } announced := by
  have still : ∀ other conn, Function.update registry.connections fd none other = some conn ↔
      other ≠ fd ∧ registry.connections other = some conn := by
    intro other conn
    rw [Function.update_apply]
    split <;> simp [*]
  constructor
  case numbered => exact fun other conn opened => tracks.numbered other conn ((still _ _).mp opened).2
  case apart =>
    intro one other conn first second
    exact tracks.apart one other conn ((still _ _).mp first).2 ((still _ _).mp second).2
  case earlier => exact tracks.earlier
  case nodup => exact tracks.nodup.sublist (sub.map _)
  case named =>
    intro info inside
    rcases (mem info).mp inside with ⟨before, apart⟩
    rcases tracks.named info before with ⟨conn, opened, sent⟩
    exact ⟨conn, (still _ _).mpr ⟨apart, opened⟩, sent⟩
  case entered =>
    intro id conn other sent opened
    rcases (still _ _).mp opened with ⟨apart, before⟩
    exact (mem _).mpr ⟨tracks.entered id conn other sent before, apart⟩

theorem Tracks.accept (tracks : registry.Tracks announced)
    (free : registry.connections fd = none) :
    Tracks { registry with
      connections := Function.update registry.connections fd (some registry.accepted)
      accepted := registry.accepted + 1 } announced := by
  have opened : ∀ other conn,
      Function.update registry.connections fd (some registry.accepted) other = some conn ↔
        (other = fd ∧ conn = registry.accepted) ∨ registry.connections other = some conn := by
    intro other conn
    rw [Function.update_apply]
    split
    next same => simp [same, free, eq_comm]
    next apart => simp [apart]
  constructor
  case numbered =>
    intro other conn isOpen
    rcases (opened _ _).mp isOpen with ⟨-, rfl⟩ | before
    · exact Nat.lt_succ_self _
    · exact Nat.lt_succ_of_lt (tracks.numbered other conn before)
  case apart =>
    intro one other conn first second
    rcases (opened _ _).mp first with ⟨rfl, rfl⟩ | old
    · rcases (opened _ _).mp second with ⟨rfl, -⟩ | old
      · rfl
      · exact absurd (tracks.numbered _ _ old) (Nat.lt_irrefl _)
    · rcases (opened _ _).mp second with ⟨rfl, rfl⟩ | oldToo
      · exact absurd (tracks.numbered _ _ old) (Nat.lt_irrefl _)
      · exact tracks.apart one other conn old oldToo
  case earlier => exact fun id conn sent => Nat.lt_succ_of_lt (tracks.earlier id conn sent)
  case nodup => exact tracks.nodup
  case named =>
    intro info mem
    rcases tracks.named info mem with ⟨conn, isOpen, sent⟩
    exact ⟨conn, (opened _ _).mpr (.inr isOpen), sent⟩
  case entered =>
    intro id conn other sent isOpen
    rcases (opened _ _).mp isOpen with ⟨-, rfl⟩ | before
    · exact absurd (tracks.earlier id _ sent) (Nat.lt_irrefl _)
    · exact tracks.entered id conn other sent before

/-- A connection announces an id, and the entry for it is there afterwards. -/
theorem Tracks.announce (tracks : registry.Tracks announced)
    (isOpen : registry.connections fd = some conn) {entries : List ConnInfo}
    (nodup : (entries.map ConnInfo.id).Nodup)
    (mem : ∀ info, info ∈ entries ↔ info ∈ registry.allConnInfo ∨ info = ⟨id, fd⟩) :
    Tracks { registry with allConnInfo := entries } ((id, conn) :: announced) where
  numbered := tracks.numbered
  apart := tracks.apart
  earlier other sender sent := by
    rcases List.mem_cons.mp sent with equal | before
    · cases equal
      exact tracks.numbered fd conn isOpen
    · exact tracks.earlier other sender before
  nodup := nodup
  named info inside := by
    rcases (mem info).mp inside with before | rfl
    · rcases tracks.named info before with ⟨sender, opened, sent⟩
      exact ⟨sender, opened, List.mem_cons_of_mem _ sent⟩
    · exact ⟨conn, isOpen, List.mem_cons_self⟩
  entered other sender under sent opened := by
    apply (mem _).mpr
    rcases List.mem_cons.mp sent with equal | before
    · cases equal
      cases tracks.apart under fd conn opened isOpen
      exact .inr rfl
    · exact .inl (tracks.entered other sender under before opened)

theorem Tracks.announceNew (tracks : registry.Tracks announced)
    (isOpen : registry.connections fd = some conn)
    (absent : ∀ info ∈ registry.allConnInfo, info.id ≠ id) :
    Tracks { registry with allConnInfo := registry.allConnInfo ++ [⟨id, fd⟩] }
      ((id, conn) :: announced) := by
  apply tracks.announce isOpen
  · rw [List.map_append, List.nodup_append]
    refine ⟨tracks.nodup, List.nodup_singleton _, ?_⟩
    intro known mem new isNew equal
    rcases List.mem_map.mp mem with ⟨info, inside, rfl⟩
    exact absent info inside (equal.trans (List.mem_singleton.mp isNew))
  · intro info
    rw [List.mem_append, List.mem_singleton]

end Registry

variable {registry moved : Registry} {announced : Announcements} {closed : Option Nat}
  {sent : Option (Int × Nat)}

/-- A move that closes no connection with two entries keeps track of the announcements. -/
theorem RegistryMove.tracks (move : RegistryMove registry moved closed sent)
    (tracks : registry.Tracks announced) (one : ∀ fd ∈ closed, registry.AtMostOne fd) :
    moved.Tracks (sent.toList ++ announced) := by
  cases move with
  | stay => exact tracks
  | accept fd free => exact tracks.accept free
  | offline fd isOpen =>
      rcases eraseP_cases fd registry.allConnInfo with ⟨absent, erased⟩ | ⟨first, mem, named, erased⟩
      · rw [erased]
        apply tracks.close (List.Sublist.refl _)
        exact fun info => (and_iff_left_of_imp (absent info)).symm
      · rw [erased]
        exact tracks.close List.erase_sublist (tracks.mem_erase (one fd rfl) mem named)
  | announce id fd conn isOpen left isIn searched =>
      rcases searchCaller_cases id fd tracks.nodup with
        ⟨absent, found⟩ | ⟨mem, found⟩ | ⟨other, -, -, found⟩
      · cases searched.symm.trans found
        exact tracks.announceNew isOpen absent
      · cases searched.symm.trans found
        apply tracks.announce isOpen tracks.nodup
        intro info
        rw [or_iff_left_of_imp]
        rintro rfl
        exact mem
      · cases searched.symm.trans found
  | takeOver id fd conn other isOpen left isIn searched =>
      rcases searchCaller_cases id fd tracks.nodup with
        ⟨-, found⟩ | ⟨-, found⟩ | ⟨_, mem, apart, found⟩
      · cases searched.symm.trans found
      · cases searched.symm.trans found
      · cases searched.symm.trans found
        have cleared := tracks.close List.erase_sublist (tracks.mem_erase (one other rfl) mem rfl)
        apply cleared.announceNew
        · exact (Function.update_of_ne apart.symm _ _).trans isOpen
        · intro info inside same
          rcases tracks.nodupEntries.mem_erase_iff.mp inside with ⟨differs, before⟩
          exact differs (List.inj_on_of_nodup_map tracks.nodup before mem same)

/-- If the entries are open after a move, the connection it closes had at most one. -/
theorem RegistryMove.atMostOne (move : RegistryMove registry moved closed sent)
    (tracks : registry.Tracks announced)
    (entriesOpen : ∀ info ∈ moved.allConnInfo, (moved.connections info.fd).isSome = true) :
    ∀ fd ∈ closed, registry.AtMostOne fd := by
  cases move with
  | stay => simp
  | accept fd free => simp
  | announce id fd conn isOpen left isIn searched => simp
  | offline fd isOpen =>
      rintro _ ⟨⟩
      have apart : ∀ info ∈ registry.allConnInfo.eraseP (fun info => info.fd = fd),
          info.fd ≠ fd := by
        intro info mem same
        simpa [same] using entriesOpen info mem
      rcases eraseP_cases fd registry.allConnInfo with ⟨absent, -⟩ | ⟨first, -, -, erased⟩
      · intro info mem _ _ same
        exact absurd same (absent info mem)
      · rw [erased] at apart
        exact tracks.atMostOne_of_erase first apart
  | takeOver id fd conn other isOpen left isIn searched =>
      rintro _ ⟨⟩
      rcases searchCaller_cases id fd tracks.nodup with
        ⟨-, found⟩ | ⟨-, found⟩ | ⟨_, mem, apart, found⟩
      · cases searched.symm.trans found
      · cases searched.symm.trans found
      · cases searched.symm.trans found
        apply tracks.atMostOne_of_erase ⟨id, other⟩
        intro info mem same
        simpa [same] using entriesOpen info (List.mem_append_left _ mem)

/-- An open connection that has announced the id is the last one, if no other open one has. -/
theorem Registry.lastAnnouncer_of_mem {callerId : Int} {conn : Nat}
    (mem : (callerId, conn) ∈ announced) (isOpen : registry.IsOpen conn)
    (only : ∀ other, (callerId, other) ∈ announced → registry.IsOpen other → other = conn) :
    registry.LastAnnouncer announced callerId conn := by
  rcases List.eq_append_cons_of_mem mem with ⟨newer, older, split, outside⟩
  refine ⟨isOpen, newer, older, split, ?_⟩
  intro other inside otherOpen
  have announcedToo : (callerId, other) ∈ announced := split ▸ List.mem_append_left _ inside
  exact outside (only other announcedToo otherOpen ▸ inside)

theorem Registry.Tracks.exact (tracks : registry.Tracks announced) :
    registry.Exact announced where
  entriesOpen info mem := by
    rcases tracks.named info mem with ⟨conn, opened, -⟩
    rw [opened, Option.isSome_some]
  nodup := tracks.nodup
  writes write len callerId := by
    cases found : registry.allConnInfo.find? (fun info => info.id = callerId) with
    | none =>
        right
        rw [List.find?_eq_none] at found
        constructor
        · rintro conn ⟨⟨fd, opened⟩, newer, older, split, -⟩
          have mem := tracks.entered callerId conn fd (split ▸ by simp) opened
          exact found _ mem (decide_eq_true rfl)
        · rw [Registry.serverWriteToOneConnection, List.find?_eq_none.mpr found]
    | some info =>
        left
        have mem := List.mem_of_find?_eq_some found
        have named : info.id = callerId := by simpa using List.find?_some found
        subst named
        rcases tracks.named info mem with ⟨conn, opened, sent⟩
        refine ⟨conn, info.fd, ?_, opened, by rw [Registry.serverWriteToOneConnection, found]⟩
        apply Registry.lastAnnouncer_of_mem sent ⟨info.fd, opened⟩
        rintro other otherSent ⟨fd, otherOpen⟩
        -- Both are entered under the one id, so they are open under one descriptor.
        have entered := tracks.entered info.id other fd otherSent otherOpen
        have same := congrArg ConnInfo.fd (List.inj_on_of_nodup_map tracks.nodup entered mem rfl)
        rw [← same, otherOpen] at opened
        exact Option.some.inj opened

/-! ## Runs of the server -/

/-- The registry keeps track of the history beside it. -/
def Tracked (paired : SocketServer × Announcements) : Prop := paired.1.Tracks paired.2

/-- The registry is exact behind a step. -/
def ExactAfter (_ : SocketServer × Announcements) (_ : ServerInput)
    (next : SocketServer × Announcements) : Prop :=
  next.1.Exact next.2

def ClosesOneEntryBefore (paired : SocketServer × Announcements) (input : ServerInput)
    (_ : SocketServer × Announcements) : Prop :=
  ClosesOneEntry paired.1 input

theorem tracked_start (serverFd : Nat) : Tracked ({ serverFd }, []) := by
  constructor <;> simp

/-- In every run of the server the registry is exact in every state reached, exactly if no
connection is closed while it has two entries. -/
theorem registry_exact_iff (serverFd : Nat) (inputs : List ServerInput) :
    Along watchedStep ExactAfter inputs ({ serverFd }, []) ↔
      Along watchedStep ClosesOneEntryBefore inputs ({ serverFd }, []) := by
  apply along_iff_of_guard _ _ (tracked_start serverFd)
  · intro paired input next tracks stepped one
    rcases monitored_eq_some stepped with ⟨moved, heard⟩
    rw [Tracked, heard]
    exact (serverStep_move moved).tracks tracks one
  · intro paired input next tracks stepped
    rcases monitored_eq_some stepped with ⟨moved, heard⟩
    constructor
    · intro exactly
      exact (serverStep_move moved).atMostOne tracks exactly.entriesOpen
    · intro one
      rw [ExactAfter, heard]
      exact ((serverStep_move moved).tracks tracks one).exact

/-- The entries are open behind a step. -/
def OpenAfter (_ : SocketServer × Announcements) (_ : ServerInput)
    (next : SocketServer × Announcements) : Prop :=
  ∀ info ∈ next.1.allConnInfo, (next.1.connections info.fd).isSome = true

instance (paired next : SocketServer × Announcements) (input : ServerInput) :
    Decidable (OpenAfter paired input next) :=
  inferInstanceAs (Decidable (∀ info ∈ next.1.allConnInfo, _))

/-- A connection announces two ids and goes offline: one entry stays. -/
theorem entry_left_over :
    ¬ ∀ (serverFd : Nat) (inputs : List ServerInput),
      Along watchedStep ExactAfter inputs ({ serverFd }, []) := by
  intro all
  have opened : Along watchedStep OpenAfter
      [.select [3], .accept 4 true, .select [4], .read [0, 1], .select [4], .read [0, 2],
        .select [4], .read []] ({ serverFd := 3 }, []) :=
    along_mono (fun _ _ _ exactly => exactly.entriesOpen) (all 3 _)
  revert opened
  decide

end DrivingControl.Comm

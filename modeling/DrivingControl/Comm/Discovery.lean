import DrivingControl.Comm.EscapeCodec
import DrivingControl.Comm.Finder
import DrivingControl.Library.Run

/-!
# Looking for cars

A finder broadcasts its signal once a second, and a replier answers each signal that it hears
with three replies.  Datagrams may be lost, repeated and reordered.

A reply goes to the port that the replier is bound to.  `StartService` binds no port for a finder,
so its socket has the one that the system chose, and the replies reach it only if the two happen
to be the same.
-/

namespace DrivingControl.Comm

open DrivingControl.Library

/-- The size of `recvBuf`. -/
def recvBufSize : Nat := 256

/-- `CAgvFinder` in its thread, with its socket. -/
structure FinderService where
  finder : AgvFinder
  /-- The address of the host. -/
  address : Text
  /-- The port of the socket: the one a replier is bound to, or the one the system chose. -/
  port : Nat
  broadcastPort : Nat
  sendTimes : Int := 0
  deriving DecidableEq, Repr

/-- A datagram: who sent it, the address and the port it goes to.  A broadcast has no address. -/
structure Datagram (stations : Nat) where
  sender : Fin stations
  target : Option Text
  port : Nat
  bytes : List UInt8
  deriving DecidableEq, Repr

namespace FinderService

variable (service : FinderService)

/-- The payload of `SendFindSignal`. -/
def findData : List UInt8 := packShort service.finder.agvId

/-- `SendFindSignal`. -/
def sendFindSignal (times : Int) : FinderService :=
  { service with
    finder := { service.finder with
      agvList := []
      sendBuf := packData { type := 2, cmd := cmdFind, data := service.findData } }
    sendTimes := times * 10 }

/-- What a turn of `Run` without data sends as a finder. -/
def sendTurn : FinderService × List (Option Text × List UInt8) :=
  if service.sendTimes > 0 ∧ service.finder.sendBuf ≠ [] then
    let sendTimes := service.sendTimes - 1
    ({ service with sendTimes },
      if sendTimes % 10 = 0 then [(none, service.finder.sendBuf)] else [])
  else (service, [])

/-- What it sends as a replier. -/
def replyTurn : FinderService × List (Option Text × List UInt8) :=
  if service.finder.replyTimes > 0 ∧ service.finder.sendBuf ≠ [] then
    let replyTimes := service.finder.replyTimes - 1
    ({ service with finder := { service.finder with replyTimes } },
      if replyTimes % 10 = 0 then [(some service.finder.replyIp, service.finder.sendBuf)] else [])
  else (service, [])

/-- A turn of `Run` in which `select` times out. -/
def timeout : FinderService × List (Option Text × List UInt8) :=
  let sent := service.sendTurn
  let replied := sent.1.replyTurn
  (replied.1, sent.2 ++ replied.2)

/-- A turn of `Run` in which a datagram is read. -/
def receive (beyond : Nat → UInt8) (ip : Text) (bytes : List UInt8) : FinderService :=
  { service with
    finder := (service.finder.onReceiveData beyond ip (bytes.take recvBufSize)).1 }

end FinderService

/-- The services, and every datagram that was sent. -/
structure Discovery (stations : Nat) where
  service : Fin stations → FinderService
  sent : List (Datagram stations) := []

/-- What happens in the network. -/
inductive DiscoveryLabel (stations : Nat) where
  | findSignal (station : Fin stations) (times : Int)
  | timeout (station : Fin stations)
  /-- A datagram arrives, by its place among those that were sent. -/
  | deliver (station : Fin stations) (datagram : Nat)
  deriving DecidableEq, Repr

variable {stations : Nat}

namespace Discovery

/-- A service takes its turn. -/
def turn (network : Discovery stations) (station : Fin stations) (service : FinderService) :
    Discovery stations :=
  { network with service := Function.update network.service station service }

/-- A datagram goes to the socket of a service. -/
def Reaches (network : Discovery stations) (datagram : Datagram stations)
    (station : Fin stations) : Prop :=
  datagram.port = (network.service station).port ∧
    (datagram.target = none ∨ datagram.target = some (network.service station).address)

instance (network : Discovery stations) (datagram : Datagram stations) (station : Fin stations) :
    Decidable (network.Reaches datagram station) := inferInstanceAs (Decidable (_ ∧ _))

/-- The datagrams that a service has written. -/
def datagrams (network : Discovery stations) (station : Fin stations)
    (written : List (Option Text × List UInt8)) : List (Datagram stations) :=
  written.map fun (target, bytes) =>
    { sender := station, target, port := (network.service station).broadcastPort, bytes }

end Discovery

/-- A step of the network.  What is sent stays, so that it may arrive late, again or never. -/
def discoveryStep (beyond : Nat → UInt8) : StepFn (Discovery stations) (DiscoveryLabel stations)
  | .findSignal station times, network =>
      if (network.service station).finder.workMode = .finder then
        some (network.turn station ((network.service station).sendFindSignal times))
      else none
  | .timeout station, network =>
      let turned := (network.service station).timeout
      some { network.turn station turned.1 with
        sent := network.sent ++ network.datagrams station turned.2 }
  | .deliver station index, network =>
      match network.sent[index]? with
      | none => none
      | some datagram =>
          if network.Reaches datagram station then
            some (network.turn station ((network.service station).receive beyond
              (network.service datagram.sender).address datagram.bytes))
          else none

/-! ## Stations -/

/-- What a service is set up with, and keeps. -/
structure Station where
  workMode : FinderMode
  agvId : UInt16
  agvPid : Text
  localIp : Text
  address : Text
  port : Nat
  broadcastPort : Nat
  deriving DecidableEq, Repr

/-- The station of a service. -/
def FinderService.station (service : FinderService) : Station where
  workMode := service.finder.workMode
  agvId := service.finder.agvId
  agvPid := service.finder.agvPid
  localIp := service.finder.localIp
  address := service.address
  port := service.port
  broadcastPort := service.broadcastPort

namespace Station

/-- The message of a station: the signal of a finder, or the reply of a replier. -/
def message (station : Station) : SchMessage :=
  match station.workMode with
  | .finder => { type := 2, cmd := cmdFind, data := packShort station.agvId }
  | .replier =>
      { type := 2
        cmd := cmdReply
        data := packShort station.agvId ++ textField station.agvPid ++ textField station.localIp }

def frame (station : Station) : List UInt8 := packData station.message

/-- What a finder records of a car. -/
def entry (station : Station) : FinderReply where
  id := station.agvId
  agvPid := (cText station.agvPid).take 15
  ipAddress := station.address

theorem length_data_le (station : Station) : station.message.data.length ≤ 34 := by
  cases mode : station.workMode with
  | finder => simp [message, mode, length_packShort]
  | replier => simp [message, mode, length_packShort, AgvFinder.length_textField]

end Station

/-! ## What a station makes of another's frame -/

namespace FinderService

variable {service : FinderService}

/-- A finder records a replier, a replier answers a finder. -/
def hear (service : FinderService) (sender : Station) : FinderService :=
  match service.finder.workMode, sender.workMode with
  | .finder, .replier =>
      { service with
        finder := service.finder.addFindedList sender.address sender.entry.id sender.entry.agvPid }
  | .replier, .finder =>
      { service with finder := service.finder.replyFindSignal sender.address 3 }
  | _, _ => service

end FinderService

theorem AgvFinder.onReceiveData_packData (beyond : Nat → UInt8) (ip : Text) {message : SchMessage}
    (fits : message.data.length + 8 ≤ bufferSize) (finder : AgvFinder) :
    ∃ protocol, unPackData beyond (packData message) = .ok protocol ∧
      protocol.message = message ∧
      finder.onReceiveData beyond ip (packData message) =
        (finder.onFrame beyond ip protocol, 1) := by
  obtain ⟨protocol, accepted, packed, left⟩ := unPackData_packData beyond message fits []
  rw [List.append_nil] at accepted
  refine ⟨protocol, accepted, packed, ?_⟩
  rw [onReceiveData, receiveFrames]
  split
  next refused => cases accepted.symm.trans refused
  next other unpacked =>
    cases accepted.symm.trans unpacked
    simp [left]

theorem length_packData_le (message : SchMessage) :
    (packData message).length ≤ 2 * (8 + message.data.length) + 2 := by
  have escaped := length_encode_le (packBody message (UInt16.ofNat (message.data.length + 6))
    (Utils.getCrc16 ((packBody message (UInt16.ofNat (message.data.length + 6)) 0).drop 4) 0))
  rw [length_packBody] at escaped
  have cut : (message.data.take (UInt16.ofNat (message.data.length + 6) - 6).toNat).length ≤
      message.data.length := List.length_take_le' _ _
  rw [packData, List.length_cons, List.length_append, List.length_singleton]
  omega

/-- The size of `sendBuf`. -/
def sendBufSize : Nat := 64

/-- At most fifteen bytes of a text field are escaped. -/
theorem length_encode_textField_le (text : Text) : (encode (textField text)).length ≤ 31 := by
  have cut : ((cText text).take 15).length ≤ 15 := List.length_take_le _ _
  have escaped := length_encode_le ((cText text).take 15)
  have zeros : encode (List.replicate (16 - ((cText text).take 15).length) 0) = _ :=
    encode_ascii fun byte mem => by rw [List.eq_of_mem_replicate mem]; decide
  rw [textField, encode, List.flatMap_append, ← encode, ← encode, List.length_append, zeros,
    List.length_replicate]
  omega

theorem encode_textField_ascii {text : Text} (ascii : ∀ byte ∈ text, byte.toNat < 128) :
    encode (textField text) = textField text := by
  apply encode_ascii
  intro byte mem
  rcases List.mem_append.mp mem with character | zero
  · exact ascii byte (List.takeWhile_subset _ (List.mem_of_mem_take character))
  · rw [List.eq_of_mem_replicate zero]
    decide

/-- The bytes of a reply between its markers. -/
theorem length_encode_reply_le {station : Station} (replies : station.workMode = .replier)
    (ascii : ∀ byte ∈ station.localIp, byte.toNat < 128) (checkSum : UInt16) :
    (encode (packBody station.message (UInt16.ofNat (station.message.data.length + 6))
      checkSum)).length ≤ 62 := by
  have message : station.message =
      { type := 2
        cmd := cmdReply
        data := packShort station.agvId ++ textField station.agvPid ++
          textField station.localIp } := by
    rw [Station.message, replies]
  have data : station.message.data.length = 34 := by
    rw [message]
    simp [length_packShort, AgvFinder.length_textField]
  have sum := length_encode_le (packShort checkSum)
  have id := length_encode_le (packShort station.agvId)
  have product := length_encode_textField_le station.agvPid
  have address : (encode (textField station.localIp)).length = 16 := by
    rw [encode_textField_ascii ascii, AgvFinder.length_textField]
  have length : (encode (packShort (UInt16.ofNat (34 + 6)))).length = 2 := by decide
  have type : (encode (packShort 2)).length = 2 := by decide
  have cmd : (encode (packShort cmdReply)).length = 3 := by decide
  have whole : station.message.data.take (UInt16.ofNat (34 + 6) - 6).toNat =
      station.message.data := List.take_of_length_le (by rw [data]; decide)
  rw [length_packShort] at sum id
  rw [packBody, data, whole, message]
  simp only [encode, List.flatMap_append, List.length_append] at *
  omega

/-- The buffer has room for the frame of every station, to its last byte, if the address that
the station was set up with is one in ASCII characters. -/
theorem Station.length_frame_le {station : Station}
    (ascii : ∀ byte ∈ station.localIp, byte.toNat < 128) :
    station.frame.length ≤ sendBufSize := by
  cases mode : station.workMode with
  | finder =>
      have short := length_packData_le station.message
      have data : station.message.data.length = 2 := by
        simp [message, mode, length_packShort]
      rw [frame, sendBufSize]
      omega
  | replier =>
      have body := length_encode_reply_le mode ascii
        (Utils.getCrc16 ((packBody station.message
          (UInt16.ofNat (station.message.data.length + 6)) 0).drop 4) 0)
      rw [frame, packData, List.length_cons, List.length_append, List.length_singleton,
        sendBufSize]
      omega

/-- What a station makes of another's message. -/
theorem AgvFinder.onFrame_message (beyond : Nat → UInt8) (ip : Text) {protocol : UnPacked}
    {buf : List UInt8} (accepted : unPackData beyond buf = .ok protocol) {sender : Station}
    (packed : protocol.message = sender.message) (finder : AgvFinder) :
    finder.onFrame beyond ip protocol =
      match finder.workMode, sender.workMode with
      | .finder, .replier => finder.addFindedList ip sender.entry.id sender.entry.agvPid
      | .replier, .finder => finder.replyFindSignal ip 3
      | _, _ => finder := by
  cases mode : finder.workMode with
  | finder =>
      cases other : sender.workMode with
      | finder => simp [onFrame, mode, packed, Station.message, other, cmdFind, cmdReply]
      | replier =>
          rw [Station.message, other] at packed
          exact onFrame_replyFindSignal beyond accepted
            { workMode := .replier, agvPid := sender.agvPid, agvId := sender.agvId,
              localIp := sender.localIp } packed ip mode
  | replier =>
      cases other : sender.workMode with
      | finder => simp [onFrame, mode, packed, Station.message, other]
      | replier => simp [onFrame, mode, packed, Station.message, other, cmdFind, cmdReply]

/-- A frame that arrives is heard. -/
theorem FinderService.receive_frame (beyond : Nat → UInt8) (service : FinderService)
    (sender : Station) :
    service.receive beyond sender.address sender.frame = service.hear sender := by
  have short := sender.length_data_le
  have length := length_packData_le sender.message
  have whole : sender.frame.take recvBufSize = sender.frame :=
    List.take_of_length_le (by rw [recvBufSize, Station.frame]; omega)
  obtain ⟨protocol, accepted, packed, received⟩ := service.finder.onReceiveData_packData beyond
    sender.address (show sender.message.data.length + 8 ≤ bufferSize by rw [bufferSize]; omega)
  rw [receive, whole, Station.frame, received,
    AgvFinder.onFrame_message beyond sender.address accepted packed, hear]
  cases service.finder.workMode with
  | finder => cases sender.workMode with
    | finder => rfl
    | replier => rfl
  | replier => cases sender.workMode with
    | finder => rfl
    | replier => rfl

/-! ## The part a station takes -/

namespace FinderService

variable {service : FinderService} {written : Option Text × List UInt8}

theorem station_sendTurn (service : FinderService) :
    service.sendTurn.1.station = service.station := by
  rw [sendTurn]
  split
  · rfl
  · rfl

theorem station_replyTurn (service : FinderService) :
    service.replyTurn.1.station = service.station := by
  rw [replyTurn]
  split
  · rfl
  · rfl

theorem station_timeout (service : FinderService) :
    service.timeout.1.station = service.station :=
  (station_replyTurn _).trans (station_sendTurn service)

/-- A service that hears a station changes nothing, records a replier it does not know, or
answers a finder. -/
theorem hear_cases (service : FinderService) (sender : Station) :
    service.hear sender = service ∨
    (service.finder.workMode = .finder ∧ sender.workMode = .replier ∧
      (∀ entry ∈ service.finder.agvList, entry.ipAddress ≠ sender.address) ∧
      service.hear sender =
        { service with
          finder := { service.finder with agvList := service.finder.agvList ++ [sender.entry] } }) ∨
    (service.finder.workMode = .replier ∧ sender.workMode = .finder ∧
      service.hear sender =
        { service with finder := service.finder.replyFindSignal sender.address 3 }) := by
  rw [hear]
  split
  next finds replies =>
    rw [AgvFinder.addFindedList]
    split
    next => exact Or.inl rfl
    next absent =>
      have unknown : ∀ entry ∈ service.finder.agvList, entry.ipAddress ≠ sender.address := by
        intro entry mem same
        exact absent (List.any_eq_true.mpr ⟨entry, mem, beq_iff_eq.mpr same⟩)
      exact Or.inr (Or.inl ⟨finds, replies, unknown, rfl⟩)
  next replies finds => exact Or.inr (Or.inr ⟨replies, finds, rfl⟩)
  next => exact Or.inl rfl

theorem station_hear (service : FinderService) (sender : Station) :
    (service.hear sender).station = service.station := by
  rcases service.hear_cases sender with same | ⟨-, -, -, same⟩ | ⟨-, -, same⟩
  · rw [same]
  · rw [same]
    rfl
  · rw [same]
    rfl

theorem finder_sendTurn (service : FinderService) :
    service.sendTurn.1.finder = service.finder := by
  rw [sendTurn]
  split
  · rfl
  · rfl

/-- A turn without data changes nothing of a finder but how often it still replies. -/
theorem finder_timeout (service : FinderService) :
    ∃ replyTimes ≤ service.finder.replyTimes,
      service.timeout.1.finder = { service.finder with replyTimes } := by
  rw [timeout, replyTurn, ← finder_sendTurn service]
  split
  next replies => exact ⟨_, by omega, rfl⟩
  next => exact ⟨_, Int.le_refl _, rfl⟩

/-- A service has packed nothing but its own frame, and sends in its own role alone. -/
structure InRole (service : FinderService) : Prop where
  packed : service.finder.sendBuf = [] ∨ service.finder.sendBuf = service.station.frame
  finder : service.finder.workMode = .finder → service.finder.replyTimes ≤ 0
  replier : service.finder.workMode = .replier → service.sendTimes ≤ 0

theorem InRole.sendTurn (inRole : service.InRole) : service.sendTurn.1.InRole := by
  rw [FinderService.sendTurn]
  split
  next sends =>
    exact { inRole with
      replier := by
        intro mode
        have idle := inRole.replier mode
        exact absurd sends.1 (by omega) }
  next => exact inRole

theorem InRole.replyTurn (inRole : service.InRole) : service.replyTurn.1.InRole := by
  rw [FinderService.replyTurn]
  split
  next replies =>
    exact { inRole with
      finder := by
        intro mode
        have idle := inRole.finder mode
        exact absurd replies.1 (by omega) }
  next => exact inRole

theorem InRole.timeout (inRole : service.InRole) : service.timeout.1.InRole :=
  inRole.sendTurn.replyTurn

theorem InRole.sendFindSignal (inRole : service.InRole) (times : Int)
    (mode : service.finder.workMode = .finder) : (service.sendFindSignal times).InRole where
  packed := by
    apply Or.inr
    have message : (service.sendFindSignal times).station.message =
        { type := 2, cmd := cmdFind, data := service.findData } := by
      simp only [Station.message, station, FinderService.sendFindSignal, mode]
      rfl
    rw [Station.frame, message]
    rfl
  finder := inRole.finder
  replier other := by cases mode.symm.trans other

theorem InRole.hear (inRole : service.InRole) (sender : Station) :
    (service.hear sender).InRole := by
  rcases service.hear_cases sender with same | ⟨-, -, -, same⟩ | ⟨replies, -, same⟩
  · rw [same]
    exact inRole
  · rw [same]
    exact { inRole with }
  · rw [same]
    exact {
      packed := by
        have message : service.station.message =
            { type := 2, cmd := cmdReply, data := service.finder.replyData } := by
          simp only [Station.message, station, replies]
          rfl
        rw [Station.frame]
        exact Or.inr (congrArg packData message.symm)
      finder := by
        intro mode
        cases mode.symm.trans replies
      replier := inRole.replier }

theorem InRole.of_mem_sendTurn (inRole : service.InRole) (mem : written ∈ service.sendTurn.2) :
    service.finder.workMode = .finder ∧ written = (none, service.station.frame) := by
  rw [FinderService.sendTurn] at mem
  split at mem
  next sends =>
    have own := inRole.packed.resolve_left sends.2
    have mode : service.finder.workMode = .finder := by
      cases mode : service.finder.workMode with
      | finder => rfl
      | replier => exact absurd sends.1 (Int.not_lt.mpr (inRole.replier mode))
    apply And.intro mode
    dsimp only at mem
    split at mem
    next => rw [List.mem_singleton.mp mem, own]
    next => cases mem
  next => cases mem

theorem InRole.of_mem_replyTurn (inRole : service.InRole) (mem : written ∈ service.replyTurn.2) :
    service.finder.workMode = .replier ∧ 0 < service.finder.replyTimes ∧
      written = (some service.finder.replyIp, service.station.frame) := by
  rw [FinderService.replyTurn] at mem
  split at mem
  next replies =>
    have own := inRole.packed.resolve_left replies.2
    have mode : service.finder.workMode = .replier := by
      cases mode : service.finder.workMode with
      | finder => exact absurd replies.1 (Int.not_lt.mpr (inRole.finder mode))
      | replier => rfl
    apply And.intro mode
    dsimp only at mem
    split at mem
    next => exact ⟨replies.1, by rw [List.mem_singleton.mp mem, own]⟩
    next => cases mem
  next => cases mem

/-- What a service writes in a turn of `Run` without data. -/
theorem InRole.of_mem_timeout (inRole : service.InRole) (mem : written ∈ service.timeout.2) :
    service.finder.workMode = .finder ∧ written = (none, service.station.frame) ∨
      service.finder.workMode = .replier ∧ 0 < service.finder.replyTimes ∧
        written = (some service.finder.replyIp, service.station.frame) := by
  rcases List.mem_append.mp mem with sent | replied
  · exact Or.inl (inRole.of_mem_sendTurn sent)
  · have reply := inRole.sendTurn.of_mem_replyTurn replied
    rw [station_sendTurn, finder_sendTurn] at reply
    exact Or.inr reply

end FinderService

/-! ## The network -/

namespace Discovery

variable {station : Fin stations → Station} {network : Discovery stations} {i : Fin stations}
  {service : FinderService}

/-- A finder whose signal a replier hears has this address. -/
def Calls (station : Fin stations → Station) (ip : Text) (replier : Fin stations) : Prop :=
  ∃ caller, (station caller).workMode = .finder ∧ (station caller).address = ip ∧
    (station caller).broadcastPort = (station replier).port

/-- A replier that answers to the port of a finder. -/
def Answers (station : Fin stations → Station) (replier finder : Fin stations) : Prop :=
  (station finder).workMode = .finder ∧ (station replier).workMode = .replier ∧
    (station replier).broadcastPort = (station finder).port ∧
      Calls station (station finder).address replier

/-- A service at its place: it is in its role, answers only those that it heard, and has recorded
only those that answered, each of them once. -/
structure Placed (station : Fin stations → Station) (i : Fin stations) (service : FinderService) :
    Prop where
  kept : service.station = station i
  inRole : service.InRole
  called : service.finder.workMode = .replier → 0 < service.finder.replyTimes →
    Calls station service.finder.replyIp i
  found : ∀ entry ∈ service.finder.agvList, ∃ j, Answers station j i ∧ entry = (station j).entry
  distinct : (service.finder.agvList.map FinderReply.ipAddress).Nodup

/-- A datagram that a station sends: a broadcast to the port of its own choice, or a reply. -/
def Sends (station : Fin stations → Station) (datagram : Datagram stations) : Prop :=
  datagram.port = (station datagram.sender).broadcastPort ∧
    datagram.bytes = (station datagram.sender).frame ∧
      ((station datagram.sender).workMode = .finder ∧ datagram.target = none ∨
        (station datagram.sender).workMode = .replier ∧
          ∃ ip, datagram.target = some ip ∧ Calls station ip datagram.sender)

/-- The services are at their places, and the datagrams are theirs. -/
structure Sound (station : Fin stations → Station) (network : Discovery stations) : Prop where
  placed : ∀ i, Placed station i (network.service i)
  sent : ∀ datagram ∈ network.sent, Sends station datagram

theorem Placed.sendFindSignal (placed : Placed station i service)
    (mode : service.finder.workMode = .finder) (times : Int) :
    Placed station i (service.sendFindSignal times) where
  kept := placed.kept
  inRole := placed.inRole.sendFindSignal times mode
  called other := by cases mode.symm.trans other
  found _ mem := by cases mem
  distinct := List.nodup_nil

theorem Placed.timeout (placed : Placed station i service) :
    Placed station i service.timeout.1 := by
  obtain ⟨replyTimes, fewer, finder⟩ := service.finder_timeout
  exact {
    kept := service.station_timeout.trans placed.kept
    inRole := placed.inRole.timeout
    called := by
      rw [finder]
      intro mode replies
      exact placed.called mode (Int.lt_of_lt_of_le replies fewer)
    found := by
      rw [finder]
      exact placed.found
    distinct := by
      rw [finder]
      exact placed.distinct }

theorem Placed.hear {sender : Fin stations} (placed : Placed station i service)
    (answers : (station i).workMode = .finder → (station sender).workMode = .replier →
      Answers station sender i)
    (calls : (station i).workMode = .replier → (station sender).workMode = .finder →
      Calls station (station sender).address i) :
    Placed station i (service.hear (station sender)) := by
  have mode : service.finder.workMode = (station i).workMode :=
    congrArg Station.workMode placed.kept
  have kept := (service.station_hear (station sender)).trans placed.kept
  have inRole := placed.inRole.hear (station sender)
  rcases service.hear_cases (station sender) with same |
    ⟨finds, replies, unknown, same⟩ | ⟨replies, finds, same⟩
  · rw [same]
    exact placed
  · rw [same] at kept inRole ⊢
    exact {
      kept
      inRole
      called := by
        intro replier
        cases finds.symm.trans replier
      found := by
        intro entry mem
        rcases List.mem_append.mp mem with old | new
        · exact placed.found entry old
        · exact ⟨sender, answers (mode.symm.trans finds) replies, List.mem_singleton.mp new⟩
      distinct := by
        rw [List.map_append]
        apply placed.distinct.append (List.nodup_singleton _)
        intro ip mem new
        obtain ⟨entry, old, rfl⟩ := List.mem_map.mp mem
        exact unknown entry old (List.mem_singleton.mp new) }
  · rw [same] at kept inRole ⊢
    exact {
      kept
      inRole
      called := fun _ _ => calls (mode.symm.trans replies) finds
      found := placed.found
      distinct := placed.distinct }

theorem service_turn (network : Discovery stations) (i other : Fin stations)
    (service : FinderService) :
    (network.turn i service).service other =
      if other = i then service else network.service other :=
  Function.update_apply network.service i service other

/-- A service that takes its turn at its place. -/
theorem Sound.turn (sound : Sound station network) (placed : Placed station i service) :
    Sound station (network.turn i service) where
  placed other := by
    rw [service_turn]
    split
    next same => exact same ▸ placed
    next => exact sound.placed other
  sent := sound.sent

theorem Sound.timeout (sound : Sound station network) (i : Fin stations) :
    Sound station { network.turn i (network.service i).timeout.1 with
      sent := network.sent ++ network.datagrams i (network.service i).timeout.2 } where
  placed := (sound.turn (sound.placed i).timeout).placed
  sent datagram mem := by
    rcases List.mem_append.mp mem with old | new
    · exact sound.sent datagram old
    · obtain ⟨written, among, rfl⟩ := List.mem_map.mp new
      have place := sound.placed i
      have mode : (network.service i).finder.workMode = (station i).workMode :=
        congrArg Station.workMode place.kept
      have port : (network.service i).broadcastPort = (station i).broadcastPort :=
        congrArg Station.broadcastPort place.kept
      rcases place.inRole.of_mem_timeout among with ⟨finds, rfl⟩ | ⟨replies, left, rfl⟩
      · exact ⟨port, congrArg Station.frame place.kept, Or.inl ⟨mode.symm.trans finds, rfl⟩⟩
      · exact ⟨port, congrArg Station.frame place.kept, Or.inr ⟨mode.symm.trans replies,
          _, rfl, place.called replies left⟩⟩

/-- A service that reads a datagram hears its sender. -/
theorem Sound.receive_eq (beyond : Nat → UInt8) (sound : Sound station network)
    {datagram : Datagram stations} (sent : datagram ∈ network.sent) :
    (network.service i).receive beyond (network.service datagram.sender).address datagram.bytes =
      (network.service i).hear (station datagram.sender) := by
  have address : (network.service datagram.sender).address = (station datagram.sender).address :=
    congrArg Station.address (sound.placed datagram.sender).kept
  rw [address, (sound.sent datagram sent).2.1, FinderService.receive_frame]

theorem Sound.receive (beyond : Nat → UInt8) (sound : Sound station network)
    {datagram : Datagram stations} (sent : datagram ∈ network.sent)
    (reaches : network.Reaches datagram i) :
    Placed station i ((network.service i).receive beyond
      (network.service datagram.sender).address datagram.bytes) := by
  have place := sound.placed i
  obtain ⟨toPort, toAddress⟩ := reaches
  obtain ⟨port, -, role⟩ := sound.sent datagram sent
  have same : (station datagram.sender).broadcastPort = (station i).port :=
    (port.symm.trans toPort).trans (congrArg Station.port place.kept)
  rw [sound.receive_eq beyond sent]
  apply place.hear
  · intro finds replies
    obtain ⟨other, -⟩ | ⟨-, ip, target, calls⟩ := role
    · cases other.symm.trans replies
    · rw [target] at toAddress
      have address : ip = (station i).address :=
        (Option.some.inj (toAddress.resolve_left nofun)).trans
          (congrArg Station.address place.kept)
      exact ⟨finds, replies, same, address ▸ calls⟩
  · intro replies finds
    exact ⟨datagram.sender, finds, rfl, same⟩

theorem Sound.step (beyond : Nat → UInt8) (sound : Sound station network)
    {label : DiscoveryLabel stations} {next : Discovery stations}
    (stepped : discoveryStep beyond label network = some next) : Sound station next := by
  cases label with
  | findSignal i times =>
      rw [discoveryStep] at stepped
      split at stepped
      next mode =>
          cases stepped
          exact sound.turn ((sound.placed i).sendFindSignal mode times)
      next => cases stepped
  | timeout i =>
      cases stepped
      exact sound.timeout i
  | deliver i index =>
      rw [discoveryStep] at stepped
      split at stepped
      next => cases stepped
      next datagram sent =>
        split at stepped
        next reaches =>
          cases stepped
          exact sound.turn (sound.receive beyond (List.mem_of_getElem? sent) reaches)
        next => cases stepped

/-- The services as `StartService` leaves them. -/
def started (station : Fin stations → Station) : Discovery stations where
  service i := {
    finder := {
      workMode := (station i).workMode
      agvPid := (station i).agvPid
      agvId := (station i).agvId
      localIp := (station i).localIp }
    address := (station i).address
    port := (station i).port
    broadcastPort := (station i).broadcastPort }

theorem sound_started (station : Fin stations → Station) : Sound station (started station) where
  placed _ := {
    kept := rfl
    inRole := {
      packed := Or.inl rfl
      finder := fun _ => Int.le_refl 0
      replier := fun _ => Int.le_refl 0 }
    called := fun _ replies => absurd replies (Int.lt_irrefl 0)
    found := fun _ mem => absurd mem List.not_mem_nil
    distinct := List.nodup_nil }
  sent _ mem := absurd mem List.not_mem_nil

variable {beyond : Nat → UInt8} {labels : List (DiscoveryLabel stations)}
  {final : Discovery stations}

theorem sound_of_run (reached : run (discoveryStep beyond) labels (started station) = some final) :
    Sound station final :=
  invariant_of_run (fun _ _ _ sound stepped => Sound.step beyond sound stepped)
    (sound_started station) reached

end Discovery

/-! ## How often a station sends -/

namespace FinderService

variable {service : FinderService}

/-- The turns that a service still counts down, and where it sends to. -/
def left (service : FinderService) : Int :=
  match service.finder.workMode with
  | .finder => service.sendTimes
  | .replier => service.finder.replyTimes

def target (service : FinderService) : Option Text :=
  match service.finder.workMode with
  | .finder => none
  | .replier => some service.finder.replyIp

theorem frame_ne_nil (station : Station) : station.frame ≠ [] := List.cons_ne_nil _ _

theorem replyTurn_idle (idle : service.finder.replyTimes ≤ 0) :
    service.replyTurn = (service, []) :=
  if_neg fun replies => absurd replies.1 (Int.not_lt.mpr idle)

theorem sendTurn_idle (idle : service.sendTimes ≤ 0) : service.sendTurn = (service, []) :=
  if_neg fun sends => absurd sends.1 (Int.not_lt.mpr idle)

/-- A service that hears nothing to answer goes on as it was. -/
theorem hear_unset (service : FinderService) {sender : Station}
    (unset : ¬ (service.finder.workMode = .replier ∧ sender.workMode = .finder)) :
    (service.hear sender).finder.sendBuf = service.finder.sendBuf ∧
      (service.hear sender).target = service.target ∧
      (service.hear sender).left = service.left := by
  rcases service.hear_cases sender with same | ⟨-, -, -, same⟩ | ⟨replies, finds, -⟩
  · rw [same]
    exact ⟨rfl, rfl, rfl⟩
  · rw [same]
    exact ⟨rfl, rfl, rfl⟩
  · exact absurd ⟨replies, finds⟩ unset

theorem tenth_iff {left : Int} (counts : 0 < left) :
    (left - 1) % 10 = 0 ↔ 0 < left.toNat ∧ (left.toNat - 1) % 10 = 0 := by
  omega

/-- A turn of a service that has packed its frame: it counts down, and sends at every tenth. -/
theorem InRole.timeout_eq (inRole : service.InRole)
    (own : service.finder.sendBuf = service.station.frame) :
    service.timeout.1.finder.sendBuf = service.station.frame ∧
      service.timeout.1.target = service.target ∧
      service.timeout.1.left.toNat = service.left.toNat - 1 ∧
      service.timeout.2 =
        if 0 < service.left.toNat ∧ (service.left.toNat - 1) % 10 = 0 then
          [(service.target, service.station.frame)] else [] := by
  have packed : service.finder.sendBuf ≠ [] := own ▸ frame_ne_nil service.station
  cases mode : service.finder.workMode with
  | finder =>
      have idle : service.sendTurn.1.finder.replyTimes ≤ 0 := by
        rw [finder_sendTurn]
        exact inRole.finder mode
      have whole : service.timeout = service.sendTurn := by
        rw [FinderService.timeout, replyTurn_idle idle]
        simp
      have left : service.left = service.sendTimes := by rw [FinderService.left, mode]
      have target : service.target = none := by rw [FinderService.target, mode]
      rw [whole, left, target, FinderService.sendTurn, ← own]
      by_cases counts : 0 < service.sendTimes
      · rw [if_pos ⟨counts, packed⟩]
        refine ⟨rfl, ?_, ?_, if_congr (tenth_iff counts) rfl rfl⟩
        · simp only [FinderService.target, mode]
        · simp only [FinderService.left, mode]
          omega
      · rw [if_neg fun sends => counts sends.1, left]
        have none : service.sendTimes.toNat = 0 := Int.toNat_of_nonpos (Int.not_lt.mp counts)
        rw [none]
        exact ⟨rfl, target, rfl, rfl⟩
  | replier =>
      have idle := inRole.replier mode
      have whole : service.timeout = service.replyTurn := by
        rw [FinderService.timeout, sendTurn_idle idle]
        rfl
      have left : service.left = service.finder.replyTimes := by rw [FinderService.left, mode]
      have target : service.target = some service.finder.replyIp := by
        rw [FinderService.target, mode]
      rw [whole, left, target, FinderService.replyTurn, ← own]
      by_cases counts : 0 < service.finder.replyTimes
      · rw [if_pos ⟨counts, packed⟩]
        refine ⟨rfl, ?_, ?_, if_congr (tenth_iff counts) rfl rfl⟩
        · simp only [FinderService.target, mode]
        · simp only [FinderService.left, mode]
          omega
      · rw [if_neg fun replies => counts replies.1, left]
        have none : service.finder.replyTimes.toNat = 0 :=
          Int.toNat_of_nonpos (Int.not_lt.mp counts)
        rw [none]
        exact ⟨rfl, target, rfl, rfl⟩

end FinderService

namespace Discovery

variable {beyond : Nat → UInt8} {station : Fin stations → Station} {i : Fin stations}
  {network next final : Discovery stations} {label : DiscoveryLabel stations}
  {labels : List (DiscoveryLabel stations)}

/-- What a station has sent. -/
def sentBy (network : Discovery stations) (i : Fin stations) : List (Datagram stations) :=
  network.sent.filter fun datagram => datagram.sender = i

/-- The datagram of a station. -/
def datagram (station : Fin stations → Station) (i : Fin stations) (target : Option Text) :
    Datagram stations where
  sender := i
  target
  port := (station i).broadcastPort
  bytes := (station i).frame

/-- A station is asked to find cars, or hears that it is to reply: how often it will send, and
where to. -/
def setsOff (station : Fin stations → Station) (i : Fin stations) (network : Discovery stations) :
    DiscoveryLabel stations → Option (Nat × Option Text)
  | .findSignal j times => if j = i then some (times.toNat, none) else none
  | .timeout _ => none
  | .deliver j index =>
      match network.sent[index]? with
      | none => none
      | some heard =>
          if j = i ∧ (station i).workMode = .replier ∧
              (station heard.sender).workMode = .finder then
            some (3, some (station heard.sender).address)
          else none

/-- A station that was set off some turns ago. -/
structure Sending (station : Fin stations → Station) (i : Fin stations) (times : Nat)
    (target : Option Text) (before : List (Datagram stations)) (turns : Nat)
    (network : Discovery stations) : Prop where
  sound : Sound station network
  own : (network.service i).finder.sendBuf = (station i).frame
  aims : (network.service i).target = target
  left : (network.service i).left.toNat = 10 * times - turns
  sent : network.sentBy i =
    before ++ List.replicate (min (turns / 10) times) (datagram station i target)

theorem sentBy_datagrams (network : Discovery stations) (i j : Fin stations)
    (written : List (Option Text × List UInt8)) :
    (network.datagrams j written).filter (fun datagram => datagram.sender = i) =
      if j = i then network.datagrams j written else [] := by
  rw [datagrams, List.filter_map]
  split
  next same =>
    rw [List.filter_eq_self.mpr]
    intro entry _
    exact decide_eq_true same
  next other =>
    rw [List.filter_eq_nil_iff.mpr, List.map_nil]
    intro entry _
    simpa using other

/-- A station that has just packed its frame, for so many times, and sent nothing yet. -/
theorem Sending.of_turn {service : FinderService} {times : Nat} {target : Option Text}
    (after : Sound station (network.turn i service)) (own : service.finder.sendBuf ≠ [])
    (aims : service.target = target) (left : service.left.toNat = 10 * times) :
    Sending station i times target (network.sentBy i) 0 (network.turn i service) := by
  have here : (network.turn i service).service i = service := by
    rw [service_turn, if_pos rfl]
  have placed := after.placed i
  rw [here] at placed
  exact {
    sound := after
    own := by
      rw [here, placed.inRole.packed.resolve_left own, placed.kept]
    aims := by rw [here, aims]
    left := by rw [here, left, Nat.sub_zero]
    sent := by
      rw [Nat.zero_div, Nat.zero_min, List.replicate_zero, List.append_nil]
      rfl }

theorem Sending.initial (sound : Sound station network) {times : Nat} {target : Option Text}
    (stepped : discoveryStep beyond label network = some next)
    (set : setsOff station i network label = some (times, target)) :
    Sending station i times target (network.sentBy i) 0 next := by
  have after := sound.step beyond stepped
  cases label with
  | findSignal j asked =>
      rw [setsOff] at set
      split at set
      next same =>
        cases set
        subst same
        rw [discoveryStep] at stepped
        split at stepped
        next mode =>
          cases stepped
          have twenty : (asked * 10).toNat = 10 * asked.toNat := by omega
          apply Sending.of_turn after
          · exact List.cons_ne_nil _ _
          · simp only [FinderService.target, FinderService.sendFindSignal, mode]
          · simp only [FinderService.left, FinderService.sendFindSignal, mode, twenty]
        next => cases stepped
      next => cases set
  | timeout j => cases set
  | deliver j index =>
      rw [setsOff] at set
      rw [discoveryStep] at stepped
      split at set
      next => cases set
      next heard sent =>
        rw [sent] at stepped
        dsimp only at stepped
        split at set
        next calls =>
          obtain ⟨rfl, replies, finds⟩ := calls
          cases set
          split at stepped
          next reaches =>
            cases stepped
            have mode : (network.service j).finder.workMode = .replier :=
              (congrArg Station.workMode (sound.placed j).kept).trans replies
            have answer : (network.service j).receive beyond
                (network.service heard.sender).address heard.bytes =
                { network.service j with
                  finder := (network.service j).finder.replyFindSignal
                    (station heard.sender).address 3 } := by
              rw [sound.receive_eq beyond (List.mem_of_getElem? sent), FinderService.hear, mode,
                finds]
            rw [answer] at after ⊢
            apply Sending.of_turn after
            · exact List.cons_ne_nil _ _
            · simp only [FinderService.target, AgvFinder.replyFindSignal, mode]
            · simp only [FinderService.left, AgvFinder.replyFindSignal, mode]
              rfl
          next => cases stepped
        next => cases set

/-- A step that changes nothing of what the station sends. -/
theorem Sending.of_same {times turns : Nat} {target : Option Text}
    {before : List (Datagram stations)}
    (sending : Sending station i times target before turns network) (after : Sound station next)
    (sent : next.sentBy i = network.sentBy i)
    (sendBuf : (next.service i).finder.sendBuf = (network.service i).finder.sendBuf)
    (aims : (next.service i).target = (network.service i).target)
    (left : (next.service i).left = (network.service i).left) :
    Sending station i times target before turns next where
  sound := after
  own := sendBuf.trans sending.own
  aims := aims.trans sending.aims
  left := left ▸ sending.left
  sent := sent.trans sending.sent

/-- A step of another station. -/
theorem Sending.of_elsewhere {times turns : Nat} {target : Option Text}
    {before : List (Datagram stations)}
    (sending : Sending station i times target before turns network) (after : Sound station next)
    (sent : next.sentBy i = network.sentBy i) (same : next.service i = network.service i) :
    Sending station i times target before turns next :=
  sending.of_same after sent (same ▸ rfl) (same ▸ rfl) (same ▸ rfl)

/-- A turn of the station without data. -/
theorem Sending.timeout {times turns : Nat} {target : Option Text}
    {before : List (Datagram stations)}
    (sending : Sending station i times target before turns network) :
    Sending station i times target before (turns + 1)
      { network.turn i (network.service i).timeout.1 with
        sent := network.sent ++ network.datagrams i (network.service i).timeout.2 } := by
  have placed := sending.sound.placed i
  have own : (network.service i).finder.sendBuf = (network.service i).station.frame := by
    rw [placed.kept, sending.own]
  obtain ⟨kept, aims, left, written⟩ := placed.inRole.timeout_eq own
  have here : (network.turn i (network.service i).timeout.1).service i =
      (network.service i).timeout.1 := by rw [service_turn, if_pos rfl]
  have count : min ((turns + 1) / 10) times = min (turns / 10) times +
      if 0 < 10 * times - turns ∧ (10 * times - turns - 1) % 10 = 0 then 1 else 0 := by
    split
    · omega
    · omega
  exact {
    sound := sending.sound.timeout i
    own := by
      change ((network.turn i _).service i).finder.sendBuf = _
      rw [here, kept, placed.kept]
    aims := by
      change ((network.turn i _).service i).target = _
      rw [here, aims, sending.aims]
    left := by
      change ((network.turn i _).service i).left.toNat = _
      rw [here, left, sending.left, Nat.sub_sub]
    sent := by
      rw [sentBy, List.filter_append, sentBy_datagrams, if_pos rfl, written, sending.left, count,
        List.replicate_add, ← List.append_assoc, ← sending.sent, sending.aims, placed.kept]
      split
      · have port : (network.service i).broadcastPort = (station i).broadcastPort :=
          congrArg Station.broadcastPort placed.kept
        rw [List.replicate_one, datagrams, List.map_singleton, datagram, port]
        rfl
      · rfl }

/-- A step that does not set the station off. -/
theorem Sending.step {times turns : Nat} {target : Option Text} {before : List (Datagram stations)}
    (sending : Sending station i times target before turns network)
    (stepped : discoveryStep beyond label network = some next)
    (undisturbed : setsOff station i network label = none) :
    Sending station i times target before (turns + if label = .timeout i then 1 else 0) next := by
  have after := sending.sound.step beyond stepped
  have elsewhere : ∀ j service, j ≠ i → (network.turn j service).service i = network.service i := by
    intro j service other
    rw [service_turn, if_neg (Ne.symm other)]
  cases label with
  | findSignal j asked =>
      rw [setsOff] at undisturbed
      split at undisturbed
      next => cases undisturbed
      next other =>
        rw [discoveryStep] at stepped
        split at stepped
        next =>
          cases stepped
          exact sending.of_elsewhere after rfl (elsewhere j _ other)
        next => cases stepped
  | timeout j =>
      by_cases same : j = i
      · subst same
        cases stepped
        rw [if_pos rfl]
        exact sending.timeout
      · cases stepped
        have notHere : DiscoveryLabel.timeout j ≠ .timeout i := by
          intro here
          cases here
          exact same rfl
        rw [if_neg notHere]
        apply sending.of_elsewhere after _ (elsewhere j _ same)
        rw [sentBy, List.filter_append, sentBy_datagrams, if_neg same, List.append_nil]
        rfl
  | deliver j index =>
      rw [discoveryStep] at stepped
      split at stepped
      next => cases stepped
      next heard sent =>
        split at stepped
        next reaches =>
          cases stepped
          by_cases same : j = i
          · subst same
            have mode : (network.service j).finder.workMode = (station j).workMode :=
              congrArg Station.workMode (sending.sound.placed j).kept
            have here : (network.turn j ((network.service j).receive beyond
                (network.service heard.sender).address heard.bytes)).service j =
                (network.service j).hear (station heard.sender) := by
              rw [service_turn, if_pos rfl,
                sending.sound.receive_eq beyond (List.mem_of_getElem? sent)]
            have unset : ¬ ((network.service j).finder.workMode = .replier ∧
                (station heard.sender).workMode = .finder) := by
              intro both
              have set : setsOff station j network (.deliver j index) =
                  some (3, some (station heard.sender).address) := by
                rw [setsOff, sent]
                exact if_pos ⟨rfl, mode.symm.trans both.1, both.2⟩
              cases undisturbed.symm.trans set
            obtain ⟨sendBuf, aims, left⟩ := (network.service j).hear_unset unset
            rw [← here] at sendBuf aims left
            exact sending.of_same after rfl sendBuf aims left
          · exact sending.of_elsewhere after rfl (elsewhere j _ same)
        next => cases stepped

/-- The turns without data that a station takes. -/
def turns (i : Fin stations) (labels : List (DiscoveryLabel stations)) : Nat :=
  labels.count (.timeout i)

/-- The run lemma: while nothing sets it off, a station counts its turns. -/
theorem Sending.run {times turns : Nat} {target : Option Text} {before : List (Datagram stations)}
    (sending : Sending station i times target before turns network)
    (undisturbed : Before (discoveryStep beyond)
      (fun network label => setsOff station i network label = none) labels network)
    (reached : Library.run (discoveryStep beyond) labels network = some final) :
    Sending station i times target before (turns + Discovery.turns i labels) final := by
  induction labels generalizing network turns with
  | nil =>
      cases reached
      exact sending
  | cons label labels ih =>
      obtain ⟨next, stepped, rest⟩ := Option.bind_eq_some_iff.mp reached
      have later := ih (sending.step stepped undisturbed.1) (undisturbed.2 next stepped) rest
      have total : turns + Discovery.turns i (label :: labels) =
          turns + (if label = .timeout i then 1 else 0) + Discovery.turns i labels := by
        rw [Discovery.turns, List.count_cons, ← Discovery.turns]
        simp only [beq_iff_eq]
        omega
      rwa [total]

/-- A finder alone, and with two signals to send. -/
def oneFinder (_ : Fin 1) : Station where
  workMode := .finder
  agvId := 7
  agvPid := []
  localIp := []
  address := [1]
  port := 40000
  broadcastPort := 8200

def askedTwice : Discovery 1 :=
  (started oneFinder).turn 0 (((started oneFinder).service 0).sendFindSignal 2)

/-- A station that is set off sends once in ten turns without data, as often as it was asked to,
and to the one it was set off for, until something sets it off again.  In any interleaving, a
replier answers a signal with three replies at most. -/
theorem sent_once_in_ten {front back : List (DiscoveryLabel stations)}
    {label : DiscoveryLabel stations} {before after : Discovery stations} {times : Nat}
    {target : Option Text}
    (came : Library.run (discoveryStep beyond) front (started station) = some before)
    (stepped : discoveryStep beyond label before = some after)
    (set : setsOff station i before label = some (times, target))
    (undisturbed : Before (discoveryStep beyond)
      (fun network label => setsOff station i network label = none) back after)
    (reached : Library.run (discoveryStep beyond) back after = some final) :
    final.sentBy i = before.sentBy i ++
      List.replicate (min (turns i back / 10) times) (datagram station i target) := by
  have initial := Sending.initial (sound_of_run came) stepped set
  have sending := initial.run undisturbed reached
  rw [Nat.zero_add] at sending
  exact sending.sent

theorem sent_once_in_ten_twice :
    ∃ final, Library.run (discoveryStep fun _ => 0) (List.replicate 25 (.timeout 0)) askedTwice =
        some final ∧
      final.sentBy 0 = List.replicate 2 (datagram oneFinder 0 none) := by
  obtain ⟨final, reached⟩ : ∃ final, Library.run (discoveryStep fun _ => 0)
      (List.replicate 25 (.timeout 0)) askedTwice = some final :=
    Option.isSome_iff_exists.mp (by decide +kernel)
  have came : Library.run (discoveryStep fun _ => 0) [] (started oneFinder) =
      some (started oneFinder) := rfl
  have asked : discoveryStep (fun _ => 0) (.findSignal 0 2) (started oneFinder) =
      some askedTwice := rfl
  have set : setsOff oneFinder 0 (started oneFinder) (.findSignal 0 2) = some (2, none) := rfl
  have undisturbed : Before (discoveryStep fun _ => 0)
      (fun network label => setsOff oneFinder 0 network label = none)
      (List.replicate 25 (.timeout 0)) askedTwice := by
    decide +kernel
  exact ⟨final, reached, sent_once_in_ten came asked set undisturbed reached⟩

/-! ## Whether a car can be found -/

/-- A station that takes some turns without data. -/
theorem Sending.timeouts (beyond : Nat → UInt8) {times turns : Nat} {target : Option Text}
    {before : List (Datagram stations)}
    (sending : Sending station i times target before turns network) (count : Nat) :
    ∃ final, Library.run (discoveryStep beyond) (List.replicate count (.timeout i)) network =
      some final ∧ Sending station i times target before (turns + count) final := by
  induction count generalizing network turns with
  | zero => exact ⟨network, rfl, sending⟩
  | succ count ih =>
      obtain ⟨final, reached, after⟩ := ih sending.timeout
      exact ⟨final, reached, by rwa [Nat.add_right_comm] at after⟩

/-- Behind the tenth of them its datagram is on its way. -/
theorem Sending.datagram_mem {times : Nat} {target : Option Text}
    {before : List (Datagram stations)} (once : 1 ≤ times)
    (sending : Sending station i times target before 10 network) :
    datagram station i target ∈ network.sent := by
  have some : 0 < min (10 / 10) times := by omega
  have mem : datagram station i target ∈ network.sentBy i := by
    rw [sending.sent]
    exact List.mem_append_right _ (List.mem_replicate.mpr ⟨Nat.ne_of_gt some, rfl⟩)
  exact List.mem_of_mem_filter mem

/-- A datagram that is on its way may arrive. -/
theorem Sound.exists_deliver (beyond : Nat → UInt8) (sound : Sound station network)
    {datagram : Datagram stations} (mem : datagram ∈ network.sent)
    (reaches : network.Reaches datagram i) :
    ∃ index, network.sent[index]? = some datagram ∧
      discoveryStep beyond (.deliver i index) network =
        some (network.turn i ((network.service i).hear (station datagram.sender))) := by
  obtain ⟨index, sent⟩ := List.mem_iff_getElem?.mp mem
  refine ⟨index, sent, ?_⟩
  rw [discoveryStep, sent]
  dsimp only
  rw [if_pos reaches, sound.receive_eq beyond mem]

/-- A state that some run comes to. -/
def Reached (beyond : Nat → UInt8) (station : Fin stations → Station)
    (network : Discovery stations) : Prop :=
  ∃ labels, Library.run (discoveryStep beyond) labels (started station) = some network

theorem Reached.run (reached : Reached beyond station network)
    (goes : Library.run (discoveryStep beyond) labels network = some final) :
    Reached beyond station final := by
  obtain ⟨front, came⟩ := reached
  refine ⟨front ++ labels, ?_⟩
  rw [run_append, came, Option.bind_some, goes]

theorem Reached.step (reached : Reached beyond station network)
    (stepped : discoveryStep beyond label network = some next) : Reached beyond station next := by
  have goes : Library.run (discoveryStep beyond) [label] network = some next := by
    rw [run_cons, stepped]
    rfl
  exact reached.run goes

/-- A finder may have broadcast its signal. -/
theorem exists_called (beyond : Nat → UInt8) (calls : (station i).workMode = .finder) :
    ∃ network, Reached beyond station network ∧ datagram station i none ∈ network.sent := by
  have asked : discoveryStep beyond (.findSignal i 1) (started station) = some _ := if_pos calls
  have set : setsOff station i (started station) (.findSignal i 1) = some (1, none) := if_pos rfl
  have initial := Sending.initial (sound_started station) asked set
  obtain ⟨called, waited, calling⟩ := initial.timeouts beyond 10
  have start : Reached beyond station (started station) := ⟨[], rfl⟩
  exact ⟨called, (start.step asked).run waited, calling.datagram_mem (Nat.le_refl 1)⟩

/-- A replier that hears the signal may have answered it. -/
theorem exists_answered {caller : Fin stations} (reached : Reached beyond station network)
    (calls : (station caller).workMode = .finder) (replies : (station i).workMode = .replier)
    (heard : (station caller).broadcastPort = (station i).port)
    (signal : datagram station caller none ∈ network.sent) :
    ∃ next, Reached beyond station next ∧
      datagram station i (some (station caller).address) ∈ next.sent := by
  obtain ⟨labels, came⟩ := reached
  have sound := sound_of_run came
  have reaches : network.Reaches (datagram station caller none) i :=
    ⟨heard.trans (congrArg Station.port (sound.placed i).kept).symm, Or.inl rfl⟩
  obtain ⟨index, sent, arrived⟩ := sound.exists_deliver beyond signal reaches
  have set : setsOff station i network (.deliver i index) =
      some (3, some (station caller).address) := by
    rw [setsOff, sent]
    exact if_pos ⟨rfl, replies, calls⟩
  obtain ⟨next, rested, replying⟩ := (Sending.initial sound arrived set).timeouts beyond 10
  have start : Reached beyond station network := ⟨labels, came⟩
  exact ⟨next, (start.step arrived).run rested, replying.datagram_mem (by decide)⟩

/-- A finder that hears a replier has a car in its list. -/
theorem agvList_hear {service : FinderService} {sender : Station}
    (finds : service.finder.workMode = .finder) (replies : sender.workMode = .replier) :
    (service.hear sender).finder.agvList ≠ [] := by
  rw [FinderService.hear, finds, replies]
  dsimp only
  rw [AgvFinder.addFindedList]
  split
  next known =>
    obtain ⟨entry, mem, -⟩ := List.any_eq_true.mp known
    exact List.ne_nil_of_mem mem
  next => exact List.append_ne_nil_of_right_ne_nil _ (List.cons_ne_nil _ _)

/-- The signal, its answer and the record of it, one behind the other. -/
theorem exists_found (beyond : Nat → UInt8) {j : Fin stations} (answers : Answers station j i) :
    ∃ network, Reached beyond station network ∧ (network.service i).finder.agvList ≠ [] := by
  obtain ⟨finds, replies, port, caller, calls, address, heard⟩ := answers
  obtain ⟨called, reached, signal⟩ := exists_called beyond calls
  obtain ⟨answered, came, reply⟩ := exists_answered reached calls replies heard signal
  obtain ⟨labels, goes⟩ := came
  have sound := sound_of_run goes
  have place := sound.placed i
  have reaches : answered.Reaches (datagram station j (some (station caller).address)) i :=
    ⟨port.trans (congrArg Station.port place.kept).symm,
      Or.inr (congrArg some (address.trans (congrArg Station.address place.kept).symm))⟩
  obtain ⟨index, -, recorded⟩ := sound.exists_deliver beyond reply reaches
  have start : Reached beyond station answered := ⟨labels, goes⟩
  refine ⟨_, start.step recorded, ?_⟩
  rw [service_turn, if_pos rfl]
  exact agvList_hear ((congrArg Station.workMode place.kept).trans finds) replies

/-- Some run puts a car into the list of a finder exactly if a replier, which hears a finder of
that address, answers to the port of its socket. -/
theorem findable_iff (beyond : Nat → UInt8) (station : Fin stations → Station)
    (i : Fin stations) :
    (∃ network, Reached beyond station network ∧ (network.service i).finder.agvList ≠ []) ↔
      ∃ j, Answers station j i := by
  constructor
  · rintro ⟨network, ⟨labels, reached⟩, found⟩
    obtain ⟨entry, mem⟩ := List.exists_mem_of_ne_nil _ found
    obtain ⟨j, answers, -⟩ := ((sound_of_run reached).placed i).found entry mem
    exact ⟨j, answers⟩
  · rintro ⟨j, answers⟩
    exact exists_found beyond answers

/-- A finder whose socket happens to have the port of the two repliers. -/
def twoCars : Fin 3 → Station
  | 0 => { workMode := .finder, agvId := 0, agvPid := [], localIp := [], address := [1],
           port := 8200, broadcastPort := 8200 }
  | 1 => { workMode := .replier, agvId := 7, agvPid := [65], localIp := [2], address := [2],
           port := 8200, broadcastPort := 8200 }
  | 2 => { workMode := .replier, agvId := 8, agvPid := [66], localIp := [3], address := [3],
           port := 8200, broadcastPort := 8200 }

/-- Whatever is lost, repeated and reordered, a finder records only cars that answer to its port,
as they are, and no address twice.  No frame leaves its buffer. -/
theorem recorded_as_set_up
    (reached : run (discoveryStep beyond) labels (started station) = some final)
    (i : Fin stations) :
    ((final.service i).finder.agvList.map FinderReply.ipAddress).Nodup ∧
      (∀ entry ∈ (final.service i).finder.agvList,
        ∃ j, Answers station j i ∧ entry = (station j).entry) ∧
      ((∀ byte ∈ (station i).localIp, byte.toNat < 128) →
        (final.service i).finder.sendBuf.length ≤ sendBufSize) := by
  have place := (sound_of_run reached).placed i
  refine ⟨place.distinct, place.found, fun ascii => ?_⟩
  rcases place.inRole.packed with empty | own
  · rw [empty]
    exact Nat.zero_le _
  · rw [own, place.kept]
    exact Station.length_frame_le ascii

theorem recorded_as_set_up_twoCars :
    ∃ network : Discovery 3, (network.service 0).finder.agvList ≠ [] ∧
      ((network.service 0).finder.agvList.map FinderReply.ipAddress).Nodup ∧
        (∀ entry ∈ (network.service 0).finder.agvList,
          ∃ j, Answers twoCars j 0 ∧ entry = (twoCars j).entry) ∧
        (network.service 1).finder.sendBuf.length ≤ sendBufSize := by
  have answers : Answers twoCars 1 0 := ⟨rfl, rfl, rfl, 0, rfl, rfl, rfl⟩
  have ascii : ∀ byte ∈ (twoCars 1).localIp, byte.toNat < 128 := by
    intro byte mem
    rw [List.mem_singleton.mp mem]
    decide
  obtain ⟨network, ⟨labels, reached⟩, found⟩ := exists_found (fun _ => 0) answers
  rcases recorded_as_set_up reached 0 with ⟨distinct, entries, -⟩
  exact ⟨network, found, distinct, entries, (recorded_as_set_up reached 1).2.2 ascii⟩

end Discovery

end DrivingControl.Comm

import DrivingControl.Event.EventHelper

/-!
# The network manager

The thread of `CAgvNetManager` looks at the network about once a second and queues an event for
each interface when the status has changed.  With both interfaces the status is that of the
wireless one.
-/

namespace DrivingControl.Devices

open DrivingControl.Event

/-- `CAgvNetManager`, with the variables of its `Run` from `timerCount` on. -/
structure NetManager where
  isWifiEnable : Bool
  isEthernetEnable : Bool
  isConnected : Bool := false
  loopEnable : Bool := false
  taskCmd : Int := 0
  timerCount : Int := 0
  lastNetworkStatus : Bool := false
  deriving DecidableEq, Repr

/-- What a turn reads from the interfaces. -/
structure NetInput where
  /-- `ethernet->GetCurrentStatus()` is `Connected`. -/
  ethernetConnected : Bool := false
  /-- `wifi->CheckConnectStatus()`. -/
  wifiConnected : Bool := false
  /-- `ethernet->PowerOn` returns 0. -/
  poweredOn : Bool := true
  deriving DecidableEq, Repr

namespace NetManager

variable (input : NetInput) (manager : NetManager)

/-- The status of the wired interface. -/
def checkEthernet : NetManager :=
  if manager.isEthernetEnable then { manager with isConnected := input.ethernetConnected }
  else manager

/-- The status of the wireless one. -/
def checkWifi : NetManager :=
  if manager.isWifiEnable then { manager with isConnected := input.wifiConnected }
  else manager

/-- `CheckNetStatus`; its result is `isConnected`. -/
def checkNetStatus : NetManager := (manager.checkEthernet input).checkWifi input

/-- An event for every interface. -/
def reports (event : EventList) : List AgvEvent :=
  (if manager.isWifiEnable then [{ event, param := 0 }] else []) ++
    if manager.isEthernetEnable then [{ event, param := 1 }] else []

/-- The status is compared with the last one. -/
def compareStatus : NetManager × List AgvEvent :=
  let isNetworkOk := manager.isConnected
  if isNetworkOk ≠ manager.lastNetworkStatus then
    ({ manager with lastNetworkStatus := isNetworkOk },
      manager.reports (if isNetworkOk then .evNetworkOK else .evNetworkError))
  else (manager, [])

/-- The interfaces are powered on.  Without a wired one the wireless one takes its place. -/
def powerOn : NetManager :=
  if manager.isEthernetEnable ∧ input.poweredOn = false then
    { manager with isEthernetEnable := false, isWifiEnable := true, taskCmd := 0 }
  else { manager with taskCmd := 0 }

/-- A turn of `Run`, and what it queues. -/
def run : NetManager × List AgvEvent :=
  if manager.taskCmd = 0 then
    if manager.timerCount > 10 then
      ({ manager with timerCount := 0 }.checkNetStatus input).compareStatus
    else ({ manager with timerCount := manager.timerCount + 1 }, [])
  else if manager.taskCmd = 1 then (manager.powerOn input, [])
  else if manager.taskCmd = 2 then ({ manager with taskCmd := 0 }, [])
  else (manager, [])

/-- Behind `Init` and `SetupNetwork`, with which the thread is started. -/
def setupNetwork (isWifiEnable isEthernetEnable : Bool) : NetManager :=
  { isWifiEnable, isEthernetEnable, loopEnable := true, taskCmd := 1 }

/-! ## Reports -/

/-- The number of interfaces. -/
def interfaces : Nat := manager.isWifiEnable.toNat + manager.isEthernetEnable.toNat

/-- A manager without an interface never sees the network. -/
def BlindWithout : Prop :=
  manager.interfaces = 0 → manager.isConnected = false ∧ manager.lastNetworkStatus = false

section

variable {input : NetInput} {manager : NetManager}

theorem level_of_mem_reports {event : EventList} {report : AgvEvent}
    (mem : report ∈ manager.reports event) : report.level = normal ∧ report.event = event := by
  rw [reports] at mem
  rcases List.mem_append.mp mem with wifi | ethernet
  · split at wifi
    · rw [List.mem_singleton.mp wifi]
      exact ⟨rfl, rfl⟩
    · cases wifi
  · split at ethernet
    · rw [List.mem_singleton.mp ethernet]
      exact ⟨rfl, rfl⟩
    · cases ethernet

theorem length_reports (event : EventList) :
    (manager.reports event).length = manager.interfaces := by
  rw [reports, interfaces, List.length_append]
  congr 1
  · cases manager.isWifiEnable <;> rfl
  · cases manager.isEthernetEnable <;> rfl

/-- A look at the interfaces sets nothing but `isConnected`. -/
theorem checkNetStatus_eq (input : NetInput) (manager : NetManager) :
    manager.checkNetStatus input =
      { manager with isConnected := (manager.checkNetStatus input).isConnected } := by
  rw [checkNetStatus, checkWifi, checkEthernet]
  split <;> split <;> rfl

theorem isConnected_checkNetStatus (without : manager.interfaces = 0) :
    (manager.checkNetStatus input).isConnected = manager.isConnected := by
  rcases Nat.add_eq_zero_iff.mp without with ⟨wifi, ethernet⟩
  rw [Bool.toNat_eq_zero] at wifi ethernet
  have wired : manager.checkEthernet input = manager := by
    rw [checkEthernet, ethernet]
    rfl
  rw [checkNetStatus, wired, checkWifi, wifi]
  rfl

/-- What a turn does that may report. -/
theorem compareStatus_spec (manager : NetManager) :
    manager.compareStatus.1 = { manager with lastNetworkStatus := manager.isConnected } ∧
      manager.compareStatus.2 = if manager.isConnected = manager.lastNetworkStatus then []
        else manager.reports (if manager.isConnected then .evNetworkOK else .evNetworkError) := by
  by_cases same : manager.isConnected = manager.lastNetworkStatus
  · have still : manager.compareStatus = (manager, []) := if_neg fun changed => changed same
    rw [still, if_pos same]
    exact ⟨congrArg (fun status => { manager with lastNetworkStatus := status }) same.symm, rfl⟩
  · rw [compareStatus, if_pos same, if_neg same]
    exact ⟨rfl, rfl⟩

/-- A turn changes the status and reports that on every interface, or it does neither.  It takes
no interface away without leaving one. -/
structure Turned (manager next : NetManager) (events : List AgvEvent) : Prop where
  events : events = if next.lastNetworkStatus = manager.lastNetworkStatus then []
    else next.reports (if next.lastNetworkStatus then .evNetworkOK else .evNetworkError)
  interfaces : next.interfaces = manager.interfaces ∨
    next.interfaces = 1 ∧ manager.interfaces ≠ 0
  blind : manager.BlindWithout → next.BlindWithout

theorem turned_of_same {next : NetManager} (status : next.isConnected = manager.isConnected)
    (last : next.lastNetworkStatus = manager.lastNetworkStatus)
    (interfaces : next.interfaces = manager.interfaces) : Turned manager next [] where
  events := (if_pos last).symm
  interfaces := .inl interfaces
  blind blind without := by
    rw [status, last]
    exact blind (interfaces ▸ without)

theorem turned_run (input : NetInput) (manager : NetManager) :
    Turned manager (manager.run input).1 (manager.run input).2 := by
  rw [run]
  split
  · split
    · let counted : NetManager := { manager with timerCount := 0 }
      have checked := checkNetStatus_eq input counted
      rcases compareStatus_spec (counted.checkNetStatus input) with ⟨next, events⟩
      change Turned manager (counted.checkNetStatus input).compareStatus.1
        (counted.checkNetStatus input).compareStatus.2
      rw [next, events, checked]
      refine ⟨rfl, .inl rfl, fun blind without => ?_⟩
      have status : (counted.checkNetStatus input).isConnected = counted.isConnected :=
        isConnected_checkNetStatus without
      rw [status]
      exact ⟨(blind without).1, (blind without).1⟩
    · exact turned_of_same rfl rfl rfl
  · split
    · rw [powerOn]
      split
      next failed =>
        have wired : manager.interfaces ≠ 0 := by
          rw [interfaces, failed.1]
          exact Nat.succ_ne_zero _
        refine ⟨(if_pos rfl).symm, .inr ⟨rfl, wired⟩, fun _ without => ?_⟩
        cases without
      · exact turned_of_same rfl rfl rfl
    · split
      · exact turned_of_same rfl rfl rfl
      · exact turned_of_same rfl rfl rfl

end

end NetManager

end DrivingControl.Devices

import DrivingControl.Devices.FrameBounds

/-!
# The commands of the panel

What `ParseCanData` does with a frame of the panel, case by case: numbers are saved, the
pairs of an address are collected and saved with the last one, the charging command queues
its event, and the panel gets the settings it asks for.
-/

namespace DrivingControl.Devices

open DrivingControl.Event DrivingControl.Library DrivingControl.Utils

namespace HMISensor

/-- The settings that belong to a command.  With `0x81` the panel asks for its settings, and
those that are missing are saved with their defaults. -/
def settingsOf (command : UInt8) : List String :=
  match command with
  | 0x01 => ["Volume"]
  | 0x02 => ["Speed", "ForwardSpeed"]
  | 0x07 => ["ServerPort"]
  | 0x08 => ["Id"]
  | 0x09 => ["ServerIp"]
  | 0x0A => ["Pid"]
  | 0x11 => ["RepairMode"]
  | 0x12 => ["BatteryType"]
  | 0x14 => ["UseDhcp"]
  | 0x15 => ["LocalIp"]
  | 0x81 => panelSections.map Prod.fst
  | _ => []

/-- The events of the charging command. -/
def chargeEvents : List EventList := [.evTurnOffCharge, .evTurnOnCharge]

/-- The addresses that the panel sends in pairs of characters. -/
inductive PanelAddress where
  | server | own
  deriving DecidableEq, Repr

namespace PanelAddress

def code : PanelAddress → UInt8
  | .server => 0x09
  | .own => 0x15

def sectionName : PanelAddress → String
  | .server => "ServerIp"
  | .own => "LocalIp"

def buffer (hmi : HMISensor) : PanelAddress → Fin 16 → UInt8
  | .server => hmi.serverIp
  | .own => hmi.localrIp

/-- Put characters into the buffer. -/
def fill (ip : Fin 16 → UInt8) (hmi : HMISensor) : PanelAddress → HMISensor
  | .server => { hmi with serverIp := ip }
  | .own => { hmi with localrIp := ip }

/-- The buffer of an address with the pair of a frame. -/
def placed (buf : Nat → UInt8) (hmi : HMISensor) (address : PanelAddress) : Fin 16 → UInt8 :=
  addressPart (buf 1) (buf 2) (buf 3) (address.buffer hmi)

variable {hmi : HMISensor}

@[simp] theorem buffer_fill (ip : Fin 16 → UInt8) (address : PanelAddress) :
    address.buffer (address.fill ip hmi) = ip := by
  cases address <;> rfl

theorem buffer_fill_of_ne {address other : PanelAddress} (different : other ≠ address)
    (ip : Fin 16 → UInt8) : other.buffer (address.fill ip hmi) = other.buffer hmi := by
  cases address <;> cases other <;> first | rfl | exact absurd rfl different

@[simp] theorem buffer_save (saved : String) (value : Text) (address : PanelAddress) :
    address.buffer (hmi.save saved value) = address.buffer hmi := by
  cases address <;> rfl

@[simp] theorem setting_fill (ip : Fin 16 → UInt8) (address : PanelAddress) :
    (address.fill ip hmi).setting = hmi.setting := by
  cases address <;> rfl

theorem code_injective {address other : PanelAddress} (same : address.code = other.code) :
    address = other := by
  cases address <;> cases other <;> first | rfl | exact absurd same (by decide)

theorem code_ne_charging (address : PanelAddress) : 0x13 ≠ address.code := by
  cases address <;> decide

theorem code_ne_asked (address : PanelAddress) : 0x81 ≠ address.code := by
  cases address <;> decide

theorem settingsOf_code (address : PanelAddress) :
    settingsOf address.code = [address.sectionName] := by
  cases address <;> rfl

end PanelAddress

/-- What `ParseCanData` does with a frame. -/
inductive Acts (conversions : Conversions) (buf : Nat → UInt8) (hmi : HMISensor) :
    HMISensor → Prop where
  | numbers (saves : List (String × Text)) (own : saves.map Prod.fst ⊆ settingsOf (buf 0))
      (plain : ∀ address : PanelAddress, buf 0 ≠ address.code) (quiet : buf 0 ≠ 0x13) :
      Acts conversions buf hmi { hmi with setting := hmi.setting.saveAll saves }
  | pair (address : PanelAddress) (mine : buf 0 = address.code) (more : buf 1 ≠ 0x08) :
      Acts conversions buf hmi (address.fill (address.placed buf hmi) hmi)
  | lastPair (address : PanelAddress) (mine : buf 0 = address.code) (last : buf 1 = 0x08) :
      Acts conversions buf hmi
        ((address.fill (address.placed buf hmi) hmi).save address.sectionName
          (savedAddress (address.placed buf hmi)))
  | charging (command : buf 0 = 0x13) (queued : List AgvEvent)
      (events : ∀ event ∈ queued, event.event ∈ chargeEvents) :
      -- There is no `break`: the byte is saved for the case behind it.
      Acts conversions buf hmi
        ({ hmi with events := hmi.events ++ queued }.save "UseDhcp" (intText (buf 1).toNat))
  | asked (command : buf 0 = 0x81) : Acts conversions buf hmi (hmi.writeHMIPara conversions)

section Acts

variable {conversions : Conversions} {buf : Nat → UInt8} {hmi : HMISensor}

/-- Whichever branch is taken is a way to handle the frame if both are. -/
theorem acts_ite {condition : Prop} {_ : Decidable condition} {first second : HMISensor}
    (taken : condition → Acts conversions buf hmi first)
    (skipped : ¬ condition → Acts conversions buf hmi second) :
    Acts conversions buf hmi (if condition then first else second) := by
  split
  next holds => exact taken holds
  next fails => exact skipped fails

/-- A command without cases of its own saves its numbers. -/
theorem acts_numbers {command : UInt8} (saves : List (String × Text)) (code : buf 0 = command)
    (own : saves.map Prod.fst ⊆ settingsOf command)
    (plain : command ≠ 0x09 ∧ command ≠ 0x15 ∧ command ≠ 0x13) :
    Acts conversions buf hmi { hmi with setting := hmi.setting.saveAll saves } := by
  subst code
  refine .numbers saves own ?_ plain.2.2
  intro address
  cases address with
  | server => exact plain.1
  | own => exact plain.2.1

theorem acts_save {command : UInt8} (sectionName : String) (value : Text)
    (code : buf 0 = command) (own : [sectionName] ⊆ settingsOf command)
    (plain : command ≠ 0x09 ∧ command ≠ 0x15 ∧ command ≠ 0x13) :
    Acts conversions buf hmi (hmi.save sectionName value) :=
  acts_numbers [(sectionName, value)] code own plain

theorem chargeEvents_ite {condition : Prop} {_ : Decidable condition}
    {first second : List AgvEvent} (taken : ∀ event ∈ first, event.event ∈ chargeEvents)
    (skipped : ∀ event ∈ second, event.event ∈ chargeEvents) :
    ∀ event ∈ if condition then first else second, event.event ∈ chargeEvents := by
  split
  · exact taken
  · exact skipped

theorem acts_pair (address : PanelAddress) (mine : buf 0 = address.code)
    {_ : Decidable (buf 1 = 0x08)} :
    Acts conversions buf hmi
      (if buf 1 = 0x08 then
        (address.fill (address.placed buf hmi) hmi).save address.sectionName
          (savedAddress (address.placed buf hmi))
      else address.fill (address.placed buf hmi) hmi) :=
  acts_ite (.lastPair address mine) (.pair address mine)

end Acts

/-- Every frame is handled in one of these ways. -/
theorem acts_parseCanData (conversions : Conversions) (beyond : Nat → UInt8)
    (frame : List UInt8) (hmi : HMISensor) :
    Acts conversions (frameByte beyond frame) hmi
      (hmi.parseCanData conversions beyond frame) := by
  rw [parseCanData_frameByte]
  unfold parseCanData
  simp only [List.getD_nil]
  split
  next volume => exact acts_save "Volume" _ volume (by decide) (by decide)
  next speed =>
    exact acts_numbers [("Speed", intText (frameByte beyond frame 1).toNat),
      ("ForwardSpeed", intText (conversions.toForwardSpeed (frameByte beyond frame 1).toNat))]
      speed (by simp [settingsOf]) (by decide)
  next port => exact acts_save "ServerPort" _ port (by decide) (by decide)
  next id => exact acts_save "Id" _ id (by decide) (by decide)
  next server => exact acts_pair .server server
  next pid => exact acts_save "Pid" _ pid (by decide) (by decide)
  next mode => exact acts_save "RepairMode" _ mode (by decide) (by decide)
  next type => exact acts_save "BatteryType" _ type (by decide) (by decide)
  next charging =>
    apply Acts.charging charging
    apply chargeEvents_ite (by simp [chargeEvents])
    exact chargeEvents_ite (by simp [chargeEvents]) (by simp)
  next dhcp => exact acts_save "UseDhcp" _ dhcp (by decide) (by decide)
  next own => exact acts_pair .own own
  next asked =>
    apply acts_ite
    · exact fun _ => .asked asked
    · exact fun _ => acts_numbers [] asked (by simp) (by decide)
  next others => exact acts_numbers [] rfl (by simp) ⟨‹_›, ‹_›, ‹_›⟩

end HMISensor

end DrivingControl.Devices

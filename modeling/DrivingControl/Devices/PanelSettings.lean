import DrivingControl.Devices.PanelCommands

/-!
# The settings of the panel's commands

Each command of the panel saves settings of its own, and the charging command saves none.
But the case of the charging command has no `break`, so it falls into the one behind it and
saves its byte as `UseDhcp`.
-/

namespace DrivingControl.Devices

open DrivingControl.Event DrivingControl.Library DrivingControl.Utils

namespace HMISensor

/-- A frame changes the settings of its command only, and the charging command does nothing
but queue charge events. -/
def ChangesOwnSettings (conversions : Conversions) (beyond : Nat → UInt8) (frame : List UInt8)
    (hmi : HMISensor) : Prop :=
  (∀ sectionName ∉ settingsOf (frameByte beyond frame 0),
      (hmi.parseCanData conversions beyond frame).setting.content sectionName =
        hmi.setting.content sectionName) ∧
    (frameByte beyond frame 0 = 0x13 →
      ∃ queued : List AgvEvent, (∀ event ∈ queued, event.event ∈ chargeEvents) ∧
        hmi.parseCanData conversions beyond frame = { hmi with events := hmi.events ++ queued })

/-- The byte of a charging command is saved as `UseDhcp` already. -/
def ChargingSaved (beyond : Nat → UInt8) (frame : List UInt8) (hmi : HMISensor) : Prop :=
  frameByte beyond frame 0 = 0x13 →
    hmi.setting.content "UseDhcp" = some (intText (frameByte beyond frame 1).toNat)

/-! ## The commands -/

section Commands

variable {conversions : Conversions} {hmi : HMISensor} {sectionName : String}

/-- Every command but that for charging leaves the settings of the others alone. -/
theorem Acts.content {buf : Nat → UInt8} {next : HMISensor}
    (acts : Acts conversions buf hmi next) (notCharging : buf 0 ≠ 0x13)
    (foreign : sectionName ∉ settingsOf (buf 0)) :
    next.setting.content sectionName = hmi.setting.content sectionName := by
  cases acts with
  | numbers saves own plain quiet =>
      exact XmlSetting.content_saveAll_of_not_mem saves _ fun listed => foreign (own listed)
  | pair address mine more => rw [PanelAddress.setting_fill]
  | lastPair address mine last =>
      rw [mine, PanelAddress.settingsOf_code, List.mem_singleton] at foreign
      rw [save, PanelAddress.setting_fill]
      exact XmlSetting.content_saveSectionValue_of_ne foreign _
  | charging command queued events => exact absurd command notCharging
  | asked command =>
      rw [command] at foreign
      exact XmlSetting.content_loadSections_of_not_mem panelSections _ foreign

/-- The charging command queues at most a charge event, and saves its byte. -/
theorem Acts.ofCharging {buf : Nat → UInt8} {next : HMISensor}
    (acts : Acts conversions buf hmi next) (charging : buf 0 = 0x13) :
    ∃ queued : List AgvEvent, (∀ event ∈ queued, event.event ∈ chargeEvents) ∧
      next = { hmi with events := hmi.events ++ queued }.save "UseDhcp"
        (intText (buf 1).toNat) := by
  cases acts with
  | numbers saves own plain quiet => exact absurd charging quiet
  | pair address mine more => exact absurd (charging.symm.trans mine) address.code_ne_charging
  | lastPair address mine last =>
      exact absurd (charging.symm.trans mine) address.code_ne_charging
  | charging command queued events => exact ⟨queued, events, rfl⟩
  | asked command => exact absurd (charging.symm.trans command) (by decide)

/-- A text that is saved already changes nothing. -/
theorem save_eq_self {saved : String} {value : Text}
    (present : hmi.setting.content saved = some value) : hmi.save saved value = hmi := by
  rw [save, XmlSetting.saveSectionValue, ← present, Function.update_eq_self]

end Commands

/-- A command changes its own settings only exactly if it is not the charging command, or the
byte that the charging command saves is saved already. -/
theorem changesOwnSettings_iff_chargingSaved (conversions : Conversions)
    (beyond : Nat → UInt8) (frame : List UInt8) (hmi : HMISensor) :
    hmi.ChangesOwnSettings conversions beyond frame ↔ hmi.ChargingSaved beyond frame := by
  by_cases charging : frameByte beyond frame 0 = 0x13
  · obtain ⟨queued, events, parsed⟩ :=
      (acts_parseCanData conversions beyond frame hmi).ofCharging charging
    constructor
    · rintro ⟨foreign, -⟩ _
      have kept := foreign "UseDhcp" (by simp [charging, settingsOf])
      rw [parsed] at kept
      exact kept.symm.trans (XmlSetting.content_saveSectionValue_self _)
    · intro saved
      have present : ({ hmi with events := hmi.events ++ queued } : HMISensor).setting.content
          "UseDhcp" = some (intText (frameByte beyond frame 1).toNat) := saved charging
      rw [save_eq_self present] at parsed
      constructor
      · intro sectionName _
        rw [parsed]
      · intro _
        exact ⟨queued, events, parsed⟩
  · constructor
    · intro _ other
      exact absurd other charging
    · intro _
      constructor
      · intro sectionName foreign
        exact (acts_parseCanData conversions beyond frame hmi).content charging foreign
      · intro other
        exact absurd other charging

/-- Turning on charging turns on DHCP. -/
theorem changesOwnSettings_fails :
    (¬ ∀ (conversions : Conversions) (beyond : Nat → UInt8) (frame : List UInt8)
        (hmi : HMISensor), hmi.ChangesOwnSettings conversions beyond frame) ∧
      (({} : HMISensor).parseCanData ⟨id, id, id⟩ (fun _ => 0) [0x13, 0x01]).setting.content
        "UseDhcp" = some (ascii "1") := by
  constructor
  · intro all
    have changed := (all ⟨id, id, id⟩ (fun _ => 0) [0x13, 0x01] {}).1 "UseDhcp" (by decide)
    exact absurd changed (by decide)
  · decide

end HMISensor

end DrivingControl.Devices

import DrivingControl.Library.Decimal
import Mathlib.Logic.Function.Basic

/-!
# The settings file

`CAgvXmlSetting` keeps the sections of the settings file in a map and writes every
change through to the file; `CAgvSetting::LoadAll` reads all sections at the start of
the program and adds those that are missing.

The file is taken to keep every section with the value last written to it, so it and
the map are one.
-/

namespace DrivingControl.Utils

open DrivingControl.Library

/-- `CAgvXmlSetting`: `content`, which is also the content of the file. -/
structure XmlSetting where
  content : String → Option Text := fun _ => none

namespace XmlSetting

/-- `SaveSectionValue` with a text. -/
def saveSectionValue (sectionName : String) (value : Text) (xml : XmlSetting) : XmlSetting where
  content := Function.update xml.content sectionName (some value)

/-- `SaveSectionValue` with an `int`. -/
def saveSectionInt (sectionName : String) (value : Int) (xml : XmlSetting) : XmlSetting :=
  xml.saveSectionValue sectionName (intText value)

/-- `GetSectionValue` with a text: a missing section is saved with its default. -/
def getSectionValue (sectionName : String) (default : Text) (xml : XmlSetting) :
    Text × XmlSetting :=
  match xml.content sectionName with
  | none => (default, xml.saveSectionValue sectionName default)
  | some value => (value, xml)

/-- The text of a section, or a default. -/
def valueOr (sectionName : String) (default : Text) (xml : XmlSetting) : Text :=
  (xml.content sectionName).getD default

variable {xml : XmlSetting} {sectionName other : String} {default : Text}

theorem getSectionValue_fst :
    (xml.getSectionValue sectionName default).1 = xml.valueOr sectionName default := by
  rw [getSectionValue, valueOr]
  split <;> simp [*]

/-- Reading a section leaves it there. -/
theorem content_getSectionValue_self :
    (xml.getSectionValue sectionName default).2.content sectionName =
      some (xml.valueOr sectionName default) := by
  rw [getSectionValue, valueOr]
  split <;> simp [*, saveSectionValue]

theorem content_getSectionValue_of_ne (ne : other ≠ sectionName) :
    (xml.getSectionValue sectionName default).2.content other = xml.content other := by
  rw [getSectionValue]
  split <;> simp [saveSectionValue, ne]

/-- Reading any section leaves a section that is there as it is. -/
theorem content_getSectionValue_of_some {value : Text}
    (present : xml.content other = some value) :
    (xml.getSectionValue sectionName default).2.content other = some value := by
  by_cases same : other = sectionName
  · subst same
    rw [content_getSectionValue_self, valueOr, present]
    rfl
  · rw [content_getSectionValue_of_ne same, present]

/-- Read sections one after the other, each with its default. -/
def loadSections : List (String × Text) → XmlSetting → (String → Text) × XmlSetting
  | [], xml => (fun _ => [], xml)
  | (sectionName, default) :: rest, xml =>
      let read := xml.getSectionValue sectionName default
      let loaded := loadSections rest read.2
      (Function.update loaded.1 sectionName read.1, loaded.2)

theorem content_loadSections_of_some {value : Text} (sections : List (String × Text))
    (xml : XmlSetting) (present : xml.content other = some value) :
    (xml.loadSections sections).2.content other = some value := by
  induction sections generalizing xml with
  | nil => exact present
  | cons first rest ih => exact ih _ (content_getSectionValue_of_some present)

/-- Sections that are not in the list are left alone. -/
theorem content_loadSections_of_not_mem (sections : List (String × Text)) (xml : XmlSetting)
    (foreign : other ∉ sections.map Prod.fst) :
    (xml.loadSections sections).2.content other = xml.content other := by
  induction sections generalizing xml with
  | nil => rfl
  | cons first rest ih =>
      rcases first with ⟨name, text⟩
      rw [List.map_cons, List.mem_cons, not_or] at foreign
      have later := ih (xml.getSectionValue name text).2 foreign.2
      exact later.trans (content_getSectionValue_of_ne foreign.1)

/-- A section of the list is loaded from the file, or with the default that is listed,
and is in the file from then on. -/
theorem loadSections_of_lookup (sections : List (String × Text)) (xml : XmlSetting)
    (listed : sections.lookup sectionName = some default) :
    (xml.loadSections sections).1 sectionName = xml.valueOr sectionName default ∧
      (xml.loadSections sections).2.content sectionName =
        some (xml.valueOr sectionName default) := by
  induction sections generalizing xml with
  | nil => cases listed
  | cons first rest ih =>
      rcases first with ⟨name, text⟩
      by_cases same : sectionName = name
      · subst same
        rw [List.lookup_cons_self, Option.some.injEq] at listed
        subst listed
        refine ⟨?_, ?_⟩
        · simp only [loadSections, Function.update_self, getSectionValue_fst]
        · exact content_loadSections_of_some rest _ content_getSectionValue_self
      · rw [List.lookup_cons, beq_eq_false_iff_ne.mpr same] at listed
        have later := ih (xml.getSectionValue name text).2 listed
        simp only [valueOr, content_getSectionValue_of_ne same] at later
        refine ⟨?_, later.2⟩
        simp only [loadSections, Function.update_of_ne same, later.1, valueOr]

theorem content_saveSectionValue_self (value : Text) :
    (xml.saveSectionValue sectionName value).content sectionName = some value := by
  simp [saveSectionValue]

theorem content_saveSectionValue_of_ne (ne : sectionName ≠ other) (value : Text) :
    (xml.saveSectionValue other value).content sectionName = xml.content sectionName := by
  simp [saveSectionValue, ne]

/-- Save texts one after the other. -/
def saveAll (saves : List (String × Text)) (xml : XmlSetting) : XmlSetting :=
  saves.foldl (fun xml saved => xml.saveSectionValue saved.1 saved.2) xml

theorem content_saveAll_of_not_mem (saves : List (String × Text)) (xml : XmlSetting)
    (other : sectionName ∉ saves.map Prod.fst) :
    (xml.saveAll saves).content sectionName = xml.content sectionName := by
  induction saves generalizing xml with
  | nil => rfl
  | cons first rest ih =>
      rw [List.map_cons, List.mem_cons, not_or] at other
      have later := ih (xml.saveSectionValue first.1 first.2) other.2
      exact later.trans (content_saveSectionValue_of_ne other.1 first.2)

/-- Each of several sections has the text that was saved for it. -/
theorem content_saveAll_of_lookup {saves : List (String × Text)} {value : Text}
    (xml : XmlSetting) (distinct : (saves.map Prod.fst).Nodup)
    (listed : saves.lookup sectionName = some value) :
    (xml.saveAll saves).content sectionName = some value := by
  induction saves generalizing xml with
  | nil => cases listed
  | cons first rest ih =>
      rcases first with ⟨name, text⟩
      rw [List.map_cons, List.nodup_cons] at distinct
      by_cases same : sectionName = name
      · subst same
        rw [List.lookup_cons_self, Option.some.injEq] at listed
        subst listed
        have kept := content_saveAll_of_not_mem rest (xml.saveSectionValue sectionName text)
          distinct.1
        exact kept.trans (content_saveSectionValue_self text)
      · rw [List.lookup_cons, beq_eq_false_iff_ne.mpr same] at listed
        exact ih _ distinct.2 listed

end XmlSetting

/-- The sections that `LoadAll` reads, in its order, with their defaults as they are
written; `version` is the constant of the build. -/
def loadedSections (version : Text) : List (String × Text) :=
  [("AlarmVoltage", ascii "24000"), ("MaxTimeOfLostPos", ascii "150"), ("Id", ascii "1001"),
    ("Pid", ascii "MF01161001001"), ("Version", version), ("Disable", ascii "0"),
    ("Speed", ascii "50"), ("Torison", ascii "1000"), ("MaxAngle", ascii "9000"),
    ("UltraSonicMinDistance", ascii "300"), ("UltraSonicMidDistance", ascii "600"),
    ("UltraSonicMaxDistance", ascii "800"), ("AvoidMinDistance", ascii "500"),
    ("AvoidMidDistance", ascii "800"), ("AvoidMaxDistance", ascii "1000"),
    ("IsStopCarForScheOffLine", ascii "0"), ("Volume", ascii "5"), ("WifiError", ascii "0"),
    ("Essid", ascii "ZJAGV"), ("WifiEnable", ascii "0"), ("ApEnable", ascii "0"),
    ("EthernetEnable", ascii "1"), ("ModemEnable", ascii "0"),
    ("LocalIp", ascii "192.168.1.222"), ("ServerIp", ascii "192.168.1.11"),
    ("ServerPort", ascii "8623"), ("BatteryType", ascii "1"), ("ForwardSpeed", ascii "900"),
    ("BackwardSpeed", ascii "650"), ("TurningSpeed", ascii "400"), ("IsAutoLoop", ascii "0"),
    ("PathPointCount", ascii "0"), ("TargetPointId", ascii "0"), ("LastPointId", ascii "-1"),
    ("LastStationPoint", ascii "1"), ("RepairMode", ascii "0"), ("NavigatorOffset", ascii "0"),
    ("SteerAngleOffset", ascii "3.480000"), ("RotateLeftSteerAngleOffset", ascii "0.000000"),
    ("RotateRightSteerAngleOffset", ascii "2.300000"), ("DelayAngleOffset", ascii "7.000000"),
    ("DelayArcDistanceOffset", ascii "60"), ("DelayDistanceOffset", ascii "160"),
    ("StandardRadius", ascii "1500"), ("AngleOffset", ascii "0.000000"),
    ("LidarLeftRightOffsetMM", ascii "10"), ("CarWheelRadius", ascii "130"),
    ("CarWheelBase", ascii "1200"), ("GearRedutionRatio", ascii "14.000000"),
    ("LidarToTailLength", ascii "842")]

/-- `CAgvSetting::LoadAll`: the text of every section, and the file with the missing ones
added. -/
def loadAll (version : Text) (xml : XmlSetting) : (String → Text) × XmlSetting :=
  xml.loadSections (loadedSections version)

end DrivingControl.Utils

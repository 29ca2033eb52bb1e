import DrivingControl.Devices.PanelTexts

/-!
# The exchange with the panel

The settings are sent to the panel and come back.  The numbers of one and two bytes and the
addresses come through the frames as they are, but the product id becomes the numeral of the
number that `atoi` reads.  The arrays in which `ParseCanData` prints the id and the product id
have room for one digit and for three characters.
-/

namespace DrivingControl.Devices

open DrivingControl.Library DrivingControl.Utils

namespace HMISensor

/-! ## The arrays of the numbers -/

/-- The accesses of `ParseCanData` to the arrays of its two numbers, which are among its
`textAccesses`. -/
def numberTexts (buf : Nat → UInt8) : List TextAccess :=
  match buf 0 with
  | 0x08 => numberAccesses 2 (shortOf (buf 1) (buf 2))
  | 0x0A => numberAccesses 4 (intOf (buf 1) (buf 2) (buf 3) (buf 4))
  | _ => []

variable (conversions : Conversions) (beyond : Nat → UInt8)

/-- The accesses to these arrays when the settings are sent and come back. -/
def exchangeTexts (hmi : HMISensor) : List TextAccess :=
  (panelFrames conversions (hmi.setting.loadSections panelSections).1).flatMap fun frame =>
    numberTexts (frameByte beyond (frame.drop 1))

/-- The number that the product id becomes. -/
def returnedPid (xml : XmlSetting) : Int :=
  let pid := panelNumber conversions "Pid" xml
  intOf (byteAt 24 pid) (byteAt 16 pid) (byteAt 8 pid) (byteOf pid)

variable {conversions beyond}

/-- The frames of an address bring no number. -/
theorem numberTexts_addressFrames {code : UInt8} (notId : code ≠ 0x08) (notPid : code ≠ 0x0A)
    (address : Text) :
    ((addressFrames code address).flatMap fun frame =>
      numberTexts (frameByte beyond (frame.drop 1))) = [] := by
  rw [List.flatMap_eq_nil_iff]
  intro frame among
  rcases List.mem_map.mp among with ⟨j, -, rfl⟩
  rw [numberTexts]
  split
  next command => exact absurd command notId
  next command => exact absurd command notPid
  next => rfl

theorem exchangeTexts_eq (hmi : HMISensor) :
    exchangeTexts conversions beyond hmi =
      numberAccesses 2 (shortOf (byteAt 8 (panelNumber conversions "Id" hmi.setting))
        (byteOf (panelNumber conversions "Id" hmi.setting))) ++
      numberAccesses 4 (returnedPid conversions hmi.setting) := by
  have id : (hmi.setting.loadSections panelSections).1 "Id" = panelText "Id" hmi.setting :=
    loadSections_of_mem (by decide)
  have pid : (hmi.setting.loadSections panelSections).1 "Pid" = panelText "Pid" hmi.setting :=
    loadSections_of_mem (by decide)
  rw [returnedPid, panelNumber, panelNumber, ← id, ← pid, exchangeTexts, panelFrames]
  simp only [List.flatMap_append, numberTexts_addressFrames (by decide : (0x09 : UInt8) ≠ 0x08)
    (by decide), numberTexts_addressFrames (by decide : (0x15 : UInt8) ≠ 0x08) (by decide)]
  simp [numberTexts, frameByte]

/-- The numbers fit into their arrays exactly if they are short enough. -/
theorem allInBounds_exchangeTexts {hmi : HMISensor} (inRange : InRange conversions hmi.setting) :
    AllInBounds (exchangeTexts conversions beyond hmi) ↔
      panelNumber conversions "Id" hmi.setting ≤ 9 ∧
        -99 ≤ returnedPid conversions hmi.setting ∧
        returnedPid conversions hmi.setting ≤ 999 := by
  rcases inRange.shorts "Id" (by decide) with ⟨low, high⟩
  rw [exchangeTexts_eq, allInBounds_append, shortOf_byteOf low high,
    allInBounds_numberAccesses 0, allInBounds_numberAccesses 2]
  omega

/-! ## The round trip -/

/-- The exchange stays in its arrays and leaves the settings as they were. -/
structure ComesBack (conversions : Conversions) (beyond : Nat → UInt8) (hmi : HMISensor) :
    Prop where
  texts : AllInBounds (exchangeTexts conversions beyond hmi)
  unchanged : Unchanged conversions hmi.setting (hmi.exchange conversions beyond).setting

/-- The settings come back unchanged, as far as the arrays have room, exactly if the product
id is the numeral of an `int`. -/
theorem unchanged_exchange_iff {hmi : HMISensor} (inRange : InRange conversions hmi.setting) :
    Unchanged conversions hmi.setting (hmi.exchange conversions beyond).setting ↔
      ∃ value, fitsInt value ∧ panelText "Pid" hmi.setting = intText value := by
  rcases panelText_exchange_pid inRange with ⟨value, fits, pid, same⟩
  constructor
  · intro unchanged
    exact ⟨value, fits, unchanged.pid.symm.trans pid⟩
  · rintro ⟨number, small, numeral⟩
    have read : panelNumber conversions "Pid" hmi.setting = number := by
      rw [panelNumber, numeral]
      exact atoi_intText small
    refine ⟨?_, fun sectionName => panelText_exchange_address inRange, ?_⟩
    · intro sectionName member
      rcases List.mem_append.mp member with byte | short
      · exact panelNumber_exchange_byte inRange byte
      · exact panelNumber_exchange_short inRange short
    · rw [pid, numeral, same (by rwa [read]), read]

/-- The number of a numeral comes back. -/
theorem returnedPid_of_numeral {xml : XmlSetting} {value : Int} (fits : fitsInt value)
    (numeral : panelText "Pid" xml = intText value) : returnedPid conversions xml = value := by
  have read : panelNumber conversions "Pid" xml = value := by
    rw [panelNumber, numeral]
    exact atoi_intText fits
  rw [returnedPid, read]
  exact intOf_byteOf fits

end HMISensor

open HMISensor

/-- With numbers that fit and addresses of any contents and length, and anything in the
static buffers, what is sent to the panel and comes back stays in its arrays and leaves the
settings as they were exactly if the id has one digit and the product id is the decimal
numeral of a number of at most three characters. -/
theorem exchange_unchanged_iff (conversions : Conversions) (beyond : Nat → UInt8)
    (hmi : HMISensor) (inRange : InRange conversions hmi.setting) :
    ComesBack conversions beyond hmi ↔
      panelNumber conversions "Id" hmi.setting ≤ 9 ∧
        ∃ value, -99 ≤ value ∧ value ≤ 999 ∧ panelText "Pid" hmi.setting = intText value := by
  constructor
  · rintro ⟨texts, unchanged⟩
    rcases (allInBounds_exchangeTexts inRange).mp texts with ⟨id, low, high⟩
    rcases (unchanged_exchange_iff inRange).mp unchanged with ⟨value, fits, numeral⟩
    rw [returnedPid_of_numeral fits numeral] at low high
    exact ⟨id, value, low, high, numeral⟩
  · rintro ⟨id, value, low, high, numeral⟩
    have fits : fitsInt value := ⟨by omega, by omega⟩
    have returned : returnedPid conversions hmi.setting = value :=
      returnedPid_of_numeral fits numeral
    refine ⟨(allInBounds_exchangeTexts inRange).mpr ⟨id, ?_, ?_⟩,
      (unchanged_exchange_iff inRange).mpr ⟨value, fits, numeral⟩⟩
    · rw [returned]
      exact low
    · rw [returned]
      exact high

/-- Integer approximations of the conversions. -/
def conversionsApprox : Conversions where
  overflow value := value.bmod 0x100000000
  toSpeed speed := speed * 471 / 10000
  toForwardSpeed speed := speed * 10000 / 471

/-- A panel with an id of one digit, a product id, and the defaults otherwise. -/
def panelWithPid (pid : Text) : HMISensor where
  setting := { content := fun sectionName =>
    if sectionName = "Id" then some (ascii "1")
    else if sectionName = "Pid" then some pid
    else none }

theorem inRange_panelWithPid (pid : Text) :
    InRange conversionsApprox (panelWithPid pid).setting := by
  have others : ∀ sectionName, sectionName ≠ "Pid" →
      panelText sectionName (panelWithPid pid).setting =
        panelText sectionName (panelWithPid []).setting := by
    intro sectionName other
    simp [panelText, XmlSetting.valueOr, panelWithPid, other]
  refine ⟨?_, ?_, ?_⟩
  · intro sectionName member
    simp only [byteSections, List.mem_cons, List.not_mem_nil, or_false] at member
    rcases member with rfl | rfl | rfl | rfl
    all_goals
      rw [panelNumber, others _ (by decide)]
      decide
  · intro sectionName member
    simp only [shortSections, List.mem_cons, List.not_mem_nil, or_false] at member
    rcases member with rfl | rfl
    all_goals
      rw [panelNumber, others _ (by decide)]
      decide
  · intro sectionName member
    simp only [addressSections, List.mem_cons, List.not_mem_nil, or_false] at member
    rcases member with rfl | rfl
    all_goals
      rw [others _ (by decide)]
      exact ⟨by decide, by decide +kernel⟩

/-- A numeral as product id. -/
theorem exchange_unchanged_iff_numeral :
    ComesBack conversionsApprox (fun _ => 0) (panelWithPid (intText (-99))) ↔
      panelNumber conversionsApprox "Id" (panelWithPid (intText (-99))).setting ≤ 9 ∧
        ∃ value, -99 ≤ value ∧ value ≤ 999 ∧
          panelText "Pid" (panelWithPid (intText (-99))).setting = intText value :=
  exchange_unchanged_iff conversionsApprox (fun _ => 0) _ (inRange_panelWithPid _)

/-- The product id of a new installation does not come back. -/
theorem exchange_loses_pid :
    ¬ ∀ (conversions : Conversions) (beyond : Nat → UInt8) (hmi : HMISensor),
      InRange conversions hmi.setting →
      Unchanged conversions hmi.setting (hmi.exchange conversions beyond).setting := by
  intro all
  have inRange := inRange_panelWithPid (ascii "MF01161001001")
  rcases HMISensor.panelText_exchange_pid inRange with ⟨value, fits, pid, -⟩
  have same := (all conversionsApprox (fun _ => 0) _ inRange).pid
  have text : panelText "Pid" (panelWithPid (ascii "MF01161001001")).setting =
    ascii "MF01161001001" := rfl
  rw [pid, text] at same
  have zero := congrArg readInt same
  rw [readInt_intText] at zero
  have nothing : readInt (ascii "MF01161001001") = 0 := by decide
  rw [zero, nothing] at same
  exact absurd same (by decide)

end DrivingControl.Devices

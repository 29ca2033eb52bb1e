import DrivingControl.Event.EventHelper
import DrivingControl.Utils.Setting
import Mathlib.Data.List.GetD
import Mathlib.Data.List.TakeWhile

/-!
# The operator panel

`CAgvHMISensor` sends the settings to the panel, one frame for a number and eight for an
address, and saves what the panel sends back.  The frames of the two directions differ in
their first byte only, so what is sent can be received.
-/

namespace DrivingControl.Devices

open DrivingControl.Event DrivingControl.Library DrivingControl.Utils

/-- What the C library and floating point arithmetic make of a number. -/
structure Conversions where
  /-- `atoi` of a number that does not fit into an `int`. -/
  overflow : Int → Int
  /-- `ForwardSpeed *0.075*0.628`. -/
  toSpeed : Int → Int
  /-- `((Speed*100)/62.8)/0.075`. -/
  toForwardSpeed : Int → Int

/-- Whether a number fits into an `int`. -/
def fitsInt (value : Int) : Prop := -0x80000000 ≤ value ∧ value < 0x80000000

instance (value : Int) : Decidable (fitsInt value) :=
  inferInstanceAs (Decidable (-0x80000000 ≤ value ∧ value < 0x80000000))

/-- `atoi`. -/
def Conversions.atoi (conversions : Conversions) (text : Text) : Int :=
  if fitsInt (readInt text) then readInt text else conversions.overflow (readInt text)

/-- An `int` that is assigned to an `unsigned char`. -/
def byteOf (value : Int) : UInt8 := .ofNat (value % 256).toNat

/-- A byte of an `int` that is shifted to the right. -/
def byteAt (bits : Nat) (value : Int) : UInt8 := byteOf (value >>> bits)

/-- The characters of a C string, which end at the first null byte. -/
def cString (text : Text) : Text := text.takeWhile (· ≠ 0)

/-- `CAgvHMISensor`, with the static buffers of `ParseCanData`. -/
structure HMISensor where
  setting : XmlSetting := {}
  serverIp : Fin 16 → UInt8 := fun _ => 0
  localrIp : Fin 16 → UInt8 := fun _ => 0
  /-- The frames that were sent. -/
  sent : List (List UInt8) := []
  /-- The events that were queued. -/
  events : List AgvEvent := []

/-! ## Writing -/

/-- The sections that `WriteHMIPara` reads, in its order, with their defaults as they are
written. -/
def panelSections : List (String × Text) :=
  [("Volume", ascii "5"), ("ForwardSpeed", ascii "900"), ("ServerPort", ascii "8623"),
    ("Id", ascii "1001"), ("ServerIp", ascii "192.168.1.11"), ("Pid", ascii "01161001001"),
    ("RepairMode", ascii "0"), ("BatteryType", ascii "1"), ("UseDhcp", ascii "0"),
    ("LocalIp", ascii "192.168.1.222")]

/-- The characters of an address in its buffer, which is cleared first. -/
def addressByte (address : Text) (i : Nat) : UInt8 := (cString address).getD i 0

/-- A frame of an address. -/
def addressFrame (code : UInt8) (address : Text) (j : Nat) : List UInt8 :=
  [0x81, code, .ofNat (j + 1), addressByte address (2 * j), addressByte address (2 * j + 1)]

/-- The eight frames of an address. -/
def addressFrames (code : UInt8) (address : Text) : List (List UInt8) :=
  (List.range 8).map (addressFrame code address)

/-- The frames of `WriteHMIPara`, from the texts it has read. -/
def panelFrames (conversions : Conversions) (read : String → Text) : List (List UInt8) :=
  let number (sectionName : String) := conversions.atoi (read sectionName)
  let speed := conversions.toSpeed (number "ForwardSpeed")
  let port := number "ServerPort"
  let id := number "Id"
  let pid := number "Pid"
  [[0x81, 0x01, byteOf (number "Volume")],
    [0x81, 0x02, byteOf speed],
    [0x81, 0x07, byteAt 8 port, byteOf port],
    [0x81, 0x08, byteAt 8 id, byteOf id]] ++
  addressFrames 0x09 (read "ServerIp") ++
  [[0x81, 0x0A, byteAt 24 pid, byteAt 16 pid, byteAt 8 pid, byteOf pid],
    [0x81, 0x11, byteOf (number "RepairMode")],
    [0x81, 0x12, byteOf (number "BatteryType")],
    [0x81, 0x14, byteOf (number "UseDhcp")]] ++
  addressFrames 0x15 (read "LocalIp") ++
  [[0x81, 0xFF, 0xFF]]

namespace HMISensor

variable (conversions : Conversions)

/-- `WriteHMIPara`. -/
def writeHMIPara (hmi : HMISensor) : HMISensor :=
  let loaded := hmi.setting.loadSections panelSections
  { hmi with
    setting := loaded.2
    sent := hmi.sent ++ panelFrames conversions loaded.1 }

/-! ## Reading -/

/-- `SaveSectionValue` with a text. -/
def save (sectionName : String) (value : Text) (hmi : HMISensor) : HMISensor :=
  { hmi with setting := hmi.setting.saveSectionValue sectionName value }

/-- The two bytes of an address that a frame brings; the cases are 1 to 8. -/
def addressPart (part first second : UInt8) (ip : Fin 16 → UInt8) : Fin 16 → UInt8 :=
  fun i =>
    if i.val / 2 + 1 = part.toNat then (if i.val % 2 = 0 then first else second) else ip i

/-- The address that is saved: as many bytes as are not blanks, as a C string.  The byte that
would be read behind the buffer is overwritten by the null. -/
def savedAddress (ip : Fin 16 → UInt8) : Text :=
  cString ((List.ofFn ip).take ((List.ofFn ip).countP (· ≠ 0x20)))

/-- Two bytes as an `int`. -/
def shortOf (high low : UInt8) : Int := high.toNat * 0x100 + low.toNat

/-- Four bytes as an `int`. -/
def intOf (first second third fourth : UInt8) : Int :=
  Int.bmod (first.toNat * 0x1000000 + second.toNat * 0x10000 + third.toNat * 0x100 +
    fourth.toNat) 0x100000000

/-- `ParseCanData`; `beyond` is what lies behind the bytes of the frame.  A text is saved as
it is written; whether its array has room for it is told by the accesses beside the parser. -/
def parseCanData (beyond : Nat → UInt8) (buf : List UInt8) (hmi : HMISensor) : HMISensor :=
  let byte (i : Nat) := buf.getD i (beyond i)
  match byte 0 with
  | 0x01 => hmi.save "Volume" (intText (byte 1).toNat)
  | 0x02 =>
      let saved := hmi.save "Speed" (intText (byte 1).toNat)
      saved.save "ForwardSpeed" (intText (conversions.toForwardSpeed (byte 1).toNat))
  | 0x07 => hmi.save "ServerPort" (intText (shortOf (byte 1) (byte 2)))
  | 0x08 => hmi.save "Id" (intText (shortOf (byte 1) (byte 2)))
  | 0x09 =>
      let serverIp := addressPart (byte 1) (byte 2) (byte 3) hmi.serverIp
      if byte 1 = 0x08 then { hmi with serverIp }.save "ServerIp" (savedAddress serverIp)
      else { hmi with serverIp }
  | 0x0A => hmi.save "Pid" (intText (intOf (byte 1) (byte 2) (byte 3) (byte 4)))
  | 0x11 => hmi.save "RepairMode" (intText (byte 1).toNat)
  | 0x12 => hmi.save "BatteryType" (intText (byte 1).toNat)
  | 0x13 =>
      let queued : List AgvEvent :=
        if byte 1 = 0 then [{ event := .evTurnOffCharge, priority := urgent }]
        else if byte 1 = 1 then [{ event := .evTurnOnCharge }]
        else []
      -- There is no `break`: the command is saved as `UseDhcp`.
      { hmi with events := hmi.events ++ queued }.save "UseDhcp" (intText (byte 1).toNat)
  | 0x14 => hmi.save "UseDhcp" (intText (byte 1).toNat)
  | 0x15 =>
      let localrIp := addressPart (byte 1) (byte 2) (byte 3) hmi.localrIp
      if byte 1 = 0x08 then { hmi with localrIp }.save "LocalIp" (savedAddress localrIp)
      else { hmi with localrIp }
  | 0x81 => if byte 1 = 0xFF then hmi.writeHMIPara conversions else hmi
  | _ => hmi

/-- Frames that are received without their first byte, one after the other. -/
def receive (beyond : Nat → UInt8) (frames : List (List UInt8)) (hmi : HMISensor) : HMISensor :=
  frames.foldl (fun hmi frame => hmi.parseCanData conversions beyond (frame.drop 1)) hmi

/-- The settings are sent, and what was sent comes back. -/
def exchange (beyond : Nat → UInt8) (hmi : HMISensor) : HMISensor :=
  (hmi.writeHMIPara conversions).receive conversions beyond
    (panelFrames conversions (hmi.setting.loadSections panelSections).1)

end HMISensor

/-! ## What is to hold -/

/-- The text of a section, or the default with which `WriteHMIPara` reads it. -/
def panelText (sectionName : String) (xml : XmlSetting) : Text :=
  xml.valueOr sectionName ((panelSections.lookup sectionName).getD [])

/-- The number of a section. -/
def panelNumber (conversions : Conversions) (sectionName : String) (xml : XmlSetting) : Int :=
  conversions.atoi (panelText sectionName xml)

/-- The sections with a number of one byte. -/
def byteSections : List String := ["Volume", "RepairMode", "BatteryType", "UseDhcp"]

/-- The sections with a number of two bytes. -/
def shortSections : List String := ["ServerPort", "Id"]

def addressSections : List String := ["ServerIp", "LocalIp"]

/-- A dotted address. -/
def IsAddress (text : Text) : Prop :=
  text.length ≤ 15 ∧ ∀ code ∈ text, isDigitCode code = true ∨ code = 46

/-- The numbers fit into the frames, and the addresses are addresses. -/
structure InRange (conversions : Conversions) (xml : XmlSetting) : Prop where
  bytes : ∀ sectionName ∈ byteSections,
    0 ≤ panelNumber conversions sectionName xml ∧
      panelNumber conversions sectionName xml ≤ 255
  shorts : ∀ sectionName ∈ shortSections,
    0 ≤ panelNumber conversions sectionName xml ∧
      panelNumber conversions sectionName xml ≤ 65535
  addresses : ∀ sectionName ∈ addressSections, IsAddress (panelText sectionName xml)

/-- The settings of the panel are the same, but for the two speeds. -/
structure Unchanged (conversions : Conversions) (before after : XmlSetting) : Prop where
  numbers : ∀ sectionName ∈ byteSections ++ shortSections,
    panelNumber conversions sectionName after = panelNumber conversions sectionName before
  addresses : ∀ sectionName ∈ addressSections,
    panelText sectionName after = panelText sectionName before
  pid : panelText "Pid" after = panelText "Pid" before

/-! ## Numbers and addresses through the frames -/

theorem toNat_byteOf (value : Int) : ((byteOf value).toNat : Int) = value % 256 := by
  have bounds := Int.emod_nonneg value (by decide : (256 : Int) ≠ 0)
  have below := Int.emod_lt_of_pos value (by decide : (0 : Int) < 256)
  rw [byteOf, UInt8.toNat_ofNat']
  omega

theorem toNat_byteAt (bits : Nat) (value : Int) :
    ((byteAt bits value).toNat : Int) = value / (2 ^ bits : Nat) % 256 := by
  rw [byteAt, toNat_byteOf, Int.shiftRight_eq_div_pow]

namespace HMISensor

theorem shortOf_byteOf {value : Int} (low : 0 ≤ value) (high : value ≤ 65535) :
    shortOf (byteAt 8 value) (byteOf value) = value := by
  have first : (2 : Nat) ^ 8 = 0x100 := rfl
  rw [shortOf, toNat_byteAt, toNat_byteOf, first]
  omega

theorem fitsInt_intOf (first second third fourth : UInt8) :
    fitsInt (intOf first second third fourth) :=
  ⟨Int.le_bmod (by decide), Int.bmod_lt (by decide)⟩

/-- The four bytes of an `int` make it up. -/
theorem bmod_bytes {value : Int} (fits : fitsInt value) :
    (value / 0x1000000 % 256 * 0x1000000 + value / 0x10000 % 256 * 0x10000 +
      value / 0x100 % 256 * 0x100 + value % 256).bmod 0x100000000 = value := by
  obtain ⟨low, high⟩ : -0x80000000 ≤ value ∧ value < 0x80000000 := fits
  rw [Int.bmod_def]
  omega

theorem intOf_byteOf {value : Int} (fits : fitsInt value) :
    intOf (byteAt 24 value) (byteAt 16 value) (byteAt 8 value)
      (byteOf value) = value := by
  unfold intOf
  rw [toNat_byteAt, toNat_byteAt, toNat_byteAt, toNat_byteOf]
  exact bmod_bytes fits

/-- The buffer of an address after a number of its frames. -/
def filled (address : Text) (frames : Nat) (ip : Fin 16 → UInt8) : Fin 16 → UInt8 :=
  fun i => if i.val / 2 < frames then addressByte address i.val else ip i

theorem addressPart_filled (address : Text) {frames : Nat} (few : frames < 8)
    (ip : Fin 16 → UInt8) :
    addressPart (.ofNat (frames + 1)) (addressByte address (2 * frames))
      (addressByte address (2 * frames + 1)) (filled address frames ip) =
      filled address (frames + 1) ip := by
  funext i
  have part : (UInt8.ofNat (frames + 1)).toNat = frames + 1 := by
    rw [UInt8.toNat_ofNat']
    omega
  simp only [addressPart, filled, part]
  rcases Nat.lt_trichotomy (i.val / 2) frames with before | here | behind
  · rw [if_neg (by omega : ¬ i.val / 2 + 1 = frames + 1), if_pos before,
      if_pos (by omega : i.val / 2 < frames + 1)]
  · rw [if_pos (by omega : i.val / 2 + 1 = frames + 1),
      if_pos (by omega : i.val / 2 < frames + 1)]
    split
    next even => rw [show i.val = 2 * frames by omega]
    next odd => rw [show i.val = 2 * frames + 1 by omega]
  · rw [if_neg (by omega : ¬ i.val / 2 + 1 = frames + 1),
      if_neg (by omega : ¬ i.val / 2 < frames), if_neg (by omega : ¬ i.val / 2 < frames + 1)]

/-- All eight frames fill the buffer. -/
theorem filled_eight (address : Text) (ip : Fin 16 → UInt8) :
    filled address 8 ip = fun i => addressByte address i.val := by
  funext i
  exact if_pos (by omega)

end HMISensor

/-- An address has neither a blank nor a null byte. -/
theorem IsAddress.visible {address : Text} (isAddress : IsAddress address) :
    ∀ code ∈ address, code ≠ 0 ∧ code ≠ 0x20 := by
  intro code member
  rcases isAddress.2 code member with digit | rfl
  · refine ⟨?_, ?_⟩
    all_goals
      rintro rfl
      exact absurd digit (by decide)
  · exact ⟨by decide, by decide⟩

theorem IsAddress.cString_eq {address : Text} (isAddress : IsAddress address) :
    cString address = address := by
  refine List.takeWhile_eq_self_iff.mpr fun code member => ?_
  simpa using (isAddress.visible code member).1

namespace HMISensor

/-- The buffer of an address is the address and null bytes. -/
theorem ofFn_filled {address : Text} (isAddress : IsAddress address) (ip : Fin 16 → UInt8) :
    List.ofFn (filled address 8 ip) = address ++ List.replicate (16 - address.length) 0 := by
  have short := isAddress.1
  rw [filled_eight]
  apply List.ext_getElem
  · simp
    omega
  · intro i left right
    simp only [List.getElem_ofFn, addressByte, isAddress.cString_eq]
    by_cases inside : i < address.length
    · rw [List.getElem_append_left inside, List.getD_eq_getElem _ _ inside]
    · rw [List.getElem_append_right (by omega), List.getElem_replicate,
        List.getD_eq_default _ _ (by omega)]

/-- An address survives its buffer. -/
theorem savedAddress_filled {address : Text} (isAddress : IsAddress address)
    (ip : Fin 16 → UInt8) : savedAddress (filled address 8 ip) = address := by
  have visible : ∀ code ∈ List.ofFn (filled address 8 ip), decide (code ≠ 0x20) = true := by
    intro code member
    rw [ofFn_filled isAddress] at member
    rcases List.mem_append.mp member with inside | padding
    · simpa using (isAddress.visible code inside).2
    · rw [List.eq_of_mem_replicate padding]
      rfl
  rw [savedAddress, List.countP_eq_length.mpr visible, List.take_length, ofFn_filled isAddress,
    cString, List.takeWhile_append_of_pos, List.takeWhile_replicate]
  · simp
  · intro code member
    simpa using (isAddress.visible code member).1

/-! ## What comes back -/

variable {conversions : Conversions} {beyond : Nat → UInt8}

theorem receive_append (front back : List (List UInt8)) (hmi : HMISensor) :
    hmi.receive conversions beyond (front ++ back) =
      (hmi.receive conversions beyond front).receive conversions beyond back :=
  List.foldl_append

/-- The number of a frame of an address. -/
theorem ofNat_eq_eight {j : Nat} (few : j < 8) : UInt8.ofNat (j + 1) = 0x08 ↔ j = 7 := by
  rw [← UInt8.toNat_inj, UInt8.toNat_ofNat']
  have eight : (0x08 : UInt8).toNat = 8 := rfl
  omega

/-- A case of `ParseCanData` for an address: it puts two bytes into a buffer, and saves the
buffer when they are the last. -/
structure AddressCase (conversions : Conversions) (beyond : Nat → UInt8) (code : UInt8)
    (sectionName : String) where
  buffer : HMISensor → Fin 16 → UInt8
  fill : (Fin 16 → UInt8) → HMISensor → HMISensor
  fill_buffer : ∀ hmi, fill (buffer hmi) hmi = hmi
  buffer_fill : ∀ ip hmi, buffer (fill ip hmi) = ip
  fill_fill : ∀ ip other hmi, fill ip (fill other hmi) = fill ip hmi
  setting_fill : ∀ ip hmi, (fill ip hmi).setting = hmi.setting
  parses : ∀ part first second hmi,
    hmi.parseCanData conversions beyond [code, part, first, second] =
      let ip := addressPart part first second (buffer hmi)
      if part = 0x08 then (fill ip hmi).save sectionName (savedAddress ip) else fill ip hmi

def serverIpCase : AddressCase conversions beyond 0x09 "ServerIp" where
  buffer := serverIp
  fill serverIp hmi := { hmi with serverIp }
  fill_buffer _ := rfl
  buffer_fill _ _ := rfl
  fill_fill _ _ _ := rfl
  setting_fill _ _ := rfl
  parses _ _ _ _ := rfl

def localrIpCase : AddressCase conversions beyond 0x15 "LocalIp" where
  buffer := localrIp
  fill localrIp hmi := { hmi with localrIp }
  fill_buffer _ := rfl
  buffer_fill _ _ := rfl
  fill_fill _ _ _ := rfl
  setting_fill _ _ := rfl
  parses _ _ _ _ := rfl

namespace AddressCase

variable {code : UInt8} {sectionName : String}
  (addressCase : AddressCase conversions beyond code sectionName)

/-- A frame behind those before it. -/
theorem receive_succ (address : Text) (hmi : HMISensor) {frames : Nat} (few : frames < 8)
    (before : hmi.receive conversions beyond ((List.range frames).map (addressFrame code address)) =
      addressCase.fill (filled address frames (addressCase.buffer hmi)) hmi) :
    hmi.receive conversions beyond
        ((List.range (frames + 1)).map (addressFrame code address)) =
      let ip := filled address (frames + 1) (addressCase.buffer hmi)
      if frames = 7 then
        (addressCase.fill ip hmi).save sectionName (savedAddress ip)
      else addressCase.fill ip hmi := by
  rw [List.range_succ, List.map_append, receive_append, before]
  simp only [receive, List.map_cons, List.map_nil, List.foldl_cons, List.foldl_nil,
    addressFrame, List.drop_succ_cons, List.drop_zero, addressCase.parses,
    addressCase.buffer_fill, addressCase.fill_fill, ofNat_eq_eight few,
    addressPart_filled address few]

/-- The frames before the last one fill the buffer. -/
theorem receive_few (address : Text) (hmi : HMISensor) {frames : Nat} (few : frames < 8) :
    hmi.receive conversions beyond ((List.range frames).map (addressFrame code address)) =
      addressCase.fill (filled address frames (addressCase.buffer hmi)) hmi := by
  induction frames with
  | zero => exact (addressCase.fill_buffer hmi).symm
  | succ frames ih =>
      rw [addressCase.receive_succ address hmi (by omega) (ih (by omega)),
        if_neg (by omega : ¬ frames = 7)]

include addressCase in
/-- The last frame saves the address. -/
theorem setting_receive {address : Text} (isAddress : IsAddress address) (hmi : HMISensor) :
    (hmi.receive conversions beyond (addressFrames code address)).setting =
      hmi.setting.saveSectionValue sectionName address := by
  have before := addressCase.receive_few address hmi (by decide : 7 < 8)
  rw [addressFrames, addressCase.receive_succ address hmi (by decide : 7 < 8) before, if_pos rfl,
    save, savedAddress_filled isAddress, addressCase.setting_fill]

end AddressCase

/-- What is saved when the frames come back, section by section. -/
def panelSaves (conversions : Conversions) (read : String → Text) : List (String × Text) :=
  let number (sectionName : String) := conversions.atoi (read sectionName)
  let byte (value : Int) := intText (byteOf value).toNat
  let short (value : Int) := intText (shortOf (byteAt 8 value) (byteOf value))
  let speed := byteOf (conversions.toSpeed (number "ForwardSpeed"))
  let pid := number "Pid"
  [("Volume", byte (number "Volume")),
    ("Speed", intText speed.toNat),
    ("ForwardSpeed", intText (conversions.toForwardSpeed speed.toNat)),
    ("ServerPort", short (number "ServerPort")),
    ("Id", short (number "Id")),
    ("ServerIp", read "ServerIp"),
    ("Pid", intText (intOf (byteAt 24 pid) (byteAt 16 pid) (byteAt 8 pid)
      (byteOf pid))),
    ("RepairMode", byte (number "RepairMode")),
    ("BatteryType", byte (number "BatteryType")),
    ("UseDhcp", byte (number "UseDhcp")),
    ("LocalIp", read "LocalIp")]

theorem setting_receive_panelFrames {read : String → Text}
    (server : IsAddress (read "ServerIp")) (own : IsAddress (read "LocalIp"))
    (hmi : HMISensor) :
    (hmi.receive conversions beyond (panelFrames conversions read)).setting =
      hmi.setting.saveAll (panelSaves conversions read) := by
  have saved : ∀ hmi : HMISensor,
      (hmi.receive conversions beyond (addressFrames 0x09 (read "ServerIp"))).setting =
        hmi.setting.saveSectionValue "ServerIp" (read "ServerIp") :=
    serverIpCase.setting_receive server
  have savedOwn : ∀ hmi : HMISensor,
      (hmi.receive conversions beyond (addressFrames 0x15 (read "LocalIp"))).setting =
        hmi.setting.saveSectionValue "LocalIp" (read "LocalIp") :=
    localrIpCase.setting_receive own
  simp only [panelFrames, receive_append]
  have last : ∀ hmi : HMISensor,
      (hmi.receive conversions beyond [[0x81, 0xFF, 0xFF]]).setting = hmi.setting := fun _ => rfl
  have numbers : ∀ (hmi : HMISensor) (a b c d mode type dhcp : UInt8),
      (hmi.receive conversions beyond
        [[0x81, 0x0A, a, b, c, d], [0x81, 0x11, mode], [0x81, 0x12, type],
          [0x81, 0x14, dhcp]]).setting =
        hmi.setting.saveAll
          [("Pid", intText (intOf a b c d)), ("RepairMode", intText mode.toNat),
            ("BatteryType", intText type.toNat), ("UseDhcp", intText dhcp.toNat)] := by
    intro hmi a b c d mode type dhcp
    simp only [receive, List.foldl_cons, List.foldl_nil, List.drop_succ_cons, List.drop_zero,
      parseCanData, List.getD_cons_zero, List.getD_cons_succ, save, XmlSetting.saveAll]
  have first : ∀ (hmi : HMISensor) (volume speed a b c d : UInt8),
      (hmi.receive conversions beyond
        [[0x81, 0x01, volume], [0x81, 0x02, speed], [0x81, 0x07, a, b],
          [0x81, 0x08, c, d]]).setting =
        hmi.setting.saveAll
          [("Volume", intText volume.toNat), ("Speed", intText speed.toNat),
            ("ForwardSpeed", intText (conversions.toForwardSpeed speed.toNat)),
            ("ServerPort", intText (shortOf a b)), ("Id", intText (shortOf c d))] := by
    intro hmi volume speed a b c d
    simp only [receive, List.foldl_cons, List.foldl_nil, List.drop_succ_cons, List.drop_zero,
      parseCanData, List.getD_cons_zero, List.getD_cons_succ, save, XmlSetting.saveAll]
  rw [last, savedOwn, numbers, saved, first]
  simp only [XmlSetting.saveAll, panelSaves, List.foldl_cons, List.foldl_nil]

/-! ## The round trip -/

variable {xml : XmlSetting} {sectionName : String} {read : String → Text}

theorem loadSections_panelSections {default : Text}
    (listed : panelSections.lookup sectionName = some default) :
    (xml.loadSections panelSections).1 sectionName = panelText sectionName xml := by
  rw [(XmlSetting.loadSections_of_lookup panelSections xml listed).1, panelText, listed]
  rfl

theorem atoi_intText {value : Int} (fits : fitsInt value) :
    conversions.atoi (intText value) = value := by
  rw [Conversions.atoi, readInt_intText, if_pos fits]

theorem distinct_panelSaves (conversions : Conversions) (read : String → Text) :
    ((panelSaves conversions read).map Prod.fst).Nodup := by
  have names : (panelSaves conversions read).map Prod.fst = ["Volume", "Speed", "ForwardSpeed",
    "ServerPort", "Id", "ServerIp", "Pid", "RepairMode", "BatteryType", "UseDhcp", "LocalIp"] :=
    rfl
  rw [names]
  decide

theorem lookup_byte (conversions : Conversions) (read : String → Text)
    (member : sectionName ∈ byteSections) :
    (panelSaves conversions read).lookup sectionName =
      some (intText (byteOf (conversions.atoi (read sectionName))).toNat) := by
  simp only [byteSections, List.mem_cons, List.not_mem_nil, or_false] at member
  rcases member with rfl | rfl | rfl | rfl <;> rfl

theorem lookup_short (conversions : Conversions) (read : String → Text)
    (member : sectionName ∈ shortSections) :
    (panelSaves conversions read).lookup sectionName =
      some (intText (shortOf (byteAt 8 (conversions.atoi (read sectionName)))
        (byteOf (conversions.atoi (read sectionName))))) := by
  simp only [shortSections, List.mem_cons, List.not_mem_nil, or_false] at member
  rcases member with rfl | rfl <;> rfl

theorem lookup_address (conversions : Conversions) (read : String → Text)
    (member : sectionName ∈ addressSections) :
    (panelSaves conversions read).lookup sectionName = some (read sectionName) := by
  simp only [addressSections, List.mem_cons, List.not_mem_nil, or_false] at member
  rcases member with rfl | rfl <;> rfl

theorem lookup_pid (conversions : Conversions) (read : String → Text) :
    (panelSaves conversions read).lookup "Pid" =
      some (intText (intOf (byteAt 24 (conversions.atoi (read "Pid")))
        (byteAt 16 (conversions.atoi (read "Pid")))
        (byteAt 8 (conversions.atoi (read "Pid"))) (byteOf (conversions.atoi (read "Pid"))))) :=
  rfl

/-- The sections of the panel are read. -/
theorem loadSections_of_mem
    (member : sectionName ∈ byteSections ++ shortSections ++ addressSections ++ ["Pid"]) :
    (xml.loadSections panelSections).1 sectionName = panelText sectionName xml := by
  simp only [byteSections, shortSections, addressSections, List.cons_append, List.nil_append,
    List.mem_cons, List.not_mem_nil, or_false] at member
  rcases member with rfl | rfl | rfl | rfl | rfl | rfl | rfl | rfl | rfl
  all_goals exact loadSections_panelSections rfl

/-- Behind the exchange a section holds what was saved for it. -/
theorem panelText_exchange {hmi : HMISensor} (inRange : InRange conversions hmi.setting)
    {text : Text}
    (listed : (panelSaves conversions (hmi.setting.loadSections panelSections).1).lookup
      sectionName = some text) :
    panelText sectionName (hmi.exchange conversions beyond).setting = text := by
  have server := inRange.addresses "ServerIp" (by simp [addressSections])
  have own := inRange.addresses "LocalIp" (by simp [addressSections])
  rw [← loadSections_of_mem (by simp [addressSections])] at server own
  rw [panelText, XmlSetting.valueOr, exchange, setting_receive_panelFrames server own,
    XmlSetting.content_saveAll_of_lookup _ (distinct_panelSaves _ _) listed]
  rfl

/-- The exchange keeps the numbers of one byte. -/
theorem panelNumber_exchange_byte {hmi : HMISensor} (inRange : InRange conversions hmi.setting)
    (member : sectionName ∈ byteSections) :
    panelNumber conversions sectionName (hmi.exchange conversions beyond).setting =
      panelNumber conversions sectionName hmi.setting := by
  rcases inRange.bytes sectionName member with ⟨low, high⟩
  have read : (hmi.setting.loadSections panelSections).1 sectionName =
      panelText sectionName hmi.setting := loadSections_of_mem (by simp [member])
  rw [panelNumber, panelText_exchange inRange (lookup_byte _ _ member), toNat_byteOf, read]
  change conversions.atoi (intText (panelNumber conversions sectionName hmi.setting % 256)) = _
  rw [Int.emod_eq_of_lt low (by omega)]
  exact atoi_intText ⟨by omega, by omega⟩

/-- The exchange keeps the numbers of two bytes. -/
theorem panelNumber_exchange_short {hmi : HMISensor} (inRange : InRange conversions hmi.setting)
    (member : sectionName ∈ shortSections) :
    panelNumber conversions sectionName (hmi.exchange conversions beyond).setting =
      panelNumber conversions sectionName hmi.setting := by
  rcases inRange.shorts sectionName member with ⟨low, high⟩
  have read : (hmi.setting.loadSections panelSections).1 sectionName =
      panelText sectionName hmi.setting := loadSections_of_mem (by simp [member])
  have saved := lookup_short conversions (hmi.setting.loadSections panelSections).1 member
  rw [read, ← panelNumber, shortOf_byteOf low high] at saved
  rw [panelNumber, panelText_exchange inRange saved]
  exact atoi_intText ⟨by omega, by omega⟩

/-- The exchange keeps the addresses. -/
theorem panelText_exchange_address {hmi : HMISensor} (inRange : InRange conversions hmi.setting)
    (member : sectionName ∈ addressSections) :
    panelText sectionName (hmi.exchange conversions beyond).setting =
      panelText sectionName hmi.setting := by
  rw [panelText_exchange inRange (lookup_address _ _ member)]
  exact loadSections_of_mem (by simp [member])

/-- The product id becomes the numeral of the number that `atoi` reads. -/
theorem panelText_exchange_pid {hmi : HMISensor} (inRange : InRange conversions hmi.setting) :
    ∃ value, fitsInt value ∧
      panelText "Pid" (hmi.exchange conversions beyond).setting = intText value ∧
      (fitsInt (panelNumber conversions "Pid" hmi.setting) →
        value = panelNumber conversions "Pid" hmi.setting) := by
  have read : (hmi.setting.loadSections panelSections).1 "Pid" =
      panelText "Pid" hmi.setting := loadSections_of_mem (by simp)
  refine ⟨_, fitsInt_intOf _ _ _ _, panelText_exchange inRange (lookup_pid _ _), fun fits => ?_⟩
  rw [read]
  exact intOf_byteOf fits

end HMISensor

end DrivingControl.Devices

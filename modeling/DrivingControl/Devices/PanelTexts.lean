import DrivingControl.Devices.PanelCommands
import DrivingControl.Library.Run
import Mathlib.Data.List.Count
import Mathlib.Data.List.DropRight
import Mathlib.Data.List.OfFn

/-!
# The texts of the panel

`ParseCanData` prints two numbers into arrays of two and four characters and collects the
sixteen characters of an address in a static buffer.  With the last pair it copies as many
characters as are not blanks, and one more for the end of the string.  Here the accesses to
these buffers stand beside the parser, and a monitor collects the pairs of an address that
came in order.
-/

namespace DrivingControl.Devices

open DrivingControl.Library DrivingControl.Utils

/-! ## Trailing blanks -/

/-- A text without its trailing blanks. -/
def trimmed (text : Text) : Text := text.rdropWhile (· = 0x20)

/-- As many characters as are not blanks are the text without its trailing blanks exactly if
there is no other blank, and the end of a string comes behind it. -/
theorem cString_take_eq_trimmed_iff (text : Text) :
    cString (text.take (text.countP (· ≠ 0x20))) = trimmed text ↔
      ∀ code ∈ trimmed text, code ≠ 0x20 ∧ code ≠ 0 := by
  have split : trimmed text ++ text.rtakeWhile (· = 0x20) = text :=
    List.rdropWhile_append_rtakeWhile
  have blanks : (text.rtakeWhile (· = 0x20)).countP (· ≠ 0x20) = 0 := by
    rw [List.countP_eq_zero]
    intro code among
    simpa using List.mem_rtakeWhile_imp among
  have counted : text.countP (· ≠ 0x20) = (trimmed text).countP (· ≠ 0x20) := by
    rw [← congrArg (List.countP _) split, List.countP_append, blanks, Nat.add_zero]
  have few : (trimmed text).countP (· ≠ 0x20) ≤ (trimmed text).length := List.countP_le_length
  have front : text.take ((trimmed text).countP (· ≠ 0x20)) =
      (trimmed text).take ((trimmed text).countP (· ≠ 0x20)) := by
    rw [← congrArg (List.take _) split, List.take_append_of_le_length few]
  rw [counted, front]
  constructor
  · intro saved
    have long : (trimmed text).length ≤ (trimmed text).countP (· ≠ 0x20) := by
      calc (trimmed text).length
          = (cString ((trimmed text).take ((trimmed text).countP (· ≠ 0x20)))).length := by
            rw [saved]
        _ ≤ ((trimmed text).take ((trimmed text).countP (· ≠ 0x20))).length :=
            (List.takeWhile_prefix _).length_le
        _ ≤ (trimmed text).countP (· ≠ 0x20) := List.length_take_le _ _
    rw [List.take_of_length_le long, cString, List.takeWhile_eq_self_iff] at saved
    have visible := List.countP_eq_length.mp (Nat.le_antisymm few long)
    intro code among
    exact ⟨by simpa using visible code among, by simpa using saved code among⟩
  · intro proper
    have visible : (trimmed text).countP (· ≠ 0x20) = (trimmed text).length := by
      rw [List.countP_eq_length]
      intro code among
      simpa using (proper code among).1
    rw [visible, List.take_length, cString, List.takeWhile_eq_self_iff]
    intro code among
    simpa using (proper code among).2

namespace HMISensor

/-! ## The accesses -/

/-- An access to a buffer of some characters. -/
structure TextAccess where
  size : Nat
  index : Nat
  deriving DecidableEq, Repr

def TextAccess.InBounds (access : TextAccess) : Prop := access.index < access.size

instance (access : TextAccess) : Decidable access.InBounds :=
  inferInstanceAs (Decidable (_ < _))

/-- The first characters of a buffer, one after the other. -/
def charAccesses (size count : Nat) : List TextAccess :=
  (List.range count).map fun index => { size, index }

/-- `sprintf` of a number, with the end of the string. -/
def numberAccesses (size : Nat) (value : Int) : List TextAccess :=
  charAccesses size ((intText value).length + 1)

/-- The count of the characters, the copy, its end, and the string that is made of it. -/
def copyAccesses (ip : Fin 16 → UInt8) : List TextAccess :=
  let len := (List.ofFn ip).countP (· ≠ 0x20) + 1
  charAccesses 16 16 ++ charAccesses 16 len ++ charAccesses len len ++
    [{ size := len, index := len - 1 }] ++ charAccesses len ((savedAddress ip).length + 1)

/-- The cases of an address: two characters are put in their places, and the last two are
followed by the copy. -/
def addressAccesses (part : UInt8) (ip : Fin 16 → UInt8) : List TextAccess :=
  if 1 ≤ part.toNat ∧ part.toNat ≤ 8 then
    [{ size := 16, index := 2 * (part.toNat - 1) },
      { size := 16, index := 2 * (part.toNat - 1) + 1 }] ++
      if part = 0x08 then copyAccesses ip else []
  else []

/-- The accesses of `ParseCanData` to its text buffers. -/
def textAccesses (buf : Nat → UInt8) (hmi : HMISensor) : List TextAccess :=
  match buf 0 with
  | 0x08 => numberAccesses 2 (shortOf (buf 1) (buf 2))
  | 0x09 => addressAccesses (buf 1) (addressPart (buf 1) (buf 2) (buf 3) hmi.serverIp)
  | 0x0A => numberAccesses 4 (intOf (buf 1) (buf 2) (buf 3) (buf 4))
  | 0x15 => addressAccesses (buf 1) (addressPart (buf 1) (buf 2) (buf 3) hmi.localrIp)
  | _ => []

/-- Every access is within its buffer. -/
def AllInBounds (accesses : List TextAccess) : Prop := ∀ access ∈ accesses, access.InBounds

theorem allInBounds_append (front back : List TextAccess) :
    AllInBounds (front ++ back) ↔ AllInBounds front ∧ AllInBounds back :=
  List.forall_mem_append

@[simp] theorem allInBounds_charAccesses (size count : Nat) :
    AllInBounds (charAccesses size count) ↔ count ≤ size := by
  rw [AllInBounds, charAccesses, List.forall_mem_map]
  constructor
  · intro inside
    apply Nat.le_of_not_lt
    intro few
    exact absurd (inside size (List.mem_range.mpr few)) (Nat.lt_irrefl size)
  · intro fits index among
    exact Nat.lt_of_lt_of_le (List.mem_range.mp among) fits

/-- The copy of an address stays inside the buffer exactly if there is a blank. -/
theorem allInBounds_copyAccesses (ip : Fin 16 → UInt8) :
    AllInBounds (copyAccesses ip) ↔ ∃ i, ip i = 0x20 := by
  have text : (savedAddress ip).length ≤ (List.ofFn ip).countP (· ≠ 0x20) :=
    Nat.le_trans (List.takeWhile_prefix _).length_le (List.length_take_le _ _)
  have blank : (List.ofFn ip).countP (· ≠ 0x20) < 16 ↔ ∃ i, ip i = 0x20 := by
    have counted := @List.countP_lt_length_iff UInt8 (List.ofFn ip) (· ≠ 0x20)
    rw [List.length_ofFn] at counted
    simpa only [List.mem_ofFn, exists_exists_eq_and, ne_eq, decide_not, Bool.not_eq_false',
      decide_eq_true_eq] using counted
  rw [← blank, copyAccesses]
  simp only [allInBounds_append, allInBounds_charAccesses]
  constructor
  · rintro ⟨⟨⟨⟨-, few⟩, -⟩, -⟩, -⟩
    exact few
  · intro few
    refine ⟨⟨⟨⟨Nat.le_refl _, few⟩, Nat.le_refl _⟩, ?_⟩, Nat.succ_le_succ text⟩
    intro access last
    rw [List.mem_singleton] at last
    rw [last]
    exact Nat.lt_succ_self _

theorem allInBounds_addressAccesses (part : UInt8) (ip : Fin 16 → UInt8) :
    AllInBounds (addressAccesses part ip) ↔ (part = 0x08 → ∃ i, ip i = 0x20) := by
  rw [addressAccesses]
  by_cases placed : 1 ≤ part.toNat ∧ part.toNat ≤ 8
  · have pair : AllInBounds [{ size := 16, index := 2 * (part.toNat - 1) },
        { size := 16, index := 2 * (part.toNat - 1) + 1 }] := by
      intro access among
      simp only [List.mem_cons, List.not_mem_nil, or_false] at among
      rcases among with rfl | rfl
      · exact (by omega : 2 * (part.toNat - 1) < 16)
      · exact (by omega : 2 * (part.toNat - 1) + 1 < 16)
    rw [if_pos placed, allInBounds_append]
    by_cases last : part = 0x08
    · rw [if_pos last, allInBounds_copyAccesses]
      exact ⟨fun inside _ => inside.2, fun blank => ⟨pair, blank last⟩⟩
    · rw [if_neg last]
      exact ⟨fun _ other => absurd other last, fun _ => ⟨pair, by simp [AllInBounds]⟩⟩
  · rw [if_neg placed]
    constructor
    · rintro - rfl
      exact absurd (by decide) placed
    · intro _
      simp [AllInBounds]

/-! ## The two addresses -/

section Acts

variable {conversions : Conversions} {buf : Nat → UInt8} {hmi next : HMISensor}

/-- A pair goes into the buffer of its address only. -/
theorem PanelAddress.buffer_fill_placed {other : PanelAddress} (mine : buf 0 = other.code)
    (address : PanelAddress) :
    address.buffer (other.fill (other.placed buf hmi) hmi) =
      if buf 0 = address.code then address.placed buf hmi else address.buffer hmi := by
  by_cases same : address = other
  · subst same
    rw [if_pos mine, buffer_fill]
  · rw [if_neg (fun code => same (code_injective (code.symm.trans mine)))]
    exact buffer_fill_of_ne same _

/-- A frame of an address puts its pair into the buffer, and other frames leave it. -/
theorem Acts.buffer (acts : Acts conversions buf hmi next) (address : PanelAddress) :
    address.buffer next =
      if buf 0 = address.code then address.placed buf hmi else address.buffer hmi := by
  cases acts with
  | numbers saves own plain quiet =>
      rw [if_neg (plain address)]
      cases address <;> rfl
  | pair other mine more => exact PanelAddress.buffer_fill_placed mine address
  | lastPair other mine last =>
      rw [PanelAddress.buffer_save]
      exact PanelAddress.buffer_fill_placed mine address
  | charging command queued events =>
      rw [PanelAddress.buffer_save, command, if_neg address.code_ne_charging]
      cases address <;> rfl
  | asked command =>
      rw [command, if_neg address.code_ne_asked]
      cases address <;> rfl

/-- The last pair saves what was copied. -/
theorem Acts.content_last (acts : Acts conversions buf hmi next) (address : PanelAddress)
    (mine : buf 0 = address.code) (last : buf 1 = 0x08) :
    next.setting.content address.sectionName = some (savedAddress (address.buffer next)) := by
  rw [acts.buffer address, if_pos mine]
  cases acts with
  | numbers saves own plain quiet => exact absurd mine (plain address)
  | pair other also more => exact absurd last more
  | lastPair other also last =>
      obtain rfl := PanelAddress.code_injective (mine.symm.trans also)
      exact XmlSetting.content_saveSectionValue_self _
  | charging command queued events =>
      exact absurd (command.symm.trans mine) address.code_ne_charging
  | asked command => exact absurd (command.symm.trans mine) address.code_ne_asked

end Acts

/-! ## Pairs in order -/

/-- The characters of the pairs of an address that came in order, with one more pair. -/
def observePair (part first second : UInt8) (received : List UInt8) : List UInt8 :=
  if 1 ≤ part.toNat ∧ part.toNat ≤ 8 then
    if part = 0x01 then [first, second]
    else if received.length = 2 * (part.toNat - 1) then received ++ [first, second]
    else []
  else received

/-- The pairs in order of each address; other frames may come between them. -/
def observePairs (beyond : Nat → UInt8) (_ : HMISensor) (frame : List UInt8) (_ : HMISensor)
    (received : PanelAddress → List UInt8) (address : PanelAddress) : List UInt8 :=
  if frameByte beyond frame 0 = address.code then
    observePair (frameByte beyond frame 1) (frameByte beyond frame 2) (frameByte beyond frame 3)
      (received address)
  else received address

/-- The characters received stand at the beginning of the buffer. -/
structure Placed (received : List UInt8) (ip : Fin 16 → UInt8) : Prop where
  short : received.length ≤ 16
  same : ∀ (i : Fin 16) (within : i.val < received.length), received[i.val] = ip i

theorem Placed.nil (ip : Fin 16 → UInt8) : Placed [] ip :=
  ⟨Nat.zero_le _, fun _ within => absurd within (Nat.not_lt_zero _)⟩

/-- All sixteen characters are the buffer. -/
theorem Placed.eq_ofFn {received : List UInt8} {ip : Fin 16 → UInt8}
    (placed : Placed received ip) (full : received.length = 16) :
    List.ofFn ip = received := by
  apply List.ext_getElem
  · rw [List.length_ofFn, full]
  · intro i left right
    rw [List.getElem_ofFn]
    exact (placed.same ⟨i, by omega⟩ right).symm

/-- The pair behind the characters received. -/
theorem Placed.append {received : List UInt8} {ip : Fin 16 → UInt8} {part : UInt8}
    (placed : Placed received ip) (inside : 1 ≤ part.toNat ∧ part.toNat ≤ 8)
    (following : received.length = 2 * (part.toNat - 1)) (first second : UInt8) :
    Placed (received ++ [first, second]) (HMISensor.addressPart part first second ip) := by
  have size : (received ++ [first, second]).length = received.length + 2 := by simp
  refine ⟨by omega, fun i within => ?_⟩
  rw [size] at within
  rw [HMISensor.addressPart]
  rcases Nat.lt_or_ge i.val received.length with before | behind
  · rw [List.getElem_append_left before, if_neg (by omega)]
    exact placed.same i before
  · rw [List.getElem_append_right behind, if_pos (by omega)]
    rcases Nat.eq_or_lt_of_le behind with here | later
    · rw [if_pos (by omega)]
      simp [← here]
    · have next : i.val - received.length = 1 := by omega
      rw [if_neg (by omega)]
      simp [next]

theorem Placed.addressPart {received : List UInt8} {ip : Fin 16 → UInt8}
    (placed : Placed received ip) (part first second : UInt8) :
    Placed (observePair part first second received)
      (HMISensor.addressPart part first second ip) := by
  rw [observePair]
  split
  next inside =>
    split
    next one =>
      rw [one] at inside ⊢
      exact Placed.append (.nil ip) inside rfl first second
    next =>
      split
      next following => exact placed.append inside following first second
      next => exact .nil _
  next outside =>
    rw [addressPart_of_outside outside]
    exact placed

/-! ## What is to hold -/

/-- One frame of the panel. -/
def panelFrame (conversions : Conversions) (beyond : Nat → UInt8) :
    StepFn HMISensor (List UInt8) := fun frame hmi =>
  some (hmi.parseCanData conversions beyond frame)

/-- The last pair of an address whose pairs came in order saves its characters without the
trailing blanks. -/
def SavesTrimmed (buf : Nat → UInt8) (next : HMISensor × (PanelAddress → List UInt8)) : Prop :=
  ∀ address, buf 0 = address.code → buf 1 = 0x08 → (next.2 address).length = 16 →
    next.1.setting.content address.sectionName = some (trimmed (next.2 address))

/-- The accesses are within their buffers, and addresses are saved as they were sent. -/
def TextsKept (beyond : Nat → UInt8) (paired : HMISensor × (PanelAddress → List UInt8))
    (frame : List UInt8) (next : HMISensor × (PanelAddress → List UInt8)) : Prop :=
  AllInBounds (textAccesses (frameByte beyond frame) paired.1) ∧
    SavesTrimmed (frameByte beyond frame) next

/-- There is a blank in the buffer of an address behind the last pair. -/
def HasBlank (buf : Nat → UInt8) (ip : Fin 16 → UInt8) : Prop :=
  buf 2 = 0x20 ∨ buf 3 = 0x20 ∨ ∃ i : Fin 16, i.val < 14 ∧ ip i = 0x20

/-- Numbers that fit into their buffers, addresses with a blank, and none but trailing blanks
and no end of a string in those that came in order. -/
structure TextsFit (beyond : Nat → UInt8) (paired : HMISensor × (PanelAddress → List UInt8))
    (frame : List UInt8) (next : HMISensor × (PanelAddress → List UInt8)) : Prop where
  id : frameByte beyond frame 0 = 0x08 →
    shortOf (frameByte beyond frame 1) (frameByte beyond frame 2) ≤ 9
  pid : frameByte beyond frame 0 = 0x0A →
    -99 ≤ intOf (frameByte beyond frame 1) (frameByte beyond frame 2) (frameByte beyond frame 3)
        (frameByte beyond frame 4) ∧
      intOf (frameByte beyond frame 1) (frameByte beyond frame 2) (frameByte beyond frame 3)
        (frameByte beyond frame 4) ≤ 999
  blank : ∀ address : PanelAddress, frameByte beyond frame 0 = address.code →
    frameByte beyond frame 1 = 0x08 → HasBlank (frameByte beyond frame) (address.buffer paired.1)
  visible : ∀ address : PanelAddress, frameByte beyond frame 0 = address.code →
    frameByte beyond frame 1 = 0x08 → (next.2 address).length = 16 →
      ∀ code ∈ trimmed (next.2 address), code ≠ 0x20 ∧ code ≠ 0

/-! ## One frame -/

theorem exists_addressPart_iff (buf : Nat → UInt8) (ip : Fin 16 → UInt8) :
    (∃ i, addressPart 0x08 (buf 2) (buf 3) ip i = 0x20) ↔ HasBlank buf ip := by
  have eight : (0x08 : UInt8).toNat = 8 := rfl
  constructor
  · rintro ⟨i, blank⟩
    rw [addressPart, eight] at blank
    split at blank
    next =>
      split at blank
      next => exact .inl blank
      next => exact .inr (.inl blank)
    next before => exact .inr (.inr ⟨i, by omega, blank⟩)
  · rintro (first | second | ⟨i, before, blank⟩)
    · exact ⟨14, first⟩
    · exact ⟨15, second⟩
    · refine ⟨i, ?_⟩
      rw [addressPart, eight, if_neg (by omega)]
      exact blank

/-- A number fits into its buffer with its sign and the end of the string. -/
theorem allInBounds_numberAccesses (count : Nat) (value : Int) :
    AllInBounds (numberAccesses (count + 2) value) ↔
      -10 ^ count < value ∧ value < 10 ^ (count + 1) := by
  rw [numberAccesses, allInBounds_charAccesses, Nat.add_le_add_iff_right, length_intText_le_iff]

theorem allInBounds_addressAccesses_iff (buf : Nat → UInt8) (ip : Fin 16 → UInt8) :
    AllInBounds (addressAccesses (buf 1) (addressPart (buf 1) (buf 2) (buf 3) ip)) ↔
      (buf 1 = 0x08 → HasBlank buf ip) := by
  rw [allInBounds_addressAccesses]
  constructor
  · intro inside last
    have blank := inside last
    rw [last] at blank
    exact (exists_addressPart_iff buf ip).mp blank
  · intro blank last
    rw [last]
    exact (exists_addressPart_iff buf ip).mpr (blank last)

theorem PanelAddress.forall_iff (holds : PanelAddress → Prop) :
    (∀ address, holds address) ↔ holds .server ∧ holds .own := by
  constructor
  · intro all
    exact ⟨all .server, all .own⟩
  · rintro ⟨server, own⟩ address
    cases address with
    | server => exact server
    | own => exact own

/-- The accesses of a frame stay in their buffers exactly if its text fits. -/
theorem allInBounds_textAccesses_iff (buf : Nat → UInt8) (hmi : HMISensor) :
    AllInBounds (textAccesses buf hmi) ↔
      (buf 0 = 0x08 → shortOf (buf 1) (buf 2) ≤ 9) ∧
        (buf 0 = 0x0A → -99 ≤ intOf (buf 1) (buf 2) (buf 3) (buf 4) ∧
          intOf (buf 1) (buf 2) (buf 3) (buf 4) ≤ 999) ∧
        ∀ address : PanelAddress, buf 0 = address.code → buf 1 = 0x08 →
          HasBlank buf (address.buffer hmi) := by
  rw [PanelAddress.forall_iff]
  unfold textAccesses
  split
  case h_1 command =>
    have positive : 0 ≤ shortOf (buf 1) (buf 2) := by
      rw [shortOf]
      positivity
    rw [allInBounds_numberAccesses 0]
    simp [command, PanelAddress.code]
    omega
  case h_2 command =>
    rw [allInBounds_addressAccesses_iff]
    simp [command, PanelAddress.code, PanelAddress.buffer]
  case h_3 command =>
    rw [allInBounds_numberAccesses 2]
    simp [command, PanelAddress.code]
    omega
  case h_4 command =>
    rw [allInBounds_addressAccesses_iff]
    simp [command, PanelAddress.code, PanelAddress.buffer]
  case h_5 =>
    simp only [imp_false] at *
    simp [*, AllInBounds, PanelAddress.code]

/-! ## Runs -/

section Runs

variable {conversions : Conversions} {beyond : Nat → UInt8} {frame : List UInt8}
  {paired next : HMISensor × (PanelAddress → List UInt8)}

/-- The pairs that came in order stand at the beginning of their buffers. -/
def AllPlaced (paired : HMISensor × (PanelAddress → List UInt8)) : Prop :=
  ∀ address, Placed (paired.2 address) (address.buffer paired.1)

theorem AllPlaced.step (placed : AllPlaced paired)
    (stepped : monitored (panelFrame conversions beyond) (observePairs beyond) frame paired =
      some next) : AllPlaced next := by
  obtain ⟨moved, observed⟩ := monitored_eq_some stepped
  have parsed : next.1 = paired.1.parseCanData conversions beyond frame :=
    (Option.some.inj moved).symm
  intro address
  rw [observed, parsed, (acts_parseCanData conversions beyond frame paired.1).buffer address,
    observePairs]
  split
  next mine => exact (placed address).addressPart _ _ _
  next other => exact placed address

/-- Behind eight pairs in order the address is saved as it was sent exactly if nothing but
its trailing blanks is lost. -/
theorem savesTrimmed_iff (placed : AllPlaced next)
    (stepped : monitored (panelFrame conversions beyond) (observePairs beyond) frame paired =
      some next) :
    SavesTrimmed (frameByte beyond frame) next ↔
      ∀ address : PanelAddress, frameByte beyond frame 0 = address.code →
        frameByte beyond frame 1 = 0x08 → (next.2 address).length = 16 →
          ∀ code ∈ trimmed (next.2 address), code ≠ 0x20 ∧ code ≠ 0 := by
  have parsed : next.1 = paired.1.parseCanData conversions beyond frame :=
    (Option.some.inj (monitored_eq_some stepped).1).symm
  apply forall_congr'
  intro address
  apply imp_congr_right
  intro mine
  apply imp_congr_right
  intro last
  apply imp_congr_right
  intro full
  have acts := acts_parseCanData conversions beyond frame paired.1
  rw [← parsed] at acts
  rw [← cString_take_eq_trimmed_iff, acts.content_last address mine last, savedAddress,
    (placed address).eq_ofFn full, Option.some.injEq]

theorem textsKept_iff_textsFit_step (placed : AllPlaced paired)
    (stepped : monitored (panelFrame conversions beyond) (observePairs beyond) frame paired =
      some next) :
    TextsKept beyond paired frame next ↔ TextsFit beyond paired frame next := by
  rw [TextsKept, savesTrimmed_iff (placed.step stepped) stepped, allInBounds_textAccesses_iff]
  constructor
  · rintro ⟨⟨id, pid, blank⟩, visible⟩
    exact { id, pid, blank, visible }
  · intro fits
    exact ⟨⟨fits.id, fits.pid, fits.blank⟩, fits.visible⟩

end Runs

/-- In every run of panel frames the accesses to the text buffers are within them, and an
address whose pairs came in order is saved without its trailing blanks, exactly if the
numbers fit, an address that is copied has a blank, and one whose pairs came in order has
nothing but trailing blanks behind its visible characters. -/
theorem textsKept_iff_textsFit (conversions : Conversions) (beyond : Nat → UInt8)
    (frames : List (List UInt8)) (hmi : HMISensor) :
    Along (monitored (panelFrame conversions beyond) (observePairs beyond)) (TextsKept beyond)
        frames (hmi, fun _ => []) ↔
      Along (monitored (panelFrame conversions beyond) (observePairs beyond)) (TextsFit beyond)
        frames (hmi, fun _ => []) := by
  have start : AllPlaced (hmi, fun _ => []) := fun address => .nil (address.buffer hmi)
  apply along_iff_of_guard _ _ start
  · intro paired frame next placed stepped _
    exact placed.step stepped
  · intro paired frame next placed stepped
    exact textsKept_iff_textsFit_step placed stepped

/-- The default number of a car does not fit into its buffer. -/
theorem textsKept_fails :
    ¬ ∀ (conversions : Conversions) (beyond : Nat → UInt8) (frames : List (List UInt8))
        (hmi : HMISensor),
      Along (monitored (panelFrame conversions beyond) (observePairs beyond)) (TextsKept beyond)
        frames (hmi, fun _ => []) := by
  intro all
  have along := all ⟨id, id, id⟩ (fun _ => 0) [[0x08, 0x03, 0xE9]] {}
  have inside := (along _ rfl).1.1 { size := 2, index := 4 } (by decide)
  exact absurd inside (by decide)

end HMISensor

end DrivingControl.Devices

import DrivingControl.Comm.SetPath
import Mathlib.Data.Nat.Digits.Defs

/-!
# The stations of a payload

`SetPath::unPackData` moves a cursor through the payload, by eighteen bytes for a station
and not at all for one whose bytes are missing.  It stops at the announced number of
stations, or when the cursor is exactly at the end.  A remainder too short for a station
keeps the cursor in front of the end, so that the list is filled up to the announced
number with stations that were never read.
-/

namespace DrivingControl.Comm

/-! ## Big-endian numbers -/

/-- The number that bytes stand for, with the highest first. -/
def bigEndian (bytes : List UInt8) : Nat :=
  Nat.ofDigits 256 (bytes.map UInt8.toNat).reverse

theorem bigEndian_cons (byte : UInt8) (bytes : List UInt8) :
    bigEndian (byte :: bytes) = bigEndian bytes + 256 ^ bytes.length * byte.toNat := by
  rw [bigEndian, List.map_cons, List.reverse_cons, Nat.ofDigits_append, Nat.ofDigits_singleton,
    List.length_reverse, List.length_map, bigEndian]

theorem bigEndian_lt (bytes : List UInt8) : bigEndian bytes < 256 ^ bytes.length := by
  induction bytes with
  | nil => simp [bigEndian]
  | cons byte bytes ih =>
      have small := byte.toNat_lt
      rw [bigEndian_cons, List.length_cons, pow_succ]
      have high : 256 ^ bytes.length * byte.toNat ≤ 256 ^ bytes.length * 255 :=
        Nat.mul_le_mul_left _ (by omega)
      omega

/-- The loop of `Buffer2Bin` reads up to four bytes as a big-endian number. -/
theorem toNat_buffer2BinLoop {bytes : List UInt8} (short : bytes.length ≤ 4) :
    (buffer2BinLoop bytes).toNat = bigEndian bytes := by
  induction bytes with
  | nil => rfl
  | cons byte bytes ih =>
      rw [List.length_cons] at short
      have low := bigEndian_lt bytes
      have small := byte.toNat_lt
      have power : 256 ^ bytes.length = 2 ^ (8 * bytes.length) := by
        rw [Nat.pow_mul]
      have shift : (UInt32.ofNat (8 * bytes.length)).toNat % 32 = 8 * bytes.length := by
        rw [UInt32.toNat_ofNat']
        omega
      have fits : byte.toNat * 2 ^ (8 * bytes.length) < 2 ^ 32 := by
        calc byte.toNat * 2 ^ (8 * bytes.length)
            ≤ 255 * 2 ^ 24 := Nat.mul_le_mul (by omega) (Nat.pow_le_pow_right (by omega) (by omega))
          _ < 2 ^ 32 := by decide
      rw [buffer2BinLoop, UInt32.toNat_or, ih (by omega), UInt32.toNat_shiftLeft, shift,
        UInt8.toNat_toUInt32, Nat.shiftLeft_eq, Nat.mod_eq_of_lt fits, bigEndian_cons, power,
        ← Nat.shiftLeft_eq, ← Nat.shiftLeft_add_eq_or_of_lt (by rw [← power]; exact low),
        Nat.shiftLeft_eq]
      rw [Nat.add_comm, Nat.mul_comm]

theorem toNat_buffer2Bin {bytes : List UInt8} (present : bytes ≠ []) (short : bytes.length ≤ 4) :
    (buffer2Bin bytes).toNat = bigEndian bytes := by
  rw [buffer2Bin, if_neg present, toNat_buffer2BinLoop short]

/-- A station as its eighteen bytes stand for it. -/
def bigEndianStation (bytes : List UInt8) : StationInfo :=
  let field (offset length : Nat) := bigEndian ((bytes.drop offset).take length)
  { id := .ofNat (field 0 2)
    xPos := .ofNat (field 2 4)
    yPos := .ofNat (field 6 4)
    pathAngle := .ofNat (field 10 2)
    turnRadius := .ofNat (field 12 2)
    mode := .ofNat (field 14 1)
    action := .ofNat (field 15 1)
    liftHeight := .ofNat (field 16 2) }

/-- The fields of a whole station are its big-endian numbers. -/
theorem stationFields_eq {bytes : List UInt8} (whole : 18 ≤ bytes.length) :
    stationFields bytes = bigEndianStation (bytes.take 18) := by
  have field {offset length : Nat} (some : 0 < length) (short : length ≤ 4)
      (inside : offset + length ≤ 18) :
      buffer2Bin ((bytes.drop offset).take length) =
        .ofNat (bigEndian (((bytes.take 18).drop offset).take length)) := by
    have same : ((bytes.take 18).drop offset).take length = (bytes.drop offset).take length := by
      rw [List.drop_take, List.take_take, Nat.min_eq_left (by omega)]
    have size : ((bytes.drop offset).take length).length = length := by
      rw [List.length_take, List.length_drop]
      omega
    rw [same, ← toNat_buffer2Bin (List.ne_nil_of_length_pos (by omega)) (by omega),
      UInt32.ofNat_toNat]
  rw [stationFields, bigEndianStation]
  simp only [field (show 0 < 2 by decide) (by decide) (show 0 + 2 ≤ 18 by decide),
    field (show 0 < 4 by decide) (by decide) (show 2 + 4 ≤ 18 by decide),
    field (show 0 < 4 by decide) (by decide) (show 6 + 4 ≤ 18 by decide),
    field (show 0 < 2 by decide) (by decide) (show 10 + 2 ≤ 18 by decide),
    field (show 0 < 2 by decide) (by decide) (show 12 + 2 ≤ 18 by decide),
    field (show 0 < 1 by decide) (by decide) (show 14 + 1 ≤ 18 by decide),
    field (show 0 < 1 by decide) (by decide) (show 15 + 1 ≤ 18 by decide),
    field (show 0 < 2 by decide) (by decide) (show 16 + 2 ≤ 18 by decide),
    UInt32.toUInt16_ofNat', UInt32.toUInt8_ofNat']

/-! ## The cursor -/

/-- A section of a payload.  One that does not lie inside the payload has no value. -/
def sectionAt (payload : List UInt8) (offset bytes : Nat) : Option UInt32 :=
  if offset + bytes ≤ payload.length then some (buffer2Bin ((payload.drop offset).take bytes))
  else none

namespace SetPath

/-- `GetStationInfo` at a cursor with `len` bytes behind it: the station and how far the
cursor moves. -/
def stationAt (payload : List UInt8) (offset len : Nat) (info : StationInfo) :
    Option (StationInfo × Nat) :=
  if len < 18 then some (info, 0)
  else do
    let id ← sectionAt payload offset 2
    let xPos ← sectionAt payload (offset + 2) 4
    let yPos ← sectionAt payload (offset + 6) 4
    let pathAngle ← sectionAt payload (offset + 10) 2
    let turnRadius ← sectionAt payload (offset + 12) 2
    let mode ← sectionAt payload (offset + 14) 1
    let action ← sectionAt payload (offset + 15) 1
    let liftHeight ← sectionAt payload (offset + 16) 2
    some ({
      id := id.toUInt16
      xPos
      yPos
      pathAngle := pathAngle.toUInt16
      turnRadius := turnRadius.toUInt16
      mode := mode.toUInt8
      action := action.toUInt8
      liftHeight := liftHeight.toUInt16 }, 18)

/-- The loop of `unPackData` at a cursor, for a number of stations still to come. -/
def stationsAt (fresh : Nat → StationInfo) (payload : List UInt8) (len : Nat) :
    Nat → Nat → Option (List StationInfo × Nat)
  | 0, i => some ([], i)
  | left + 1, i =>
      if i = len then some ([], i)
      else do
        let read ← stationAt payload i (len - i) (fresh left)
        let rest ← stationsAt fresh payload len left (i + read.2)
        some (read.1 :: rest.1, rest.2)

/-- `unPackData` on a payload whose length is given as `len`, with its return value.  There
is no result when a byte outside the payload is read. -/
def unPackAt (fresh : Nat → StationInfo) (payload : List UInt8) (len : Nat)
    (setPath : SetPath) : Option (SetPath × Int) :=
  if len < 2 then some (setPath, -1)
  else do
    let count ← sectionAt payload 0 2
    let stations ← stationsAt fresh payload len count.toUInt16.toNat 2
    some ({ stationCount := count.toUInt16, stationList := stations.1 }, stations.2)

variable {fresh : Nat → StationInfo} {payload : List UInt8} {len i left : Nat}

/-- A station inside the payload is read. -/
theorem stationAt_of_le (inside : i + 18 ≤ payload.length) (long : 18 ≤ len)
    (info : StationInfo) :
    stationAt payload i len info = some (stationFields (payload.drop i), 18) := by
  have read (offset : Nat) {bytes : Nat} (within : offset + bytes ≤ 18) :
      sectionAt payload (i + offset) bytes =
        some (buffer2Bin (((payload.drop i).drop offset).take bytes)) := by
    rw [sectionAt, if_pos (by omega), List.drop_drop]
  rw [stationAt, if_neg (by omega)]
  have start : sectionAt payload i 2 = _ := read 0 (by decide)
  rw [start, read 2 (by decide), read 6 (by decide), read 10 (by decide), read 12 (by decide),
    read 14 (by decide), read 15 (by decide), read 16 (by decide)]
  rfl

/-- Nothing outside the payload is read as long as the whole stations in front of `len` lie
inside it. -/
theorem isSome_stationsAt (fresh : Nat → StationInfo) (left : Nat)
    (inside : i + 18 * min left ((len - i) / 18) ≤ payload.length) :
    (stationsAt fresh payload len left i).isSome = true := by
  induction left generalizing i with
  | zero => rfl
  | succ left ih =>
      rw [stationsAt]
      split
      next => rfl
      next =>
        by_cases whole : 18 ≤ len - i
        · have one : 1 ≤ (len - i) / 18 := by omega
          have rest := ih (i := i + 18) (by omega)
          rw [stationAt_of_le (by omega) whole]
          rcases Option.isSome_iff_exists.mp rest with ⟨stations, read⟩
          simp [read]
        · have rest := ih (i := i) (by omega)
          rcases Option.isSome_iff_exists.mp rest with ⟨stations, read⟩
          simp [stationAt, Nat.lt_of_not_le whole, read]

/-- With its own length a payload is read as the list of its bytes. -/
theorem stationsAt_eq (fresh : Nat → StationInfo) (left : Nat) (inside : i ≤ payload.length) :
    (stationsAt fresh payload payload.length left i).map Prod.fst =
      some (unPackStations fresh left (payload.drop i)) := by
  induction left generalizing i with
  | zero => rfl
  | succ left ih =>
      rw [stationsAt, unPackStations]
      by_cases done : i = payload.length
      · rw [if_pos done, if_pos (List.drop_eq_nil_iff.mpr (by omega))]
        rfl
      · have more : payload.drop i ≠ [] := by
          rw [ne_eq, List.drop_eq_nil_iff]
          omega
        rw [if_neg done, if_neg more, getStationInfo, List.length_drop]
        by_cases short : payload.length - i < 18
        · have rest := ih inside
          rw [if_pos short, stationAt, if_pos short]
          rcases Option.map_eq_some_iff.mp rest with ⟨stations, read, same⟩
          simp [read, same]
        · have rest := ih (i := i + 18) (by omega)
          rw [if_neg short, stationAt_of_le (by omega) (by omega)]
          rcases Option.map_eq_some_iff.mp rest with ⟨stations, read, same⟩
          simp [read, same]

/-- No byte outside the payload is read, and the result is that of the list of its bytes. -/
theorem unPackAt_eq (fresh : Nat → StationInfo) (payload : List UInt8) (setPath : SetPath) :
    (unPackAt fresh payload payload.length setPath).map Prod.fst =
      some (setPath.unPackData fresh payload) := by
  rw [unPackAt, unPackData]
  split
  next => rfl
  next counted =>
    have field : sectionAt payload 0 2 = some (buffer2Bin (payload.take 2)) := by
      rw [sectionAt, if_pos (by omega), List.drop_zero]
    rcases Option.map_eq_some_iff.mp
      (stationsAt_eq fresh (buffer2Bin (payload.take 2)).toUInt16.toNat
        (show 2 ≤ payload.length by omega)) with ⟨stations, read, same⟩
    simp only [field, Option.bind_eq_bind, Option.bind_some, read, Option.map_some, same]

end SetPath

/-! ## Whole stations -/

variable {fresh : Nat → StationInfo} {payload : List UInt8}

/-- A remainder too short for a station fills the list up. -/
theorem SetPath.length_unPackStations (fresh : Nat → StationInfo) (left : Nat)
    (data : List UInt8) :
    (unPackStations fresh left data).length =
      if data.length % 18 = 0 then min left (data.length / 18) else left := by
  induction left generalizing data with
  | zero => simp [unPackStations]
  | succ left ih =>
      rw [unPackStations]
      split
      next empty => simp [empty]
      next more =>
        have some := List.length_pos_iff.mpr more
        rw [List.length_cons, ih, getStationInfo]
        split
        next short =>
          rw [List.drop_zero, if_neg (by omega), if_neg (by omega)]
        next whole =>
          rw [List.length_drop]
          have remainder : (data.length - 18) % 18 = data.length % 18 := by omega
          have quotient : (data.length - 18) / 18 + 1 = data.length / 18 := by omega
          rw [remainder]
          split
          · omega
          · rfl

/-- The whole stations come first. -/
theorem SetPath.getElem?_unPackStations (fresh : Nat → StationInfo) {left k : Nat}
    {data : List UInt8} (announced : k < left) (whole : 18 * (k + 1) ≤ data.length) :
    (unPackStations fresh left data)[k]? =
      some (bigEndianStation ((data.drop (18 * k)).take 18)) := by
  induction left generalizing data k with
  | zero => omega
  | succ left ih =>
      have more : data ≠ [] := List.ne_nil_of_length_pos (by omega)
      rw [unPackStations, if_neg more, getStationInfo, if_neg (by omega)]
      cases k with
      | zero =>
          rw [List.getElem?_cons_zero, stationFields_eq (by omega)]
          rfl
      | succ k =>
          rw [List.getElem?_cons_succ, ih (by omega) (by rw [List.length_drop]; omega),
            List.drop_drop]
          congr 4
          omega

/-- The number of stations that a payload announces. -/
def announcedStations (payload : List UInt8) : Nat :=
  (buffer2Bin (payload.take 2)).toUInt16.toNat

/-- The announced stations that are there are parsed, and no others: no byte outside the
payload is read, and each entry is what its bytes stand for. -/
def ParsesExactly (fresh : Nat → StationInfo) (payload : List UInt8) (setPath : SetPath) :
    Prop :=
  ∃ parsed ret, setPath.unPackAt fresh payload payload.length = some (parsed, ret) ∧
    parsed.stationList.length = min (announcedStations payload) ((payload.length - 2) / 18) ∧
    ∀ k, k < parsed.stationList.length →
      parsed.stationList[k]? = some (bigEndianStation ((payload.drop (2 + 18 * k)).take 18))

/-- All announced stations are there, or nothing follows the last whole one. -/
def EndsWithStation (payload : List UInt8) : Prop :=
  announcedStations payload ≤ (payload.length - 2) / 18 ∨ (payload.length - 2) % 18 = 0

instance (payload : List UInt8) : Decidable (EndsWithStation payload) :=
  inferInstanceAs (Decidable (_ ∨ _))

/-- A payload with a count is parsed exactly if it is not cut off in the middle of an
announced station. -/
theorem parsesExactly_iff (fresh : Nat → StationInfo) (payload : List UInt8) (setPath : SetPath)
    (counted : 2 ≤ payload.length) :
    ParsesExactly fresh payload setPath ↔ EndsWithStation payload := by
  rcases Option.map_eq_some_iff.mp (SetPath.unPackAt_eq fresh payload setPath) with
    ⟨⟨parsed, ret⟩, read, same⟩
  have list : parsed.stationList =
      SetPath.unPackStations fresh (announcedStations payload) (payload.drop 2) := by
    change parsed = _ at same
    rw [same, SetPath.unPackData, if_neg (by omega)]
    rfl
  have length := SetPath.length_unPackStations fresh (announcedStations payload)
    (payload.drop 2)
  rw [← list, List.length_drop] at length
  constructor
  · rintro ⟨other, otherRet, found, exactly, -⟩
    cases read.symm.trans found
    rw [exactly] at length
    rw [EndsWithStation]
    split at length
    · omega
    · omega
  · intro ends
    rw [EndsWithStation] at ends
    have exactly : parsed.stationList.length =
        min (announcedStations payload) ((payload.length - 2) / 18) := by
      rw [length]
      split
      · rfl
      · omega
    refine ⟨parsed, ret, read, exactly, fun k inside => ?_⟩
    rw [list, SetPath.getElem?_unPackStations fresh (by omega)
      (by rw [List.length_drop]; omega), List.drop_drop]

/-- A payload with one station of an announced one, and two bytes behind it. -/
theorem parsesExactly_iff_surplus :
    ParsesExactly (fun _ => ⟨0, 0, 0, 0, 0, 0, 0, 0⟩)
        [0, 1, 0, 7, 0, 0, 0, 5, 0, 0, 0, 6, 0, 0, 0, 0, 1, 1, 0xFF, 0xFF, 8, 8] {} ↔
      EndsWithStation
        [0, 1, 0, 7, 0, 0, 0, 5, 0, 0, 0, 6, 0, 0, 0, 0, 1, 1, 0xFF, 0xFF, 8, 8] :=
  parsesExactly_iff _ _ _ (by decide)

/-- Of three announced stations the second is cut off behind its first byte: the list has
three entries, of which two were never read. -/
theorem cut_station_filled_up :
    ¬ ∀ (fresh : Nat → StationInfo) (payload : List UInt8) (setPath : SetPath),
      2 ≤ payload.length → ParsesExactly fresh payload setPath := by
  intro all
  let fresh : Nat → StationInfo := fun _ => ⟨0, 0, 0, 0, 0, 0, 0, 0⟩
  let payload : List UInt8 :=
    [0, 3, 0, 7, 0, 0, 0, 5, 0, 0, 0, 6, 0, 0, 0, 0, 1, 1, 0xFF, 0xFF, 8]
  rcases all fresh payload {} (by decide) with ⟨parsed, ret, read, exactly, -⟩
  have filled : (SetPath.unPackAt fresh payload payload.length {}).map
      (fun result => result.1.stationList.length) = some 3 := by decide +kernel
  rw [read, Option.map_some, exactly] at filled
  exact absurd filled (by decide +kernel)

end DrivingControl.Comm

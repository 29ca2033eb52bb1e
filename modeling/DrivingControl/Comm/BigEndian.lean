import DrivingControl.Comm.PathStations

/-!
# The two copies of the byte conversion

`Buffer2Bin` and `Bin2Buffer` of the scheduler's protocol work on `unsigned int`, and their
copies in `CAgvUtils` on `int`.  The first write and read the big-endian number of the bytes.
The copies write and read the same bits: what an arithmetic shift brings in from above stays
out of the lowest byte, because no shift is longer than three bytes.
-/

namespace DrivingControl.Comm

open DrivingControl

/-! ## Big-endian numbers of a fixed width -/

theorem bigEndian_injective {front back : List UInt8} (sameLength : front.length = back.length)
    (same : bigEndian front = bigEndian back) : front = back := by
  have small (bytes : List UInt8) : ∀ digit ∈ (bytes.map UInt8.toNat).reverse, digit < 256 := by
    intro digit member
    rcases List.mem_map.mp (List.mem_reverse.mp member) with ⟨byte, -, rfl⟩
    exact byte.toNat_lt
  have digits : (front.map UInt8.toNat).reverse = (back.map UInt8.toNat).reverse :=
    Nat.ofDigits_inj_of_len_eq (by decide) (by simp [sameLength]) (small front) (small back) same
  exact (List.map_inj_right fun _ _ => UInt8.toNat_inj.mp).mp (List.reverse_inj.mp digits)

/-! ## The unsigned copy -/

variable {bytes octets : Nat}

@[simp] theorem length_bin2Buffer (value : UInt32) (bytes : Nat) :
    (bin2Buffer value bytes).length = bytes := by
  rw [bin2Buffer, List.length_map, List.length_range]

/-- The highest byte is written first. -/
theorem bin2Buffer_succ (value : UInt32) (bytes : Nat) :
    bin2Buffer value (bytes + 1) =
      ((value >>> UInt32.ofNat (8 * bytes)) &&& 0xFF).toUInt8 :: bin2Buffer value bytes := by
  rw [bin2Buffer, List.range_succ_eq_map, List.map_cons, List.map_map, bin2Buffer]
  congr 1
  apply List.map_congr_left
  intro i _
  have same : bytes + 1 - (i + 1) - 1 = bytes - i - 1 := by omega
  rw [Function.comp_apply, same]

theorem toUInt8_and_255 (value : UInt32) : (value &&& 0xFF).toUInt8 = value.toUInt8 := by
  apply UInt8.toNat_inj.mp
  simp [Nat.and_two_pow_sub_one_eq_mod _ 8]

/-- A byte of a number. -/
theorem toNat_octet (value : UInt32) (inside : octets < 4) :
    ((value >>> UInt32.ofNat (8 * octets)) &&& 0xFF).toUInt8.toNat =
      value.toNat / 256 ^ octets % 256 := by
  have shift : (UInt32.ofNat (8 * octets)).toNat % 32 = 8 * octets := by
    rw [UInt32.toNat_ofNat']
    omega
  rw [toUInt8_and_255, UInt32.toNat_toUInt8, UInt32.toNat_shiftRight, shift,
    Nat.shiftRight_eq_div_pow, Nat.pow_mul]

/-- The bytes that are written stand for the number, as far as it fits. -/
theorem bigEndian_bin2Buffer (value : UInt32) (fits : bytes ≤ 4) :
    bigEndian (bin2Buffer value bytes) = value.toNat % 256 ^ bytes := by
  induction bytes with
  | zero => rw [pow_zero, Nat.mod_one]; rfl
  | succ bytes ih =>
      rw [bin2Buffer_succ, bigEndian_cons, ih (by omega), length_bin2Buffer,
        toNat_octet value (by omega), pow_succ, Nat.mod_mul]

theorem toNat_buffer2Bin_bin2Buffer (value : UInt32) (present : 1 ≤ bytes) (fits : bytes ≤ 4) :
    (buffer2Bin (bin2Buffer value bytes)).toNat = value.toNat % 2 ^ (8 * bytes) := by
  have written : bin2Buffer value bytes ≠ [] :=
    List.ne_nil_of_length_pos (by rw [length_bin2Buffer]; exact present)
  rw [toNat_buffer2Bin written (by rw [length_bin2Buffer]; exact fits),
    bigEndian_bin2Buffer value fits, Nat.pow_mul]

theorem bin2Buffer_buffer2Bin {buf : List UInt8} (present : 1 ≤ buf.length)
    (fits : buf.length ≤ 4) : bin2Buffer (buffer2Bin buf) buf.length = buf := by
  apply bigEndian_injective (length_bin2Buffer _ _)
  rw [bigEndian_bin2Buffer _ fits, toNat_buffer2Bin (List.ne_nil_of_length_pos present) fits]
  exact Nat.mod_eq_of_lt (bigEndian_lt buf)

/-! ## The signed copy -/

theorem toBitVec_shiftRight_octets (value : UInt32) (inside : octets < 4) :
    (value >>> UInt32.ofNat (8 * octets)).toBitVec = value.toBitVec >>> (8 * octets) := by
  obtain rfl | rfl | rfl | rfl : octets = 0 ∨ octets = 1 ∨ octets = 2 ∨ octets = 3 := by omega
  all_goals rfl

theorem toBitVec_sshiftRight_octets (value : Int32) (inside : octets < 4) :
    (value >>> Int32.ofNat (8 * octets)).toBitVec = value.toBitVec.sshiftRight (8 * octets) := by
  obtain rfl | rfl | rfl | rfl : octets = 0 ∨ octets = 1 ∨ octets = 2 ∨ octets = 3 := by omega
  all_goals rfl

theorem toUInt32_shiftLeft_octets (value : Int32) (inside : octets < 4) :
    (value <<< Int32.ofNat (8 * octets)).toUInt32 =
      value.toUInt32 <<< UInt32.ofNat (8 * octets) := by
  obtain rfl | rfl | rfl | rfl : octets = 0 ∨ octets = 1 ∨ octets = 2 ∨ octets = 3 := by omega
  all_goals rfl

/-- The bits that are below the top one are the same after both shifts to the right. -/
theorem setWidth_sshiftRight {width low shift : Nat} (bits : BitVec width)
    (inside : shift + low ≤ width) :
    (bits.sshiftRight shift).setWidth low = (bits >>> shift).setWidth low := by
  apply BitVec.eq_of_getLsbD_eq
  intro i small
  have within : shift + i < width := by omega
  have kept : ¬ width ≤ i := by omega
  simp only [BitVec.getLsbD_setWidth, BitVec.getLsbD_sshiftRight, BitVec.getLsbD_ushiftRight,
    within, kept, ↓reduceIte, decide_false, Bool.not_false, Bool.true_and]

/-- Both copies write the same byte. -/
theorem octet_eq (value : Int32) (inside : octets < 4) :
    ((value >>> Int32.ofNat (8 * octets)) &&& 0xFF).toUInt32.toUInt8 =
      ((value.toUInt32 >>> UInt32.ofNat (8 * octets)) &&& 0xFF).toUInt8 := by
  rw [Int32.toUInt32_and, Int32.toUInt32_ofNat, toUInt8_and_255, toUInt8_and_255]
  apply UInt8.toBitVec_inj.mp
  rw [UInt32.toBitVec_toUInt8, UInt32.toBitVec_toUInt8, Int32.toBitVec_toUInt32,
    toBitVec_sshiftRight_octets value inside, toBitVec_shiftRight_octets _ inside,
    Int32.toBitVec_toUInt32]
  exact setWidth_sshiftRight _ (by omega)

theorem utils_bin2Buffer_eq (value : Int32) (fits : bytes ≤ 4) :
    Utils.bin2Buffer value bytes = bin2Buffer value.toUInt32 bytes := by
  rw [Utils.bin2Buffer, bin2Buffer]
  apply List.map_congr_left
  intro i member
  have inside := List.mem_range.mp member
  exact octet_eq value (by omega)

theorem toUInt32_buffer2BinLoop {buf : List UInt8} (short : buf.length ≤ 4) :
    (Utils.buffer2BinLoop buf).toUInt32 = buffer2BinLoop buf := by
  induction buf with
  | nil => rfl
  | cons byte rest ih =>
      rw [List.length_cons] at short
      rw [Utils.buffer2BinLoop, buffer2BinLoop, Int32.toUInt32_or, ih (by omega),
        toUInt32_shiftLeft_octets _ (by omega), UInt32.toUInt32_toInt32]

/-- Both copies read the same bits. -/
theorem toUInt32_buffer2Bin {buf : List UInt8} (short : buf.length ≤ 4) :
    (Utils.buffer2Bin buf).toUInt32 = buffer2Bin buf := by
  rw [Utils.buffer2Bin, buffer2Bin]
  split
  · rfl
  · exact toUInt32_buffer2BinLoop short

/-- A number and its bits. -/
theorem toNat_toUInt32 (value : Int32) : (value.toUInt32.toNat : Int) = value.toInt % 2 ^ 32 := by
  have same : value.toInt = Int.bmod value.toUInt32.toNat (2 ^ 32) :=
    value.toBitVec.toInt_eq_toNat_bmod
  have small : (value.toUInt32.toNat : Int) < 2 ^ 32 := by exact_mod_cast value.toUInt32.toNat_lt
  have back := @Int.bmod_emod value.toUInt32.toNat (2 ^ 32)
  rw [same]
  exact (back.trans (Int.emod_eq_of_lt (by omega) small)).symm

/-- The bytes of a number, read back, are its residue, taken for an `int`. -/
theorem toInt_buffer2Bin_bin2Buffer (value : Int32) (present : 1 ≤ bytes) (fits : bytes ≤ 4) :
    (Utils.buffer2Bin (Utils.bin2Buffer value bytes)).toInt =
      Int.bmod (value.toInt % 2 ^ (8 * bytes)) (2 ^ 32) := by
  have read : (Utils.buffer2Bin (Utils.bin2Buffer value bytes)).toUInt32.toNat =
      value.toUInt32.toNat % 2 ^ (8 * bytes) := by
    rw [utils_bin2Buffer_eq value fits,
      toUInt32_buffer2Bin (by rw [length_bin2Buffer]; exact fits),
      toNat_buffer2Bin_bin2Buffer _ present fits]
  have divides : (2 : Int) ^ (8 * bytes) ∣ 2 ^ 32 := pow_dvd_pow 2 (by omega)
  have signed : (Utils.buffer2Bin (Utils.bin2Buffer value bytes)).toInt =
      Int.bmod (Utils.buffer2Bin (Utils.bin2Buffer value bytes)).toUInt32.toNat (2 ^ 32) :=
    (Utils.buffer2Bin (Utils.bin2Buffer value bytes)).toBitVec.toInt_eq_toNat_bmod
  rw [signed, read]
  push_cast
  rw [toNat_toUInt32, Int.emod_emod_of_dvd _ divides]

/-- Of less than four bytes that is the residue itself, and of four the number. -/
theorem bmod_residue (value : Int32) :
    (bytes < 4 → Int.bmod (value.toInt % 2 ^ (8 * bytes)) (2 ^ 32) =
      value.toInt % 2 ^ (8 * bytes)) ∧
    Int.bmod (value.toInt % 2 ^ (8 * 4)) (2 ^ 32) = value.toInt := by
  constructor
  · intro short
    have positive : (0 : Int) < 2 ^ (8 * bytes) := pow_pos (by decide) _
    have low := Int.emod_nonneg value.toInt (ne_of_gt positive)
    have high := Int.emod_lt_of_pos value.toInt positive
    have width : (2 : Int) ^ (8 * bytes) ≤ 2 ^ 24 := pow_le_pow_right₀ (by decide) (by omega)
    exact Int.bmod_eq_of_le (by omega) (by omega)
  · rw [← toNat_toUInt32]
    exact value.toBitVec.toInt_eq_toNat_bmod.symm

theorem utils_bin2Buffer_buffer2Bin {buf : List UInt8} (present : 1 ≤ buf.length)
    (fits : buf.length ≤ 4) : Utils.bin2Buffer (Utils.buffer2Bin buf) buf.length = buf := by
  rw [utils_bin2Buffer_eq _ fits, toUInt32_buffer2Bin fits, bin2Buffer_buffer2Bin present fits]

/-! ## Both copies -/

/-- For every width of one to four bytes both copies give back the number modulo its width and
the bytes as they are, and they write the same bytes for the same bits.  An `int` of four
bytes is given back as it is. -/
theorem byteConversion_round_trip (n : Nat) (present : 1 ≤ n) (fits : n ≤ 4) :
    (∀ x : UInt32, (buffer2Bin (bin2Buffer x n)).toNat = x.toNat % 2 ^ (8 * n)) ∧
    (∀ b : List UInt8, b.length = n → bin2Buffer (buffer2Bin b) n = b) ∧
    (∀ x : Int32, (Utils.buffer2Bin (Utils.bin2Buffer x n)).toInt =
      Int.bmod (x.toInt % 2 ^ (8 * n)) (2 ^ 32)) ∧
    (∀ b : List UInt8, b.length = n → Utils.bin2Buffer (Utils.buffer2Bin b) n = b) ∧
    ∀ x : Int32, Utils.bin2Buffer x n = bin2Buffer x.toUInt32 n := by
  refine ⟨fun x => toNat_buffer2Bin_bin2Buffer x present fits, ?_,
    fun x => toInt_buffer2Bin_bin2Buffer x present fits, ?_, fun x => utils_bin2Buffer_eq x fits⟩
  · rintro b rfl
    exact bin2Buffer_buffer2Bin present fits
  · rintro b rfl
    exact utils_bin2Buffer_buffer2Bin present fits

/-- Three bytes, of which the lidar makes a coordinate. -/
theorem byteConversion_round_trip_three :
    (∀ x : UInt32, (buffer2Bin (bin2Buffer x 3)).toNat = x.toNat % 2 ^ (8 * 3)) ∧
    (∀ b : List UInt8, b.length = 3 → bin2Buffer (buffer2Bin b) 3 = b) ∧
    (∀ x : Int32, (Utils.buffer2Bin (Utils.bin2Buffer x 3)).toInt =
      Int.bmod (x.toInt % 2 ^ (8 * 3)) (2 ^ 32)) ∧
    (∀ b : List UInt8, b.length = 3 → Utils.bin2Buffer (Utils.buffer2Bin b) 3 = b) ∧
    ∀ x : Int32, Utils.bin2Buffer x 3 = bin2Buffer x.toUInt32 3 :=
  byteConversion_round_trip 3 (by decide) (by decide)

end DrivingControl.Comm

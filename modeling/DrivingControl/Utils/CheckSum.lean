/-!
# The check sum of scheduler frames and CAN packages

`CAgvCheckSum::GetCrc16`: a table-driven 16-bit check sum over a byte range.
-/

namespace DrivingControl.Utils

/-- The table `tabel` of the source. -/
def tabel : Array UInt16 :=
  #[0x3B78, 0x7BBC, 0x93D5, 0x9BDE, 0xA3E6, 0xB3F7, 0xC408, 0xCC11,
    0xD419, 0xDC22, 0xE42A, 0x6577, 0x8599, 0x95AA, 0x9DB2, 0xA5BB,
    0xADC3, 0xBDD4, 0xC5DD, 0xCDE5, 0xD5EE, 0xDDF6, 0x6F54, 0x8F76,
    0x9F87, 0xA78F, 0xAF98, 0xB7A0, 0xBFA9, 0xC7B1, 0xCFBA, 0xD7C2,
    0xE7D3, 0x37C3, 0x4FDD, 0x5FEE, 0x67F6, 0x7807, 0x800F, 0x8818,
    0x9020, 0x9829, 0xA031, 0xA83A, 0xCA17, 0xEA39, 0xFA4A, 0x0253,
    0x0A5C, 0x1264, 0x2275, 0x2A7E, 0x3286, 0x3A8F, 0x4297, 0x9D2B,
    0xB544, 0xBD4D, 0xCD5E, 0xD566, 0xDD6F, 0xE577, 0xED80, 0xF588,
    0xFD91, 0x059A, 0x2DC1, 0x4DE3, 0x65FC, 0x760D, 0x861E, 0x8E27,
    0x9E38, 0xAE48, 0xB651, 0xBE59, 0xCE6A, 0x3DE3, 0x761F, 0x8630,
    0x8E38, 0x9641, 0x9E49, 0xAE5A, 0xB663, 0xBE6B, 0xCE7C, 0xD684,
    0x5C21, 0x8C54, 0xA46D, 0xAC76, 0xBC87, 0xC48F, 0xD4A0, 0xDCA9,
    0xE4B1, 0xECBA, 0xF4C2, 0x4CE9, 0x7514, 0x8525, 0x8D2D, 0x9536,
    0xA547, 0xAD4F, 0xB558, 0xC569, 0xCD71, 0xD57A, 0x3FD3, 0x5FF5,
    0x7006, 0x8017, 0x881F, 0x9028, 0x9830, 0xA039, 0xA841, 0xB04A,
    0xC05B, 0x2217, 0x4238, 0x4A41, 0x5A52, 0x625A, 0x6A63, 0x726B,
    0x7A74, 0x827C, 0x8A85, 0x9A96, 0xB44D, 0xDC77, 0xEC88, 0xFC99,
    0x04A3, 0x14B4, 0x1CBC, 0x24C5, 0x2CCD, 0x34D6, 0x44E7, 0x7C23,
    0x9C45, 0xAC56, 0xB45E, 0xBC67, 0xCC78, 0xD480, 0xDC89, 0xE491,
    0xEC9A, 0xF4A2, 0x0AAD, 0x22C7, 0x32D8, 0x42E9, 0x4AF1, 0x52FA,
    0x5B02, 0x630B, 0x6B13, 0x7B24, 0x832D, 0xCAF5, 0xE30F, 0xFB28,
    0x0332, 0x0B3A, 0x1343, 0x1B4B, 0x2354, 0x3365, 0x3B6D, 0x4376,
    0xB2D4, 0xD2F6, 0xE307, 0xF318, 0xFB20, 0x032A, 0x0B32, 0x133B,
    0x1B43, 0x234C, 0x2B54, 0xD4A9, 0xFCD3, 0x0CE5, 0x14EE, 0x24FF,
    0x2D07, 0x3510, 0x3D18, 0x4521, 0x4D29, 0x5532, 0x99F0, 0xCA23,
    0xDA34, 0xEA45, 0xFA56, 0x0260, 0x0A68, 0x1A79, 0x2282, 0x2A8A,
    0x3292, 0x8783, 0xAFAE, 0xBFBF, 0xCFD0, 0xD7D8, 0xDFE1, 0xE7E9,
    0xEFF2, 0xF7FA, 0x0004, 0x080C, 0x9CAC, 0xBCCE, 0xCCDF, 0xD4E7,
    0xE4F8, 0xED01, 0xF509, 0xFD12, 0x051B, 0x0D24, 0x152C, 0x4208,
    0x6A33, 0x7A44, 0x8A55, 0x925D, 0xB27F, 0xBA87, 0xC290, 0xD2A1,
    0xDAA9, 0xE2B2, 0xD54B, 0x057F, 0x1590, 0x1D98, 0x25A1, 0x35B2,
    0x3DBA, 0x45C3, 0x4DCB, 0x55D4, 0x65E5, 0x358C, 0x75D0, 0x95F2]

/-- `CRCHECK`: fold one byte into the running value. -/
def crcheck (crc : UInt16) (byte : UInt8) : UInt16 :=
  (crc >>> 8) ^^^ tabel.getD ((crc ^^^ byte.toUInt16) &&& 0xFF).toNat 0

/-- `CAgvCheckSum::GetCrc16` over exactly the bytes of its range. -/
def getCrc16 (data : List UInt8) (pwd : UInt16) : UInt16 :=
  data.foldl crcheck 0 ^^^ pwd

/-! ## One changed byte

Two strings that differ in one byte have the same running value up to it and
different ones behind it.  Every further byte is folded into both, and a byte that
brings them together hides the change.
-/

/-- The entry of the table that a byte selects. -/
def entry (crc : UInt16) (byte : UInt8) : UInt16 :=
  tabel.getD ((crc ^^^ byte.toUInt16) &&& 0xFF).toNat 0

/-- Whether the values are different and none of them is marked: one pass that marks every
value it meets. -/
def allUnmarked (marks : Nat) : List Nat → Bool
  | [] => true
  | value :: values => !marks.testBit value && allUnmarked (marks ||| 1 <<< value) values

theorem nodup_of_allUnmarked {marks : Nat} {values : List Nat}
    (unmarked : allUnmarked marks values = true) :
    values.Nodup ∧ ∀ value ∈ values, marks.testBit value = false := by
  induction values generalizing marks with
  | nil => exact ⟨.nil, fun _ mem => nomatch mem⟩
  | cons value values ih =>
      rw [allUnmarked, Bool.and_eq_true, Bool.not_eq_true'] at unmarked
      rcases unmarked with ⟨first, rest⟩
      rcases ih rest with ⟨distinct, others⟩
      have fresh : value ∉ values := by
        intro mem
        have marked := others value mem
        rw [Nat.testBit_or, Nat.one_shiftLeft, Nat.testBit_two_pow_self, Bool.or_true] at marked
        cases marked
      refine ⟨List.nodup_cons.mpr ⟨fresh, distinct⟩, fun other mem => ?_⟩
      rcases List.mem_cons.mp mem with rfl | later
      · exact first
      · have unmarked := others other later
        rw [Nat.testBit_or, Bool.or_eq_false_iff] at unmarked
        exact unmarked.1

theorem nodup_tabel : tabel.toList.Nodup := by
  have unmarked : allUnmarked 0 (tabel.toList.map UInt16.toNat) = true := by decide +kernel
  have distinct := (nodup_of_allUnmarked unmarked).1
  exact List.Pairwise.of_map UInt16.toNat
    (fun _ _ differ same => differ (congrArg UInt16.toNat same)) distinct

theorem low_lt_size (value : UInt16) : (value &&& 0xFF).toNat < tabel.size := by
  have size : tabel.size = 255 + 1 := by decide +kernel
  have bound : (value &&& 0xFF).toNat ≤ 255 := by
    rw [UInt16.toNat_and]
    exact Nat.and_le_right
  omega

theorem index_eq_of_getD {table : Array UInt16} (nodup : table.toList.Nodup) {i j : Nat}
    (first : i < table.size) (second : j < table.size)
    (same : table.getD i 0 = table.getD j 0) : i = j := by
  rw [← List.getElem?_inj (by simpa using first) nodup]
  simpa [first, second] using same

/-- The low byte decides the entry, and no two entries are equal. -/
theorem entry_injective {crc : UInt16} {byte other : UInt8}
    (same : entry crc byte = entry crc other) : byte = other := by
  simp only [entry] at same
  have index := index_eq_of_getD nodup_tabel (low_lt_size _) (low_lt_size _) same
  have low := congrArg UInt16.toUInt8 (UInt16.toNat_inj.mp index)
  have all : (0xFF : UInt16).toUInt8 = -1 := by decide
  simpa only [UInt16.toUInt8_and, UInt16.toUInt8_xor, all, UInt8.and_neg_one,
    UInt8.toUInt8_toUInt16, UInt8.xor_right_inj] using low

/-- Different bytes lead from one running value to different ones. -/
theorem crcheck_ne {crc : UInt16} {byte other : UInt8} (differ : byte ≠ other) :
    crcheck crc byte ≠ crcheck crc other := by
  intro same
  change (crc >>> 8) ^^^ entry crc byte = (crc >>> 8) ^^^ entry crc other at same
  rw [UInt16.xor_right_inj] at same
  exact differ (entry_injective same)

/-- A byte brings two running values together: the entries it selects for them differ
by what the shifted values differ by. -/
def Meets (crc other : UInt16) (byte : UInt8) : Prop :=
  entry crc byte ^^^ entry other byte = (crc ^^^ other) >>> 8

instance (crc other : UInt16) (byte : UInt8) : Decidable (Meets crc other byte) :=
  inferInstanceAs (Decidable (_ = _))

theorem crcheck_eq_iff {crc other : UInt16} {byte : UInt8} :
    crcheck crc byte = crcheck other byte ↔ Meets crc other byte := by
  change (crc >>> 8) ^^^ entry crc byte = (other >>> 8) ^^^ entry other byte ↔ _
  rw [Meets, UInt16.shiftRight_xor]
  constructor
  · intro same
    rw [← UInt16.xor_right_inj (crc >>> 8), ← UInt16.xor_assoc, same, UInt16.xor_assoc,
      UInt16.xor_self, UInt16.xor_zero, ← UInt16.xor_assoc, UInt16.xor_self, UInt16.zero_xor]
  · intro meets
    rw [← UInt16.xor_left_inj (entry other byte), UInt16.xor_assoc, meets, ← UInt16.xor_assoc,
      UInt16.xor_self, UInt16.zero_xor, UInt16.xor_assoc, UInt16.xor_self, UInt16.xor_zero]

/-- No byte of the rest brings two running values together. -/
def StayApart : UInt16 → UInt16 → List UInt8 → Prop
  | _, _, [] => True
  | crc, other, byte :: rest =>
      ¬ Meets crc other byte ∧ StayApart (crcheck crc byte) (crcheck other byte) rest

instance decidableStayApart : ∀ (crc other : UInt16) (rest : List UInt8),
    Decidable (StayApart crc other rest)
  | _, _, [] => isTrue trivial
  | crc, other, byte :: rest =>
      have : Decidable (StayApart (crcheck crc byte) (crcheck other byte) rest) :=
        decidableStayApart _ _ rest
      inferInstanceAs (Decidable (_ ∧ _))

/-- Different running values end apart when no byte brings them together. -/
theorem foldl_crcheck_ne_iff {crc other : UInt16} (differ : crc ≠ other) (rest : List UInt8) :
    rest.foldl crcheck crc ≠ rest.foldl crcheck other ↔ StayApart crc other rest := by
  induction rest generalizing crc other with
  | nil => exact iff_of_true differ trivial
  | cons byte rest ih =>
      rw [List.foldl_cons, List.foldl_cons, StayApart, ← crcheck_eq_iff]
      by_cases met : crcheck crc byte = crcheck other byte
      · rw [met]
        simp
      · rw [ih met]
        exact (and_iff_right met).symm

/-- The bytes behind a changed byte do not hide the change. -/
def Shows (front : List UInt8) (byte other : UInt8) (back : List UInt8) : Prop :=
  let crc := front.foldl crcheck 0
  StayApart (crcheck crc byte) (crcheck crc other) back

instance (front : List UInt8) (byte other : UInt8) (back : List UInt8) :
    Decidable (Shows front byte other back) :=
  inferInstanceAs (Decidable (StayApart _ _ back))

/-- A changed byte changes the check sum exactly if the bytes behind it do not hide the
change. -/
theorem getCrc16_ne_iff {byte other : UInt8} (differ : byte ≠ other) (front back : List UInt8)
    (pwd : UInt16) :
    getCrc16 (front ++ byte :: back) pwd ≠ getCrc16 (front ++ other :: back) pwd ↔
      Shows front byte other back := by
  rw [getCrc16, getCrc16, ne_eq, UInt16.xor_left_inj, List.foldl_append, List.foldl_append]
  exact foldl_crcheck_ne_iff (crcheck_ne differ) back

end DrivingControl.Utils

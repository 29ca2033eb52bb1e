/-!
# Integers in byte buffers

`CAgvUtils::Buffer2Bin` and `CAgvUtils::Bin2Buffer`, which the sensors use.  They
work on `int`, unlike their copies in the scheduler's protocol.
-/

namespace DrivingControl.Utils

/-- The loop of `CAgvUtils::Buffer2Bin`. -/
def buffer2BinLoop : List UInt8 → Int32
  | [] => 0
  | byte :: rest =>
      (byte.toUInt32.toInt32 <<< Int32.ofNat (8 * rest.length)) ||| buffer2BinLoop rest

/-- `CAgvUtils::Buffer2Bin` on exactly the bytes it is asked to read. -/
def buffer2Bin (data : List UInt8) : Int32 :=
  if data = [] then -1 else buffer2BinLoop data

/-- `CAgvUtils::Bin2Buffer`: the bytes it writes. -/
def bin2Buffer (data : Int32) (bytes : Nat) : List UInt8 :=
  (List.range bytes).map fun i =>
    ((data >>> Int32.ofNat (8 * (bytes - i - 1))) &&& 0xFF).toUInt32.toUInt8

/-- Two bytes in big-endian order. -/
def shortBytes (value : UInt16) : List UInt8 := [(value >>> 8).toUInt8, value.toUInt8]

/-- A number is its high part, shifted back, and its low byte. -/
theorem shiftLeft_shiftRight_or (n : Nat) : (n >>> 8) <<< 8 ||| n % 256 = n := by
  rw [← Nat.shiftLeft_add_eq_or_of_lt (by omega : n % 256 < 2 ^ 8), Nat.shiftLeft_eq,
    Nat.shiftRight_eq_div_pow]
  omega

/-- Reading back the two bytes of a `short` gives the `short`. -/
theorem buffer2Bin_shortBytes (value : UInt16) :
    (buffer2Bin (shortBytes value)).toUInt32 = value.toUInt32 := by
  have bound := value.toNat_lt
  have small : value.toNat >>> 8 < 256 := by
    rw [Nat.shiftRight_eq_div_pow]
    omega
  have shifted : (value.toNat >>> 8) <<< 8 < 4294967296 := by
    rw [Nat.shiftLeft_eq]
    omega
  apply UInt32.toBitVec_inj.mp
  simp [buffer2Bin, buffer2BinLoop, shortBytes]
  apply BitVec.eq_of_toNat_eq
  simp
  rw [Nat.mod_eq_of_lt small,
    Nat.mod_eq_of_lt shifted, shiftLeft_shiftRight_or]

end DrivingControl.Utils

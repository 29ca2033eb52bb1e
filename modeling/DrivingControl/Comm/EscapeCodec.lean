import DrivingControl.Comm.SchProtocol
import Mathlib.Logic.Function.Basic

/-!
# The escape codec

`encode` takes every byte string to one without a marker, and `decode` takes exactly the
strings back that `encode` writes.  The escape bytes stand at the front of a pair, so the byte
behind one decides whether the pair is one that `encode` writes; a string without a marker has
no other spelling.

A marker in its input is something `decode` does not look for: it copies it.
-/

namespace DrivingControl.Comm

/-- What `decode` returns: the number of bytes, or -1. -/
def decodedLength (escaped : List UInt8) : Int :=
  if (decode escaped).2 then (decode escaped).1.length else -1

/-! ## The length -/

theorem length_encodeByte_le (byte : UInt8) : (encodeByte byte).length ≤ 2 := by
  rw [encodeByte]
  repeat' split
  all_goals simp

theorem length_encode_le (src : List UInt8) : (encode src).length ≤ 2 * src.length := by
  induction src with
  | nil => exact Nat.zero_le _
  | cons byte src ih =>
      have head := length_encodeByte_le byte
      rw [encode_cons, List.length_append, List.length_cons]
      omega

/-! ## The way back -/

/-- A byte that is not escaped. -/
theorem encodeByte_plain {byte : UInt8} (notMarker : byte ≠ marker) (not85 : byte ≠ 0x85)
    (not86 : byte ≠ 0x86) : encodeByte byte = [byte] := by
  rw [encodeByte, if_neg notMarker, if_neg not85, if_neg not86]

/-- ASCII characters stay as they are. -/
theorem encode_ascii {src : List UInt8} (ascii : ∀ byte ∈ src, byte.toNat < 128) :
    encode src = src := by
  induction src with
  | nil => rfl
  | cons byte src ih =>
      rw [List.forall_mem_cons] at ascii
      have other (escaped : UInt8) (high : 128 ≤ escaped.toNat) : byte ≠ escaped := by
        rintro rfl
        exact absurd ascii.1 (Nat.not_lt.mpr high)
      rw [encode_cons, ih ascii.2,
        encodeByte_plain (other _ (by decide)) (other _ (by decide)) (other _ (by decide))]
      rfl

/-- What decodes to its end, and holds no marker, is what `encode` makes of the result. -/
theorem encode_decode {escaped : List UInt8} (absent : marker ∉ escaped)
    (whole : (decode escaped).2 = true) : encode (decode escaped).1 = escaped := by
  fun_induction decode escaped with
  | case1 => rfl
  | case2 | case5 | case6 | case8 => cases whole
  | case3 rest ih =>
      have behind : marker ∉ rest := fun inside => absent (.tail _ (.tail _ inside))
      calc encode (0x85 :: (decode rest).1)
          = [0x85, 0x85] ++ encode (decode rest).1 := rfl
        _ = 0x85 :: 0x85 :: rest := by rw [ih behind whole]; rfl
  | case4 rest _ ih =>
      have behind : marker ∉ rest := fun inside => absent (.tail _ (.tail _ inside))
      calc encode (0xFF :: (decode rest).1)
          = [0x85, 0x86] ++ encode (decode rest).1 := rfl
        _ = 0x85 :: 0x86 :: rest := by rw [ih behind whole]; rfl
  | case7 rest _ ih =>
      have behind : marker ∉ rest := fun inside => absent (.tail _ (.tail _ inside))
      calc encode (0x86 :: (decode rest).1)
          = [0x86, 0x86] ++ encode (decode rest).1 := rfl
        _ = 0x86 :: 0x86 :: rest := by rw [ih behind whole]; rfl
  | case9 byte rest not85 not86 ih =>
      have behind : marker ∉ rest := fun inside => absent (.tail _ inside)
      have plain : byte ≠ marker := fun same => absent (same ▸ .head _)
      rw [encode_cons, encodeByte_plain plain not85 not86, ih behind whole]
      rfl

/-- What decodes to its end shrinks, and to no less than half. -/
theorem length_decode {escaped : List UInt8} (absent : marker ∉ escaped)
    (whole : (decode escaped).2 = true) :
    (decode escaped).1.length ≤ escaped.length ∧
      escaped.length ≤ 2 * (decode escaped).1.length := by
  have shrunk := length_le_length_encode (decode escaped).1
  have doubled := length_encode_le (decode escaped).1
  rw [encode_decode absent whole] at shrunk doubled
  exact ⟨shrunk, doubled⟩

/-! ## Strings without a marker -/

/-- A byte string that can stand between two markers. -/
structure Escaped where
  bytes : List UInt8
  clean : marker ∉ bytes

/-- `encode` as a function into these strings. -/
def escape (src : List UInt8) : Escaped := ⟨encode src, marker_notMem_encode src⟩

/-- `decode` on these strings, with no result where it returns -1. -/
def unescape (escaped : Escaped) : Option (List UInt8) :=
  if (decode escaped.bytes).2 then some (decode escaped.bytes).1 else none

/-- The two are each other's inverse: `encode` is a bijection onto what `decode` accepts. -/
theorem isPartialInv_unescape : Function.IsPartialInv escape unescape := by
  intro src escaped
  rcases escaped with ⟨bytes, clean⟩
  simp only [escape, unescape, Escaped.mk.injEq]
  constructor
  · intro result
    split at result
    next accepted =>
      cases result
      exact encode_decode clean accepted
    next => cases result
  · rintro rfl
    rw [decode_encode]
    rfl

theorem encode_injective : Function.Injective encode := by
  intro first second same
  have escaped : escape first = escape second := by
    simp only [escape, same]
  exact isPartialInv_unescape.injective escaped

theorem unescape_eq_none_iff (escaped : Escaped) :
    unescape escaped = none ↔ decodedLength escaped.bytes = -1 := by
  rw [unescape, decodedLength]
  split
  next =>
    constructor
    · intro nothing
      cases nothing
    · intro negative
      omega
  next => exact iff_of_true rfl rfl

/-- Every byte string is escaped without a marker, to at most twice its length, and decoded
again.  A string without a marker is decoded to the one it is the escape of, or it is the
escape of none and `decode` returns -1. -/
theorem escape_codec :
    (∀ s : List UInt8, marker ∉ encode s ∧ s.length ≤ (encode s).length ∧
      (encode s).length ≤ 2 * s.length ∧ decode (encode s) = (s, true)) ∧
    ∀ t : List UInt8, marker ∉ t →
      (decodedLength t = (decode t).1.length ∧ encode (decode t).1 = t) ∨
      ((∀ s, encode s ≠ t) ∧ decodedLength t = -1) := by
  constructor
  · intro s
    exact ⟨marker_notMem_encode s, length_le_length_encode s, length_encode_le s,
      decode_encode s⟩
  · intro t clean
    cases result : unescape ⟨t, clean⟩ with
    | none =>
        refine .inr ⟨fun s same => ?_, (unescape_eq_none_iff _).mp result⟩
        have decoded := (isPartialInv_unescape s ⟨t, clean⟩).mpr (by simp only [escape, same])
        rw [result] at decoded
        cases decoded
    | some s =>
        have accepted : (decode t).2 = true := by
          rw [unescape] at result
          split at result
          next accepted => exact accepted
          next => cases result
        exact .inl ⟨if_pos accepted, encode_decode clean accepted⟩

/-- A pair that is an escape, and an escape byte at the end. -/
theorem escape_codec_pair :
    ((decodedLength [0x85, 0x86] = (decode [0x85, 0x86]).1.length ∧
        encode (decode [0x85, 0x86]).1 = [0x85, 0x86]) ∨
      ((∀ s, encode s ≠ [0x85, 0x86]) ∧ decodedLength [0x85, 0x86] = -1)) ∧
    ((decodedLength [0x01, 0x86] = (decode [0x01, 0x86]).1.length ∧
        encode (decode [0x01, 0x86]).1 = [0x01, 0x86]) ∨
      ((∀ s, encode s ≠ [0x01, 0x86]) ∧ decodedLength [0x01, 0x86] = -1)) :=
  ⟨escape_codec.2 [0x85, 0x86] (by decide), escape_codec.2 [0x01, 0x86] (by decide)⟩

example : decodedLength [0x85, 0x86, 0x01] = 2 ∧ decodedLength [0x85, 0x01] = -1 := by decide

end DrivingControl.Comm

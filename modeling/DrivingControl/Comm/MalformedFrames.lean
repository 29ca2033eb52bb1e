import DrivingControl.Comm.EscapeCodec
import DrivingControl.Comm.MarkerSearch

/-!
# Frames with malformed escapes

`decode` returns -1 when an escape byte is followed by one that it may not be followed
by.  `UnPackData` takes the check sum over the decoded length less four before it looks
at that length: over 65531 bytes when `decode` has failed.  A body that decodes to fewer
bytes than the header has is accepted when the bytes in place of the check sum match.
-/

namespace DrivingControl.Comm

open DrivingControl.Utils

/-! ## Malformed bodies -/

/-- A body that `encode` does not produce, or that is too short for the header. -/
def Malformed (escaped : List UInt8) : Prop :=
  (∀ src, encode src ≠ escaped) ∨ decodedLength escaped < 8

/-- The bytes that the check sum is taken over lie inside the decoded body. -/
def SumsInside (beyond : Nat → UInt8) (escaped : List UInt8) : Prop :=
  (4 + (coveredBytes beyond escaped).length : Int) ≤ decodedLength escaped

/-- In a received buffer a malformed body is rejected, and in every buffer no byte behind
the decoded body is summed. -/
def RejectsMalformed (beyond : Nat → UInt8) (buf : List UInt8) : Prop :=
  (checkProtocol buf).isSome = true →
    (buf.length ≤ bufferSize → Malformed (innerBytes buf) → ¬ Accepted beyond buf) ∧
    SumsInside beyond (innerBytes buf)

/-- The check sum of a decoded body. -/
def declaredSum (body : List UInt8) : UInt16 :=
  (buffer2Bin [body.getD 2 0, body.getD 3 0]).toUInt16

/-- The body decodes to its end, and a received one that is too short for the header has
not the check sum of its last bytes. -/
def DecodesWhole (buf : List UInt8) : Prop :=
  (checkProtocol buf).isSome = true →
    (decode (innerBytes buf)).2 = true ∧
    (buf.length ≤ bufferSize → (decodedBody buf).length < 8 →
      declaredSum (decodedBody buf) ≠ getCrc16 ((decodedBody buf).drop 4) 0)

instance (buf : List UInt8) : Decidable (DecodesWhole buf) :=
  inferInstanceAs (Decidable (_ → _ ∧ (_ → _ → _)))

variable {beyond : Nat → UInt8} {buf : List UInt8}

/-- A body without markers is malformed exactly if it does not decode to a header. -/
theorem malformed_iff {escaped : List UInt8} (absent : marker ∉ escaped)
    (whole : (decode escaped).2 = true) :
    Malformed escaped ↔ (decode escaped).1.length < 8 := by
  have length : decodedLength escaped = (decode escaped).1.length := by
    rw [decodedLength, if_pos whole]
  constructor
  · rintro (foreign | short)
    · exact absurd (encode_decode absent whole) (foreign _)
    · omega
  · intro short
    exact .inr (by omega)

/-- The sum stays inside the decoded body exactly if there is one. -/
theorem sumsInside_iff {escaped : List UInt8} (absent : marker ∉ escaped)
    (long : 8 ≤ escaped.length) :
    SumsInside beyond escaped ↔ (decode escaped).2 = true := by
  rw [SumsInside, decodedLength, coveredBytes]
  rw [length_readMemory]
  by_cases whole : (decode escaped).2 = true
  · have doubled := (length_decode absent whole).2
    simp only [whole, if_true, iff_true]
    omega
  · simp only [whole, Bool.false_eq_true, if_false, iff_false]
    omega

/-- With two markers the check sum decides. -/
theorem accepted_iff (found : (checkProtocol buf).isSome = true) :
    Accepted beyond buf ↔
      unPackShort (bufferMemory beyond (decodedBody buf)) 2 =
        getCrc16 (coveredBytes beyond (innerBytes buf)) 0 := by
  rcases Option.isSome_iff_exists.mp found with ⟨⟨start, stop⟩, markers⟩
  constructor
  · rintro ⟨unpacked, accepted⟩
    rcases unPackData_eq_ok accepted with ⟨here, there, same, opened⟩
    cases markers.symm.trans same
    have inner : innerBytes buf = (buf.take stop).drop (start + 1) := by
      rw [innerBytes, markers]
    rw [decodedBody, inner]
    rw [unPackBody_eq] at opened
    split at opened
    next summed => exact summed
    next => cases opened
  · intro summed
    exact ⟨_, unPackData_of_sum markers summed⟩

/-- The bytes between two markers that are found. -/
theorem length_innerBytes (found : (checkProtocol buf).isSome = true) :
    8 ≤ (innerBytes buf).length ∧ (innerBytes buf).length ≤ buf.length := by
  rcases Option.isSome_iff_exists.mp found with ⟨⟨start, stop⟩, markers⟩
  have finds := finds_checkProtocol buf
  rw [markers] at finds
  have apart := finds.pair.far
  have inside := (List.getElem?_eq_some_iff.mp finds.pair.tail).1
  rw [innerBytes, markers]
  simp only [List.length_drop, List.length_take]
  omega

/-- A received body that decodes whole is accepted exactly if its check sum is right. -/
theorem accepted_iff_sum (found : (checkProtocol buf).isSome = true)
    (fits : buf.length ≤ bufferSize) (whole : (decode (innerBytes buf)).2 = true) :
    Accepted beyond buf ↔
      declaredSum (decodedBody buf) = getCrc16 ((decodedBody buf).drop 4) 0 := by
  rcases length_innerBytes found with ⟨long, inside⟩
  rcases length_decode (marker_notMem_innerBytes buf) whole with ⟨shrunk, doubled⟩
  have body : (decodedBody buf).length ≤ bufferSize :=
    Nat.le_trans shrunk (Nat.le_trans inside fits)
  change _ ≤ 2 * (decodedBody buf).length at doubled
  have covered : coveredBytes beyond (innerBytes buf) = (decodedBody buf).drop 4 := by
    have length : ((((decodedBody buf).length : Int) - 4) % 65536).toNat =
        (decodedBody buf).length - 4 := by
      rw [bufferSize] at body
      omega
    rw [coveredBytes]
    simp only [whole, if_true]
    change readMemory (bufferMemory beyond (decodedBody buf)) 4
      ((((decodedBody buf).length : Int) - 4) % 65536).toNat = _
    rw [length, readMemory_eq body beyond (by omega)]
    apply List.take_of_length_le
    exact Nat.le_of_eq List.length_drop
  have field : unPackShort (bufferMemory beyond (decodedBody buf)) 2 =
      declaredSum (decodedBody buf) := by
    rw [unPackShort, declaredSum, bufferMemory, bufferMemory, if_pos (by decide),
      if_pos (by decide)]
  rw [accepted_iff found, covered, field]

/-- For every memory and buffer: malformed bodies are rejected, and nothing behind the body
is summed, exactly if the body decodes to its end and is not a short one with a right check
sum. -/
theorem rejectsMalformed_iff (beyond : Nat → UInt8) (buf : List UInt8) :
    RejectsMalformed beyond buf ↔ DecodesWhole buf := by
  rw [RejectsMalformed, DecodesWhole]
  apply imp_congr_right
  intro found
  rw [sumsInside_iff (marker_notMem_innerBytes buf) (length_innerBytes found).1]
  constructor
  · rintro ⟨rejects, whole⟩
    refine ⟨whole, fun fits short => ?_⟩
    have malformed := (malformed_iff (marker_notMem_innerBytes buf) whole).mpr short
    rw [ne_eq, ← @accepted_iff_sum beyond buf found fits whole]
    exact rejects fits malformed
  · rintro ⟨whole, apart⟩
    refine ⟨fun fits malformed => ?_, whole⟩
    have short := (malformed_iff (marker_notMem_innerBytes buf) whole).mp malformed
    rw [accepted_iff_sum found fits whole]
    exact apart fits short

/-- Seven decoded bytes, of which one is escaped: the last three have the check sum. -/
theorem short_body_accepted :
    ¬ ∀ (beyond : Nat → UInt8) (buf : List UInt8), RejectsMalformed beyond buf := by
  intro all
  let buf : List UInt8 := [0xFF, 0x00, 0x85, 0x85, 0xFA, 0x68, 0x00, 0x01, 0x02, 0xFF]
  have rejects := (all (fun _ => 0) buf (by decide)).1 (by decide) (.inr (by decide))
  exact rejects (by decide +kernel)

end DrivingControl.Comm

import DrivingControl.Controler.Scheduler
import DrivingControl.Library.Decimal

/-!
# The error dump

When a frame is rejected, `ParseReceiveData` writes the whole read as hexadecimal text into
an array of 2048 bytes before it logs it.  A byte takes three characters, and nothing
compares the cursor with the size of the array.
-/

namespace DrivingControl.Controler

open DrivingControl.Comm DrivingControl.Library

/-- The size of `buf`. -/
def dumpSize : Nat := 2048

/-- A digit of `%X`. -/
def hexCode (digit : UInt8) : UInt8 := if digit < 10 then 48 + digit else 55 + digit

/-- The text of `"%02X "`. -/
def byteText (byte : UInt8) : Text := [hexCode (byte / 16), hexCode (byte % 16), 32]

/-- The text of `"Error Data[%d]:"`. -/
def dumpHeader (len : Nat) : Text := ascii "Error Data[" ++ natText len ++ ascii "]:"

/-- The dump while it is written: the cursor `i`, and the bytes written so far with their
positions in `buf`. -/
structure Dump where
  cursor : Nat := 0
  writes : List (UInt8 × Nat) := []
  deriving DecidableEq, Repr

namespace Dump

/-- `i += sprintf(buf + i, ..)` for a text, which is written with its terminator. -/
def sprintf (text : Text) (dump : Dump) : Dump where
  cursor := dump.cursor + text.length
  writes := dump.writes ++ (text ++ [0]).zipIdx dump.cursor

/-- The loop over the bytes of the read. -/
def dumpBytes (data : List UInt8) (dump : Dump) : Dump :=
  data.foldl (fun dump byte => dump.sprintf (byteText byte)) dump

/-- Every byte was written inside the array. -/
def Fits (dump : Dump) : Prop := ∀ write ∈ dump.writes, write.2 < dumpSize

end Dump

open Dump

/-- The dump of a read. -/
def errorDump (data : List UInt8) : Dump :=
  dumpBytes data (sprintf (dumpHeader data.length) {})

/-- The dump that a call of `ParseReceiveData` writes, which it does when it fails. -/
def dumpOf (beyond : Nat → UInt8) (data : List UInt8) : Option Dump :=
  if (parseReceiveData beyond data).failure.isSome then some (errorDump data) else none

namespace Dump

variable {dump : Dump} {data : List UInt8}

/-- The last terminator stands at the cursor, and nothing behind it. -/
structure Terminated (dump : Dump) : Prop where
  terminator : (0, dump.cursor) ∈ dump.writes
  before : ∀ write ∈ dump.writes, write.2 ≤ dump.cursor

theorem terminated_sprintf (text : Text) (before : ∀ write ∈ dump.writes, write.2 ≤ dump.cursor) :
    (dump.sprintf text).Terminated := by
  constructor
  · apply List.mem_append_right
    rw [List.zipIdx_append]
    apply List.mem_append_right
    simp [sprintf]
  · intro write written
    rcases List.mem_append.mp written with earlier | now
    · exact Nat.le_trans (before write earlier) (Nat.le_add_right _ _)
    · have inside := List.snd_lt_add_of_mem_zipIdx now
      rw [List.length_append, List.length_singleton, ← Nat.add_assoc] at inside
      exact Nat.le_of_lt_succ inside

theorem Terminated.dumpBytes (terminated : dump.Terminated) (data : List UInt8) :
    (dump.dumpBytes data).Terminated ∧
      (dump.dumpBytes data).cursor = dump.cursor + 3 * data.length := by
  induction data generalizing dump with
  | nil => exact ⟨terminated, rfl⟩
  | cons byte rest ih =>
      rcases ih (terminated_sprintf (byteText byte) terminated.before) with ⟨closed, cursor⟩
      refine ⟨closed, cursor.trans ?_⟩
      rw [List.length_cons]
      simp only [sprintf, byteText, List.length_cons, List.length_nil]
      omega

theorem Terminated.fits_iff (terminated : dump.Terminated) :
    dump.Fits ↔ dump.cursor < dumpSize := by
  constructor
  · intro fits
    exact fits _ terminated.terminator
  · intro inside write written
    exact Nat.lt_of_le_of_lt (terminated.before write written) inside

end Dump

theorem length_dumpHeader (len : Nat) : (dumpHeader len).length = 13 + (natText len).length := by
  have front : (ascii "Error Data[").length = 11 := rfl
  have back : (ascii "]:").length = 2 := rfl
  rw [dumpHeader, List.length_append, List.length_append, front, back]
  omega

/-- The cursor ends behind the header and three characters for each byte. -/
theorem terminated_errorDump (data : List UInt8) :
    (errorDump data).Terminated ∧
      (errorDump data).cursor = 13 + (natText data.length).length + 3 * data.length := by
  have header : (sprintf (dumpHeader data.length) {}).Terminated :=
    terminated_sprintf _ fun _ written => by cases written
  rcases header.dumpBytes data with ⟨terminated, cursor⟩
  refine ⟨terminated, cursor.trans ?_⟩
  rw [sprintf, length_dumpHeader, Nat.zero_add]

/-- A dump that is written stays inside its array exactly for reads of up to 677 bytes. -/
theorem dumpOf_fits_iff {beyond : Nat → UInt8} {data : List UInt8} {dump : Dump}
    (dumped : dumpOf beyond data = some dump) : dump.Fits ↔ data.length ≤ 677 := by
  rw [dumpOf, Option.ite_none_right_eq_some, Option.some.injEq] at dumped
  rcases dumped with ⟨-, rfl⟩
  rcases terminated_errorDump data with ⟨terminated, cursor⟩
  have two := length_natText_le_iff data.length (show 0 < 2 by decide)
  have three := length_natText_le_iff data.length (show 0 < 3 by decide)
  rw [terminated.fits_iff, cursor, dumpSize]
  omega

/-- A read without a marker is rejected. -/
theorem failure_replicate_zero (beyond : Nat → UInt8) (len : Nat) :
    (parseReceiveData beyond (List.replicate len 0)).failure = some .check := by
  have searched : ∀ (len i : Nat) (hi : Option Nat), checkLoop (List.replicate len 0) i hi = none := by
    intro len
    induction len with
    | zero => exact fun _ _ => rfl
    | succ len ih =>
        intro i hi
        rw [List.replicate_succ, checkLoop, if_neg (by decide), ih]
  have rejected : unPackData beyond (List.replicate len 0) = .error .check := by
    rw [unPackData, checkProtocol, searched, ite_self]
  rw [parseReceiveData_error rejected]

/-- Ten bytes without a marker are dumped inside the array. -/
theorem dumpOf_fits_ten : (errorDump (List.replicate 10 0)).Fits := by
  have dumped : dumpOf (fun _ => 0) (List.replicate 10 0) =
      some (errorDump (List.replicate 10 0)) := by
    rw [dumpOf, failure_replicate_zero]
    rfl
  exact (dumpOf_fits_iff dumped).mpr (by decide)

/-- 700 bytes without a marker are not. -/
theorem dump_overruns :
    ¬ ∀ (beyond : Nat → UInt8) (data : List UInt8) (dump : Dump), 10 ≤ data.length →
      data.length ≤ 2048 → dumpOf beyond data = some dump → dump.Fits := by
  intro fits
  have dumped : dumpOf (fun _ => 0) (List.replicate 700 0) =
      some (errorDump (List.replicate 700 0)) := by
    rw [dumpOf, failure_replicate_zero]
    rfl
  have fit := fits _ _ _ (by rw [List.length_replicate]; decide)
    (by rw [List.length_replicate]; decide) dumped
  rcases terminated_errorDump (List.replicate 700 0) with ⟨terminated, cursor⟩
  rw [terminated.fits_iff, cursor, List.length_replicate, dumpSize] at fit
  omega

end DrivingControl.Controler

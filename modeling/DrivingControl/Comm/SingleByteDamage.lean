import DrivingControl.Comm.AcceptedFrames
import DrivingControl.Devices.CanPackages

/-!
# One damaged byte

A change of one byte is noticed, by the CAN receiver as well as by the scheduler's
protocol, when the bytes behind it keep the running check sums apart.  The table of
the check sum is not that of a CRC, and some bytes bring two running values together.
-/

namespace DrivingControl.Comm

open DrivingControl.Utils DrivingControl.Devices

/-- A byte is changed into another one, and the check sum and the receivers that compare
it notice. -/
structure Noticed (front : List UInt8) (byte other : UInt8) (back : List UInt8) : Prop where
  checkSum : ∀ pwd, getCrc16 (front ++ byte :: back) pwd ≠ getCrc16 (front ++ other :: back) pwd
  /-- A package that announces the one payload and carries the other. -/
  package : ∀ receiver, front ++ other :: back ∉
    (receiveAll (packageFrames (front ++ byte :: back) (front ++ other :: back)) receiver).2
  /-- A frame with a change behind its check sum. -/
  frame : ∀ (beyond : Nat → UInt8) (head : List UInt8), head.length = 4 →
    (head ++ (front ++ byte :: back)).length ≤ bufferSize →
    Accepted beyond (frameOf (head ++ (front ++ byte :: back))) →
    ¬ Accepted beyond (frameOf (head ++ (front ++ other :: back)))

/-- A changed byte is noticed exactly if the bytes behind it do not hide the change. -/
theorem noticed_iff (front : List UInt8) (byte other : UInt8) (back : List UInt8)
    (differ : byte ≠ other) : Noticed front byte other back ↔ Shows front byte other back := by
  have same : (front ++ other :: back).length = (front ++ byte :: back).length := by simp
  constructor
  · intro noticed
    exact (getCrc16_ne_iff differ front back 0).mp (noticed.checkSum 0)
  · intro shows
    have changed : ∀ pwd, getCrc16 (front ++ byte :: back) pwd ≠
        getCrc16 (front ++ other :: back) pwd :=
      fun pwd => (getCrc16_ne_iff differ front back pwd).mpr shows
    refine ⟨changed, ?_, ?_⟩
    · intro receiver delivered
      exact changed 0 (getCrc16_of_mem_receiveAll (by simp) same receiver delivered).symm
    · intro beyond head header fits accepted damaged
      have fitsToo : (head ++ (front ++ other :: back)).length ≤ bufferSize := by
        rw [List.length_append, same, ← List.length_append]
        exact fits
      have announced := getCrc16_of_accepted header fits accepted
      exact changed 0 (announced.trans (getCrc16_of_accepted header fitsToo damaged).symm)

/-- A change of the last byte has nothing behind it. -/
theorem noticed_iff_last : Noticed [1, 2, 3] 4 5 [] ↔ Shows [1, 2, 3] 4 5 [] :=
  noticed_iff [1, 2, 3] 4 5 [] (by decide)

/-- The byte 30 hides a change of 2 into 42 in front of it. -/
theorem hidden_change :
    ¬ ∀ (front : List UInt8) (byte other : UInt8) (back : List UInt8),
      byte ≠ other → (front ++ byte :: back).length < 65536 → Noticed front byte other back := by
  intro all
  have noticed := all [] 2 42 [30] (by decide) (by decide)
  exact absurd (noticed.checkSum 0) (by decide +kernel)

end DrivingControl.Comm

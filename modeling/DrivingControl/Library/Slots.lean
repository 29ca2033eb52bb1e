import Mathlib.Data.List.Basic

/-!
# Messages in a buffer

A message is a list of slots that are laid over the front of a buffer, one behind the other.  A
slot is written, or skipped: then the buffer keeps what was there before.  What was written is
read back at the offset of its slot, whatever the buffer held.
-/

namespace DrivingControl.Library

universe u

variable {α : Type u}

/-- A part of a message. -/
inductive Slot (α : Type u) where
  | written (elements : List α)
  | skipped (width : Nat)
  deriving DecidableEq, Repr

namespace Slot

/-- The room a slot takes. -/
def width : Slot α → Nat
  | .written elements => elements.length
  | .skipped width => width

/-- What a slot leaves in the place of what was there. -/
def fill (old : List α) : Slot α → List α
  | .written elements => elements
  | .skipped _ => old

/-- The room some slots take. -/
def extent : List (Slot α) → Nat
  | [] => 0
  | slot :: slots => slot.width + extent slots

/-- Slots laid over the front of a buffer. -/
def lay : List (Slot α) → List α → List α
  | [], buffer => buffer
  | slot :: slots, buffer =>
      slot.fill (buffer.take slot.width) ++ lay slots (buffer.drop slot.width)

/-- A part of a buffer. -/
def slice (offset width : Nat) (buffer : List α) : List α := (buffer.drop offset).take width

variable {slots front back : List (Slot α)} {buffer : List α}

theorem extent_cons (slot : Slot α) (slots : List (Slot α)) :
    extent (slot :: slots) = slot.width + extent slots := rfl

theorem extent_append (front back : List (Slot α)) :
    extent (front ++ back) = extent front + extent back := by
  induction front with
  | nil => exact (Nat.zero_add _).symm
  | cons slot front ih => rw [List.cons_append, extent_cons, extent_cons, ih, Nat.add_assoc]

theorem length_fill (slot : Slot α) {old : List α} (same : old.length = slot.width) :
    (slot.fill old).length = slot.width := by
  cases slot with
  | written elements => rfl
  | skipped width => exact same

theorem length_take_width {slot : Slot α} (fits : slot.width ≤ buffer.length) :
    (slot.fill (buffer.take slot.width)).length = slot.width :=
  slot.length_fill (List.length_take_of_le fits)

/-- Slots that fit leave the buffer its length. -/
theorem length_lay (fits : extent slots ≤ buffer.length) :
    (lay slots buffer).length = buffer.length := by
  induction slots generalizing buffer with
  | nil => rfl
  | cons slot slots ih =>
      rw [extent_cons] at fits
      have rest : extent slots ≤ (buffer.drop slot.width).length := by
        rw [List.length_drop]
        omega
      rw [lay, List.length_append, ih rest, length_take_width (by omega), List.length_drop]
      omega

/-- Behind the first slots the others are laid over the rest of the buffer. -/
theorem drop_lay_append (fits : extent front ≤ buffer.length) :
    (lay (front ++ back) buffer).drop (extent front) =
      lay back (buffer.drop (extent front)) := by
  induction front generalizing buffer with
  | nil => rfl
  | cons slot front ih =>
      rw [extent_cons] at fits ⊢
      have rest : extent front ≤ (buffer.drop slot.width).length := by
        rw [List.length_drop]
        omega
      have length : (slot.fill (buffer.take slot.width)).length = slot.width :=
        length_take_width (by omega)
      rw [List.cons_append, lay, ← List.drop_drop, List.drop_left' length, ih rest,
        List.drop_drop]

/-- What was written is read back at its offset. -/
theorem slice_lay (elements : List α) (fits : extent front ≤ buffer.length) :
    slice (extent front) elements.length (lay (front ++ .written elements :: back) buffer) =
      elements := by
  rw [slice, drop_lay_append fits]
  exact List.take_left

/-- Cutting the buffer behind a slice leaves the slice. -/
theorem slice_take {offset width length : Nat} (inside : offset + width ≤ length)
    (buffer : List α) : slice offset width (buffer.take length) = slice offset width buffer := by
  rw [slice, slice, List.drop_take, List.take_take, Nat.min_eq_left (by omega)]

/-- What was written is read back from the front that the slots take, whatever the buffer held. -/
theorem slice_lay_take {elements : List α} (index : Nat)
    (packed : slots[index]? = some (.written elements)) (fits : extent slots ≤ buffer.length) :
    slice (extent (slots.take index)) elements.length ((lay slots buffer).take (extent slots)) =
      elements := by
  obtain ⟨inside, same⟩ := List.getElem?_eq_some_iff.mp packed
  obtain ⟨front, back, rfl, isFront⟩ : ∃ front back, slots = front ++ .written elements :: back ∧
      slots.take index = front :=
    ⟨_, slots.drop (index + 1), by rw [← same, List.getElem_cons_drop, List.take_append_drop], rfl⟩
  have room : extent front + elements.length ≤ extent (front ++ .written elements :: back) := by
    rw [extent_append, extent_cons, width]
    omega
  rw [isFront, slice_take room, slice_lay elements (by omega)]

end Slot

end DrivingControl.Library

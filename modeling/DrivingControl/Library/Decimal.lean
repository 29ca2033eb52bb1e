import Mathlib.Data.List.Induction
import Mathlib.Data.Nat.Digits.Lemmas
import Mathlib.Tactic.Ring

/-!
# Numbers as decimal text

The text of a number as `sprintf` writes it for `%d`, and the number that `atoi` reads
from a text: white space is skipped, a sign is taken, and digits are read as far as
they go.  Text is a list of ASCII codes.  A number too large for its type is left to
those who use this module.
-/

namespace DrivingControl.Library

/-- ASCII text. -/
abbrev Text := List UInt8

/-- The text of a string of ASCII characters. -/
def ascii (string : String) : Text := string.toList.map fun char => .ofNat char.toNat

/-! ## Writing -/

def digitCode (digit : Nat) : UInt8 := .ofNat (48 + digit)

def minusCode : UInt8 := 45
def plusCode : UInt8 := 43

/-- The decimal digits of a number. -/
def natText (n : Nat) : Text :=
  if n = 0 then [digitCode 0] else (Nat.digits 10 n).reverse.map digitCode

/-- The text of `%d`. -/
def intText : Int → Text
  | .ofNat n => natText n
  | .negSucc n => minusCode :: natText (n + 1)

/-! ## Reading -/

def isDigitCode (code : UInt8) : Bool := 48 ≤ code.toNat && code.toNat ≤ 57

def isSpaceCode (code : UInt8) : Bool :=
  code.toNat = 32 || (9 ≤ code.toNat && code.toNat ≤ 13)

/-- The number that the leading digits of a text spell, behind the digits read so far. -/
def readDigits (read : Nat) : Text → Nat
  | [] => read
  | code :: rest =>
      if isDigitCode code then readDigits (read * 10 + (code.toNat - 48)) rest else read

/-- `atoi`. -/
def readInt (text : Text) : Int :=
  match text.dropWhile isSpaceCode with
  | [] => 0
  | code :: rest =>
      if code = minusCode then -(readDigits 0 rest)
      else if code = plusCode then readDigits 0 rest
      else readDigits 0 (code :: rest)

/-! ## What is written is read back -/

theorem toNat_digitCode {digit : Nat} (small : digit < 10) :
    (digitCode digit).toNat = 48 + digit := by
  rw [digitCode, UInt8.toNat_ofNat']
  omega

theorem isDigitCode_digitCode {digit : Nat} (small : digit < 10) :
    isDigitCode (digitCode digit) = true := by
  have code := toNat_digitCode small
  simp [isDigitCode, code]
  omega

theorem readDigits_append {digits : List Nat} (small : ∀ digit ∈ digits, digit < 10)
    (read : Nat) : readDigits read (digits.reverse.map digitCode) =
      read * 10 ^ digits.length + Nat.ofDigits 10 digits := by
  induction digits using List.reverseRecOn generalizing read with
  | nil => simp [readDigits]
  | append_singleton digits last ih =>
      have lastSmall := small last (by simp)
      have restSmall := fun digit member => small digit (List.mem_append_left [last] member)
      rw [List.reverse_append, List.reverse_singleton, List.singleton_append, List.map_cons,
        readDigits, if_pos (isDigitCode_digitCode lastSmall), ih restSmall,
        toNat_digitCode lastSmall, Nat.add_sub_cancel_left, Nat.ofDigits_append,
        Nat.ofDigits_singleton, List.length_append, List.length_singleton]
      ring

theorem digits_small (n : Nat) : ∀ digit ∈ Nat.digits 10 n, digit < 10 :=
  fun _ member => Nat.digits_lt_base (by omega) member

theorem readDigits_natText (n : Nat) : readDigits 0 (natText n) = n := by
  rw [natText]
  split
  next zero =>
    rw [zero]
    rfl
  next =>
    rw [readDigits_append (digits_small n), Nat.ofDigits_digits, Nat.zero_mul, Nat.zero_add]

/-- The first code of a number is a digit. -/
theorem exists_natText_cons (n : Nat) :
    ∃ digit rest, digit < 10 ∧ natText n = digitCode digit :: rest := by
  rw [natText]
  split
  next => exact ⟨0, [], by omega, rfl⟩
  next nonzero =>
    have written : (Nat.digits 10 n).reverse ≠ [] := by
      simpa using Nat.digits_ne_nil_iff_ne_zero.mpr nonzero
    rcases List.exists_cons_of_ne_nil written with ⟨digit, rest, same⟩
    have member : digit ∈ (Nat.digits 10 n).reverse := by simp [same]
    exact ⟨digit, rest.map digitCode, digits_small n digit (List.mem_reverse.mp member),
      by rw [same, List.map_cons]⟩

/-- The digits that a number needs. -/
theorem length_natText_le_iff (n : Nat) {count : Nat} (positive : 0 < count) :
    (natText n).length ≤ count ↔ n < 10 ^ count := by
  rw [natText]
  split
  next zero =>
    subst zero
    exact iff_of_true positive (Nat.pow_pos (by decide))
  next => rw [List.length_map, List.length_reverse, Nat.digits_length_le_iff (by decide)]

/-- A number and its sign fit into a text of a given length. -/
theorem length_intText_le_iff (value : Int) (count : Nat) :
    (intText value).length ≤ count + 1 ↔ -10 ^ count < value ∧ value < 10 ^ (count + 1) := by
  cases value with
  | ofNat n =>
      have below : (10 : Int) ^ (count + 1) = ((10 ^ (count + 1) : Nat) : Int) := by push_cast; rfl
      have positive : (0 : Int) < 10 ^ count := by positivity
      rw [intText, length_natText_le_iff n (Nat.succ_pos count), below, Int.ofNat_eq_natCast]
      omega
  | negSucc n =>
      have above : (10 : Int) ^ count = ((10 ^ count : Nat) : Int) := by push_cast; rfl
      have positive : (0 : Int) < 10 ^ (count + 1) := by positivity
      rw [intText, List.length_cons, Nat.add_le_add_iff_right, above, Int.negSucc_eq]
      cases count with
      | zero =>
          obtain ⟨digit, rest, -, text⟩ := exists_natText_cons (n + 1)
          rw [text, List.length_cons]
          omega
      | succ count =>
          rw [length_natText_le_iff (n + 1) (Nat.succ_pos count)]
          omega

theorem readInt_natText (n : Nat) : readInt (natText n) = n := by
  rcases exists_natText_cons n with ⟨digit, rest, small, text⟩
  have code := toNat_digitCode small
  have notSpace : isSpaceCode (digitCode digit) = false := by
    simp [isSpaceCode, code]
    omega
  have notMinus : digitCode digit ≠ minusCode := by
    intro same
    rw [same] at code
    simp [minusCode] at code
    omega
  have notPlus : digitCode digit ≠ plusCode := by
    intro same
    rw [same] at code
    simp [plusCode] at code
    omega
  have value := readDigits_natText n
  rw [text] at value ⊢
  simp only [readInt, List.dropWhile_cons, notSpace, Bool.false_eq_true, if_false, notMinus,
    notPlus, value]

/-- A number is read back from its text. -/
@[simp] theorem readInt_intText (n : Int) : readInt (intText n) = n := by
  cases n with
  | ofNat n => exact readInt_natText n
  | negSucc n =>
      have notSpace : isSpaceCode minusCode = false := by decide
      simp only [intText, readInt, List.dropWhile_cons, notSpace, Bool.false_eq_true,
        if_false, if_true, readDigits_natText]
      omega

end DrivingControl.Library

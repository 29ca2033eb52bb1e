import DrivingControl.Library.Formatted
import Mathlib.Data.List.TakeWhile
import Mathlib.Tactic.NormNum

/-!
# Formatted text is read back

A text that was written with a format is read back with it, when every conversion is
followed by a literal that ends its item and every finite number is one of millionths,
which `%f` writes exactly.  The codes and the length of such a text follow from its format
and the width of its values.
-/

namespace DrivingControl.Library

/-! ## Digits -/

theorem codeDigit_digitCode {digit : Nat} (small : digit < 10) :
    codeDigit (digitCode digit) = digit := by
  rw [codeDigit, if_pos (isDigitCode_digitCode small), toNat_digitCode small,
    Nat.add_sub_cancel_left]

/-- Digits behind others. -/
theorem digitsValue_append (base : Nat) (front back : Text) :
    digitsValue base (front ++ back) =
      digitsValue base front * base ^ back.length + digitsValue base back := by
  rw [digitsValue, List.reverse_append, List.map_append, Nat.ofDigits_append,
    List.length_map, List.length_reverse, digitsValue, digitsValue]
  ring

/-- A text of digits only. -/
def AllDigits (text : Text) : Prop := ∀ code ∈ text, isDigitCode code = true

theorem allDigits_natText (n : Nat) : AllDigits (natText n) := by
  intro code member
  rw [natText] at member
  split at member
  next =>
    rw [List.mem_singleton.mp member]
    rfl
  next =>
    rcases List.mem_map.mp member with ⟨digit, member, same⟩
    rw [← same]
    exact isDigitCode_digitCode (digits_small n digit (List.mem_reverse.mp member))

theorem natText_ne_nil (n : Nat) : natText n ≠ [] := by
  rcases exists_natText_cons n with ⟨digit, rest, -, text⟩
  simp [text]

theorem digitsValue_natText (n : Nat) : digitsValue 10 (natText n) = n := by
  rw [natText]
  split
  next zero =>
    rw [zero]
    rfl
  next =>
    have read : (Nat.digits 10 n).map (codeDigit ∘ digitCode) = Nat.digits 10 n := by
      apply (List.map_congr_left _).trans (List.map_id _)
      intro digit member
      exact codeDigit_digitCode (digits_small n digit member)
    rw [digitsValue, ← List.map_reverse, List.reverse_reverse, List.map_map, read,
      Nat.ofDigits_digits]

theorem allDigits_fixedDigits (width n : Nat) : AllDigits (fixedDigits width n) := by
  induction width generalizing n with
  | zero => exact fun _ member => absurd member List.not_mem_nil
  | succ width ih =>
      intro code member
      rw [fixedDigits, List.mem_append, List.mem_singleton] at member
      rcases member with front | last
      · exact ih _ code front
      · rw [last]
        exact isDigitCode_digitCode (Nat.mod_lt n (by decide))

theorem length_fixedDigits (width n : Nat) : (fixedDigits width n).length = width := by
  induction width generalizing n with
  | zero => rfl
  | succ width ih => rw [fixedDigits, List.length_append, ih, List.length_singleton]

theorem digitsValue_fixedDigits (width n : Nat) :
    digitsValue 10 (fixedDigits width n) = n % 10 ^ width := by
  induction width generalizing n with
  | zero => simp [fixedDigits, digitsValue, Nat.mod_one]
  | succ width ih =>
      have last : digitsValue 10 [digitCode (n % 10)] = n % 10 := by
        simp [digitsValue, codeDigit_digitCode (Nat.mod_lt n (by decide : 0 < 10))]
      rw [fixedDigits, digitsValue_append, ih, last, List.length_singleton, pow_one,
        Nat.pow_succ', Nat.mod_mul]
      ring

section Digits

variable {digits : Text} (all : AllDigits digits)

include all

theorem takeWhile_digits : digits.takeWhile isDigitCode = digits :=
  List.takeWhile_eq_self_iff.mpr all

theorem dropWhile_digits : digits.dropWhile isDigitCode = [] :=
  List.dropWhile_eq_nil_iff.mpr all

end Digits

/-- A text that begins with a digit. -/
def StartsWithDigit (text : Text) : Prop :=
  ∃ code rest, isDigitCode code = true ∧ text = code :: rest

theorem startsWithDigit_natText (n : Nat) (rest : Text) :
    StartsWithDigit (natText n ++ rest) := by
  rcases exists_natText_cons n with ⟨digit, behind, small, text⟩
  exact ⟨digitCode digit, behind ++ rest, isDigitCode_digitCode small, by rw [text]; rfl⟩

section Start

variable {text : Text} (starts : StartsWithDigit text)

include starts

theorem scanSign_digit : scanSign text = (false, text) := by
  rcases starts with ⟨code, rest, digit, same⟩
  have notMinus : code ≠ minusCode := ne_of_refused digit rfl
  have notPlus : code ≠ plusCode := ne_of_refused digit rfl
  rw [same, scanSign, if_neg notMinus, if_neg notPlus]

theorem dropWhile_isSpaceCode_digit : text.dropWhile isSpaceCode = text := by
  rcases starts with ⟨code, rest, digit, same⟩
  have notSpace : isSpaceCode code = false := by
    simp only [isDigitCode, Bool.and_eq_true, decide_eq_true_eq] at digit
    simp [isSpaceCode]
    omega
  rw [same, List.dropWhile_cons, notSpace]
  rfl

end Start

theorem scanInt_intText (value : Int) : scanInt (intText value) = some (value, []) := by
  cases value with
  | ofNat n =>
      have all := allDigits_natText n
      have starts := startsWithDigit_natText n []
      rw [List.append_nil] at starts
      simp only [intText, scanInt, scanSigned, dropWhile_isSpaceCode_digit starts,
        scanSign_digit starts, takeWhile_digits all, natText_ne_nil, if_false,
        dropWhile_digits all, digitsValue_natText]
      rfl
  | negSucc n =>
      have all := allDigits_natText (n + 1)
      have notSpace : isSpaceCode minusCode = false := by decide
      simp only [intText, scanInt, scanSigned, List.dropWhile_cons, notSpace, scanSign,
        takeWhile_digits all, natText_ne_nil, if_false, if_true, dropWhile_digits all,
        digitsValue_natText, Bool.false_eq_true]
      rfl

/-! ## Numbers -/

theorem roundHalfEven_intCast (n : Int) : roundHalfEven n = n := by
  simp [roundHalfEven]

/-- Millionths are written exactly. -/
theorem floatText_millionths (millionths : Int) :
    floatText (.finite (millionths / 1000000)) =
      if millionths < 0 then minusCode :: millionthsText millionths.natAbs
      else millionthsText millionths.natAbs := by
  have written : |(millionths : ℚ) / 1000000| * 1000000 = ((millionths.natAbs : Int) : ℚ) := by
    rw [abs_div, abs_of_pos (by norm_num : (0 : ℚ) < 1000000), div_mul_cancel₀ _ (by norm_num),
      Int.natCast_natAbs, Int.cast_abs]
  have sign : (millionths : ℚ) / 1000000 < 0 ↔ millionths < 0 := by
    rw [div_lt_iff₀ (by norm_num), zero_mul]
    exact Int.cast_lt_zero
  simp only [floatText, written, roundHalfEven_intCast, Int.toNat_natCast, sign]

theorem scanNumber_millionthsText (n : Nat) :
    decimalSpelling.scanNumber (millionthsText n) = some ((n : ℚ) / 1000000, []) := by
  have pointEnds : decimalSpelling.isDigit pointCode = false := by decide
  have whole : (natText (n / 1000000)).takeWhile decimalSpelling.isDigit =
      natText (n / 1000000) := takeWhile_digits (allDigits_natText _)
  have behind : (natText (n / 1000000)).dropWhile decimalSpelling.isDigit = [] :=
    dropWhile_digits (allDigits_natText _)
  have fraction : decimalSpelling.scanFraction
      (pointCode :: fixedDigits 6 (n % 1000000)) = (fixedDigits 6 (n % 1000000), []) := by
    rw [Spelling.scanFraction, if_pos rfl]
    exact Prod.ext (takeWhile_digits (allDigits_fixedDigits 6 _))
      (dropWhile_digits (allDigits_fixedDigits 6 _))
  have value : digitsValue 10 (natText (n / 1000000) ++ fixedDigits 6 (n % 1000000)) = n := by
    rw [digitsValue_append, digitsValue_natText, digitsValue_fixedDigits, length_fixedDigits]
    omega
  simp only [Spelling.scanNumber, millionthsText, takeWhile_append_stop pointEnds, whole,
    dropWhile_append_stop pointEnds, behind, List.nil_append, fraction,
    List.append_eq_nil_iff, natText_ne_nil, false_and, if_false, Spelling.scanExponent,
    Option.map_some, zpow_zero, mul_one, length_fixedDigits]
  rw [show decimalSpelling.base = 10 from rfl, value]
  norm_num

/-- The codes of numbers: digits, a sign and a point. -/
def isNumberCode (code : UInt8) : Bool :=
  isDigitCode code || code == minusCode || code == pointCode

theorem isNumberCode_digit {code : UInt8} (digit : isDigitCode code = true) :
    isNumberCode code = true := by
  rw [isNumberCode, digit]
  rfl

theorem isLetterCode_number {code : UInt8} (number : isNumberCode code = true) :
    isLetterCode code = false := by
  simp only [isNumberCode, Bool.or_eq_true, beq_iff_eq] at number
  rcases number with (digit | minus) | point
  · simp only [isDigitCode, Bool.and_eq_true, decide_eq_true_eq] at digit
    simp [isLetterCode]
    omega
  · rw [minus]
    rfl
  · rw [point]
    rfl

/-- A text of the codes of numbers only. -/
def AllNumber (text : Text) : Prop := ∀ code ∈ text, isNumberCode code = true

theorem AllDigits.allNumber {text : Text} (all : AllDigits text) : AllNumber text :=
  fun code member => isNumberCode_digit (all code member)

theorem AllNumber.append {front back : Text} (first : AllNumber front)
    (second : AllNumber back) : AllNumber (front ++ back) := by
  intro code member
  rcases List.mem_append.mp member with member | member
  · exact first code member
  · exact second code member

theorem AllNumber.cons {code : UInt8} {text : Text} (number : isNumberCode code = true)
    (all : AllNumber text) : AllNumber (code :: text) :=
  List.forall_mem_cons.mpr ⟨number, all⟩

theorem allNumber_intText (value : Int) : AllNumber (intText value) := by
  cases value with
  | ofNat n => exact (allDigits_natText n).allNumber
  | negSucc n => exact .cons rfl (allDigits_natText (n + 1)).allNumber

theorem allNumber_millionthsText (n : Nat) : AllNumber (millionthsText n) :=
  (allDigits_natText _).allNumber.append (.cons rfl (allDigits_fixedDigits 6 _).allNumber)

theorem allNumber_floatText (millionths : Int) :
    AllNumber (floatText (.finite (millionths / 1000000))) := by
  rw [floatText_millionths]
  split
  · exact .cons rfl (allNumber_millionthsText _)
  · exact allNumber_millionthsText _

theorem scanMagnitude_millionthsText (n : Nat) :
    scanMagnitude (millionthsText n) = some (.finite ((n : ℚ) / 1000000), []) := by
  have all := allNumber_millionthsText n
  have noWord : ∀ letter, isLetter letter ((millionthsText n).headD 0) = false := by
    intro letter
    cases text : millionthsText n with
    | nil => rfl
    | cons code rest =>
        rw [text] at all
        rw [isLetter, List.headD_cons, isLetterCode_number (all code (.head _))]
        rfl
  have noHex : startsHex (millionthsText n) = false := by
    generalize millionthsText n = text at all
    cases text with
    | nil => rfl
    | cons zero rest =>
        cases rest with
        | nil => rfl
        | cons mark rest =>
            rw [startsHex, isLetter, isLetterCode_number (all mark (.tail _ (.head _))),
              Bool.false_and, Bool.and_false]
  simp only [scanMagnitude, noWord, noHex, scanNumber_millionthsText, Bool.false_eq_true,
    if_false, Option.map_some]

theorem scanDouble_floatText (millionths : Int) :
    scanDouble (floatText (.finite (millionths / 1000000))) =
      some (.finite (millionths / 1000000), []) := by
  rw [floatText_millionths]
  split
  next negative =>
    have notSpace : isSpaceCode minusCode = false := by decide
    have value : -((millionths.natAbs : ℚ) / 1000000) = millionths / 1000000 := by
      rw [Nat.cast_natAbs, abs_of_neg negative, Int.cast_neg, neg_div, neg_neg]
    simp only [scanDouble, List.dropWhile_cons, notSpace, scanSign, if_true,
      scanMagnitude_millionthsText, Option.map_some, FloatValue.negate, value,
      Bool.false_eq_true, if_false]
  next nonneg =>
    have starts : StartsWithDigit (millionthsText millionths.natAbs) :=
      startsWithDigit_natText _ _
    have value : (millionths.natAbs : ℚ) / 1000000 = millionths / 1000000 := by
      rw [Nat.cast_natAbs, abs_of_nonneg (Int.not_lt.mp nonneg)]
    simp only [scanDouble, dropWhile_isSpaceCode_digit starts, scanSign_digit starts,
      scanMagnitude_millionthsText, Option.map_some, value, Bool.false_eq_true, if_false]

/-! ## Round trip -/

/-- Values that go with a format, each finite one a number of millionths. -/
inductive Fits : List Directive → List Conversion → Prop
  | nil : Fits [] []
  | literal {format values} (code : UInt8) (fits : Fits format values) :
      Fits (.literal code :: format) values
  | int {format values} (value : Int) (fits : Fits format values) :
      Fits (.int :: format) (.int value :: values)
  | double {format values} (millionths : Int) (fits : Fits format values) :
      Fits (.double :: format) (.double (.finite (millionths / 1000000)) :: values)

/-- Whether a format goes on with a literal that is in no item. -/
def endsItem : List Directive → Bool
  | .literal code :: _ => !isItemCode code
  | _ => false

/-- A format in which a literal that is in no item stands behind every conversion. -/
def delimited : List Directive → Bool
  | [] => true
  | .literal _ :: format => delimited format
  | .int :: format => endsItem format && delimited format
  | .double :: format => endsItem format && delimited format

theorem exists_literal_of_endsItem {format : List Directive} (ends : endsItem format = true) :
    ∃ code rest, format = .literal code :: rest ∧ isItemCode code = false := by
  cases format with
  | nil => cases ends
  | cons directive rest =>
      cases directive with
      | literal code => exact ⟨code, rest, rfl, (Bool.not_eq_true' _).mp ends⟩
      | int => cases ends
      | double => cases ends

/-- What was written with a format is read back with it, whatever follows. -/
theorem scanText_formatText {format : List Directive} {values : List Conversion}
    (fits : Fits format values) (closed : delimited format = true) (rest : Text) :
    scanText format (formatText format values ++ rest) = values := by
  induction fits with
  | nil => rfl
  | literal code fits ih =>
      rw [formatText, List.cons_append, scanText, if_pos rfl]
      exact ih closed
  | int value fits ih =>
      rw [delimited, Bool.and_eq_true] at closed
      rcases closed with ⟨endsHere, closed⟩
      rcases exists_literal_of_endsItem endsHere with ⟨code, format, same, outside⟩
      subst same
      have ends := endsAt_scanInt outside (intText value)
      simp only [formatText, List.append_assoc, List.cons_append, scanText, ends,
        scanInt_intText, Option.map_some, List.nil_append, if_true] at ih ⊢
      rw [ih closed]
  | double millionths fits ih =>
      rw [delimited, Bool.and_eq_true] at closed
      rcases closed with ⟨endsHere, closed⟩
      rcases exists_literal_of_endsItem endsHere with ⟨code, format, same, outside⟩
      subst same
      have ends := endsAt_scanDouble outside (floatText (.finite (millionths / 1000000)))
      simp only [formatText, List.append_assoc, List.cons_append, scanText, ends,
        scanDouble_floatText, Option.map_some, List.nil_append, if_true] at ih ⊢
      rw [ih closed]

/-- The text of a format that goes on behind the last value. -/
theorem formatText_append {format : List Directive} {values : List Conversion}
    (fits : Fits format values) (more : List Directive) :
    formatText (format ++ more) values = formatText format values ++ formatText more [] := by
  induction fits with
  | nil => rfl
  | literal code fits ih => rw [List.cons_append, formatText, formatText, ih, List.cons_append]
  | int value fits ih => rw [List.cons_append, formatText, formatText, ih, List.append_assoc]
  | double millionths fits ih =>
      rw [List.cons_append, formatText, formatText, ih, List.append_assoc]

theorem Fits.append {format more : List Directive} {values rest : List Conversion}
    (fits : Fits format values) (others : Fits more rest) :
    Fits (format ++ more) (values ++ rest) := by
  induction fits with
  | nil => exact others
  | literal code fits ih => exact .literal code ih
  | int value fits ih => exact .int value ih
  | double millionths fits ih => exact .double millionths ih

/-! ## Codes and length -/

/-- A code of a written text is that of a number or one of the format's literals. -/
theorem isNumberCode_or_literal {format : List Directive} {values : List Conversion}
    (fits : Fits format values) {code : UInt8} (member : code ∈ formatText format values) :
    isNumberCode code = true ∨ .literal code ∈ format := by
  induction fits with
  | nil => cases member
  | literal literal fits ih =>
      rcases List.mem_cons.mp member with same | member
      · rw [same]
        exact .inr (.head _)
      · exact (ih member).imp_right (.tail _)
  | int value fits ih =>
      rcases List.mem_append.mp member with number | member
      · exact .inl (allNumber_intText value code number)
      · exact (ih member).imp_right (.tail _)
  | double millionths fits ih =>
      rcases List.mem_append.mp member with number | member
      · exact .inl (allNumber_floatText millionths code number)
      · exact (ih member).imp_right (.tail _)

/-- The text of a value. -/
def Conversion.text : Conversion → Text
  | .int value => intText value
  | .double value => floatText value

/-- A written text is no longer than its format times the width of its values. -/
theorem length_formatText_le {format : List Directive} {values : List Conversion} {width : Nat}
    (fits : Fits format values) (positive : 0 < width)
    (narrow : ∀ value ∈ values, value.text.length ≤ width) :
    (formatText format values).length ≤ format.length * width := by
  induction fits with
  | nil => exact Nat.zero_le _
  | literal code fits ih =>
      have rest := ih narrow
      rw [formatText, List.length_cons, List.length_cons, Nat.add_one_mul]
      omega
  | int value fits ih =>
      have rest := ih fun value member => narrow value (.tail _ member)
      have first := narrow _ (.head _)
      rw [Conversion.text] at first
      rw [formatText, List.length_append, List.length_cons, Nat.add_one_mul]
      omega
  | double millionths fits ih =>
      have rest := ih fun value member => narrow value (.tail _ member)
      have first := narrow _ (.head _)
      rw [Conversion.text] at first
      rw [formatText, List.length_append, List.length_cons, Nat.add_one_mul]
      omega

/-- The text of a whole number of `int`. -/
theorem length_intText_le {value : Int} {digits : Nat} (positive : 0 < digits)
    (small : value.natAbs < 10 ^ digits) : (intText value).length ≤ digits + 1 := by
  cases value with
  | ofNat n => exact Nat.le_succ_of_le ((length_natText_le_iff n positive).mpr small)
  | negSucc n => exact Nat.succ_le_succ ((length_natText_le_iff (n + 1) positive).mpr small)

/-- A number of millionths has a sign and six digits behind the point. -/
theorem length_floatText_le {millionths : Int} {digits : Nat} (positive : 0 < digits)
    (small : millionths.natAbs / 1000000 < 10 ^ digits) :
    (floatText (.finite (millionths / 1000000))).length ≤ digits + 8 := by
  have whole := (length_natText_le_iff _ positive).mpr small
  rw [floatText_millionths]
  split
  · rw [List.length_cons, millionthsText, List.length_append, List.length_cons,
      length_fixedDigits]
    omega
  · rw [millionthsText, List.length_append, List.length_cons, length_fixedDigits]
    omega

end DrivingControl.Library

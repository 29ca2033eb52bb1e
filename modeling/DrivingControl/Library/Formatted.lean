import DrivingControl.Library.Decimal
import Mathlib.Data.Rat.Floor

/-!
# Formatted text

What `printf` writes and `scanf` reads for a format of literal codes, `%d` and `%f`
(`%lf` when reading).  A conversion skips white space and takes the longest text that
begins an item of its kind; it fails when that text is no item yet, and then the scan
ends.  A code that stands in no item ends an item as the end of the text does, so that
what is behind it is never looked at.

Finite numbers are exact.  White space in a format is not covered.
-/

namespace DrivingControl.Library

/-- A floating point number. -/
inductive FloatValue where
  | finite (value : ℚ)
  | infinite (negative : Bool)
  | nan
  deriving DecidableEq, Repr

/-- A part of a format. -/
inductive Directive where
  | literal (code : UInt8)
  /-- `%d` -/
  | int
  /-- `%f`, or `%lf` when reading. -/
  | double
  deriving DecidableEq, Repr

/-- What a directive converts. -/
inductive Conversion where
  | int (value : Int)
  | double (value : FloatValue)
  deriving DecidableEq, Repr

def pointCode : UInt8 := 46

/-! ## Writing -/

/-- The nearest integer, of two the even one. -/
def roundHalfEven (value : ℚ) : Int :=
  let below := ⌊value⌋
  let part := value - below
  if part < 1 / 2 then below
  else if 1 / 2 < part then below + 1
  else if below % 2 = 0 then below
  else below + 1

/-- The last decimal digits of a number, with zeros in front. -/
def fixedDigits : Nat → Nat → Text
  | 0, _ => []
  | width + 1, n => fixedDigits width (n / 10) ++ [digitCode (n % 10)]

/-- The text of a number of millionths. -/
def millionthsText (millionths : Nat) : Text :=
  natText (millionths / 1000000) ++ pointCode :: fixedDigits 6 (millionths % 1000000)

/-- The text of `%f`. -/
def floatText : FloatValue → Text
  | .finite value =>
      let text := millionthsText (roundHalfEven (|value| * 1000000)).toNat
      if value < 0 then minusCode :: text else text
  | .infinite negative => if negative then ascii "-inf" else ascii "inf"
  | .nan => ascii "nan"

/-- `printf`.  A value that does not go with its directive ends the text. -/
def formatText : List Directive → List Conversion → Text
  | .literal code :: format, values => code :: formatText format values
  | .int :: format, .int value :: values => intText value ++ formatText format values
  | .double :: format, .double value :: values => floatText value ++ formatText format values
  | _, _ => []

/-! ## Reading -/

def isLetterCode (code : UInt8) : Bool :=
  (65 ≤ code.toNat && code.toNat ≤ 90) || (97 ≤ code.toNat && code.toNat ≤ 122)

/-- Whether a code is a given letter, in either case. -/
def isLetter (letter code : UInt8) : Bool :=
  isLetterCode code && code.toNat % 32 == letter.toNat % 32

def isHexCode (code : UInt8) : Bool :=
  isDigitCode code || (isLetterCode code && 1 ≤ code.toNat % 32 && code.toNat % 32 ≤ 6)

/-- The value of a decimal or hexadecimal digit. -/
def codeDigit (code : UInt8) : Nat :=
  if isDigitCode code then code.toNat - 48 else code.toNat % 32 + 9

/-- The number that digits spell. -/
def digitsValue (base : Nat) (digits : Text) : Nat :=
  Nat.ofDigits base (digits.reverse.map codeDigit)

/-- Whether a text begins with a minus, and the text behind its sign. -/
def scanSign : Text → Bool × Text
  | [] => (false, [])
  | code :: rest =>
      if code = minusCode then (true, rest)
      else if code = plusCode then (false, rest)
      else (false, code :: rest)

/-- A sign, if there is one, and at least one digit. -/
def scanSigned (text : Text) : Option (Int × Text) :=
  let signed := scanSign text
  let digits := signed.2.takeWhile isDigitCode
  if digits = [] then none
  else
    let value : Int := digitsValue 10 digits
    some (if signed.1 then -value else value, signed.2.dropWhile isDigitCode)

/-- `%d`. -/
def scanInt (text : Text) : Option (Int × Text) :=
  scanSigned (text.dropWhile isSpaceCode)

/-- The two ways to spell a finite number: its digits, and the letter and the base of its
exponent. -/
structure Spelling where
  isDigit : UInt8 → Bool
  base : Nat
  mark : UInt8
  power : ℚ

def decimalSpelling : Spelling where
  isDigit := isDigitCode
  base := 10
  mark := 101
  power := 10

def hexSpelling : Spelling where
  isDigit := isHexCode
  base := 16
  mark := 112
  power := 2

namespace Spelling

variable (spelling : Spelling)

/-- The digits behind a point, if there is one. -/
def scanFraction : Text → Text × Text
  | [] => ([], [])
  | code :: rest =>
      if code = pointCode then (rest.takeWhile spelling.isDigit, rest.dropWhile spelling.isDigit)
      else ([], code :: rest)

/-- The exponent, if there is one. -/
def scanExponent : Text → Option (Int × Text)
  | [] => some (0, [])
  | code :: rest => if isLetter spelling.mark code then scanSigned rest else some (0, code :: rest)

/-- Digits with or without a point, at least one of them, and an exponent. -/
def scanNumber (text : Text) : Option (ℚ × Text) :=
  let whole := text.takeWhile spelling.isDigit
  let fraction := spelling.scanFraction (text.dropWhile spelling.isDigit)
  if whole ++ fraction.1 = [] then none
  else (spelling.scanExponent fraction.2).map fun exponent =>
    (digitsValue spelling.base (whole ++ fraction.1) / spelling.base ^ fraction.1.length *
      spelling.power ^ exponent.1, exponent.2)

end Spelling

/-- How many letters of a word a text begins with, and the text behind them. -/
def scanWord : Text → Text → Nat × Text
  | letter :: word, code :: rest =>
      if isLetter letter code then
        let more := scanWord word rest
        (more.1 + 1, more.2)
      else (0, code :: rest)
  | _, text => (0, text)

/-- The parenthesis behind `nan`, if there is one. -/
def scanPayload : Text → Option Text
  | [] => some []
  | code :: rest =>
      if code = 40 then
        match rest.dropWhile fun code => isDigitCode code || isLetterCode code || code == 95 with
        | [] => none
        | close :: after => if close = 41 then some after else none
      else some (code :: rest)

/-- Whether a text begins with the mark of a hexadecimal number. -/
def startsHex : Text → Bool
  | zero :: mark :: _ => zero == 48 && isLetter 120 mark
  | _ => false

/-- A floating point number without its sign. -/
def scanMagnitude (text : Text) : Option (FloatValue × Text) :=
  if isLetter 105 (text.headD 0) then
    let word := scanWord (ascii "infinity") text
    if word.1 = 3 ∨ word.1 = 8 then some (.infinite false, word.2) else none
  else if isLetter 110 (text.headD 0) then
    let word := scanWord (ascii "nan") text
    if word.1 = 3 then (scanPayload word.2).map (.nan, ·) else none
  else if startsHex text then
    (hexSpelling.scanNumber (text.drop 2)).map fun number => (.finite number.1, number.2)
  else
    (decimalSpelling.scanNumber text).map fun number => (.finite number.1, number.2)

def FloatValue.negate : FloatValue → FloatValue
  | .finite value => .finite (-value)
  | .infinite negative => .infinite (!negative)
  | .nan => .nan

/-- `%lf`. -/
def scanDouble (text : Text) : Option (FloatValue × Text) :=
  let signed := scanSign (text.dropWhile isSpaceCode)
  (scanMagnitude signed.2).map fun number =>
    (if signed.1 then number.1.negate else number.1, number.2)

/-- `scanf`: the values converted before the text first fails the format. -/
def scanText : List Directive → Text → List Conversion
  | [], _ => []
  | .literal _ :: _, [] => []
  | .literal code :: format, found :: rest => if found = code then scanText format rest else []
  | .int :: format, text =>
      match scanInt text with
      | none => []
      | some (value, rest) => .int value :: scanText format rest
  | .double :: format, text =>
      match scanDouble text with
      | none => []
      | some (value, rest) => .double value :: scanText format rest

/-! ## The end of an item -/

/-- A code that may stand in an item. -/
def isItemCode (code : UInt8) : Bool :=
  isSpaceCode code || isDigitCode code || isLetterCode code ||
    [95, 40, 41, plusCode, minusCode, pointCode].contains code

/-- A scan takes a code for the end of the text. -/
def EndsAt {α : Type} (stop : UInt8) (scan : Text → Option (α × Text)) : Prop :=
  ∀ before after, scan (before ++ stop :: after) =
    (scan before).map fun read => (read.1, read.2 ++ stop :: after)

/-- A code that a test accepts is not one that it refuses. -/
theorem ne_of_refused {accepts : UInt8 → Bool} {code other : UInt8}
    (accepted : accepts code = true) (refused : accepts other = false) : code ≠ other := by
  intro same
  rw [same, refused] at accepted
  exact Bool.noConfusion accepted

section Stop

variable {stop : UInt8}

theorem takeWhile_append_stop {accepts : UInt8 → Bool} (refused : accepts stop = false)
    (before after : Text) :
    (before ++ stop :: after).takeWhile accepts = before.takeWhile accepts := by
  induction before with
  | nil => simp [refused]
  | cons code before ih => simp only [List.cons_append, List.takeWhile_cons, ih]

theorem dropWhile_append_stop {accepts : UInt8 → Bool} (refused : accepts stop = false)
    (before after : Text) :
    (before ++ stop :: after).dropWhile accepts =
      before.dropWhile accepts ++ stop :: after := by
  induction before with
  | nil => simp [refused]
  | cons code before ih =>
      simp only [List.cons_append, List.dropWhile_cons, ih]
      split <;> rfl

variable (outside : isItemCode stop = false)

include outside

theorem isSpaceCode_stop : isSpaceCode stop = false := by
  simp_all [isItemCode]

theorem isDigitCode_stop : isDigitCode stop = false := by
  simp_all [isItemCode]

theorem isLetterCode_stop : isLetterCode stop = false := by
  simp_all [isItemCode]

theorem isLetter_stop (letter : UInt8) : isLetter letter stop = false := by
  rw [isLetter, isLetterCode_stop outside, Bool.false_and]

theorem isHexCode_stop : isHexCode stop = false := by
  rw [isHexCode, isDigitCode_stop outside, isLetterCode_stop outside]
  rfl

theorem stop_not_mark :
    stop ≠ plusCode ∧ stop ≠ minusCode ∧ stop ≠ pointCode ∧ stop ≠ 40 ∧ stop ≠ 41 ∧
      stop ≠ 95 := by
  simp_all [isItemCode]

theorem scanSign_append_stop (before after : Text) :
    scanSign (before ++ stop :: after) =
      ((scanSign before).1, (scanSign before).2 ++ stop :: after) := by
  rcases stop_not_mark outside with ⟨notPlus, notMinus, -⟩
  cases before with
  | nil => simp [scanSign, notPlus, notMinus]
  | cons code before =>
      simp only [List.cons_append, scanSign]
      split
      · rfl
      · split <;> rfl

theorem endsAt_scanSigned : EndsAt stop scanSigned := by
  intro before after
  have digit := isDigitCode_stop outside
  simp only [scanSigned, scanSign_append_stop outside, takeWhile_append_stop digit,
    dropWhile_append_stop digit]
  split <;> rfl

theorem endsAt_scanInt : EndsAt stop scanInt := by
  intro before after
  rw [scanInt, dropWhile_append_stop (isSpaceCode_stop outside),
    endsAt_scanSigned outside, scanInt]

namespace Spelling

variable {spelling : Spelling} (digit : spelling.isDigit stop = false)

include digit

theorem scanFraction_append_stop (before after : Text) :
    spelling.scanFraction (before ++ stop :: after) =
      ((spelling.scanFraction before).1, (spelling.scanFraction before).2 ++ stop :: after) := by
  rcases stop_not_mark outside with ⟨-, -, notPoint, -⟩
  cases before with
  | nil => simp [scanFraction, notPoint]
  | cons code before =>
      simp only [List.cons_append, scanFraction]
      split
      · rw [takeWhile_append_stop digit, dropWhile_append_stop digit]
      · rfl

omit digit in
theorem endsAt_scanExponent : EndsAt stop spelling.scanExponent := by
  intro before after
  cases before with
  | nil => simp [scanExponent, isLetter_stop outside]
  | cons code before =>
      simp only [List.cons_append, scanExponent]
      split
      · exact endsAt_scanSigned outside before after
      · rfl

theorem endsAt_scanNumber : EndsAt stop spelling.scanNumber := by
  intro before after
  simp only [scanNumber, takeWhile_append_stop digit, dropWhile_append_stop digit,
    scanFraction_append_stop outside digit, endsAt_scanExponent outside _ after]
  split
  · rfl
  · cases spelling.scanExponent
      (spelling.scanFraction (before.dropWhile spelling.isDigit)).2 with
    | none => rfl
    | some exponent => rfl

end Spelling

theorem scanWord_append_stop (word before after : Text) :
    scanWord word (before ++ stop :: after) =
      ((scanWord word before).1, (scanWord word before).2 ++ stop :: after) := by
  induction word generalizing before with
  | nil => simp [scanWord]
  | cons letter word ih =>
      cases before with
      | nil => simp [scanWord, isLetter_stop outside]
      | cons code before =>
          simp only [List.cons_append, scanWord, ih]
          split <;> rfl

theorem scanPayload_append_stop (before after : Text) :
    scanPayload (before ++ stop :: after) =
      (scanPayload before).map (· ++ stop :: after) := by
  rcases stop_not_mark outside with ⟨-, -, -, notOpen, notClose, notLine⟩
  have refused : (isDigitCode stop || isLetterCode stop || stop == 95) = false := by
    simp [isDigitCode_stop outside, isLetterCode_stop outside, notLine]
  cases before with
  | nil => simp [scanPayload, notOpen]
  | cons code before =>
      simp only [List.cons_append, scanPayload]
      split
      · rw [dropWhile_append_stop refused]
        cases before.dropWhile
            fun code => isDigitCode code || isLetterCode code || code == 95 with
        | nil => simp [notClose]
        | cons close rest =>
            simp only [List.cons_append]
            split <;> rfl
      · rfl

theorem startsHex_append_stop (before after : Text) :
    startsHex (before ++ stop :: after) = startsHex before := by
  match before with
  | [] =>
      cases after with
      | nil => rfl
      | cons mark after =>
          have notZero : stop ≠ 48 := (ne_of_refused rfl (isDigitCode_stop outside)).symm
          simp [startsHex, notZero]
  | [zero] => simp [startsHex, isLetter_stop outside]
  | zero :: mark :: before => rfl

omit outside in
theorem drop_append_of_startsHex {before : Text} (hex : startsHex before = true)
    (after : Text) : (before ++ after).drop 2 = before.drop 2 ++ after := by
  match before with
  | [] => cases hex
  | [zero] => cases hex
  | zero :: mark :: before => rfl

theorem headD_append_stop (letter : UInt8) (before after : Text) :
    isLetter letter ((before ++ stop :: after).headD 0) =
      isLetter letter (before.headD 0) := by
  cases before with
  | nil =>
      have zero : isLetterCode 0 = false := by decide
      simp [isLetter, isLetterCode_stop outside, zero]
  | cons code before => rfl

theorem endsAt_scanMagnitude : EndsAt stop scanMagnitude := by
  intro before after
  have decimal := @Spelling.endsAt_scanNumber stop outside decimalSpelling
    (isDigitCode_stop outside)
  have hex := @Spelling.endsAt_scanNumber stop outside hexSpelling (isHexCode_stop outside)
  simp only [scanMagnitude, headD_append_stop outside, scanWord_append_stop outside,
    scanPayload_append_stop outside, startsHex_append_stop outside]
  split
  · split <;> rfl
  · split
    · split
      · rw [Option.map_map, Option.map_map]
        rfl
      · rfl
    · split
      next starts =>
        rw [drop_append_of_startsHex starts, hex, Option.map_map, Option.map_map]
        rfl
      next =>
        rw [decimal, Option.map_map, Option.map_map]
        rfl

theorem endsAt_scanDouble : EndsAt stop scanDouble := by
  intro before after
  simp only [scanDouble, dropWhile_append_stop (isSpaceCode_stop outside),
    scanSign_append_stop outside, endsAt_scanMagnitude outside _ after]
  rw [Option.map_map, Option.map_map]
  rfl

end Stop

/-- A scan never looks behind a code that its format ends with and that is in none of its
items. -/
theorem scanText_append_stop {stop : UInt8} (outside : isItemCode stop = false)
    {format : List Directive} (once : .literal stop ∉ format) (before after : Text) :
    scanText (format ++ [.literal stop]) (before ++ stop :: after) =
      scanText format before := by
  induction format generalizing before with
  | nil =>
      cases before with
      | nil => simp [scanText]
      | cons found before => simp [scanText]
  | cons directive format ih =>
      have later : .literal stop ∉ format := fun member => once (.tail _ member)
      cases directive with
      | literal code =>
          cases before with
          | nil =>
              have different : stop ≠ code := by
                intro same
                subst same
                exact once (.head _)
              simp [scanText, different]
          | cons found before =>
              simp only [List.cons_append, scanText]
              split
              · exact ih later before
              · rfl
      | int =>
          simp only [List.cons_append, scanText, endsAt_scanInt outside before after]
          cases scanInt before with
          | none => rfl
          | some read => simp only [Option.map_some, ih later]
      | double =>
          simp only [List.cons_append, scanText, endsAt_scanDouble outside before after]
          cases scanDouble before with
          | none => rfl
          | some read => simp only [Option.map_some, ih later]

end DrivingControl.Library

import DrivingControl.Comm.SetPath
import DrivingControl.Controler.PlannerMoves
import DrivingControl.Library.RoundTrip

/-!
# The text of the path file

An installed path is written to the path file, one record in braces to a line, and read
back from there.  The reader copies what stands between braces into a buffer that it never
clears, behind a line buffer that it never clears either, and converts the record from
there.  It moves two pointers: `ph` to the opening and `pt` to the closing brace, and behind
a record both move on by one only, so that the brace that closes the next record is looked
for no nearer to its opening brace.

Both an installed and a loaded path are printed with the names of its run modes and
actions.  A look-up outside their tables is not defined.
-/

namespace DrivingControl.Controler

open DrivingControl.Comm DrivingControl.Library

/-! ## Names -/

def runModeString : List String :=
  ["Stop", "Forward", "Backward", "Save1", "Save2", "TurnLeft", "TurnRight", "Save3", "Save4",
    "Save5", "Save6", "Save7", "Save8"]

def actionString : List String :=
  ["Run", "Stop", "SpeedDown", "ResumeSpeed", "LiftUpDown", "Charge"]

/-- A look-up in a table; `none` is outside it. -/
def nameAt (table : List String) (index : Int) : Option String :=
  if 0 ≤ index then table[index.toNat]? else none

/-- The names that are printed for a way point. -/
def pointNames (runMode action : Int) : Option (String × String) := do
  let mode ← nameAt runModeString runMode
  let action ← nameAt actionString action
  some (mode, action)

/-- The indices are in the tables. -/
structure InTables (runMode action : Int) : Prop where
  runMode_nonneg : 0 ≤ runMode
  runMode_lt : runMode < 13
  action_nonneg : 0 ≤ action
  action_lt : action < 6

theorem isSome_nameAt (table : List String) (index : Int) :
    (nameAt table index).isSome = true ↔ 0 ≤ index ∧ index < table.length := by
  rw [nameAt]
  split
  · simp only [isSome_getElem?]
    omega
  · simp only [Option.isSome_none, Bool.false_eq_true, false_iff]
    omega

theorem isSome_pointNames (runMode action : Int) :
    (pointNames runMode action).isSome = true ↔ InTables runMode action := by
  have both : (pointNames runMode action).isSome =
      ((nameAt runModeString runMode).isSome && (nameAt actionString action).isSome) := by
    rw [pointNames]
    cases nameAt runModeString runMode with
    | none => rfl
    | some mode =>
        cases nameAt actionString action with
        | none => rfl
        | some name => rfl
  rw [both, Bool.and_eq_true, isSome_nameAt, isSome_nameAt]
  constructor
  · intro inside
    exact ⟨inside.1.1, inside.1.2, inside.2.1, inside.2.2⟩
  · intro inside
    exact ⟨⟨inside.runMode_nonneg, inside.runMode_lt⟩, inside.action_nonneg, inside.action_lt⟩

/-! ## Records -/

def openBrace : UInt8 := 123
def closeBrace : UInt8 := 125
def commaCode : UInt8 := 44
def newlineCode : UInt8 := 10
def hashCode : UInt8 := 35

/-- What a line of the path file holds of a way point. -/
structure PathRecord where
  id : Int
  cardId : Int
  xPos : Int
  yPos : Int
  angle : FloatValue
  runMode : Int
  action : Int
  liftHeight : Int
  deriving DecidableEq, Repr

namespace PathRecord

/-- The arguments of `sprintf` and `sscanf`. -/
def values (record : PathRecord) : List Conversion :=
  [.int record.id, .int record.cardId, .int record.xPos, .int record.yPos,
    .double record.angle, .int record.runMode, .int record.action, .int record.liftHeight]

def ofWayPoint (point : WayPoint) : PathRecord where
  id := point.id
  cardId := point.cardId
  xPos := point.xPos
  yPos := point.yPos
  angle := .finite (point.angle / 100)
  runMode := point.runMode
  action := point.action
  liftHeight := point.liftHeight

end PathRecord

/-- `%d,%d,%d,%d,%f,%d,%d,%d`. -/
def fieldFormat : List Directive :=
  [.int, .literal commaCode, .int, .literal commaCode, .int, .literal commaCode, .int,
    .literal commaCode, .double, .literal commaCode, .int, .literal commaCode, .int,
    .literal commaCode, .int]

/-- The fields in braces. -/
def pathFormat : List Directive :=
  .literal openBrace :: fieldFormat ++ [.literal closeBrace]

/-- The line that `savePathInfo` writes for a way point. -/
def pathLine (point : WayPoint) : Text :=
  formatText (pathFormat ++ [.literal newlineCode]) (PathRecord.ofWayPoint point).values

/-- The text of the path file. -/
def pathText (points : List WayPoint) : Text := points.flatMap pathLine

/-! ## Reading -/

/-- `fgets` with room for a number of codes: the line, and the text behind it. -/
def fgets : Nat → Text → Text × Text
  | 0, text => ([], text)
  | _, [] => ([], [])
  | room + 1, code :: rest =>
      if code = newlineCode then ([code], rest)
      else
        let read := fgets room rest
        (code :: read.1, read.2)

theorem fgets_append (room : Nat) (text : Text) :
    (fgets room text).1 ++ (fgets room text).2 = text := by
  induction room generalizing text with
  | zero => rfl
  | succ room ih =>
      cases text with
      | nil => rfl
      | cons code rest =>
          rw [fgets]
          split
          · rfl
          · exact congrArg (code :: ·) (ih rest)

theorem length_fgets_lt (room : Nat) (code : UInt8) (rest : Text) :
    (fgets (room + 1) (code :: rest)).2.length < (code :: rest).length := by
  rw [fgets]
  split
  · exact Nat.lt_succ_self _
  · have whole := congrArg List.length (fgets_append room rest)
    rw [List.length_append] at whole
    dsimp only
    rw [List.length_cons]
    omega

/-- The lines that successive calls of `fgets` read into `linebuf`. -/
def fileLines : Text → List Text
  | [] => []
  | code :: rest =>
      let read := fgets 254 (code :: rest)
      read.1 :: fileLines read.2
  termination_by text => text.length
  decreasing_by exact length_fgets_lt 253 code rest

/-- A C string in a buffer. -/
def cString (buf : Text) : Text := buf.takeWhile (· != 0)

/-- `strncpy`. -/
def strncpy (buf source : Text) (count : Nat) : Text :=
  let copied := cString (source.take count)
  copied ++ List.replicate (count - copied.length) 0 ++ buf.drop count

section Reading

-- What `%d` stores for the text of a number that no `int` holds.
variable (overflow : Int → Int)

/-- What `%d` stores. -/
def storedInt (value : Int) : Int :=
  if -2147483648 ≤ value ∧ value ≤ 2147483647 then value else overflow value

/-- A record, if all of its eight values were converted. -/
def PathRecord.ofValues? : List Conversion → Option PathRecord
  | [.int id, .int cardId, .int xPos, .int yPos, .double angle, .int runMode, .int action,
      .int liftHeight] =>
    some {
      id := storedInt overflow id
      cardId := storedInt overflow cardId
      xPos := storedInt overflow xPos
      yPos := storedInt overflow yPos
      angle
      runMode := storedInt overflow runMode
      action := storedInt overflow action
      liftHeight := storedInt overflow liftHeight }
  | _ => none

/-- `sscanf` of a record. -/
def scanRecord (text : Text) : Option PathRecord :=
  PathRecord.ofValues? overflow (scanText pathFormat text)

/-- `ph` and `buf` behind a pass of the loop over a line, and the record that it read. -/
structure BracePass where
  head : Text
  buf : Text
  record : Option PathRecord

/-- The body of the loop over a line, on what stands from `ph` and from `pt` on.  `pt`
always moves on by one. -/
def bracePass (buf head tail : Text) : BracePass :=
  if head.headD 0 ≠ openBrace then { head := head.tail, buf, record := none }
  else if tail.headD 0 ≠ closeBrace then { head, buf, record := none }
  else
    let buf := strncpy buf head (head.length - tail.length + 1)
    { head := head.tail, buf, record := scanRecord overflow (cString buf) }

/-- The loop over a line from `ph` and `pt` on: `buf` behind it, and the records that were
read. -/
def readBraces (buf head : Text) : Text → Text × List PathRecord
  | [] => (buf, [])
  | code :: tail =>
      let pass := bracePass overflow buf head (code :: tail)
      if pass.head.headD 0 = 0 ∨ tail.headD 0 = 0 then (pass.buf, pass.record.toList)
      else
        let more := readBraces pass.buf pass.head tail
        (more.1, pass.record.toList ++ more.2)

/-- The buffers of `loadPathInfo` and the records read so far. -/
structure PathReader where
  buf : Text := List.replicate 256 0
  linebuf : Text := List.replicate 256 0
  records : List PathRecord := []

/-- A line is put over what `linebuf` held and, unless it is a comment, searched. -/
def PathReader.readLine (reader : PathReader) (line : Text) : PathReader :=
  let linebuf := line ++ 0 :: reader.linebuf.drop (line.length + 1)
  if linebuf.headD 0 = hashCode then { reader with linebuf }
  else
    let read := readBraces overflow reader.buf linebuf linebuf
    { buf := read.1, linebuf, records := reader.records ++ read.2 }

/-- The records that `loadPathInfo` reads from a file. -/
def readRecords (text : Text) : List PathRecord :=
  ((fileLines text).foldl (PathReader.readLine overflow) {}).records

/-! ## What a line spells -/

/-- How far behind the beginning of a text its first closing brace stands, from a width
on. -/
def closing (width : Nat) (text : Text) : Option Nat :=
  ((text.drop width).idxOf? closeBrace).map (· + width)

/-- The records of a line.  Each opening brace begins one, as long as there is a closing
brace behind it no nearer than the one of the record before. -/
def spelled (width : Nat) : Text → List PathRecord
  | [] => []
  | code :: rest =>
      if code = openBrace then
        match closing width (code :: rest) with
        | none => []
        | some width => (scanRecord overflow (code :: rest)).toList ++ spelled width rest
      else spelled width rest

/-- The line that is searched: it ends at a zero that is not its first code. -/
def shownLine : Text → Text
  | [] => []
  | code :: rest => code :: cString rest

/-- The records of a line that is no comment. -/
def lineRecords (line : Text) : List PathRecord :=
  if line.headD 0 = hashCode then [] else spelled overflow 0 (shownLine line)

/-- The records that a text spells. -/
def spelledRecords (text : Text) : List PathRecord :=
  (fileLines text).flatMap (lineRecords overflow)

/-! ## What is read is what is spelled -/

variable {overflow}

theorem closing_of_le {width : Nat} {text : Text} (short : text.length ≤ width) :
    closing width text = none := by
  rw [closing, List.drop_eq_nil_of_le short]
  rfl

section Pointer

variable {width : Nat} {text : Text} (within : width < text.length)

theorem closing_of_close (close : text[width] = closeBrace) :
    closing width text = some width := by
  rw [closing, List.drop_eq_getElem_cons within, close]
  simp [List.idxOf?_cons]

theorem closing_of_other (other : text[width] ≠ closeBrace) :
    closing width text = closing (width + 1) text := by
  have shifted : (fun index => index + width) ∘ (fun index => index + 1) =
      fun index => index + (width + 1) := by
    funext index
    exact (Nat.add_right_comm index 1 width).trans (Nat.add_assoc index width 1)
  rw [closing, closing, List.drop_eq_getElem_cons within, List.idxOf?_cons,
    if_neg (by simpa using other), Option.map_map, shifted]

end Pointer

/-- Behind the end of the line no record begins. -/
theorem spelled_of_le {width : Nat} {text : Text} (short : text.length ≤ width) :
    spelled overflow width text = [] := by
  induction text with
  | nil => rfl
  | cons code rest ih =>
      rw [spelled]
      split
      · rw [closing_of_le short]
      · exact ih (Nat.le_of_succ_le short)

theorem cString_of_nonzero {text : Text} (nonzero : ∀ code ∈ text, code ≠ 0) :
    cString text = text := by
  apply List.takeWhile_eq_self_iff.mpr
  intro code member
  simpa using nonzero code member

theorem cString_append {text : Text} (nonzero : ∀ code ∈ text, code ≠ 0) (rest : Text) :
    cString (text ++ rest) = text ++ cString rest := by
  apply List.takeWhile_append_of_pos
  intro code member
  simpa using nonzero code member

/-- What is behind a closing brace is never converted. -/
theorem scanRecord_append (front back : Text) :
    scanRecord overflow (front ++ closeBrace :: back) =
      PathRecord.ofValues? overflow (scanText (.literal openBrace :: fieldFormat) front) := by
  have once : Directive.literal closeBrace ∉ .literal openBrace :: fieldFormat := by decide
  have outside : isItemCode closeBrace = false := by decide
  rw [scanRecord, pathFormat, scanText_append_stop outside once]

/-- The copy of a record has a closing brace, so what the buffer held before is never
converted. -/
theorem scanRecord_strncpy {text : Text} (buf stale : Text) (nonzero : ∀ code ∈ text, code ≠ 0)
    {width : Nat} (within : width < text.length) (close : text[width] = closeBrace) :
    scanRecord overflow (cString (strncpy buf (text ++ stale) (width + 1))) =
      scanRecord overflow text := by
  have front : (text ++ stale).take (width + 1) = text.take width ++ [closeBrace] := by
    rw [List.take_append_of_le_length within, ← close, List.take_append_getElem within]
  have frontNonzero : ∀ code ∈ text.take width ++ [closeBrace], code ≠ 0 := by
    rw [← close, List.take_append_getElem within]
    exact fun code member => nonzero code (List.mem_of_mem_take member)
  have whole : text = text.take width ++ closeBrace :: text.drop (width + 1) := by
    rw [← close, ← List.drop_eq_getElem_cons within, List.take_append_drop]
  have copy : cString (strncpy buf (text ++ stale) (width + 1)) =
      text.take width ++ closeBrace :: cString (buf.drop (width + 1)) := by
    have short : (text.take width ++ [closeBrace]).length = width + 1 := by
      rw [List.length_append, List.length_take_of_le (Nat.le_of_lt within)]
      rfl
    rw [strncpy, front, cString_of_nonzero frontNonzero, short, Nat.sub_self,
      List.replicate_zero, List.append_nil, cString_append frontNonzero, List.append_assoc]
    rfl
  rw [copy, scanRecord_append]
  conv_rhs => rw [whole, scanRecord_append]

/-- The code at an index of a line in its buffer. -/
theorem drop_linebuf {text : Text} (stale : Text) {width : Nat} (within : width < text.length) :
    (text ++ 0 :: stale).drop width =
      text[width] :: (text ++ 0 :: stale).drop (width + 1) := by
  rw [List.drop_eq_getElem_cons (by rw [List.length_append]; omega),
    List.getElem_append_left within]

/-- The test of the loop ends it exactly when `pt` is at the end of the line. -/
theorem readOn_eq {line stale : Text} {width : Nat} (nonzero : ∀ code ∈ line, code ≠ 0)
    (atMost : width ≤ line.length) (buf : Text) (records : List PathRecord)
    (read : width < line.length →
      (readBraces overflow buf (line ++ 0 :: stale) ((line ++ 0 :: stale).drop width)).2 =
        spelled overflow width line) :
    (if (line ++ 0 :: stale).headD 0 = 0 ∨ ((line ++ 0 :: stale).drop width).headD 0 = 0 then
      (buf, records)
    else
      ((readBraces overflow buf (line ++ 0 :: stale) ((line ++ 0 :: stale).drop width)).1,
        records ++
          (readBraces overflow buf (line ++ 0 :: stale)
            ((line ++ 0 :: stale).drop width)).2)).2 =
      records ++ spelled overflow width line := by
  rcases Nat.lt_or_eq_of_le atMost with within | atEnd
  · have head : (line ++ 0 :: stale).headD 0 ≠ 0 := by
      cases line with
      | nil => cases within
      | cons code rest => exact nonzero code (.head _)
    have tail : ((line ++ 0 :: stale).drop width).headD 0 ≠ 0 := by
      rw [drop_linebuf stale within]
      exact nonzero _ (List.getElem_mem within)
    rw [if_neg (not_or.mpr ⟨head, tail⟩), read within]
  · have tail : ((line ++ 0 :: stale).drop width).headD 0 = 0 := by
      rw [atEnd, List.drop_left]
      rfl
    rw [if_pos (.inr tail), spelled_of_le (Nat.le_of_eq atEnd.symm), List.append_nil]

theorem bracePass_other {code : UInt8} (other : code ≠ openBrace) (buf rest tail : Text) :
    bracePass overflow buf (code :: rest) tail = { head := rest, buf, record := none } := by
  rw [bracePass, List.headD_cons, if_pos other, List.tail_cons]

theorem bracePass_open {found : UInt8} (other : found ≠ closeBrace) (buf rest tail : Text) :
    bracePass overflow buf (openBrace :: rest) (found :: tail) =
      { head := openBrace :: rest, buf, record := none } := by
  rw [bracePass, List.headD_cons, List.headD_cons, if_neg (not_not.mpr rfl), if_pos other]

theorem bracePass_close (buf rest tail : Text) :
    bracePass overflow buf (openBrace :: rest) (closeBrace :: tail) =
      let buf := strncpy buf (openBrace :: rest)
        ((openBrace :: rest).length - (closeBrace :: tail).length + 1)
      { head := rest, buf, record := scanRecord overflow (cString buf) } := by
  rw [bracePass, List.headD_cons, List.headD_cons, if_neg (not_not.mpr rfl),
    if_neg (not_not.mpr rfl), List.tail_cons]

/-- From pointers on, the loop reads the records that the rest of the line spells. -/
theorem readBraces_eq {line : Text} (stale : Text) (nonzero : ∀ code ∈ line, code ≠ 0)
    {width : Nat} (within : width < line.length) (buf : Text) :
    (readBraces overflow buf (line ++ 0 :: stale) ((line ++ 0 :: stale).drop width)).2 =
      spelled overflow width line := by
  induction left : line.length - width generalizing line width buf with
  | zero => omega
  | succ left ih =>
      rw [drop_linebuf stale within, readBraces]
      cases line with
      | nil => cases within
      | cons code rest =>
          have restNonzero : ∀ code ∈ rest, code ≠ 0 :=
            fun code member => nonzero code (.tail _ member)
          have atMost : width ≤ rest.length := Nat.le_of_lt_succ within
          have shorter : (code :: rest).length - width = rest.length - width + 1 :=
            Nat.succ_sub atMost
          have shifted : ((code :: rest) ++ 0 :: stale).drop (width + 1) =
              (rest ++ 0 :: stale).drop width := rfl
          by_cases opens : code = openBrace
          · subst opens
            by_cases closes : (openBrace :: rest)[width] = closeBrace
            · -- A record ends at `pt`, and both pointers move on.
              have copied := @scanRecord_strncpy overflow _ buf (0 :: stale) nonzero _ within closes
              have count : ((openBrace :: rest) ++ 0 :: stale).length -
                  (closeBrace :: ((openBrace :: rest) ++ 0 :: stale).drop (width + 1)).length + 1 =
                    width + 1 := by
                simp only [List.length_append, List.length_cons, List.length_drop]
                omega
              rw [closes, List.cons_append, bracePass_close, ← List.cons_append, count, spelled,
                if_pos rfl, closing_of_close within closes]
              dsimp only
              rw [copied, shifted]
              exact readOn_eq restNonzero atMost _ _ fun within =>
                ih restNonzero within _ (by omega)
            · -- `pt` moves on, which makes the record wider.
              have wider : spelled overflow width (openBrace :: rest) =
                  spelled overflow (width + 1) (openBrace :: rest) := by
                rw [spelled, if_pos rfl, closing_of_other within closes, spelled, if_pos rfl]
              rw [List.cons_append, bracePass_open closes, ← List.cons_append, wider]
              exact readOn_eq nonzero within _ [] fun within => ih nonzero within _ (by omega)
          · -- `ph` looks for an opening brace, and `pt` keeps its distance.
            rw [List.cons_append, bracePass_other opens, ← List.cons_append, shifted, spelled,
              if_neg opens]
            exact readOn_eq restNonzero atMost _ [] fun within =>
              ih restNonzero within _ (by omega)

theorem nonzero_cString (buf : Text) : ∀ code ∈ cString buf, code ≠ 0 := by
  intro code member
  simpa using List.mem_takeWhile_imp member

/-- A buffer is a string, a zero and what is behind it. -/
theorem exists_behind_cString (text stale : Text) :
    ∃ behind, text ++ 0 :: stale = cString text ++ 0 :: behind := by
  induction text with
  | nil => exact ⟨stale, rfl⟩
  | cons code rest ih =>
      by_cases zero : code = 0
      · subst zero
        exact ⟨rest ++ 0 :: stale, rfl⟩
      · rcases ih with ⟨behind, same⟩
        refine ⟨behind, ?_⟩
        rw [cString, List.takeWhile_cons_of_pos (by simpa using zero), List.cons_append, same]
        rfl

/-- A first code of zero is passed by, as the loop tests behind its body only. -/
theorem readBraces_line (code : UInt8) (rest stale buf : Text) :
    (readBraces overflow buf (code :: rest ++ 0 :: stale) (code :: rest ++ 0 :: stale)).2 =
      spelled overflow 0 (shownLine (code :: rest)) := by
  have nonzero := nonzero_cString rest
  rcases exists_behind_cString rest stale with ⟨behind, same⟩
  rw [List.cons_append, same, shownLine]
  by_cases zero : code = 0
  · subst zero
    have other : (0 : UInt8) ≠ openBrace := by decide
    rw [readBraces, bracePass_other other, spelled, if_neg other]
    exact readOn_eq nonzero (Nat.zero_le _) _ [] fun within =>
      readBraces_eq behind nonzero within buf
  · exact readBraces_eq behind (List.forall_mem_cons.mpr ⟨zero, nonzero⟩)
      (Nat.succ_pos _) buf

theorem records_readLine (reader : PathReader) {line : Text} (present : line ≠ []) :
    (reader.readLine overflow line).records = reader.records ++ lineRecords overflow line := by
  cases line with
  | nil => exact absurd rfl present
  | cons code rest =>
      have head : ((code :: rest) ++ 0 :: reader.linebuf.drop ((code :: rest).length + 1)).headD 0 =
          (code :: rest).headD 0 := rfl
      rw [PathReader.readLine, lineRecords]
      dsimp only
      by_cases comment : (code :: rest).headD 0 = hashCode
      · rw [if_pos (head.trans comment), if_pos comment, List.append_nil]
      · rw [if_neg (fun same => comment (head.symm.trans same)), if_neg comment]
        exact congrArg (reader.records ++ ·) (readBraces_line code rest _ reader.buf)

theorem fileLines_ne_nil (text : Text) : ∀ line ∈ fileLines text, line ≠ [] := by
  induction text using fileLines.induct with
  | case1 =>
      rw [fileLines]
      exact fun _ member => absurd member List.not_mem_nil
  | case2 code rest read ih =>
      intro line member
      rw [fileLines] at member
      rcases List.mem_cons.mp member with same | member
      · rw [same, fgets]
        split
        · exact List.cons_ne_nil _ _
        · exact List.cons_ne_nil _ _
      · exact ih line member

/-- Whatever the file holds, the records that are read are those that it spells. -/
theorem readRecords_eq (text : Text) :
    readRecords overflow text = spelledRecords overflow text := by
  have run : ∀ (lines : List Text) (reader : PathReader), (∀ line ∈ lines, line ≠ []) →
      (lines.foldl (PathReader.readLine overflow) reader).records =
        reader.records ++ lines.flatMap (lineRecords overflow) := by
    intro lines
    induction lines with
    | nil => simp
    | cons line lines ih =>
        intro reader present
        rcases List.forall_mem_cons.mp present with ⟨first, rest⟩
        rw [List.foldl_cons, ih _ rest, records_readLine reader first, List.append_assoc,
          List.flatMap_cons]
  exact run _ _ (fileLines_ne_nil text)

end Reading

/-! ## Look-ups -/

/-- The names that `OnGetNewPath` prints for a list of stations. -/
def newPathNames (list : List StationInfo) : Option (List (String × String)) :=
  (list.map WayPoint.ofStation).mapM fun point => pointNames point.runMode point.action

/-- The names that `loadPathInfo` prints for the records of a file. -/
def loadedNames (overflow : Int → Int) (text : Text) : Option (List (String × String)) :=
  (readRecords overflow text).mapM fun record => pointNames record.runMode record.action

theorem isSome_mapM_iff {α β : Type} (look : α → Option β) (list : List α) :
    (list.mapM look).isSome = true ↔ ∀ item ∈ list, (look item).isSome = true := by
  induction list with
  | nil => simp
  | cons item list ih =>
      rw [List.mapM_cons, List.forall_mem_cons, ← ih]
      cases look item with
      | none => simp
      | some found =>
          cases list.mapM look with
          | none => simp
          | some more => simp

theorem inTables_ofStation (info : StationInfo) :
    InTables (WayPoint.ofStation info).runMode (WayPoint.ofStation info).action ↔
      info.mode < 13 ∧ info.action < 6 := by
  have mode : info.mode < 13 ↔ info.mode.toNat < 13 := UInt8.lt_iff_toNat_lt
  have action : info.action < 6 ↔ info.action.toNat < 6 := UInt8.lt_iff_toNat_lt
  have fields : (WayPoint.ofStation info).runMode = info.mode.toNat ∧
      (WayPoint.ofStation info).action = info.action.toNat := ⟨rfl, rfl⟩
  rw [fields.1, fields.2, mode, action]
  constructor
  · intro inside
    exact ⟨Int.ofNat_lt.mp inside.runMode_lt, Int.ofNat_lt.mp inside.action_lt⟩
  · intro named
    exact ⟨Int.natCast_nonneg _, Int.ofNat_lt.mpr named.1, Int.natCast_nonneg _,
      Int.ofNat_lt.mpr named.2⟩

theorem isSome_newPathNames (list : List StationInfo) :
    (newPathNames list).isSome = true ↔ ∀ info ∈ list, info.mode < 13 ∧ info.action < 6 := by
  rw [newPathNames, isSome_mapM_iff, List.forall_mem_map]
  apply forall₂_congr
  intro info _
  rw [isSome_pointNames, inTables_ofStation]

/-- The look-ups are in the tables exactly when every station has one of thirteen modes and
six actions, and so has every record that the path file spells. -/
theorem names_inTables_iff (overflow : Int → Int) (frame : PathFrame) (text : Text) :
    (newPathNames frame.stations).isSome = true ∧ (loadedNames overflow text).isSome = true ↔
      (∀ info ∈ frame.stations, info.mode < 13 ∧ info.action < 6) ∧
        ∀ record ∈ spelledRecords overflow text, InTables record.runMode record.action := by
  rw [isSome_newPathNames, loadedNames, isSome_mapM_iff, readRecords_eq]
  apply and_congr_right
  intro _
  apply forall₂_congr
  intro record _
  exact isSome_pointNames record.runMode record.action

/-- A station whose action is the first behind the table, and no way points in the file. -/
theorem action_behind_table :
    ¬((newPathNames (PathFrame.stations {
        payload := [0, 1, 0, 7, 0, 0, 0, 0, 0, 0, 0, 0, 0, 0, 0, 0, 1, 6, 0xFF, 0xFF]
        fresh := fun _ => stationFields [] })).isSome = true ∧
      (loadedNames id []).isSome = true) := by
  intro names
  have first : (newPathNames (PathFrame.stations {
      payload := [0, 1, 0, 7, 0, 0, 0, 0, 0, 0, 0, 0, 0, 0, 0, 0, 1, 6, 0xFF, 0xFF]
      fresh := fun _ => stationFields [] })).isSome = false := by decide
  exact Bool.false_ne_true (first.symm.trans names.1)

end DrivingControl.Controler

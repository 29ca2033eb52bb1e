import DrivingControl.Controler.PathFile

/-!
# Reloading a path

The text of an installed path spells its way points again: each is a line of its own that
fits the line buffer, and its fields are converted back to the numbers that were written.
So the reader of the text refines the planner's own load, and since nothing but an
installation writes the file, a path is reloaded as it was installed.
-/

namespace DrivingControl.Controler

open DrivingControl.Comm DrivingControl.Library

/-! ## Lines -/

/-- A way point whose numbers `int` holds, with an angle below a thousand degrees. -/
structure WayPoint.Storable (point : WayPoint) : Prop where
  ints : ∀ value, .int value ∈ (PathRecord.ofWayPoint point).values →
    -2147483648 ≤ value ∧ value ≤ 2147483647
  angle : point.angle.natAbs < 100000

/-- The fields of a way point as its line writes them. -/
def fieldText (point : WayPoint) : Text :=
  formatText fieldFormat (PathRecord.ofWayPoint point).values

variable {point : WayPoint}

/-- Hundredths are millionths. -/
theorem angle_eq (point : WayPoint) :
    (PathRecord.ofWayPoint point).angle =
      .finite (((point.angle * 10000 : Int) : ℚ) / 1000000) := by
  rw [PathRecord.ofWayPoint, Int.cast_mul]
  norm_num
  ring

theorem fits_values (point : WayPoint) :
    Fits fieldFormat (PathRecord.ofWayPoint point).values := by
  rw [PathRecord.values, angle_eq]
  exact .int _ <| .literal _ <| .int _ <| .literal _ <| .int _ <| .literal _ <| .int _ <|
    .literal _ <| .double _ <| .literal _ <| .int _ <| .literal _ <| .int _ <| .literal _ <|
    .int _ .nil

theorem fits_pathFormat (point : WayPoint) :
    Fits pathFormat (PathRecord.ofWayPoint point).values := by
  have braced := (fits_values point).append (.literal closeBrace .nil)
  rw [List.append_nil] at braced
  exact .literal openBrace braced

theorem formatText_pathFormat (point : WayPoint) :
    formatText pathFormat (PathRecord.ofWayPoint point).values =
      openBrace :: fieldText point ++ [closeBrace] := by
  rw [pathFormat, List.cons_append, formatText, formatText_append (fits_values point)]
  rfl

theorem pathLine_eq (point : WayPoint) :
    pathLine point = openBrace :: fieldText point ++ [closeBrace] ++ [newlineCode] := by
  rw [pathLine, ← formatText_pathFormat, formatText_append (fits_pathFormat point)]
  rfl

/-- The fields hold no brace, no end of a line and no zero. -/
theorem fieldText_codes (point : WayPoint) :
    ∀ code ∈ fieldText point,
      code ≠ openBrace ∧ code ≠ closeBrace ∧ code ≠ newlineCode ∧ code ≠ 0 := by
  intro code member
  rcases isNumberCode_or_literal (fits_values point) member with number | literal
  · exact ⟨ne_of_refused number rfl, ne_of_refused number rfl, ne_of_refused number rfl,
      ne_of_refused number rfl⟩
  · have comma : code = commaCode := by simpa [fieldFormat] using literal
    rw [comma]
    decide

theorem length_fieldText_le (storable : point.Storable) : (fieldText point).length ≤ 165 := by
  have narrow : ∀ value ∈ (PathRecord.ofWayPoint point).values, value.text.length ≤ 11 := by
    intro value member
    cases value with
    | int value =>
        have range := storable.ints value member
        exact length_intText_le (by decide) (by omega)
    | double value =>
        have angle : value = (PathRecord.ofWayPoint point).angle := by
          simpa [PathRecord.values] using member
        have small := storable.angle
        rw [angle, angle_eq]
        exact length_floatText_le (by decide) (by omega)
  exact length_formatText_le (fits_values point) (by decide) narrow

/-- A call of `fgets` that has the room reads up to the end of the line. -/
theorem fgets_line {text : Text} {room : Nat} (short : text.length < room)
    (oneLine : ∀ code ∈ text, code ≠ newlineCode) (rest : Text) :
    fgets room (text ++ newlineCode :: rest) = (text ++ [newlineCode], rest) := by
  induction text generalizing room with
  | nil =>
      cases room with
      | zero => cases short
      | succ room => rw [List.nil_append, fgets, if_pos rfl, List.nil_append]
  | cons code text ih =>
      cases room with
      | zero => cases short
      | succ room =>
          rcases List.forall_mem_cons.mp oneLine with ⟨first, others⟩
          rw [List.cons_append, fgets, if_neg first, ih (Nat.lt_of_succ_lt_succ short) others]
          rfl

theorem fileLines_pathLine (storable : point.Storable) (rest : Text) :
    fileLines (pathLine point ++ rest) = pathLine point :: fileLines rest := by
  have short := length_fieldText_le storable
  have oneLine : ∀ code ∈ openBrace :: fieldText point ++ [closeBrace],
      code ≠ newlineCode := by
    intro code member
    rcases List.mem_append.mp member with front | last
    · rcases List.mem_cons.mp front with same | member
      · rw [same]
        decide
      · exact (fieldText_codes point code member).2.2.1
    · rw [List.mem_singleton.mp last]
      decide
  have read := @fgets_line (openBrace :: fieldText point ++ [closeBrace]) 254
    (by simp only [List.length_append, List.length_cons, List.length_nil]; omega) oneLine rest
  rw [pathLine_eq, List.append_assoc, List.singleton_append]
  rw [List.cons_append, List.cons_append] at read ⊢
  rw [fileLines, read]

theorem fileLines_pathText {points : List WayPoint}
    (storable : ∀ point ∈ points, point.Storable) :
    fileLines (pathText points) = points.map pathLine := by
  induction points with
  | nil => rw [pathText, List.flatMap_nil, fileLines, List.map_nil]
  | cons point points ih =>
      rcases List.forall_mem_cons.mp storable with ⟨first, others⟩
      rw [pathText, List.flatMap_cons, fileLines_pathLine first]
      exact congrArg (pathLine point :: ·) (ih others)

/-! ## Records -/

variable {overflow : Int → Int}

theorem storedInt_of_range {value : Int}
    (range : -2147483648 ≤ value ∧ value ≤ 2147483647) : storedInt overflow value = value :=
  if_pos range

/-- The record of a line is that of its way point. -/
theorem scanRecord_pathLine (storable : point.Storable) :
    scanRecord overflow (pathLine point) = some (.ofWayPoint point) := by
  have closed : delimited pathFormat = true := by decide
  have ints := storable.ints
  simp only [PathRecord.values, List.mem_cons, Conversion.int.injEq, reduceCtorEq,
    List.not_mem_nil, or_false, false_or, forall_eq_or_imp, forall_eq] at ints
  rcases ints with ⟨id, cardId, xPos, yPos, runMode, action, liftHeight⟩
  rw [scanRecord, pathLine_eq, ← formatText_pathFormat, scanText_formatText (fits_pathFormat point) closed,
    PathRecord.values, PathRecord.ofValues?, storedInt_of_range id, storedInt_of_range cardId,
    storedInt_of_range xPos, storedInt_of_range yPos, storedInt_of_range runMode,
    storedInt_of_range action, storedInt_of_range liftHeight]

/-- Where no brace opens there is no record. -/
theorem spelled_of_noBrace {text : Text} (noBrace : ∀ code ∈ text, code ≠ openBrace)
    (width : Nat) : spelled overflow width text = [] := by
  induction text with
  | nil => rfl
  | cons code rest ih =>
      rcases List.forall_mem_cons.mp noBrace with ⟨first, others⟩
      rw [spelled, if_neg first, ih others]

/-- A line spells the record of its way point and no other. -/
theorem lineRecords_pathLine (storable : point.Storable) :
    lineRecords overflow (pathLine point) = [.ofWayPoint point] := by
  have line : pathLine point = openBrace :: (fieldText point ++ [closeBrace, newlineCode]) := by
    rw [pathLine_eq, List.append_assoc]
    rfl
  have record := @scanRecord_pathLine _ overflow storable
  have codes : ∀ code ∈ fieldText point ++ [closeBrace, newlineCode],
      code ≠ openBrace ∧ code ≠ 0 := by
    intro code member
    rcases List.mem_append.mp member with member | last
    · have field := fieldText_codes point code member
      exact ⟨field.1, field.2.2.2⟩
    · have ends : code = closeBrace ∨ code = newlineCode := by simpa using last
      rcases ends with same | same
      · rw [same]
        decide
      · rw [same]
        decide
  have noComment : openBrace ≠ hashCode := by decide
  rw [line] at record ⊢
  rw [lineRecords, List.headD_cons, if_neg noComment, shownLine,
    cString_of_nonzero fun code member => (codes code member).2, spelled, if_pos rfl]
  cases closes : closing 0 (openBrace :: (fieldText point ++ [closeBrace, newlineCode])) with
  | none =>
      rw [closing, Option.map_eq_none_iff, List.drop_zero, List.idxOf?_eq_none_iff] at closes
      exact absurd (.tail _ (List.mem_append_right _ (.head _))) closes
  | some width =>
      dsimp only
      rw [record, spelled_of_noBrace fun code member => (codes code member).1]
      rfl

/-- The way points of an installed path are read back as records. -/
theorem readRecords_pathText {points : List WayPoint}
    (storable : ∀ point ∈ points, point.Storable) :
    readRecords overflow (pathText points) = points.map .ofWayPoint := by
  rw [readRecords_eq, spelledRecords, fileLines_pathText storable, List.flatMap_map]
  induction points with
  | nil => rfl
  | cons point points ih =>
      rcases List.forall_mem_cons.mp storable with ⟨first, others⟩
      rw [List.flatMap_cons, lineRecords_pathLine first, ih others]
      rfl

/-! ## The planner and the text of its file -/

/-- The hundredths of an angle, if it is a number of them. -/
def hundredths? : FloatValue → Option Int
  | .finite value => if (value * 100).den = 1 then some (value * 100).num else none
  | _ => none

/-- The way point that `loadPathInfo` makes of a record: what the record does not hold is
cleared.  `none` is an angle that is no number of hundredths. -/
def PathRecord.toWayPoint? (record : PathRecord) : Option WayPoint :=
  (hundredths? record.angle).map fun angle =>
    { id := record.id
      cardId := record.cardId
      xPos := record.xPos
      yPos := record.yPos
      angle
      radius := 0
      runMode := record.runMode
      action := record.action
      liftHeight := record.liftHeight
      actionFinish := false }

theorem toWayPoint?_ofWayPoint (point : WayPoint) :
    (PathRecord.ofWayPoint point).toWayPoint? =
      some { point with radius := 0, actionFinish := false } := by
  have whole : (point.angle : ℚ) / 100 * 100 = (point.angle : ℚ) := by norm_num
  have angle : hundredths? (PathRecord.ofWayPoint point).angle = some point.angle := by
    rw [PathRecord.ofWayPoint, hundredths?, whole, Rat.den_intCast, if_pos rfl,
      Rat.num_intCast]
  rw [PathRecord.toWayPoint?, angle]
  rfl

theorem mapM_toWayPoint? (points : List WayPoint) :
    (points.map .ofWayPoint).mapM PathRecord.toWayPoint? =
      some (points.map fun point => { point with radius := 0, actionFinish := false }) := by
  induction points with
  | nil => rfl
  | cons point points ih =>
      rw [List.map_cons, List.mapM_cons, ih, toWayPoint?_ofWayPoint]
      rfl

namespace RoutePlanner

/-- The text of the path file. -/
def fileText (router : RoutePlanner) : Option Text := router.file.map pathText

/-- `OnGetNewPath` with the names it prints; `none` is a look-up outside their tables. -/
def namedNewPath (list : List StationInfo) (router : RoutePlanner) : Option RoutePlanner :=
  (newPathNames list).map fun _ => (router.onGetNewPath true list).1

/-- `loadPathInfo` from the text of the file, with the names it prints. -/
def readPathInfo (overflow : Int → Int) (router : RoutePlanner) : Option RoutePlanner :=
  match router.fileText with
  | none => some router.clearPathList
  | some text => do
      let _ ← loadedNames overflow text
      let points ← (readRecords overflow text).mapM PathRecord.toWayPoint?
      some { router with
        pathList := points
        setting := { router.setting with pathPointCount := points.length }
        targetPathId := router.setting.targetPointId
        lastPathId := router.setting.lastPointId }

/-- `ReloadPathList` from the text of the file. -/
def rereadPathList (overflow : Int → Int) (router : RoutePlanner) : Option RoutePlanner :=
  router.resetPathList.readPathInfo overflow

variable {router : RoutePlanner} {points : List WayPoint}

/-- The load of the text refines the load of the way points that it was written from. -/
theorem readPathInfo_eq (file : router.file = some points)
    (storable : ∀ point ∈ points, point.Storable)
    (named : ∀ point ∈ points, InTables point.runMode point.action) :
    router.readPathInfo overflow = some (router.loadPathInfo true) := by
  have records := @readRecords_pathText overflow points storable
  have names : (loadedNames overflow (pathText points)).isSome = true := by
    rw [loadedNames, records, isSome_mapM_iff, List.forall_mem_map]
    intro point member
    exact (isSome_pointNames point.runMode point.action).mpr (named point member)
  rcases Option.isSome_iff_exists.mp names with ⟨found, names⟩
  rw [readPathInfo, fileText, file, Option.map_some, loadPathInfo, file]
  dsimp only
  rw [names, records, mapM_toWayPoint?]
  simp

/-! ## Rewriting in memory -/

/-- What is done to an installed path until it is reloaded: the cursor moves, or a way point
in memory is given another action, lift height and finish flag. -/
inductive PathEdit where
  | moveToNextStation
  | moveToLastStation
  | rewrite (index : Nat) (action liftHeight : Int) (actionFinish : Bool)

def pathEdit (router : RoutePlanner) : PathEdit → RoutePlanner
  | .moveToNextStation => router.moveToNextStation.1
  | .moveToLastStation => router.moveToLastStation.1
  | .rewrite index action liftHeight actionFinish =>
      { router with
        pathList := router.pathList.modify index
          ({ · with action, liftHeight, actionFinish }) }

/-- No edit is written to the path file. -/
theorem file_pathEdit (router : RoutePlanner) (edit : PathEdit) :
    (router.pathEdit edit).file = router.file := by
  cases edit with
  | moveToNextStation => exact file_moveToNextStation router
  | moveToLastStation => exact file_moveToLastStation router
  | rewrite index action liftHeight actionFinish => rfl

theorem file_foldl_pathEdit (edits : List PathEdit) (router : RoutePlanner) :
    (edits.foldl pathEdit router).file = router.file := by
  induction edits generalizing router with
  | nil => rfl
  | cons edit edits ih => rw [List.foldl_cons, ih, file_pathEdit]

/-- A station is stored within the numbers of `int`. -/
theorem storable_ofStation (info : StationInfo) : (WayPoint.ofStation info).Storable := by
  have short (value : UInt16) : (value.toNat : Int) ≤ 65535 := by
    have small := value.toNat_lt
    omega
  have byte (value : UInt8) : (value.toNat : Int) ≤ 255 := by
    have small := value.toNat_lt
    omega
  have position (value : UInt32) :
      -2147483648 ≤ value.toInt32.toInt ∧ value.toInt32.toInt ≤ 2147483647 := by
    have least := value.toInt32.le_toInt
    have most := value.toInt32.toInt_lt
    omega
  have height : -1 ≤ (WayPoint.ofStation info).liftHeight ∧
      (WayPoint.ofStation info).liftHeight ≤ 65535 := by
    have small := short info.liftHeight
    rw [WayPoint.ofStation]
    dsimp only
    split <;> omega
  constructor
  · intro value member
    have id := short info.id
    have mode := byte info.mode
    have action := byte info.action
    have xPos := position info.xPos
    have yPos := position info.yPos
    simp only [PathRecord.values, PathRecord.ofWayPoint, List.mem_cons, Conversion.int.injEq,
      reduceCtorEq, List.not_mem_nil, or_false, false_or] at member
    rcases member with same | same | same | same | same | same | same
    all_goals
      rw [same]
      simp only [WayPoint.ofStation] at height ⊢
      omega
  · have small := short info.pathAngle
    have angle : (WayPoint.ofStation info).angle = info.pathAngle.toNat := rfl
    omega

/-- However the cursor moves and the way points are rewritten, a reload gives the path as it
was installed, begun again. -/
theorem rereadPathList_restores (overflow : Int → Int) (router : RoutePlanner)
    {list : List StationInfo} (named : ∀ info ∈ list, info.mode < 13 ∧ info.action < 6)
    (edits : List PathEdit) :
    ∃ installed reloaded, router.namedNewPath list = some installed ∧
      (edits.foldl pathEdit installed).rereadPathList overflow = some reloaded ∧
      installed.pathList = list.map WayPoint.ofStation ∧
      reloaded.pathList = installed.pathList ∧
      (∀ point ∈ reloaded.pathList, point.actionFinish = false) ∧
      reloaded.targetPathId = 0 ∧ reloaded.lastPathId = -1 := by
  have names := (isSome_newPathNames list).mpr named
  rcases Option.isSome_iff_exists.mp names with ⟨found, names⟩
  have path := pathList_onGetNewPath router true list
  have file : (edits.foldl pathEdit (router.onGetNewPath true list).1).resetPathList.file =
      some (list.map WayPoint.ofStation) :=
    file_foldl_pathEdit edits (router.onGetNewPath true list).1
  have inTables : ∀ point ∈ list.map WayPoint.ofStation,
      InTables point.runMode point.action := by
    rw [List.forall_mem_map]
    exact fun info member => (inTables_ofStation info).mpr (named info member)
  have storable : ∀ point ∈ list.map WayPoint.ofStation, point.Storable := by
    rw [List.forall_mem_map]
    exact fun info _ => storable_ofStation info
  have reread := @readPathInfo_eq overflow _ _ file storable inTables
  have loaded : ((edits.foldl pathEdit
      (router.onGetNewPath true list).1).resetPathList.loadPathInfo true).pathList =
      list.map WayPoint.ofStation := by
    simp only [loadPathInfo, file, if_true, List.map_map]
    rfl
  refine ⟨_, _, by rw [namedNewPath, names, Option.map_some], reread, path,
    loaded.trans path.symm, ?_, ?_, ?_⟩
  · rw [loaded, List.forall_mem_map]
    exact fun _ _ => rfl
  · rw [loadPathInfo, file]
    rfl
  · rw [loadPathInfo, file]
    rfl

/-- A lift that was done is to be done again behind a reload. -/
theorem rereadPathList_restores_lift :
    ∃ installed reloaded,
      ({} : RoutePlanner).namedNewPath
        [⟨7, 0xFFFFFF38, 1500, 9000, 0, 1, 4, 800⟩, ⟨8, 300, 0, 35999, 0, 2, 1, 0xFFFF⟩] =
          some installed ∧
      ([PathEdit.rewrite 0 0 (-1) true, .moveToNextStation].foldl pathEdit
        installed).rereadPathList id = some reloaded ∧
      reloaded.pathList = installed.pathList := by
  have named : ∀ info ∈ ([⟨7, 0xFFFFFF38, 1500, 9000, 0, 1, 4, 800⟩,
      ⟨8, 300, 0, 35999, 0, 2, 1, 0xFFFF⟩] : List StationInfo),
      info.mode < 13 ∧ info.action < 6 := by decide
  rcases rereadPathList_restores id {} named [.rewrite 0 0 (-1) true, .moveToNextStation] with
    ⟨installed, reloaded, gotten, reread, -, same, -⟩
  exact ⟨installed, reloaded, gotten, reread, same⟩

end RoutePlanner

end DrivingControl.Controler

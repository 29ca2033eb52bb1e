import DrivingControl.Controler.RoutePlanner
import DrivingControl.Utils.Setting

/-!
# The cursor after a restart

The planner writes its cursor to the settings file, and a program that starts reads the
settings and then the path file.  The last index is written and read under one name.
The target index is written under `TargetPoinId` and read under `TargetPointId`, so a
program starts with the target index that the file has had all along.
-/

namespace DrivingControl.Controler

open DrivingControl.Comm DrivingControl.Library DrivingControl.Utils

/-- What the settings file holds after the planner has written its cursor. -/
def PathSetting.saveTo (setting : PathSetting) (xml : XmlSetting) : XmlSetting :=
  let xml := match setting.savedTargetPoinId with
    | none => xml
    | some target => xml.saveSectionInt "TargetPoinId" target
  match setting.savedLastPointId with
  | none => xml
  | some last => xml.saveSectionInt "LastPointId" last

/-- The settings of the planner among those that `LoadAll` has read. -/
def PathSetting.ofLoaded (loaded : String → Text) : PathSetting where
  pathPointCount := readInt (loaded "PathPointCount")
  targetPointId := readInt (loaded "TargetPointId")
  lastPointId := readInt (loaded "LastPointId")

namespace RoutePlanner

/-- The planner of a program that has read its settings. -/
def boot (version : Text) (xml : XmlSetting) (file : Option (List WayPoint)) : RoutePlanner where
  setting := .ofLoaded (loadAll version xml).1
  file

/-- The calls that move the cursor or replace the path; every file operation succeeds. -/
inductive Call where
  | start
  | onGetNewPath (list : List StationInfo)
  | moveToNextStation
  | moveToLastStation
  | resetPathList
  | reloadPathList

def call : Call → RoutePlanner → RoutePlanner
  | .start, router => router.start true
  | .onGetNewPath list, router => (router.onGetNewPath true list).1
  | .moveToNextStation, router => router.moveToNextStation.1
  | .moveToLastStation, router => router.moveToLastStation.1
  | .resetPathList, router => router.resetPathList
  | .reloadPathList, router => router.reloadPathList true

def calls (history : List Call) (router : RoutePlanner) : RoutePlanner :=
  history.foldl (fun router next => router.call next) router

/-- A new program behind some calls: it reads the settings file that the old one left,
which had started on `xml`, and its planner is started. -/
def restart (version : Text) (xml : XmlSetting) (router : RoutePlanner) : RoutePlanner :=
  (boot version (router.setting.saveTo (loadAll version xml).2) router.file).start true

/-! ## What is saved -/

/-- The settings in memory and in the file agree on the last index, the planner has the
indices in memory, and a path came from a file or is in it. -/
structure Saved (last : Int) (router : RoutePlanner) : Prop where
  written : router.setting.lastPointId = router.setting.savedLastPointId.getD last
  cursor : router.pathList ≠ [] → router.lastPathId = router.setting.lastPointId
  file : router.pathList ≠ [] → router.file.isSome

variable {last : Int} {router : RoutePlanner}

theorem saved_savePathInfo_all (router : RoutePlanner) :
    Saved last (router.savePathInfo true true) := ⟨rfl, fun _ => rfl, fun _ => rfl⟩

theorem saved_savePathInfo (file : router.pathList ≠ [] → router.file.isSome) :
    Saved last (router.savePathInfo true false) := ⟨rfl, fun _ => rfl, file⟩

theorem saved_noteLastStation (file : router.pathList ≠ [] → router.file.isSome) :
    Saved last router.noteLastStation := by
  rw [noteLastStation]
  split
  · exact saved_savePathInfo file
  · exact saved_savePathInfo file

theorem Saved.loadPathInfo (saved : Saved last router) :
    Saved last (router.loadPathInfo true) := by
  rw [RoutePlanner.loadPathInfo]
  split
  · exact ⟨saved.written, fun path => absurd rfl path, fun path => absurd rfl path⟩
  next points present =>
    exact ⟨saved.written, fun _ => rfl, fun _ => by simp [present]⟩

/-- Every call keeps what is saved in step with the cursor. -/
theorem Saved.call (saved : Saved last router) (next : Call) :
    Saved last (router.call next) := by
  cases next with
  | start => exact saved.loadPathInfo
  | onGetNewPath list => exact saved_savePathInfo_all _
  | moveToNextStation =>
      simp only [RoutePlanner.call, RoutePlanner.moveToNextStation]
      split
      · exact saved
      · split
        · exact saved_noteLastStation saved.file
        · exact saved_noteLastStation saved.file
  | moveToLastStation =>
      simp only [RoutePlanner.call, RoutePlanner.moveToLastStation]
      split
      · exact saved
      · split
        · exact saved_noteLastStation saved.file
        · exact saved_noteLastStation saved.file
  | resetPathList => exact saved_savePathInfo fun path => absurd rfl path
  | reloadPathList =>
      exact Saved.loadPathInfo (saved_savePathInfo fun path => absurd rfl path)

theorem Saved.calls (saved : Saved last router) (history : List Call) :
    Saved last (router.calls history) := by
  induction history generalizing router with
  | nil => exact saved
  | cons next rest ih => exact ih (saved.call next)

end RoutePlanner

/-! ## What is loaded -/

/-- The target index that a settings file gives: it is never written to. -/
def targetPointIdOf (xml : XmlSetting) : Int :=
  readInt (xml.valueOr "TargetPointId" (ascii "0"))

/-- The last index that a settings file gives. -/
def lastPointIdOf (xml : XmlSetting) : Int :=
  readInt (xml.valueOr "LastPointId" (ascii "-1"))

theorem loaded_targetPointId (version : Text) (xml : XmlSetting) :
    (PathSetting.ofLoaded (loadAll version xml).1).targetPointId = targetPointIdOf xml := by
  have listed : (loadedSections version).lookup "TargetPointId" = some (ascii "0") := rfl
  rw [PathSetting.ofLoaded, targetPointIdOf, loadAll,
    (XmlSetting.loadSections_of_lookup _ xml listed).1]

theorem loaded_lastPointId (version : Text) (xml : XmlSetting) :
    (PathSetting.ofLoaded (loadAll version xml).1).lastPointId = lastPointIdOf xml := by
  have listed : (loadedSections version).lookup "LastPointId" = some (ascii "-1") := rfl
  rw [PathSetting.ofLoaded, lastPointIdOf, loadAll,
    (XmlSetting.loadSections_of_lookup _ xml listed).1]

theorem content_saveTo_of_ne {sectionName : String} (setting : PathSetting)
    (xml : XmlSetting) (notTarget : sectionName ≠ "TargetPoinId")
    (notLast : sectionName ≠ "LastPointId") :
    (setting.saveTo xml).content sectionName = xml.content sectionName := by
  unfold PathSetting.saveTo
  dsimp only
  split
  all_goals
    split <;>
      simp [XmlSetting.saveSectionInt, XmlSetting.saveSectionValue, notTarget, notLast]

theorem content_saveTo_lastPointId (setting : PathSetting) (xml : XmlSetting) :
    (setting.saveTo xml).content "LastPointId" =
      (setting.savedLastPointId.map intText).or (xml.content "LastPointId") := by
  unfold PathSetting.saveTo
  dsimp only
  split
  all_goals
    split <;> simp [XmlSetting.saveSectionInt, XmlSetting.saveSectionValue, *]

/-- What the planner saves does not reach the target index that is loaded. -/
theorem targetPointIdOf_saveTo (version : Text) (xml : XmlSetting) (setting : PathSetting) :
    targetPointIdOf (setting.saveTo (loadAll version xml).2) = targetPointIdOf xml := by
  have listed : (loadedSections version).lookup "TargetPointId" = some (ascii "0") := rfl
  have there := (XmlSetting.loadSections_of_lookup _ xml listed).2
  have kept : (setting.saveTo (loadAll version xml).2).content "TargetPointId" = _ :=
    content_saveTo_of_ne setting _ (by decide) (by decide)
  rw [loadAll, there] at kept
  simp only [targetPointIdOf, loadAll, XmlSetting.valueOr, kept, Option.getD_some]

/-- The last index that is loaded is the one the planner saved. -/
theorem lastPointIdOf_saveTo (version : Text) (xml : XmlSetting) (setting : PathSetting) :
    lastPointIdOf (setting.saveTo (loadAll version xml).2) =
      setting.savedLastPointId.getD (lastPointIdOf xml) := by
  have listed : (loadedSections version).lookup "LastPointId" = some (ascii "-1") := rfl
  have there := (XmlSetting.loadSections_of_lookup _ xml listed).2
  have content := content_saveTo_lastPointId setting (loadAll version xml).2
  rw [loadAll, there] at content
  simp only [lastPointIdOf, loadAll, XmlSetting.valueOr, content]
  cases setting.savedLastPointId with
  | none => rfl
  | some last => exact readInt_intText last

/-! ## What a restart restores -/

namespace RoutePlanner

theorem saved_boot (version : Text) (xml : XmlSetting) (file : Option (List WayPoint)) :
    Saved (lastPointIdOf xml) (boot version xml file) :=
  ⟨loaded_lastPointId version xml, fun path => absurd rfl path, fun path => absurd rfl path⟩

/-- With a path file, a started planner has the indices of the settings. -/
theorem cursor_start (router : RoutePlanner) (present : router.file.isSome) :
    (router.start true).targetPathId = router.setting.targetPointId ∧
      (router.start true).lastPathId = router.setting.lastPointId := by
  rcases Option.isSome_iff_exists.mp present with ⟨points, file⟩
  simp [RoutePlanner.start, RoutePlanner.loadPathInfo, file]

/-- Behind any calls that leave a path, a new program has the last index of the old one,
and the target index that the settings file has under the name that is never written. -/
theorem cursor_restart (version : Text) (xml : XmlSetting) (file : Option (List WayPoint))
    (history : List Call)
    (path : ((boot version xml file).calls history).pathList ≠ []) :
    (restart version xml ((boot version xml file).calls history)).targetPathId =
        targetPointIdOf xml ∧
      (restart version xml ((boot version xml file).calls history)).lastPathId =
        ((boot version xml file).calls history).lastPathId := by
  have saved := (saved_boot version xml file).calls history
  have started := cursor_start
    (boot version (((boot version xml file).calls history).setting.saveTo
      (loadAll version xml).2) ((boot version xml file).calls history).file)
    (saved.file path)
  refine ⟨?_, ?_⟩
  · rw [restart, started.1]
    exact (loaded_targetPointId version _).trans (targetPointIdOf_saveTo version xml _)
  · rw [restart, started.2, saved.cursor path, saved.written]
    exact (loaded_lastPointId version _).trans (lastPointIdOf_saveTo version xml _)

end RoutePlanner

/-- A restart restores both indices of a planner with a path exactly if its target index
is the one that the settings file had under `TargetPointId` when the program began, or
zero where the file had none. -/
theorem restart_restores_iff (version : Text) (xml : XmlSetting)
    (file : Option (List WayPoint)) (history : List RoutePlanner.Call)
    (path : ((RoutePlanner.boot version xml file).calls history).pathList ≠ []) :
    ((RoutePlanner.restart version xml
          ((RoutePlanner.boot version xml file).calls history)).targetPathId =
        ((RoutePlanner.boot version xml file).calls history).targetPathId ∧
      (RoutePlanner.restart version xml
          ((RoutePlanner.boot version xml file).calls history)).lastPathId =
        ((RoutePlanner.boot version xml file).calls history).lastPathId) ↔
      ((RoutePlanner.boot version xml file).calls history).targetPathId =
        targetPointIdOf xml := by
  rcases RoutePlanner.cursor_restart version xml file history path with ⟨target, last⟩
  rw [target, last]
  exact ⟨fun both => both.1.symm, fun same => ⟨same.symm, rfl⟩⟩

/-- A station that is stopped at. -/
def stopStation (id : UInt16) : StationInfo where
  id
  xPos := 0
  yPos := 0
  pathAngle := 0
  turnRadius := 0
  mode := 1
  action := 1
  liftHeight := 0xFFFF

/-- A path of two stations is received, and the second is made the target. -/
def secondTarget : List RoutePlanner.Call :=
  [.onGetNewPath [stopStation 3, stopStation 4], .moveToNextStation]

/-- The planner behind the move, in a program that began with a new settings file. -/
def atSecondTarget : RoutePlanner := (RoutePlanner.boot [] {} none).calls secondTarget

/-- A path that was just received is restored. -/
theorem restart_restores_iff_received :
    (RoutePlanner.restart [] {} ((RoutePlanner.boot [] {} none).calls
          (secondTarget.take 1))).targetPathId =
        ((RoutePlanner.boot [] {} none).calls (secondTarget.take 1)).targetPathId ∧
      (RoutePlanner.restart [] {} ((RoutePlanner.boot [] {} none).calls
          (secondTarget.take 1))).lastPathId =
        ((RoutePlanner.boot [] {} none).calls (secondTarget.take 1)).lastPathId :=
  (restart_restores_iff [] {} none (secondTarget.take 1) (by decide)).mpr (by decide)

/-- Behind the move to the second station the restart has the first one as its target. -/
theorem restart_loses_target :
    atSecondTarget.pathList ≠ [] ∧
      ¬ ((RoutePlanner.restart [] {} atSecondTarget).targetPathId =
            atSecondTarget.targetPathId ∧
          (RoutePlanner.restart [] {} atSecondTarget).lastPathId =
            atSecondTarget.lastPathId) := by
  have path : atSecondTarget.pathList ≠ [] := by decide
  have target : atSecondTarget.targetPathId = 1 := by decide
  have unset : targetPointIdOf {} = 0 := by decide
  have restarted := (RoutePlanner.cursor_restart [] {} none secondTarget path).1
  refine ⟨path, fun both => ?_⟩
  have same := both.1
  rw [target, atSecondTarget, restarted, unset] at same
  cases same

end DrivingControl.Controler

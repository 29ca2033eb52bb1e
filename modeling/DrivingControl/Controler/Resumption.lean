import DrivingControl.Controler.PlannerTarget

/-!
# Resuming a run

`GoToNextPoint` prepares the planner's target and gives it to `SetTargetStation`, which
saves it.  `StartRun` and the end of a barrier send the saved target again.  A history
variable remembers which target was prepared for the way point the planner is at.

The saved target is the prepared one unless `GoToNextPoint` gave up before it came to
`SetTargetStation`.  It is sent with its action in the place of the lift height, and not
at all when its station is 0.
-/

namespace DrivingControl.Controler

open DrivingControl.Comm DrivingControl.Event DrivingControl.Library

/-! ## Prepared targets -/

/-- Whether `GoToNextPoint` gives a target to `SetTargetStation`, by its arguments: the
angle of a left turn has changed its sign. -/
def PathMag.Sendable (target : PathMag) : Prop :=
  ((1 ≤ target.mode ∧ target.mode ≤ 2) ∨ (5 ≤ target.mode ∧ target.mode ≤ 6)) ∧
    ¬(target.mode = 5 ∧ 0 < target.angle) ∧ ¬(target.mode = 6 ∧ target.angle < 0)

instance (target : PathMag) : Decidable target.Sendable :=
  inferInstanceAs (Decidable (_ ∧ _))

/-- All that a resumed target is compared in: everything but the radius. -/
def PathMag.commanded (target : PathMag) : PathMag := { target with radius := 0 }

namespace RoutePlanner

/-- The target as `GoToNextPoint` rewrites it, whether or not it sends it. -/
def preparedPoint (readings : Readings) (router : RoutePlanner) : Option WayPoint :=
  router.getTargetStation.map fun path => router.asSent readings path

/-- The way point that is prepared when the action of the target is finished. -/
def preparedBehind (readings : Readings) (router : RoutePlanner) : Option WayPoint :=
  match router.getTargetStation with
  | none => none
  | some target =>
      if target.actionFinish then none else (router.goOn readings).preparedPoint readings

/-- The way point that is sent is the prepared one, if it can be driven to. -/
theorem sentPoint_eq_filter (readings : Readings) (router : RoutePlanner) :
    router.sentPoint readings = (router.preparedPoint readings).filter isDrivable := by
  rw [sentPoint, preparedPoint]
  cases router.getTargetStation with
  | none => rfl
  | some path =>
      have same : isDrivable (router.asSent readings path) = isDrivable path := rfl
      simp only [Option.map_some, Option.filter_some, same]

theorem pointBehind_eq_filter (readings : Readings) (router : RoutePlanner) :
    router.pointBehind readings = (router.preparedBehind readings).filter isDrivable := by
  rw [pointBehind, preparedBehind]
  cases router.getTargetStation with
  | none => rfl
  | some target =>
      dsimp only
      split
      · rfl
      · exact sentPoint_eq_filter readings _

end RoutePlanner

namespace AgvCar

open RoutePlanner CarControler

variable {readings : Readings} {evt : AgvEvent} {car next : AgvCar}

/-- The way point that `GoToNextPoint` prepares in an event. -/
def preparesPoint (readings : Readings) (evt : AgvEvent) (car : AgvCar) : Option WayPoint :=
  match evt.event with
  | .evKeyStart | .evApplyPath =>
      if car.operateMode = .autoMode ∧ car.router.targetPathId = 0 then
        car.router.preparedPoint readings
      else none
  | .evNextPathPoint =>
      match car.router.getTargetStation with
      | none => none
      | some target => if car.completes target then car.router.preparedBehind readings else none
  | .evLiftArrived =>
      if car.currentPathAction = actionLiftUpDown then car.router.preparedBehind readings
      else none
  | _ => none

/-- The target it makes of it. -/
def prepares (readings : Readings) (evt : AgvEvent) (car : AgvCar) : Option PathMag :=
  (car.preparesPoint readings evt).map (car.pathMag readings)

/-- Whether an event resumes the run. -/
def resumes (evt : AgvEvent) (car : AgvCar) : Bool :=
  match evt.event with
  | .evKeyStart | .evApplyPath =>
      decide (car.operateMode = .autoMode ∧ car.router.pathList ≠ [] ∧
        car.router.targetPathId ≠ 0)
  | .evNearBarrier | .evMidBarrier | .evFarBarrier | .evBarrierTouched | .evBarrierOk =>
      decide (car.operateMode = .autoMode) && car.recovers evt.event evt.param
  | _ => false

/-- Whether the planner is at another way point behind an event that loads a path.  A path
that is read again goes on where it was. -/
def replacesPath (readings : Readings) (evt : AgvEvent) (car : AgvCar) : Bool :=
  match evt.event with
  | .evGetNewPath => decide (evt.data ≠ .null)
  | .evPathFinished => true
  | .evKeyAutoMode => decide (car.operateMode ≠ .autoMode)
  | .evNetworkOK =>
      let reloaded := car.router.start readings.fileOpens
      decide (reloaded.targetPathId ≠ car.router.targetPathId ∨
        reloaded.targetId ≠ car.router.targetId)
  | _ => false

/-! ## What is saved -/

theorem sendable_pathMag (readings : Readings) (car : AgvCar) (path : WayPoint) :
    (car.pathMag readings path).Sendable ↔ isDrivable path = true := by
  simp only [PathMag.Sendable, pathMag, isDrivable, decide_eq_true_iff]
  split
  · omega
  · omega

/-- What a way point leaves in `lastPathMag`. -/
theorem savedAfter_point (charging : Bool) (point : Option WayPoint) (saved : PathMag) :
    savedAfter ((point.filter isDrivable).map (car.pointEntry readings charging)) saved =
      ((point.map (car.pathMag readings)).filter fun target => target.Sendable).getD saved := by
  cases point with
  | none => rfl
  | some path =>
      have same := sendable_pathMag readings car path
      by_cases drivable : isDrivable path = true
      · simp [Option.filter_some, drivable, same, savedAfter, pointEntry]
      · simp [Option.filter_some, drivable, same, savedAfter]

theorem savedAfter_resumedEntry (split : PathMag → Split) (controler : CarControler)
    (saved : PathMag) : savedAfter (controler.resumedEntry split) saved = saved := by
  rw [resumedEntry]
  split <;> rfl

theorem preparesPoint_start (kind : evt.event = .evKeyStart ∨ evt.event = .evApplyPath) :
    car.preparesPoint readings evt =
      if car.operateMode = .autoMode ∧ car.router.targetPathId = 0 then
        car.router.preparedPoint readings
      else none := by
  rcases kind with kind | kind <;> rw [preparesPoint, kind]

theorem preparesPoint_barrier (kind : IsBarrier evt.event) :
    car.preparesPoint readings evt = none := by
  rcases kind with kind | kind | kind | kind | kind <;> rw [preparesPoint, kind]

theorem preparesPoint_of_quiet (quiet : sendsTarget evt.event = false) :
    car.preparesPoint readings evt = none := by
  rw [preparesPoint]
  cases named : evt.event with
  | evKeyStart | evApplyPath | evNextPathPoint | evLiftArrived =>
      simp [named, sendsTarget] at quiet
  | _ => rfl

/-- An event saves the target it prepares, if that can be sent, and no other. -/
theorem savedAfter_sentBy (readings : Readings) (evt : AgvEvent) (car : AgvCar)
    (saved : PathMag) :
    savedAfter (car.sentBy readings evt) saved =
      ((car.prepares readings evt).filter fun target => target.Sendable).getD saved := by
  rw [sentBy, prepares, preparesPoint]
  cases named : evt.event with
  | evKeyStart | evApplyPath =>
      simp only [sentByStart]
      by_cases automatic : car.operateMode = .autoMode
      · by_cases nothing : car.router.pathList = []
        · simp [nothing, preparedPoint, getTargetStation, savedAfter]
        · by_cases cursor : car.router.targetPathId = 0
          · simp only [automatic, nothing, cursor, ne_eq, not_true, or_self, if_false, if_true,
              and_self, sentPoint_eq_filter]
            exact savedAfter_point _ _ saved
          · simp [automatic, nothing, cursor, savedAfter_resumedEntry]
      · simp [automatic, savedAfter]
  | evNextPathPoint =>
      simp only [sentByArrival]
      cases car.router.getTargetStation with
      | none => rfl
      | some target =>
          dsimp only
          split
          · rw [finishEntry, pointBehind_eq_filter]
            exact savedAfter_point _ _ saved
          · rfl
  | evLiftArrived =>
      simp only [sentByLift]
      split
      · rw [finishEntry, pointBehind_eq_filter]
        exact savedAfter_point _ _ saved
      · rfl
  | evNearBarrier | evMidBarrier | evFarBarrier | evBarrierTouched | evBarrierOk =>
      simp only [sentByBarrier]
      split
      · exact savedAfter_resumedEntry _ _ saved
      · rfl
  | _ => rfl

/-- A resumed run sends the saved target. -/
theorem sentBy_of_resumes (resumed : car.resumes evt = true) :
    car.sentBy readings evt = car.controler.resumedEntry readings.split := by
  rw [resumes] at resumed
  rw [sentBy]
  cases named : evt.event with
  | evKeyStart | evApplyPath =>
      simp only [named, decide_eq_true_iff] at resumed
      rcases resumed with ⟨automatic, nonempty, behind⟩
      simp [sentByStart, automatic, nonempty, behind]
  | evNearBarrier | evMidBarrier | evFarBarrier | evBarrierTouched | evBarrierOk =>
      simp only [named, Bool.and_eq_true, decide_eq_true_iff] at resumed
      simp [sentByBarrier, resumed]
  | _ => simp [named] at resumed

end AgvCar

/-! ## The program beside the prepared target -/

/-- The prepared target behind a step. -/
def observePrepared (car : AgvCar) (label : CarStep) (_ : AgvCar) (prepared : Option PathMag) :
    Option PathMag :=
  match label with
  | .handle evt readings =>
      if car.replacesPath readings evt then none
      else (car.prepares readings evt).or prepared
  | _ => prepared

/-- The program beside the target that was prepared for the planner's way point. -/
def preparedStep : StepFn (AgvCar × Option PathMag) CarStep :=
  monitored carStep observePrepared

/-- A resumed run sends the prepared target. -/
def ResumesPrepared (paired : AgvCar × Option PathMag) (label : CarStep)
    (next : AgvCar × Option PathMag) : Prop :=
  match label with
  | .handle evt _ =>
      paired.1.resumes evt = true →
        (next.1.controler.issued.drop paired.1.controler.issued.length).map
            (·.target.commanded) =
          (paired.2.map PathMag.commanded).toList
  | _ => True

/-- What is prepared can be sent, has a station other than 0 and its action as lift height.
If nothing is prepared, no station is saved. -/
def Resumable (paired : AgvCar × Option PathMag) (label : CarStep)
    (_ : AgvCar × Option PathMag) : Prop :=
  match label with
  | .handle evt _ =>
      paired.1.resumes evt = true →
        match paired.2 with
        | none => paired.1.controler.lastPathMag.station = 0
        | some target =>
            target.Sendable ∧ target.station ≠ 0 ∧ target.liftHeight = target.action
  | _ => True

instance (paired : AgvCar × Option PathMag) (label : CarStep) (next : AgvCar × Option PathMag) :
    Decidable (ResumesPrepared paired label next) :=
  match label with
  | .handle _ _ => inferInstanceAs (Decidable (_ → _))
  | .post _ | .loop _ | .arrive | .halt | .lifter _ _ => isTrue trivial

/-- What is saved could be sent, and is the prepared target if that could be sent. -/
structure Saves (paired : AgvCar × Option PathMag) : Prop where
  saved : paired.1.controler.lastPathMag.station = 0 ∨ paired.1.controler.lastPathMag.Sendable
  prepared : ∀ target ∈ paired.2, target.Sendable → paired.1.controler.lastPathMag = target

variable {paired next : AgvCar × Option PathMag} {label : CarStep}

/-- Every step keeps what is saved in agreement with what is prepared. -/
theorem Saves.step (saves : Saves paired) (stepped : preparedStep label paired = some next) :
    Saves next := by
  rcases paired with ⟨car, prepared⟩
  rcases next with ⟨after, observed⟩
  rcases monitored_eq_some stepped with ⟨moved, same⟩
  dsimp only at moved same
  subst same
  by_cases handles : label.isHandle = true
  · cases label with
    | handle evt readings =>
        have kept := (AgvCar.sends_handleEvent moved).1.lastPathMag
        rw [AgvCar.savedAfter_sentBy] at kept
        by_cases sent : ∃ target ∈ car.prepares readings evt, target.Sendable
        · rcases sent with ⟨target, isPrepared, sendable⟩
          rw [isPrepared, Option.filter_some, if_pos (by simpa using sendable)] at kept
          constructor
          · exact .inr (kept ▸ sendable)
          · intro other isOther _
            simp only [observePrepared] at isOther
            split at isOther
            · cases isOther
            · rw [isPrepared] at isOther
              cases isOther
              exact kept
        · have nothing : (car.prepares readings evt).filter (fun target => target.Sendable) =
              none := by
            rw [Option.filter_eq_none_iff]
            intro target isPrepared sendable
            exact sent ⟨target, isPrepared, by simpa using sendable⟩
          rw [nothing] at kept
          constructor
          · exact kept.symm ▸ saves.saved
          · intro target isTarget sendable
            simp only [observePrepared] at isTarget
            split at isTarget
            · cases isTarget
            · rcases Option.or_eq_some_iff.mp isTarget with isPrepared | ⟨-, before⟩
              · exact absurd ⟨target, isPrepared, sendable⟩ sent
              · exact kept.trans (saves.prepared target before sendable)
    | _ => cases handles
  · have kept := (AgvCar.background_carStep (Bool.eq_false_iff.mpr handles) moved).lastPathMag
    have unchanged : observePrepared car label after prepared = prepared := by
      cases label with
      | handle evt readings => exact absurd rfl handles
      | _ => rfl
    constructor
    · exact kept.symm ▸ saves.saved
    · intro target isTarget sendable
      rw [unchanged] at isTarget
      exact kept.trans (saves.prepared target isTarget sendable)

/-- The saved target is sent as it was prepared exactly if it was saved and has its action
as lift height. -/
theorem Saves.resends_iff (saves : Saves paired) (split : PathMag → Split) :
    (paired.1.controler.resumedEntry split).toList.map (·.target.commanded) =
        (paired.2.map PathMag.commanded).toList ↔
      match paired.2 with
      | none => paired.1.controler.lastPathMag.station = 0
      | some target =>
          target.Sendable ∧ target.station ≠ 0 ∧ target.liftHeight = target.action := by
  rcases paired with ⟨car, _ | target⟩
  · rw [CarControler.resumedEntry]
    split
    next absent => simpa using absent
    next present => simpa using present
  · rw [CarControler.resumedEntry]
    split
    next absent =>
      have never : ¬ (target.Sendable ∧ target.station ≠ 0 ∧
          target.liftHeight = target.action) := by
        rintro ⟨sendable, station, -⟩
        exact station (saves.prepared target rfl sendable ▸ absent)
      simpa using never
    next present =>
      have sendable := saves.saved.resolve_left present
      simp only [Option.toList_some, List.map_cons, List.map_nil, Option.map_some,
        List.cons.injEq, and_true, CarControler.entry, PathMag.commanded]
      constructor
      · intro same
        simp only [PathMag.mk.injEq] at same
        rcases same with ⟨station, mode, -, -, -, angle, -, action, height⟩
        refine ⟨?_, station ▸ present, height.symm.trans action⟩
        rw [PathMag.Sendable] at sendable ⊢
        rwa [← mode, ← angle]
      · rintro ⟨ready, -, height⟩
        rw [saves.prepared target rfl ready, ← height]

/-- In every run from start-up, whatever the path file and the settings hold, a run is
resumed with the prepared target exactly if it is only resumed when that was saved and has
its action as lift height. -/
theorem along_resumesPrepared_iff (labels : List CarStep) (router : RoutePlanner) :
    Along preparedStep ResumesPrepared labels ({ AgvCar.init with router }, none) ↔
      Along preparedStep Resumable labels ({ AgvCar.init with router }, none) := by
  have initial : Saves ({ AgvCar.init with router }, none) := by
    constructor
    · exact .inl rfl
    · intro target isTarget
      cases isTarget
  apply along_iff_of_guard _ _ initial
  · exact fun _ _ _ saves stepped _ => saves.step stepped
  · intro paired label next saves stepped
    cases label with
    | handle evt readings =>
        have issued := issued_carStep (monitored_eq_some stepped).1
        simp only [ResumesPrepared, Resumable]
        apply imp_congr_right
        intro resumed
        rw [issued, List.drop_left, CarStep.sent, AgvCar.sentBy_of_resumes resumed]
        exact saves.resends_iff readings.split
    | _ => exact Iff.rfl

/-- The car is stopped on the way to its second station, which has no lift height, and
started again. -/
theorem resumes_with_lift_height :
    ¬ ∀ labels : List CarStep, Along preparedStep ResumesPrepared labels (AgvCar.init, none) := by
  intro all
  have resumed := all (departure [stationAhead 1 1, stationAhead 2 1] ++
    [.loop 1, .arrive, .handle { event := .evNextPathPoint, param := 1 } {},
      .handle { event := .evKeyStop } {}, .handle { event := .evKeyStart } {}])
  exact absurd resumed (by decide)

end DrivingControl.Controler

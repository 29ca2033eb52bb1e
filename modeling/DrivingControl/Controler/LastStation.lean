import DrivingControl.Controler.PlannerMoves
import DrivingControl.Controler.PlannerTarget

/-!
# The last station

`lastStationPoint` is reported to the server as the last station the car has reached.  It is
written by every move of the cursor, with the station before the target: a look ahead from
the first way point leaves the first station behind, a jump the one that was jumped, and
the last station of a path is never written.

A history variable remembers the station of the last arrival.  The report is right along a
run exactly if every event that writes it, or that handles an arrival, meets with this
station.
-/

namespace DrivingControl.Controler

open DrivingControl.Comm DrivingControl.Event DrivingControl.Library

namespace RoutePlanner

variable {router other : RoutePlanner} {target following : WayPoint}

/-! ## The station before the target -/

theorem notedStation_eq (router : RoutePlanner) :
    router.notedStation =
      (if 0 ≤ router.lastPathId then router.ids[router.lastPathId.toNat]? else none).getD
        router.lastStationPoint := by
  rw [notedStation, getLastStation, ids]
  split
  · rw [List.getElem?_map]
  · rfl

@[simp] theorem ids_noteLastStation (router : RoutePlanner) :
    router.noteLastStation.ids = router.ids := by
  rw [ids, pathList_noteLastStation, ids]

/-- The station before the target is noted, at the first way point the first one. -/
structure LeftNoted (router : RoutePlanner) : Prop extends Coupled router where
  noted : router.ids[(router.targetPathId - 1).toNat]? = some router.lastStationPoint

/-- The end of a move notes the station, which at the first way point is there already. -/
theorem Coupled.leftNoted (coupled : router.Coupled)
    (within : (router.targetPathId - 1).toNat < router.ids.length)
    (first : router.targetPathId = 0 → router.ids[0]? = some router.lastStationPoint) :
    router.noteLastStation.LeftNoted := by
  have nonneg := coupled.nonneg
  refine ⟨coupled.noteLastStation, ?_⟩
  rw [ids_noteLastStation, targetPathId_noteLastStation, noteLastStation_eq, notedStation_eq,
    coupled.last]
  by_cases begins : router.targetPathId = 0
  · rw [if_neg (by omega), show (router.targetPathId - 1).toNat = 0 by omega]
    exact first begins
  · rw [if_pos (by omega), List.getElem?_eq_getElem within]
    rfl

theorem LeftNoted.within (left : router.LeftNoted) :
    (router.targetPathId - 1).toNat < router.ids.length :=
  (List.getElem?_eq_some_iff.mp left.noted).1

theorem LeftNoted.first (left : router.LeftNoted) (begins : router.targetPathId ≤ 1) :
    router.ids[0]? = some router.lastStationPoint := by
  have noted := left.noted
  rwa [show (router.targetPathId - 1).toNat = 0 by omega] at noted

theorem length_ids (router : RoutePlanner) : router.ids.length = router.pathList.length := by
  rw [ids, List.length_map]

/-- A move that succeeds notes the station it leaves. -/
theorem leftNoted_moveToNextStation (present : router.getTargetStation = some target)
    (follows : router.nextStation = some following) :
    router.moveToNextStation.1.LeftNoted := by
  have nonneg := targetPathId_nonneg present
  have moved := (moveToNextStation_some present follows).1
  have within := (List.getElem?_eq_some_iff.mp (getElem?_targetPathId present)).1
  rw [moveToNextStation] at moved ⊢
  split
  next nothing => exact absurd nothing (pathList_ne_nil present)
  next nonempty =>
    split
    next inside =>
      apply Coupled.leftNoted
      · exact ⟨by simp only; omega, by simp only; omega⟩
      · rw [length_ids]
        simp only
        omega
      · simp only
        omega
    next outside => simp [nonempty, outside] at moved

/-- What was noted stays in step with the cursor. -/
theorem LeftNoted.move (left : router.LeftNoted) (move : Move router other) :
    other.LeftNoted := by
  have nonneg := left.nonneg
  have within := left.within
  have sameIds := move.ids
  cases move with
  | next =>
      rw [moveToNextStation]
      split
      · exact left
      · split
        next inside =>
          apply Coupled.leftNoted
          · exact ⟨by simp only; omega, by simp only; omega⟩
          · rw [length_ids]
            simp only
            omega
          · simp only
            omega
        next outside =>
          exact left.toCoupled.leftNoted within fun begins => left.first (by omega)
  | back =>
      rw [moveToLastStation]
      split
      · exact left
      · split
        next behind =>
          apply Coupled.leftNoted
          · exact ⟨by simp only; omega, by simp only; omega⟩
          · rw [length_ids] at within ⊢
            simp only
            omega
          · intro begins
            simp only at begins
            exact left.first (by omega)
        next before =>
          exact left.toCoupled.leftNoted within fun begins => left.first (by omega)
  | rewrite change sameId =>
      refine ⟨left.toCoupled.move (.rewrite change sameId), ?_⟩
      rw [sameIds]
      exact left.noted
  | report taskReports => exact ⟨left.toCoupled.move (.report taskReports), left.noted⟩
  | inform informed =>
      refine ⟨left.toCoupled.move (.inform informed), ?_⟩
      rw [Informed] at informed
      rw [informed]
      exact left.noted

/-! ## A path of one way point -/

/-- At the only way point of a path, a station is noted that the next note would note
again. -/
structure NotedAlone (station : Int) (router : RoutePlanner) : Prop where
  target : router.targetPathId = 0
  alone : router.pathList.length ≤ 1
  noted : router.lastStationPoint = station
  again : router.notedStation = station

theorem notedAlone_noteLastStation (target : router.targetPathId = 0)
    (alone : router.pathList.length ≤ 1) :
    router.noteLastStation.NotedAlone router.notedStation := by
  constructor
  · rwa [targetPathId_noteLastStation]
  · rwa [pathList_noteLastStation]
  · rw [noteLastStation_eq]
  · rw [noteLastStation_eq, notedStation_eq]
    have ids : ({ router with
        lastStationPoint := router.notedStation
        setting := router.savedSetting } : RoutePlanner).ids = router.ids := rfl
    rw [ids]
    simp only [notedStation_eq]
    split
    · cases router.ids[router.lastPathId.toNat]? with
      | none => rfl
      | some station => rfl
    · rfl

/-- There the cursor does not move. -/
theorem NotedAlone.move {station : Int} (noted : router.NotedAlone station)
    (move : Move router other) : other.NotedAlone station := by
  have again := notedAlone_noteLastStation noted.target noted.alone
  rw [noted.again] at again
  have target := noted.target
  have alone := noted.alone
  have sameIds := move.ids
  cases move with
  | next =>
      rw [moveToNextStation]
      rw [if_neg (show ¬ router.targetPathId < router.pathList.length - 1 by omega)]
      split
      · exact noted
      · exact again
  | back =>
      rw [moveToLastStation]
      rw [if_neg (show ¬ router.targetPathId ≥ 1 by omega)]
      split
      · exact noted
      · exact again
  | rewrite change sameId =>
      refine ⟨target, ?_, noted.noted, ?_⟩
      · rwa [← length_ids, sameIds, length_ids]
      · have same := noted.again
        rw [notedStation_eq] at same ⊢
        rw [sameIds]
        exact same
  | report taskReports => exact ⟨target, alone, noted.noted, noted.again⟩
  | inform informed =>
      rw [Informed] at informed
      rw [informed]
      exact ⟨target, alone, noted.noted, noted.again⟩

/-! ## What is written -/

/-- Whether the way point behind the target is jumped at the end of an action. -/
def jumpsAhead (readings : Readings) (router : RoutePlanner) : Bool :=
  jumpsTarget readings { router.finishStation with targetPathId := router.targetPathId + 1 }

/-- The station that a start from the first way point writes. -/
def stationAtStart (router : RoutePlanner) : Int :=
  match router.getTargetStation, router.nextStation with
  | some target, some _ => target.id
  | _, _ => router.notedStation

/-- The station that the end of an action writes: the one the car goes on from, or the one
that is jumped.  At the last way point it is the station before. -/
def stationLeft (readings : Readings) (router : RoutePlanner) : Int :=
  match router.getTargetStation, router.nextStation with
  | some target, some next => if router.jumpsAhead readings then next.id else target.id
  | _, _ => router.notedStation

/-- The cursor moves by one, and by one more when a way point is jumped. -/
theorem targetPathId_goOn (readings : Readings) (router : RoutePlanner) :
    (router.goOn readings).targetPathId =
      router.targetPathId + if router.jumpsAhead readings then 2 else 1 := by
  rw [goOn, chooseNext]
  have finished : router.finishStation.targetPathId = router.targetPathId := rfl
  dsimp only
  split
  next cur last here further =>
    rw [jumpsAhead]
    rw [finished]
    split
    · exact Int.add_assoc _ 1 1
    · rfl
  next absent =>
    have stays : router.jumpsAhead readings = false := by
      rw [jumpsAhead, jumpsTarget]
      split
      next cur next here further => exact absurd further (absent cur next here)
      next => rfl
    rw [stays]
    rfl

theorem moveToNextStation_last (present : router.getTargetStation = some target)
    (last : router.nextStation = none) :
    router.moveToNextStation = (router.noteLastStation, false) := by
  have nonneg := targetPathId_nonneg present
  rw [nextStation, if_pos nonneg, List.getElem?_eq_none_iff] at last
  rw [moveToNextStation, if_neg (pathList_ne_nil present), if_neg (by omega)]

theorem getElem?_ids (present : router.getTargetStation = some target) :
    router.ids[router.targetPathId.toNat]? = some target.id := by
  rw [ids, List.getElem?_map, getElem?_targetPathId present]
  rfl

theorem getElem?_ids_succ (follows : router.nextStation = some following) :
    router.ids[router.targetPathId.toNat + 1]? = some following.id := by
  rw [nextStation] at follows
  split at follows
  · rw [ids, List.getElem?_map, follows]
    rfl
  · cases follows

end RoutePlanner

namespace AgvCar

open RoutePlanner

variable {readings : Readings} {car next : AgvCar} {target : WayPoint} {evt : AgvEvent}

theorem Informs.lastStationPoint (informs : Informs car next) :
    next.router.lastStationPoint = car.router.lastStationPoint := by
  rw [Informs, Informed] at informs
  rw [informs]

theorem lastStationPoint_startRun (first : car.startsFirst = true)
    (handled : car.startRun readings = some next) :
    next.router.lastStationPoint = car.router.stationAtStart := by
  have moves := moves_startRun first handled
  simp only [startsFirst, decide_eq_true_iff] at first
  rcases first with ⟨automatic, nonempty, cursor⟩
  cases starts_startRun automatic handled with
  | empty nothing same => exact absurd nothing nonempty
  | resumes _ behind => exact absurd cursor behind
  | first path _ present departs =>
      rw [stationAtStart]
      rw [present]
      cases follows : car.router.nextStation with
      | none =>
          rw [moveToNextStation_last present follows] at moves
          have alone : car.router.pathList.length ≤ 1 := by
            rw [nextStation, if_pos (by omega), List.getElem?_eq_none_iff] at follows
            omega
          exact (moves.keeps NotedAlone.move (notedAlone_noteLastStation cursor alone)).noted
      | some following =>
          have left := moves.keeps LeftNoted.move (leftNoted_moveToNextStation present follows)
          have stays := departs.rewrites.targetPathId.trans cursor
          have noted := left.first (by omega)
          rw [moves.ids, Move.next.ids, show (0 : Nat) = car.router.targetPathId.toNat by omega,
            getElem?_ids present] at noted
          exact (Option.some.inj noted).symm

theorem notedStation_finishing (target : WayPoint) (car : AgvCar) :
    (car.finishing target).notedStation = car.router.notedStation := by
  rw [notedStation_eq, notedStation_eq, (moves_finishing target car).ids]
  rfl

theorem lastStationPoint_onStationActionFinished
    (present : car.router.getTargetStation = some target)
    (unfinished : target.actionFinish = false)
    (handled : car.onStationActionFinished readings = some next) :
    next.router.lastStationPoint = car.router.stationLeft readings := by
  have marked := rewritesTarget_finishStation present
  have route : SameRoute car.router.finishStation (car.finishing target) := ⟨rfl, rfl⟩
  have seen := route.getTargetStation.trans (marked.present present)
  have behind := route.nextStation.trans marked.nextStation
  have moves := moves_onStationActionFinished present unfinished handled
  rw [stationLeft]
  rw [present]
  cases follows : car.router.nextStation with
  | none =>
      rw [onStationActionFinished_next readings present unfinished] at handled
      change (goToNextPoint readings false { car with
        router := car.finishing target, currentPathAction := 0 }).map _ = some next at handled
      rw [goToNextPoint, moveToNextStation_last seen (behind.trans follows)] at handled
      cases handled
      change (car.finishing target).noteLastStation.lastStationPoint = car.router.notedStation
      rw [noteLastStation_eq, notedStation_finishing]
  | some following =>
      have left := moves.keeps LeftNoted.move
        (leftNoted_moveToNextStation seen (behind.trans follows))
      have noted := left.noted
      have nonneg := targetPathId_nonneg present
      rw [moves.ids, Move.next.ids, (moves_finishing target car).ids] at noted
      cases finishes_onStationActionFinished handled with
      | again other same finished =>
          cases present.symm.trans same
          exact absurd (unfinished.symm.trans finished) (by decide)
      | last other same _ last => cases follows.symm.trans last
      | goes other path same _ chosen departs =>
          rw [departs.rewrites.targetPathId] at noted
          change car.router.ids[((car.router.goOn readings).targetPathId - 1).toNat]? = _ at noted
          rw [targetPathId_goOn] at noted
          dsimp only
          split at noted
          next jumps =>
            rw [if_pos jumps]
            rw [show (car.router.targetPathId + 2 - 1).toNat =
              car.router.targetPathId.toNat + 1 by omega, getElem?_ids_succ follows] at noted
            exact (Option.some.inj noted).symm
          next stays =>
            rw [if_neg stays]
            rw [show (car.router.targetPathId + 1 - 1).toNat =
              car.router.targetPathId.toNat by omega, getElem?_ids present] at noted
            exact (Option.some.inj noted).symm

theorem lastStationPoint_onArrivedStation (present : car.router.getTargetStation = some target)
    (handled : car.onArrivedStation readings = some next) :
    next.router.lastStationPoint =
      if car.completes target && !target.actionFinish then car.router.stationLeft readings
      else car.router.lastStationPoint := by
  have performs := performs_doPathPointAction target car
  have informs := informs_doPathPointAction target car
  have seen := performs.route.getTargetStation.trans present
  rw [onArrivedStation] at handled
  simp only [present, performs.ret] at handled
  split at handled
  next done =>
    rw [done, Bool.true_and]
    cases finished : target.actionFinish with
    | true =>
        simp only [onStationActionFinished, onActionFinished, seen, finished, if_true] at handled
        cases handled
        exact informs.lastStationPoint
    | false =>
        rw [lastStationPoint_onStationActionFinished seen finished handled]
        have same : Informed car.router (car.doPathPointAction target).1.router := informs
        rw [Informed] at same
        rw [same]
        rfl
  next moving =>
    rw [Bool.eq_false_iff.mpr moving]
    cases handled
    exact informs.lastStationPoint

/-- Loading a path leaves the last station. -/
theorem lastStationPoint_of_loadsPath (loads : loadsPath evt.event = true)
    (handled : car.handleEvent readings evt = some next) :
    next.router.lastStationPoint = car.router.lastStationPoint := by
  have saved : ∀ (fileOpens all : Bool) (router : RoutePlanner),
      (router.savePathInfo fileOpens all).lastStationPoint = router.lastStationPoint := by
    intro fileOpens all router
    rw [savePathInfo]
    dsimp only
    split <;> rfl
  have loaded : ∀ (fileOpens : Bool) (router : RoutePlanner),
      (router.loadPathInfo fileOpens).lastStationPoint = router.lastStationPoint := by
    intro fileOpens router
    rw [loadPathInfo]
    split
    · rfl
    · split <;> rfl
  cases handlesPath_of_loadsPath loads handled with
  | nullPath kind null => rfl
  | newPath kind present =>
      unfold onGetNewPath
      dsimp only
      split
      · exact saved _ _ _
      · exact saved _ _ _
  | pathFinished kind =>
      unfold onPathFinished
      dsimp only
      split
      · exact (loaded _ _).trans (saved _ _ _)
      · exact (loaded _ _).trans (saved _ _ _)
  | autoMode kind =>
      rw [onKeyAutoMode]
      split
      · exact (loaded _ _).trans (saved _ _ _)
      · rfl
  | networkOK kind => exact loaded _ _

/-- An arrival writes its own station when its action is complete and the car goes on to the
next way point without a jump.  Otherwise another way point has the same station, or it is
reported already. -/
def NotesArrival (readings : Readings) (target : WayPoint) (car : AgvCar) : Prop :=
  if car.completes target && !target.actionFinish then
    match car.router.nextStation with
    | some following => car.router.jumpsAhead readings = true → following.id = target.id
    | none => car.router.notedStation = target.id
  else car.router.lastStationPoint = target.id

theorem notesArrival_iff (present : car.router.getTargetStation = some target)
    (handled : car.onArrivedStation readings = some next) :
    next.router.lastStationPoint = target.id ↔ car.NotesArrival readings target := by
  rw [lastStationPoint_onArrivedStation present handled, NotesArrival]
  split
  · rw [stationLeft]
    rw [present]
    cases car.router.nextStation with
    | none => exact Iff.rfl
    | some following =>
        dsimp only
        split
        next jumps => simp [jumps]
        next stays => simp [stays]
  · exact Iff.rfl

/-- A start leaves the report if it writes the same station or goes on where it was. -/
theorem start_notes_iff
    (handled : (if car.operateMode = .autoMode then car.startRun readings else some car) =
      some next) :
    next.router.lastStationPoint = car.router.lastStationPoint ↔
      (car.startsFirst = true → car.router.stationAtStart = car.router.lastStationPoint) := by
  cases first : car.startsFirst with
  | true =>
      have automatic : car.operateMode = .autoMode := by
        simp only [startsFirst, decide_eq_true_iff] at first
        exact first.1
      rw [if_pos automatic] at handled
      rw [lastStationPoint_startRun first handled]
      exact ⟨fun same _ => same, fun same => same rfl⟩
  | false =>
      refine iff_of_true ?_ fun starts => absurd starts Bool.false_ne_true
      split at handled
      · exact (informs_startRun first handled).lastStationPoint
      · cases handled
        rfl

/-- So does the end of a lift. -/
theorem lift_notes_iff (handled : car.onLiftArrivedHeight readings = some next) :
    next.router.lastStationPoint = car.router.lastStationPoint ↔
      (car.currentPathAction = actionLiftUpDown →
        ∀ target ∈ car.router.getTargetStation, target.actionFinish = false →
          car.router.stationLeft readings = car.router.lastStationPoint) := by
  rw [onLiftArrivedHeight] at handled
  split at handled
  next lifting =>
    cases endsAction_onStationActionFinished handled with
    | again target present finished same =>
        subst same
        simp [present, finished]
    | goesOn target present unfinished result went same =>
        rw [lastStationPoint_onStationActionFinished present unfinished handled]
        simp [lifting, present, unfinished]
  next moving =>
    cases handled
    simp [moving]

/-- Manual mode forgets the last station when it is entered. -/
theorem lastStationPoint_onKeyManualMode (car : AgvCar) :
    car.onKeyManualMode.router.lastStationPoint =
      if car.operateMode = .manualMode then car.router.lastStationPoint else 0 := by
  rw [onKeyManualMode]
  by_cases manual : car.operateMode = .manualMode
  · rw [if_neg (not_not_intro manual), if_pos manual]
  · rw [if_pos manual, if_neg manual]
    rfl

/-- The events that can write the last station. -/
def writesLastStation : EventList → Bool
  | .evKeyStart | .evApplyPath | .evNextPathPoint | .evLiftArrived | .evKeyManualMode => true
  | _ => false

/-- Every other event leaves it. -/
theorem lastStationPoint_of_other (other : writesLastStation evt.event = false)
    (handled : car.handleEvent readings evt = some next) :
    next.router.lastStationPoint = car.router.lastStationPoint := by
  by_cases loads : loadsPath evt.event = true
  · exact lastStationPoint_of_loadsPath loads handled
  · by_cases sending : sendsTarget evt.event = true
    · cases handlesTarget_of_sendsTarget sending handled with
      | barrier kind automatic same =>
          exact same ▸ (informs_onBarrierMessage readings _ evt.param car).lastStationPoint
      | barrierIgnored kind manual same => rw [same]
      | start kind | startIgnored kind =>
          rcases kind with kind | kind <;> simp [kind, writesLastStation] at other
      | arrival kind | lift kind | liftIgnored kind => simp [kind, writesLastStation] at other
    · refine (informs_of_quiet (Bool.eq_false_iff.mpr sending) (Bool.eq_false_iff.mpr loads)
        ?_ handled).lastStationPoint
      intro manual
      simp [manual, writesLastStation] at other

end AgvCar

/-! ## Runs -/

/-- The station of the last arrival behind a step.  Manual mode forgets it. -/
def observeReached (car : AgvCar) (label : CarStep) (_ : AgvCar) (reached : Int) : Int :=
  match label with
  | .handle evt _ =>
      match evt.event with
      | .evNextPathPoint => car.router.targetId.getD reached
      | .evKeyManualMode => if car.operateMode = .manualMode then reached else 0
      | _ => reached
  | _ => reached

/-- The program beside the station of the last arrival. -/
def reachedStep : StepFn (AgvCar × Int) CarStep := monitored carStep observeReached

/-- Behind a step the reported station is the one of the last arrival. -/
def ReportsReached (_ : AgvCar × Int) (_ : CarStep) (next : AgvCar × Int) : Prop :=
  next.1.router.lastStationPoint = next.2

/-- A start from the first way point, and the end of a lift, write the station that is
reported already.  An arrival notes its own. -/
def WritesReached (paired : AgvCar × Int) (label : CarStep) (_ : AgvCar × Int) : Prop :=
  let car := paired.1
  match label with
  | .handle evt readings =>
      match evt.event with
      | .evKeyStart | .evApplyPath =>
          car.startsFirst = true → car.router.stationAtStart = car.router.lastStationPoint
      | .evNextPathPoint =>
          ∀ target ∈ car.router.getTargetStation, car.NotesArrival readings target
      | .evLiftArrived =>
          car.currentPathAction = actionLiftUpDown →
            ∀ target ∈ car.router.getTargetStation, target.actionFinish = false →
              car.router.stationLeft readings = car.router.lastStationPoint
      | _ => True
  | _ => True

instance (paired : AgvCar × Int) (label : CarStep) (next : AgvCar × Int) :
    Decidable (ReportsReached paired label next) :=
  inferInstanceAs (Decidable (_ = _))

/-- One step from a state with the right report. -/
theorem reportsReached_iff {paired next : AgvCar × Int} {label : CarStep}
    (right : paired.1.router.lastStationPoint = paired.2)
    (stepped : reachedStep label paired = some next) :
    ReportsReached paired label next ↔ WritesReached paired label next := by
  rcases paired with ⟨car, reached⟩
  rcases next with ⟨after, observed⟩
  rcases monitored_eq_some stepped with ⟨moved, same⟩
  dsimp only at right moved same
  subst same right
  cases label with
  | handle evt readings =>
      have handled : car.handleEvent readings evt = some after := moved
      simp only [ReportsReached, observeReached, WritesReached]
      cases named : evt.event with
      | evKeyStart | evApplyPath =>
          simp only [AgvCar.handleEvent, named] at handled
          exact AgvCar.start_notes_iff handled
      | evNextPathPoint =>
          simp only [AgvCar.handleEvent, named] at handled
          cases present : car.router.getTargetStation with
          | none => simp [AgvCar.onArrivedStation, present] at handled
          | some target =>
              rw [RoutePlanner.targetId_eq present]
              simpa using AgvCar.notesArrival_iff present handled
      | evLiftArrived =>
          simp only [AgvCar.handleEvent, named] at handled
          exact AgvCar.lift_notes_iff handled
      | evKeyManualMode =>
          simp only [AgvCar.handleEvent, named, Option.some.injEq] at handled
          subst handled
          simp [AgvCar.lastStationPoint_onKeyManualMode]
      | _ =>
          refine iff_of_true (AgvCar.lastStationPoint_of_other ?_ handled) trivial
          simp [named, AgvCar.writesLastStation]
  | _ =>
      have same := (AgvCar.background_carStep rfl moved).router
      simp [ReportsReached, observeReached, WritesReached, same]

/-- In every run, each event leaves the station of the last arrival as the reported one
exactly if each writes no other station, and an arrival writes its own or finds it there. -/
theorem along_reportsReached_iff (labels : List CarStep) (car : AgvCar) :
    Along reachedStep ReportsReached labels (car, car.router.lastStationPoint) ↔
      Along reachedStep WritesReached labels (car, car.router.lastStationPoint) := by
  let right : AgvCar × Int → Prop := fun paired => paired.1.router.lastStationPoint = paired.2
  have initial : right (car, car.router.lastStationPoint) := rfl
  apply along_iff_of_guard _ _ initial
  · intro paired label next before stepped writes
    exact (reportsReached_iff before stepped).mpr writes
  · intro paired label next before stepped
    exact reportsReached_iff before stepped

/-- A start looks ahead from the first of two stations: it is reported before the car has
reached it. -/
theorem look_ahead_reported :
    ¬ ∀ labels : List CarStep, Along reachedStep ReportsReached labels (AgvCar.init, 0) := by
  intro all
  have reported := all (departure [stationAhead 1 0, stationAhead 2 1])
  exact absurd reported (by decide)

end DrivingControl.Controler

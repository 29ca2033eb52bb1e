import DrivingControl.Controler.Arrivals
import DrivingControl.Controler.LiftFrame

/-!
# The completion of lifts

`DoPathPointAction` finishes a lift at once when the forks are at its height, and otherwise
leaves it to `OnLiftArrivedHeight`, which looks neither at the height nor at the point the
event was queued for.  A history variable counts the events that were queued before
`GoToNextPoint` gave the lifter the height of the planner's target.

A lift is finished at its height nevertheless if no event waits when the car begins to wait
for it, the path stays while it waits, and the lifter then stays at the height it reported.
-/

namespace DrivingControl.Controler

open DrivingControl.Comm DrivingControl.Event DrivingControl.Library

/-! ## The program beside the commanded heights -/

/-- One step of the program, in which only the lifter queues its arrivals. -/
def liftQueuedStep : StepFn AgvCar CarStep
  | .post evt, car => if evt.event = .evLiftArrived then none else queuedStep (.post evt) car
  | label, car => queuedStep label car

/-- The stale arrivals behind the taking of an event. -/
def takeLift (evt : AgvEvent) (stale : Option Nat) : Option Nat :=
  if evt.event = .evLiftArrived then stale.map (· - 1) else stale

/-- The stale arrivals behind a handler. -/
def commandLift (readings : Readings) (evt : AgvEvent) (car next : AgvCar)
    (stale : Option Nat) : Option Nat :=
  if car.leavesPoint readings evt then none
  else
    match car.preparesPoint readings evt with
    | none => stale
    | some _ =>
        if AgvCar.goesOn evt then some next.liftArrivals else stale.or (some next.liftArrivals)

/-- The lift arrivals that were queued before `GoToNextPoint` commanded the height of the
planner's target, once it did.  They are the oldest that wait. -/
def observeLift (car : AgvCar) (label : CarStep) (next : AgvCar) (stale : Option Nat) :
    Option Nat :=
  match label with
  | .handle evt readings => commandLift readings evt car next (takeLift evt stale)
  | _ => stale

/-- The program beside the number of stale arrivals. -/
def liftStep : StepFn (AgvCar × Option Nat) CarStep := monitored liftQueuedStep observeLift

namespace AgvCar

/-- The way point for which an event reaches `OnStationActionFinished`. -/
def finishesPoint (evt : AgvEvent) (car : AgvCar) : Option WayPoint :=
  match evt.event with
  | .evNextPathPoint =>
      car.router.getTargetStation.filter fun target => (car.doPathPointAction target).2 = 0
  | .evLiftArrived =>
      if car.currentPathAction = actionLiftUpDown then car.router.getTargetStation else none
  | _ => none

/-- The car waits for the lift. -/
def awaitsLift (car : AgvCar) : Bool := car.currentPathAction == actionLiftUpDown

/-- Whether the car waits for the lift behind an arrival at the target. -/
def beginsToAwait (evt : AgvEvent) (car : AgvCar) : Bool :=
  evt.event == .evNextPathPoint && car.router.getTargetStation.any fun target =>
    target.action == actionLiftUpDown &&
      (target.actionFinish || !car.controler.lifter.isArrived target.liftHeight)

end AgvCar

/-- Whether a reported height is the target height. -/
def Lifter.reportsTarget (height : UInt16) (lifter : Lifter) : Bool :=
  { lifter with currentHeight := height.toNat }.isArrived lifter.targetHeight

/-- A lift is finished while the forks are at its height, and by no event that was queued
for an earlier way point. -/
def CompletesLift (paired : AgvCar × Option Nat) (label : CarStep) (_ : AgvCar × Option Nat) :
    Prop :=
  match label with
  | .handle evt _ =>
      ∀ target ∈ paired.1.finishesPoint evt,
        (target.action = actionLiftUpDown →
          paired.1.controler.lifter.isArrived target.liftHeight = true) ∧
        (evt.event = .evLiftArrived → paired.2 = some 0)
  | _ => True

/-- When the car begins to wait for the lift, the height of the target was commanded and no
lift arrival waits.  While it waits, the planner keeps its way point, and the lifter is at
its target height when the top switch closes and while an arrival waits. -/
def LiftsInOrder (paired : AgvCar × Option Nat) (label : CarStep) (_ : AgvCar × Option Nat) :
    Prop :=
  match label with
  | .handle evt readings =>
      (paired.1.beginsToAwait evt = true →
        paired.2.isSome = true ∧ paired.1.liftArrivals = 0) ∧
      (paired.1.awaitsLift = true → paired.1.leavesPoint readings evt = false)
  | .lifter height lstatus =>
      paired.1.awaitsLift = true →
        0 < paired.1.liftArrivals ∨ lstatus = 2 ∧ paired.1.controler.lifter.liftStatus ≠ 2 →
          paired.1.controler.lifter.reportsTarget height = true
  | _ => True

instance (paired : AgvCar × Option Nat) (label : CarStep) (next : AgvCar × Option Nat) :
    Decidable (CompletesLift paired label next) :=
  match label with
  | .handle evt _ => inferInstanceAs (Decidable (∀ target ∈ paired.1.finishesPoint evt, _))
  | .post _ | .loop _ | .arrive | .halt | .lifter _ _ => isTrue trivial

instance (paired : AgvCar × Option Nat) (label : CarStep) (next : AgvCar × Option Nat) :
    Decidable (LiftsInOrder paired label next) :=
  match label with
  | .handle _ _ => inferInstanceAs (Decidable (_ ∧ _))
  | .lifter _ _ => inferInstanceAs (Decidable (_ → _ → _))
  | .post _ | .loop _ | .arrive | .halt => isTrue trivial

namespace AgvCar

open RoutePlanner

variable {readings : Readings} {evt : AgvEvent} {car next : AgvCar} {target : WayPoint}

/-! ## Waiting for the lift -/

/-- When an action is finished the car no longer waits for the lift, unless it was finished
before. -/
theorem Finishes.awaits (finishes : Finishes readings car next) (awaits : next.awaitsLift = true) :
    next = car ∧ ∃ target, car.router.getTargetStation = some target ∧
      target.actionFinish = true := by
  have reset : ∀ {first : AgvCar}, first.currentPathAction = 0 →
      next.currentPathAction = first.currentPathAction → False := by
    intro first zero same
    simp [awaitsLift, same, zero, actionLiftUpDown] at awaits
  cases finishes with
  | again target present finished same => exact ⟨same, target, present, finished⟩
  | last target present unfinished last keeps =>
      exact (reset rfl keeps.currentPathAction).elim
  | goes target path present unfinished chosen departs =>
      exact (reset rfl departs.currentPathAction).elim

theorem preparedBehind_of_finished (present : car.router.getTargetStation = some target)
    (finished : target.actionFinish = true) : car.router.preparedBehind readings = none := by
  simp [preparedBehind, present, finished]

theorem goesOn_of_quiet (quiet : sendsTarget evt.event = false) : goesOn evt = false := by
  cases named : evt.event with
  | evNextPathPoint | evLiftArrived => simp [named, sendsTarget] at quiet
  | _ => simp [goesOn, named]

theorem goesOn_start (kind : evt.event = .evKeyStart ∨ evt.event = .evApplyPath) :
    goesOn evt = false := by
  rcases kind with kind | kind <;> simp [goesOn, kind]

theorem goesOn_barrier (kind : IsBarrier evt.event) :
    goesOn evt = false := by
  rcases kind with kind | kind | kind | kind | kind <;> simp [goesOn, kind]

/-- The car only waits for the lift behind an event if it begins to, or waited before, and
then the planner does not go on. -/
theorem awaits_handleEvent (handled : car.handleEvent readings evt = some next)
    (awaits : next.awaitsLift = true) :
    car.beginsToAwait evt = true ∧ car.preparesPoint readings evt = none ∨
      car.awaitsLift = true ∧ evt.event ≠ .evNextPathPoint ∧
        (goesOn evt = true → car.preparesPoint readings evt = none) := by
  have before : next.currentPathAction = car.currentPathAction → car.awaitsLift = true := by
    intro same
    rwa [awaitsLift, same] at awaits
  have kept : next.currentPathAction = car.currentPathAction → goesOn evt = false →
      car.beginsToAwait evt = true ∧ car.preparesPoint readings evt = none ∨
        car.awaitsLift = true ∧ evt.event ≠ .evNextPathPoint ∧
          (goesOn evt = true → car.preparesPoint readings evt = none) := by
    intro same silent
    refine .inr ⟨before same, ?_, ?_⟩
    · intro named
      simp [goesOn, named] at silent
    · intro on
      exact absurd (silent.symm.trans on) (by decide)
  cases sends : sendsTarget evt.event with
  | true =>
      cases handlesTarget_of_sendsTarget sends handled with
      | arrival kind arrived =>
          rcases onArrivedStation_eq_some arrived with ⟨target, present, finished⟩
          have performs := performs_doPathPointAction target car
          have isLift : next = (car.doPathPointAction target).1 →
              target.action = actionLiftUpDown := by
            intro same
            have behind := performs.currentPathAction
            rw [← same] at behind
            simpa [awaitsLift, behind] using awaits
          refine .inl ?_
          simp only [preparesPoint, kind]
          rcases finished with ⟨done, finishes⟩ | ⟨moving, same⟩
          · rcases finishes.awaits awaits with ⟨same, other, seen, again⟩
            have isTarget : target = other := by
              rw [performs.route.getTargetStation, present] at seen
              exact Option.some.inj seen
            subst isTarget
            refine ⟨by simp [beginsToAwait, kind, present, isLift same, again], ?_⟩
            simp only [present, done, if_true]
            exact preparedBehind_of_finished present again
          · have action := isLift same
            have away : car.controler.lifter.isArrived target.liftHeight = false :=
              (completes_lift action car).symm.trans moving
            refine ⟨by simp [beginsToAwait, kind, present, action, away], ?_⟩
            simp [present, moving]
      | lift kind lifting finished =>
          rcases (finishes_onStationActionFinished finished).awaits awaits with
            ⟨same, target, present, again⟩
          refine .inr ⟨before (congrArg _ same), by simp [kind], fun _ => ?_⟩
          simp only [preparesPoint, kind]
          rw [if_pos lifting]
          exact preparedBehind_of_finished present again
      | liftIgnored kind other same =>
          subst same
          exact absurd (by simpa [awaitsLift] using awaits) other
      | start kind automatic started =>
          have stays : next.currentPathAction = car.currentPathAction := by
            cases starts_startRun automatic started with
            | empty nothing same => rw [same]
            | first path cursor present departs => exact departs.currentPathAction
            | resumes nonempty cursor resends status => exact resends.currentPathAction
          exact kept stays (goesOn_start kind)
      | startIgnored kind manual same => exact kept (by rw [same]) (goesOn_start kind)
      | barrier kind automatic same =>
          have resends := resends_onBarrierMessage readings evt.event evt.param car
          exact kept (same ▸ resends.currentPathAction) (goesOn_barrier kind)
      | barrierIgnored kind manual same => exact kept (by rw [same]) (goesOn_barrier kind)
  | false =>
      exact kept (calm_of_quiet sends handled).currentPathAction (goesOn_of_quiet sends)

theorem leavesPoint_of_beginsToAwait (begins : car.beginsToAwait evt = true) :
    car.leavesPoint readings evt = false := by
  simp only [beginsToAwait, Bool.and_eq_true, beq_iff_eq] at begins
  simp [leavesPoint, replacesPath, begins.1]

/-! ## What the lifter reports -/

/-- A height of a status frame is where the forks are, and is only an arrival at the target
height. -/
theorem noteHeight_spec (height : Int) (lifter : Lifter) (events : EventHelper) :
    Lifter.Aims none { lifter with currentHeight := height } (lifter.noteHeight height events).1 ∧
      (lifter.noteHeight height events).1.liftStatus = lifter.liftStatus ∧
      Controler.liftArrivals events ≤
        Controler.liftArrivals (lifter.noteHeight height events).2 ∧
      (Controler.liftArrivals (lifter.noteHeight height events).2 =
          Controler.liftArrivals events ∨
        { lifter with currentHeight := height }.isArrived lifter.targetHeight = true) := by
  rw [Lifter.noteHeight]
  split
  next same => exact ⟨same ▸ .refl _, rfl, Nat.le_refl _, .inl rfl⟩
  next =>
    have checked := Lifter.aims_liftIsArrived lifter.targetHeight
      { lifter with currentHeight := height }
    dsimp only
    split
    · split
      next arrived =>
        simp only [liftArrivals_sendEvent]
        exact ⟨checked, rfl, Nat.le_add_right _ _, .inr arrived⟩
      next => exact ⟨checked, rfl, Nat.le_refl _, .inl rfl⟩
    · exact ⟨.refl _, rfl, Nat.le_refl _, .inl rfl⟩

/-- The limit switches leave the forks, and only the top one tells of an arrival. -/
theorem noteStatus_spec (lstatus : Int) (lifter : Lifter) (events : EventHelper) :
    Lifter.Aims none lifter (lifter.noteStatus lstatus events).1 ∧
      Controler.liftArrivals events ≤
        Controler.liftArrivals (lifter.noteStatus lstatus events).2 ∧
      (Controler.liftArrivals (lifter.noteStatus lstatus events).2 =
          Controler.liftArrivals events ∨
        lstatus = 2 ∧ lifter.liftStatus ≠ 2) := by
  rw [Lifter.noteStatus]
  split
  · simp only [liftArrivals_sendEvent]
    exact ⟨⟨rfl, rfl⟩, Nat.le_refl _, .inl rfl⟩
  · split
    next top =>
      simp only [liftArrivals_sendEvent]
      exact ⟨⟨rfl, rfl⟩, Nat.le_add_right _ _, .inr top⟩
    next =>
      split
      · exact ⟨⟨rfl, rfl⟩, Nat.le_refl _, .inl rfl⟩
      · exact ⟨.refl _, Nat.le_refl _, .inl rfl⟩

/-- Behind a status frame the forks are at the target height exactly if the frame reports
it, and an arrival waits only if one waited, or the frame reports the target height or the
top switch. -/
theorem onLifterStatus_spec (height : UInt16) (lstatus : UInt8) (car : AgvCar) :
    (car.onLifterStatus height lstatus).controler.lifter.targetHeight =
        car.controler.lifter.targetHeight ∧
      car.liftArrivals ≤ (car.onLifterStatus height lstatus).liftArrivals ∧
      (car.onLifterStatus height lstatus).controler.lifter.isArrived
          car.controler.lifter.targetHeight = car.controler.lifter.reportsTarget height ∧
      (0 < (car.onLifterStatus height lstatus).liftArrivals →
        0 < car.liftArrivals ∨ car.controler.lifter.reportsTarget height = true ∨
          lstatus = 2 ∧ car.controler.lifter.liftStatus ≠ 2) := by
  let noted := car.controler.lifter.noteHeight height.toNat car.events
  have reported := noteHeight_spec height.toNat car.controler.lifter car.events
  have switched := noteStatus_spec lstatus.toNat noted.1 noted.2
  have aims := reported.1.before switched.1
  rcases reported with ⟨-, status, more, near⟩
  rcases switched with ⟨-, moreAgain, top⟩
  refine ⟨aims.targetHeight, Nat.le_trans more moreAgain, aims.isArrived _, fun waits => ?_⟩
  have counted : 0 < Controler.liftArrivals (noted.1.noteStatus lstatus.toNat noted.2).2 := waits
  rcases top with same | ⟨switched, other⟩
  · rcases near with unchanged | reported
    · rw [same, show Controler.liftArrivals noted.2 = _ from unchanged] at counted
      exact .inl counted
    · exact .inr (.inl reported)
  · refine .inr (.inr ⟨?_, status ▸ other⟩)
    apply UInt8.toNat_inj.mp
    exact Int.ofNat_inj.mp switched

end AgvCar

/-! ## The invariant -/

/-- The lifter aims at the height of a target that was commanded, and while the car waits
for the lift no arrival is stale and the forks are where an arrival that waits says. -/
structure LiftTracked (car : AgvCar) (stale : Option Nat) : Prop where
  aimed : stale.isSome = true → car.router.liftHeight = some car.controler.lifter.targetHeight
  waiting : ∀ count ∈ stale, count ≤ car.liftArrivals
  fresh : car.awaitsLift = true → stale = some 0
  arrived : car.awaitsLift = true → 0 < car.liftArrivals →
    car.controler.lifter.isArrived car.controler.lifter.targetHeight = true

theorem liftTracked_init (router : RoutePlanner) :
    LiftTracked { AgvCar.init with router } none := by
  constructor
  · exact (nomatch ·)
  · exact fun _ member => (nomatch member)
  · intro awaits
    cases awaits
  · intro awaits
    cases awaits

namespace LiftTracked

variable {readings : Readings} {evt : AgvEvent} {car next : AgvCar} {stale : Option Nat}

/-- A step of another thread that queues no lift arrival keeps the invariant. -/
theorem background (tracked : LiftTracked car stale) (router : next.router = car.router)
    (lifter : next.controler.lifter = car.controler.lifter)
    (waits : next.liftArrivals = car.liftArrivals)
    (action : next.currentPathAction = car.currentPathAction) : LiftTracked next stale := by
  constructor
  · rw [router, lifter]
    exact tracked.aimed
  · rw [waits]
    exact tracked.waiting
  · rw [AgvCar.awaitsLift, action]
    exact tracked.fresh
  · rw [AgvCar.awaitsLift, action, lifter, waits]
    exact tracked.arrived

/-- A status frame that keeps the lifter at its target keeps the invariant. -/
theorem status {height : UInt16} {lstatus : UInt8} (tracked : LiftTracked car stale)
    (near : car.awaitsLift = true →
      0 < car.liftArrivals ∨ lstatus = 2 ∧ car.controler.lifter.liftStatus ≠ 2 →
        car.controler.lifter.reportsTarget height = true) :
    LiftTracked (car.onLifterStatus height lstatus) stale := by
  rcases AgvCar.onLifterStatus_spec height lstatus car with ⟨target, more, arrived, waits⟩
  constructor
  · rw [target]
    exact tracked.aimed
  · exact fun count member => Nat.le_trans (tracked.waiting count member) more
  · exact tracked.fresh
  · intro awaits waiting
    rw [target, arrived]
    rcases waits waiting with waited | reported | top
    · exact near awaits (.inl waited)
    · exact reported
    · exact near awaits (.inr top)

/-- So does a turn of the motion thread. -/
theorem loop (tracked : LiftTracked car stale) (ret : Int) :
    LiftTracked (car.loop ret) stale := by
  rw [AgvCar.loop]
  dsimp only
  split
  · split
    · exact tracked.background rfl rfl rfl rfl
    · exact tracked.background rfl rfl (liftArrivals_pushEvent (by simp) _) rfl
  · exact tracked

/-- So does taking an event. -/
theorem take {rest : EventHelper} (tracked : LiftTracked car stale)
    (popped : car.events.popEvent = some (evt, rest)) :
    LiftTracked { car with events := rest } (takeLift evt stale) := by
  have fewer : Controler.liftArrivals rest ≤ car.liftArrivals := liftArrivals_popEvent popped
  have counted : car.liftArrivals = Controler.liftArrivals rest +
      if (evt.event == .evLiftArrived) = true then 1 else 0 :=
    EventHelper.count_popEvent _ popped
  constructor
  · intro commanded
    apply tracked.aimed
    rw [takeLift] at commanded
    split at commanded
    · simpa using commanded
    · exact commanded
  · intro count member
    change count ≤ Controler.liftArrivals rest
    rw [takeLift] at member
    split at member
    next lift =>
      obtain ⟨before, isBefore, rfl⟩ := Option.map_eq_some_iff.mp member
      have bound := tracked.waiting before isBefore
      rw [lift] at counted
      simp only [beq_self_eq_true, if_true] at counted
      omega
    next other =>
      have bound := tracked.waiting count member
      rw [if_neg (by simpa using other)] at counted
      omega
  · intro awaits
    rw [takeLift, tracked.fresh awaits]
    split <;> rfl
  · exact fun awaits waiting => tracked.arrived awaits (Nat.lt_of_lt_of_le waiting fewer)

/-- Handling an event keeps the invariant when the car begins to wait for a commanded lift
without an arrival in the queue, and stays at its way point while it waits. -/
theorem command (tracked : LiftTracked car stale)
    (handled : car.handleEvent readings evt = some next)
    (begins : car.beginsToAwait evt = true → stale.isSome = true ∧ car.liftArrivals = 0)
    (keeps : car.awaitsLift = true → car.leavesPoint readings evt = false) :
    LiftTracked next (commandLift readings evt car next stale) := by
  have aims := AgvCar.aims_handleEvent handled
  have waits := AgvCar.liftArrivals_handleEvent handled
  constructor
  · intro commanded
    rw [commandLift] at commanded
    split at commanded
    · cases commanded
    next stays =>
      rw [AgvCar.liftHeight_handleEvent (Bool.eq_false_iff.mpr stays) handled,
        aims.targetHeight]
      split at commanded
      next nothing =>
        rw [nothing]
        exact tracked.aimed commanded
      next path prepared =>
        rw [prepared]
        rfl
  · intro count member
    rw [commandLift] at member
    split at member
    · cases member
    · split at member
      · exact waits ▸ tracked.waiting count member
      · split at member
        · cases member
          exact Nat.le_refl _
        · rcases Option.or_eq_some_iff.mp member with before | ⟨-, now⟩
          · exact waits ▸ tracked.waiting count before
          · cases now
            exact Nat.le_refl _
  · intro awaits
    rw [commandLift]
    rcases AgvCar.awaits_handleEvent handled awaits with
      ⟨starts, nothing⟩ | ⟨before, -, stays⟩
    · rcases begins starts with ⟨commanded, empty⟩
      obtain ⟨count, isCount⟩ := Option.isSome_iff_exists.mp commanded
      have none : count = 0 := by
        have bound := tracked.waiting count isCount
        omega
      rw [AgvCar.leavesPoint_of_beginsToAwait starts, nothing, isCount, none]
      rfl
    · rw [keeps before, tracked.fresh before]
      split
      · contradiction
      · split
        · rfl
        next path prepared =>
          rw [if_neg fun on => by simp [stays on] at prepared]
          rfl
  · intro awaits waiting
    rw [waits] at waiting
    rcases AgvCar.awaits_handleEvent handled awaits with ⟨starts, -⟩ | ⟨before, -, stays⟩
    · rw [(begins starts).2] at waiting
      exact absurd waiting (Nat.lt_irrefl 0)
    · have arrived := tracked.arrived before waiting
      have aimed := tracked.aimed (by rw [tracked.fresh before]; rfl)
      have same : next.controler.lifter.targetHeight = car.controler.lifter.targetHeight := by
        rw [aims.targetHeight]
        cases prepared : car.preparesPoint readings evt with
        | none => rfl
        | some path =>
            have start : AgvCar.goesOn evt = false := by
              rw [Bool.eq_false_iff]
              intro on
              simp [stays on] at prepared
            rw [AgvCar.liftHeight_of_prepares start prepared] at aimed
            exact Option.some.inj aimed
      rw [same, aims.isArrived]
      exact arrived

end LiftTracked

/-! ## Runs -/

/-- Every step in order keeps the invariant. -/
theorem liftTracked_liftStep (paired : AgvCar × Option Nat) (label : CarStep)
    (next : AgvCar × Option Nat) (tracked : LiftTracked paired.1 paired.2)
    (stepped : liftStep label paired = some next) (inOrder : LiftsInOrder paired label next) :
    LiftTracked next.1 next.2 := by
  rcases monitored_eq_some stepped with ⟨moved, observed⟩
  rcases paired with ⟨car, stale⟩
  rcases next with ⟨next, after⟩
  dsimp only at moved observed tracked ⊢
  subst observed
  cases label with
  | handle evt readings =>
      rcases queuedStep_handle moved with ⟨rest, popped, handled⟩
      have fewer : AgvCar.liftArrivals { car with events := rest } ≤ car.liftArrivals :=
        liftArrivals_popEvent popped
      refine (tracked.take popped).command handled (fun begins => ?_) inOrder.2
      rcases inOrder.1 begins with ⟨commanded, empty⟩
      refine ⟨?_, Nat.le_zero.mp (Nat.le_trans fewer (Nat.le_of_eq empty))⟩
      rw [takeLift]
      split
      · simpa using commanded
      · exact commanded
  | post evt =>
      simp only [liftQueuedStep, queuedStep, carStep] at moved
      split at moved
      · cases moved
      next other =>
        split at moved
        · cases moved
        · cases moved
          exact tracked.background rfl rfl (liftArrivals_pushEvent other car.events) rfl
  | loop ret =>
      simp only [liftQueuedStep, queuedStep, carStep] at moved
      split at moved
      · cases moved
      · cases moved
        exact tracked.loop ret
  | arrive =>
      simp only [liftQueuedStep, queuedStep, carStep] at moved
      split at moved
      · cases moved
        exact tracked.background rfl rfl (liftArrivals_pushEvent (by simp) _) rfl
      · cases moved
  | halt =>
      simp only [liftQueuedStep, queuedStep, carStep] at moved
      split at moved
      · cases moved
        exact tracked.background rfl rfl rfl rfl
      · cases moved
  | lifter height lstatus =>
      cases moved
      exact tracked.status inOrder

/-- With the invariant, a lift that an event finishes is finished at its height. -/
theorem completesLift_liftStep (paired : AgvCar × Option Nat) (label : CarStep)
    (next : AgvCar × Option Nat) (tracked : LiftTracked paired.1 paired.2)
    (stepped : liftStep label paired = some next) : CompletesLift paired label next := by
  rcases paired with ⟨car, stale⟩
  cases label with
  | handle evt readings =>
      rcases queuedStep_handle (monitored_eq_some stepped).1 with ⟨rest, popped, -⟩
      dsimp only at popped tracked
      intro target finishes
      dsimp only [AgvCar.finishesPoint] at finishes ⊢
      cases named : evt.event with
      | evNextPathPoint =>
          simp only [named] at finishes
          obtain ⟨-, done⟩ := Option.mem_filter_iff.mp finishes
          refine ⟨fun action => ?_, (nomatch ·)⟩
          have completes := (AgvCar.performs_doPathPointAction target car).ret.mp
            (of_decide_eq_true done)
          exact (AgvCar.completes_lift action car).symm.trans completes
      | evLiftArrived =>
          simp only [named] at finishes
          split at finishes
          next lifting =>
            have awaits : car.awaitsLift = true := beq_iff_eq.mpr lifting
            have fresh := tracked.fresh awaits
            have waits : 0 < car.liftArrivals := liftArrivals_of_popEvent popped named
            have aimed := tracked.aimed (by rw [fresh]; rfl)
            rw [RoutePlanner.liftHeight, finishes] at aimed
            refine ⟨fun _ => ?_, fun _ => fresh⟩
            rw [show target.liftHeight = _ from Option.some.inj aimed]
            exact tracked.arrived awaits waits
          next => cases finishes
      | _ => simp [named] at finishes
  | _ => trivial

/-- In every run whose lifts are in order, whatever the path file and the settings hold at
start-up, every lift is finished at its height and by an arrival of its own. -/
theorem along_completesLift (labels : List CarStep) (router : RoutePlanner)
    (inOrder : Along liftStep LiftsInOrder labels ({ AgvCar.init with router }, none)) :
    Along liftStep CompletesLift labels ({ AgvCar.init with router }, none) :=
  along_of_guard liftTracked_liftStep
    (fun paired label next tracked stepped _ =>
      completesLift_liftStep paired label next tracked stepped)
    (liftTracked_init router) inOrder

/-! ## Sample runs -/

/-- A station that is driven to forward and whose forks go to a height. -/
def liftAhead (id liftHeight : UInt16) : StationInfo :=
  { stationAhead id 4 with liftHeight }

/-- The main loop handles an arrival of the lift. -/
def handleLift (height : Int) : CarStep :=
  .handle { event := .evLiftArrived, param := height } {}

/-- The forks go up while the car waits, and the car goes on to its last station. -/
def oneLift : List CarStep :=
  queuedDeparture [liftAhead 1 1000, stationAhead 2 1] ++
    [.loop 1, .arrive, handleArrival 1, .lifter 600 0, .lifter 980 0, handleLift 1000,
      .loop 1, .arrive, handleArrival 2]

theorem completesLift_oneLift :
    (run liftStep oneLift (AgvCar.init, none)).map
        (fun paired => (paired.1.router.targetPathId, paired.1.performed)) =
      some (1, [(0, 4), (1, 1)]) ∧
      Along liftStep CompletesLift oneLift (AgvCar.init, none) :=
  ⟨by decide, along_completesLift oneLift {} (by decide)⟩

/-- While the forks go up at a station, a new path is received and started.  Their top switch
then finishes the lift of its first station, which the car still drives to. -/
theorem top_switch_finishes_next_lift :
    ¬ ∀ labels : List CarStep, Along liftStep CompletesLift labels (AgvCar.init, none) := by
  intro completes
  have finished := completes (queuedDeparture [liftAhead 1 1000] ++
    [.loop 1, .arrive, handleArrival 1] ++ receivePath [liftAhead 2 200] ++
    [.handle { event := .evApplyPath } {}, .lifter 1000 2, handleLift 200])
  exact absurd finished (by decide)

end DrivingControl.Controler

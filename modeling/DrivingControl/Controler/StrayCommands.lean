import DrivingControl.Controler.CarControler
import DrivingControl.Controler.SteeringBaseControler

/-!
# Commands behind a stop

`StopCar` of the main loop clears the target and sends the speed zero.  The motion thread may be
in an iteration of `LoopRunning` then, and the commands of that iteration come behind the stop;
and the speed zero is not sent at all while the last report says that the car stands.  `Run` makes
good for both: behind every iteration it stops a car that moves without a target.

That stop is decided before it is carried out.  A target that is set in between is cleared.
-/

namespace DrivingControl.Controler

open DrivingControl.Devices DrivingControl.Library

/-- Where `CAgvCarControler::Run` is. -/
inductive RunPlace where
  | top
  /-- In `LoopRunning`, behind the check of `isRunning`. -/
  | driving
  /-- Behind `LoopRunning`. -/
  | driven
  /-- In `StopCar`, before the target is cleared. -/
  | stopping
  /-- In `StopCar`, before the speed is sent. -/
  | cleared
  deriving DecidableEq, Repr

/-- What the main loop and the motion thread share, and where the thread is. -/
structure CarThreads (Angle : Type) where
  isRunning : Bool := false
  carRunningMode : Int := stopMode
  operateMode : OperateMode := .noKownMode
  base : SteeringBaseControler Angle
  place : RunPlace := .top

/-- What happens next. -/
inductive ThreadLabel (Angle : Type) where
  /-- The thread goes on to its next place. -/
  | turn
  /-- A command of the iteration. -/
  | drives (command : DriveStep Angle)
  /-- A report of the device. -/
  | report (buf : Nat → UInt8) (len : Nat)
  /-- `StopCar` of the main loop: the target, and the speed. -/
  | clear
  | halt (enbreak : Bool)
  | setOperateMode (mode : OperateMode)
  /-- `SetTarget`: `CarRunningMode` is set first, and `isRunning` last. -/
  | beginTarget (mode : Int)
  | endTarget

variable {Angle : Type} (format : SteeringFormat Angle)

/-- A command is not a report. -/
def DriveStep.IsCommand : DriveStep Angle → Prop
  | .report _ _ => False
  | _ => True

instance : DecidablePred (@DriveStep.IsCommand Angle)
  | .report _ _ => isFalse id
  | .setSpeed _ | .setAngle _ | .setCarSpeed _ _ | .stopCar _ | .other _ => isTrue trivial

namespace CarThreads

variable (threads : CarThreads Angle)

/-- `ClearTarget`. -/
def clearTarget : CarThreads Angle :=
  { threads with isRunning := false, carRunningMode := stopMode }

def send (command : DriveStep Angle) : CarThreads Angle :=
  { threads with base := (drive format command threads.base).1 }

/-- The next place of `Run`, with what is done on the way. -/
def turn : CarThreads Angle :=
  match threads.place with
  | .top =>
      if threads.operateMode = .autoMode then
        { threads with place := if threads.isRunning then .driving else .driven }
      else threads
  | .driving => { threads with place := .driven }
  | .driven =>
      { threads with
        place := if threads.carRunningMode = stopMode ∧ 0 < threads.base.controler.speed then
          .stopping else .top }
  | .stopping => { threads.clearTarget with place := .cleared }
  | .cleared => { threads.send format (.stopCar false) with place := .top }

end CarThreads

/-- A step of the main loop, of the thread or of the device. -/
def carThreadsStep : StepFn (CarThreads Angle) (ThreadLabel Angle)
  | .turn, threads => some (threads.turn format)
  | .drives command, threads =>
      if threads.place = .driving ∧ command.IsCommand then some (threads.send format command)
      else none
  | .report buf len, threads => some (threads.send format (.report buf len))
  | .clear, threads => some threads.clearTarget
  | .halt enbreak, threads => some (threads.send format (.stopCar enbreak))
  | .setOperateMode mode, threads => some { threads with operateMode := mode }
  | .beginTarget mode, threads => some { threads with carRunningMode := mode }
  | .endTarget, threads => some { threads with isRunning := true }

/-- No target is set. -/
def ThreadLabel.SetsNone : ThreadLabel Angle → Prop
  | .beginTarget _ | .endTarget => False
  | _ => True

/-- The operate mode stays automatic. -/
def ThreadLabel.StaysAuto : ThreadLabel Angle → Prop
  | .setOperateMode mode => mode = .autoMode
  | _ => True

/-- The main loop leaves the target alone. -/
def ThreadLabel.LeavesTarget : ThreadLabel Angle → Prop
  | .clear | .beginTarget _ | .endTarget => False
  | _ => True

def ThreadLabel.isTurn : ThreadLabel Angle → Bool
  | .turn => true
  | _ => false

/-! ## What a stop sends -/

/-- Between two states no speed was sent but zero. -/
def SentNoSpeed (before after : List (List UInt8)) : Prop :=
  ∃ sent, after = before ++ sent ∧
    ∀ frame ∈ sent, frame.head? = some 0x14 → frame = Controler.speedFrame 0

theorem SentNoSpeed.refl (frames : List (List UInt8)) : SentNoSpeed frames frames :=
  ⟨[], (List.append_nil frames).symm, fun _ mem => absurd mem List.not_mem_nil⟩

theorem SentNoSpeed.trans {first second third : List (List UInt8)}
    (front : SentNoSpeed first second) (back : SentNoSpeed second third) :
    SentNoSpeed first third := by
  obtain ⟨sent, rfl, zeros⟩ := front
  obtain ⟨more, rfl, others⟩ := back
  refine ⟨sent ++ more, List.append_assoc first sent more, ?_⟩
  intro frame mem
  exact (List.mem_append.mp mem).elim (zeros frame) (others frame)

theorem SentNoSpeed.append (frames : List (List UInt8)) {frame : List UInt8}
    (zero : frame.head? = some 0x14 → frame = Controler.speedFrame 0) :
    SentNoSpeed frames (frames ++ [frame]) := by
  refine ⟨[frame], rfl, ?_⟩
  intro other mem
  cases List.mem_singleton.mp mem
  exact zero

/-- Once the speed zero is the last one on the bus it stays so. -/
theorem SentNoSpeed.lastCommand {before after : List (List UInt8)}
    (sent : SentNoSpeed before after)
    (zero : Controler.lastCommand 0x14 before = some (Controler.speedFrame 0)) :
    Controler.lastCommand 0x14 after = some (Controler.speedFrame 0) := by
  obtain ⟨sent, rfl, zeros⟩ := sent
  rw [Controler.lastCommand, List.filter_append, List.getLast?_append]
  cases last : (sent.filter (·.head? == some 0x14)).getLast? with
  | none => exact zero
  | some frame =>
      obtain ⟨mem, head⟩ := List.mem_filter.mp (List.mem_of_getLast? last)
      rw [zeros frame mem (beq_iff_eq.mp head)]
      rfl

namespace CarThreads

variable {format} {threads : CarThreads Angle}

/-- The frames on the bus. -/
def transmitted (threads : CarThreads Angle) : List (List UInt8) :=
  threads.base.controler.transmitted

/-- The speed that was reported last, and the one that was sent last. -/
def reported (threads : CarThreads Angle) : Int32 := threads.base.controler.speed

def lastSpeed (threads : CarThreads Angle) : Option (List UInt8) :=
  threads.base.controler.lastSpeed

theorem sentNoSpeed_stopCar (format : SteeringFormat Angle) (threads : CarThreads Angle)
    (enbreak : Bool) :
    SentNoSpeed threads.transmitted (threads.send format (.stopCar enbreak)).transmitted := by
  have stopped : SentNoSpeed threads.transmitted
      (threads.base.controler.setSpeed 0 0).1.transmitted := by
    rw [Controler.setSpeed]
    split
    · exact SentNoSpeed.refl _
    · exact SentNoSpeed.append _ fun _ => rfl
  cases enbreak with
  | false => exact stopped
  | true => exact stopped.trans (SentNoSpeed.append _ fun speeds => by cases speeds)

theorem transmitted_report (format : SteeringFormat Angle) (threads : CarThreads Angle)
    (buf : Nat → UInt8) (len : Nat) :
    (threads.send format (.report buf len)).transmitted = threads.transmitted := by
  change (threads.base.controler.parseData format.toAngleFormat buf len).1.transmitted = _
  rw [Controler.parseData, Controler.parseCanData]
  repeat' split
  all_goals rfl

theorem reported_stopCar (format : SteeringFormat Angle) (threads : CarThreads Angle)
    (enbreak : Bool) : (threads.send format (.stopCar enbreak)).reported = threads.reported := by
  have stopped : (threads.base.controler.setSpeed 0 0).1.speed = threads.reported := by
    rw [Controler.setSpeed]
    split
    · rfl
    · rfl
  cases enbreak with
  | false => exact stopped
  | true => exact stopped

theorem lastSpeed_stopCar (moving : 0 < threads.reported) (enbreak : Bool) :
    (threads.send format (.stopCar enbreak)).lastSpeed = some (Controler.speedFrame 0) := by
  have differs : threads.base.controler.speed ≠ 0 := by
    intro stands
    rw [reported, stands] at moving
    cases moving
  have stopped : (threads.base.controler.setSpeed 0 0).1.lastSpeed =
      some (Controler.speedFrame 0) := (Controler.lastSpeed_setSpeed _ 0).trans (if_neg differs)
  cases enbreak with
  | false => exact stopped
  | true => exact (Controler.lastSpeed_setBreak _ true).trans stopped

/-! ## A turn from each place -/

theorem turn_top (place : threads.place = .top) (auto : threads.operateMode = .autoMode) :
    threads.turn format =
      { threads with place := if threads.isRunning then .driving else .driven } := by
  rw [turn, place]
  exact if_pos auto

theorem turn_waiting (place : threads.place = .top) (other : threads.operateMode ≠ .autoMode) :
    threads.turn format = threads := by
  rw [turn, place]
  exact if_neg other

theorem turn_driving (place : threads.place = .driving) :
    threads.turn format = { threads with place := .driven } := by
  rw [turn, place]

theorem turn_driven (place : threads.place = .driven) :
    threads.turn format = { threads with
      place := if threads.carRunningMode = stopMode ∧ 0 < threads.reported then
        .stopping else .top } := by
  rw [turn, place, reported]

theorem turn_stopping (place : threads.place = .stopping) :
    threads.turn format = { threads.clearTarget with place := .cleared } := by
  rw [turn, place]

theorem turn_cleared (place : threads.place = .cleared) :
    threads.turn format = { threads.send format (.stopCar false) with place := .top } := by
  rw [turn, place]

/-! ## Behind the stop -/

/-- The target is cleared, and no iteration is under way. -/
structure Settled (threads : CarThreads Angle) : Prop where
  cleared : threads.isRunning = false
  stopped : threads.carRunningMode = stopMode
  notDriving : threads.place ≠ .driving

/-- Another place but that of an iteration. -/
theorem Settled.move (settled : threads.Settled) {place : RunPlace} (other : place ≠ .driving) :
    ({ threads with place } : CarThreads Angle).Settled :=
  { settled with notDriving := other }

theorem Settled.send (settled : threads.Settled) (command : DriveStep Angle) :
    (threads.send format command).Settled := { settled with }

/-- A turn of the thread behind the stop. -/
theorem Settled.turn (format : SteeringFormat Angle) (settled : threads.Settled) :
    (threads.turn format).Settled ∧
      SentNoSpeed threads.transmitted (threads.turn format).transmitted := by
  have same : SentNoSpeed threads.transmitted threads.transmitted := SentNoSpeed.refl _
  cases place : threads.place with
  | top =>
      by_cases auto : threads.operateMode = .autoMode
      · rw [turn_top place auto, if_neg (Bool.eq_false_iff.mp settled.cleared)]
        exact ⟨settled.move (by decide), same⟩
      · rw [turn_waiting place auto]
        exact ⟨settled, same⟩
  | driving => exact absurd place settled.notDriving
  | driven =>
      rw [turn_driven place]
      refine ⟨settled.move ?_, same⟩
      split
      · decide
      · decide
  | stopping =>
      have cleared : threads.clearTarget.Settled :=
        { settled with cleared := rfl, stopped := rfl }
      rw [turn_stopping place]
      exact ⟨cleared.move (by decide), same⟩
  | cleared =>
      rw [turn_cleared place]
      exact ⟨(settled.send (.stopCar false)).move (by decide),
        sentNoSpeed_stopCar format threads false⟩

/-- Behind the stop no step sends a speed but zero, until a target is set. -/
theorem Settled.step {label : ThreadLabel Angle} {next : CarThreads Angle}
    (settled : threads.Settled) (setsNone : label.SetsNone)
    (stepped : carThreadsStep format label threads = some next) :
    next.Settled ∧ SentNoSpeed threads.transmitted next.transmitted := by
  have same : SentNoSpeed threads.transmitted threads.transmitted := SentNoSpeed.refl _
  cases label with
  | turn =>
      cases stepped
      exact settled.turn format
  | drives command =>
      rw [carThreadsStep, if_neg fun drives => settled.notDriving drives.1] at stepped
      cases stepped
  | report buf len =>
      cases stepped
      refine ⟨settled.send _, ?_⟩
      rw [transmitted_report]
      exact same
  | clear =>
      cases stepped
      exact ⟨{ settled with cleared := rfl, stopped := rfl }, same⟩
  | halt enbreak =>
      cases stepped
      exact ⟨settled.send _, sentNoSpeed_stopCar format threads enbreak⟩
  | setOperateMode mode =>
      cases stepped
      exact ⟨{ settled with }, same⟩
  | beginTarget mode => exact setsNone.elim
  | endTarget => exact setsNone.elim

/-- The turns that the thread needs to stop a car that moves. -/
def turnsToStop : RunPlace → Nat
  | .top => 4
  | .driving => 4
  | .driven => 3
  | .stopping => 2
  | .cleared => 1

/-- The stop has been sent, or the car is known to move and the thread comes to its stop within
some turns. -/
structure ComesToStop (turns : Nat) (threads : CarThreads Angle) : Prop where
  settled : threads.Settled
  auto : threads.operateMode = .autoMode
  stops : threads.lastSpeed = some (Controler.speedFrame 0) ∨
    0 < threads.reported ∧ turnsToStop threads.place ≤ turns

/-- The device does not report that the car stands before it was told to. -/
def Honest (threads : CarThreads Angle) (_ : ThreadLabel Angle) (next : CarThreads Angle) : Prop :=
  0 < threads.reported → next.lastSpeed ≠ some (Controler.speedFrame 0) → 0 < next.reported

instance (threads next : CarThreads Angle) (label : ThreadLabel Angle) :
    Decidable (Honest threads label next) := inferInstanceAs (Decidable (_ → _ → _))

/-- A turn of the thread that comes to its stop. -/
theorem turn_moving (format : SteeringFormat Angle) (settled : threads.Settled)
    (auto : threads.operateMode = .autoMode) (moving : 0 < threads.reported) :
    (threads.turn format).lastSpeed = some (Controler.speedFrame 0) ∨
      0 < (threads.turn format).reported ∧
        turnsToStop (threads.turn format).place + 1 = turnsToStop threads.place := by
  cases place : threads.place with
  | top =>
      rw [turn_top place auto, if_neg (Bool.eq_false_iff.mp settled.cleared)]
      exact Or.inr ⟨moving, rfl⟩
  | driving => exact absurd place settled.notDriving
  | driven =>
      rw [turn_driven place, if_pos ⟨settled.stopped, moving⟩]
      exact Or.inr ⟨moving, rfl⟩
  | stopping =>
      rw [turn_stopping place]
      exact Or.inr ⟨moving, rfl⟩
  | cleared =>
      rw [turn_cleared place]
      exact Or.inl (lastSpeed_stopCar moving false)

theorem operateMode_turn (format : SteeringFormat Angle) (threads : CarThreads Angle) :
    (threads.turn format).operateMode = threads.operateMode := by
  cases place : threads.place with
  | top =>
      by_cases auto : threads.operateMode = .autoMode
      · rw [turn_top place auto]
      · rw [turn_waiting place auto]
  | driving => rw [turn_driving place]
  | driven => rw [turn_driven place]
  | stopping =>
      rw [turn_stopping place]
      rfl
  | cleared =>
      rw [turn_cleared place]
      rfl

theorem ComesToStop.turn {turns : Nat} (comes : threads.ComesToStop turns) :
    (threads.turn format).ComesToStop (turns - 1) := by
  obtain ⟨settled, sent⟩ := comes.settled.turn format
  exact {
    settled
    auto := (operateMode_turn format threads).trans comes.auto
    stops := by
      rcases comes.stops with zero | ⟨moving, near⟩
      · exact Or.inl (sent.lastCommand zero)
      · have turned := turn_moving format comes.settled comes.auto moving
        apply turned.imp_right
        rintro ⟨still, nearer⟩
        exact ⟨still, by omega⟩ }

theorem ComesToStop.step {turns : Nat} {label : ThreadLabel Angle} {next : CarThreads Angle}
    (comes : threads.ComesToStop turns) (setsNone : label.SetsNone) (staysAuto : label.StaysAuto)
    (stepped : carThreadsStep format label threads = some next)
    (honest : Honest threads label next) :
    next.ComesToStop (turns - if label.isTurn then 1 else 0) := by
  obtain ⟨settled, sent⟩ := comes.settled.step setsNone stepped
  have unturned (auto : next.operateMode = .autoMode) (place : next.place = threads.place) :
      next.ComesToStop turns := {
    settled
    auto
    stops := by
      by_cases zero : next.lastSpeed = some (Controler.speedFrame 0)
      · exact Or.inl zero
      · rcases comes.stops with stopped | ⟨moving, near⟩
        · exact absurd (sent.lastCommand stopped) zero
        · exact Or.inr ⟨honest moving zero, place ▸ near⟩ }
  cases label with
  | turn =>
      cases stepped
      exact comes.turn
  | drives command =>
      rw [carThreadsStep, if_neg fun drives => comes.settled.notDriving drives.1] at stepped
      cases stepped
  | report buf len =>
      cases stepped
      exact unturned comes.auto rfl
  | clear =>
      cases stepped
      exact unturned comes.auto rfl
  | halt enbreak =>
      cases stepped
      exact unturned comes.auto rfl
  | setOperateMode mode =>
      cases stepped
      exact unturned staysAuto rfl
  | beginTarget mode => exact setsNone.elim
  | endTarget => exact setsNone.elim

theorem ComesToStop.run {turns : Nat} {labels : List (ThreadLabel Angle)}
    {final : CarThreads Angle} (comes : threads.ComesToStop turns)
    (setsNone : ∀ label ∈ labels, label.SetsNone) (staysAuto : ∀ label ∈ labels, label.StaysAuto)
    (honest : Along (carThreadsStep format) Honest labels threads)
    (reached : Library.run (carThreadsStep format) labels threads = some final) :
    final.ComesToStop (turns - labels.countP ThreadLabel.isTurn) := by
  induction labels generalizing threads turns with
  | nil =>
      cases reached
      exact comes
  | cons label labels ih =>
      obtain ⟨next, stepped, rest⟩ := Option.bind_eq_some_iff.mp reached
      obtain ⟨here, later⟩ := honest next stepped
      have after := comes.step (setsNone label List.mem_cons_self)
        (staysAuto label List.mem_cons_self) stepped here
      have last := ih after (fun other mem => setsNone other (List.mem_cons_of_mem label mem))
        (fun other mem => staysAuto other (List.mem_cons_of_mem label mem)) later rest
      rw [List.countP_cons, Nat.add_comm, ← Nat.sub_sub]
      exact last

theorem Settled.run {labels : List (ThreadLabel Angle)} {final : CarThreads Angle}
    (settled : threads.Settled) (setsNone : ∀ label ∈ labels, label.SetsNone)
    (reached : Library.run (carThreadsStep format) labels threads = some final) :
    SentNoSpeed threads.transmitted final.transmitted := by
  induction labels generalizing threads with
  | nil =>
      cases reached
      exact SentNoSpeed.refl _
  | cons label labels ih =>
      obtain ⟨next, stepped, rest⟩ := Option.bind_eq_some_iff.mp reached
      obtain ⟨after, sent⟩ := settled.step (setsNone label List.mem_cons_self) stepped
      exact sent.trans
        (ih after (fun other mem => setsNone other (List.mem_cons_of_mem label mem)) rest)

/-- Once the target is cleared and the iteration is over, no speed but zero is sent until a target
is set, in any order of reports, stops and turns of the thread.  A speed that came behind the stop,
or for which the stop was not sent, is made good within four turns of the thread from the report
that the car moves. -/
theorem stop_made_good (format : SteeringFormat Angle) {labels : List (ThreadLabel Angle)}
    {start final : CarThreads Angle} (settled : start.Settled)
    (setsNone : ∀ label ∈ labels, label.SetsNone)
    (reached : Library.run (carThreadsStep format) labels start = some final) :
    SentNoSpeed start.transmitted final.transmitted ∧
      (start.operateMode = .autoMode → 0 < start.reported →
        (∀ label ∈ labels, label.StaysAuto) → Along (carThreadsStep format) Honest labels start →
          4 ≤ labels.countP ThreadLabel.isTurn →
            final.lastSpeed = some (Controler.speedFrame 0)) := by
  refine ⟨settled.run setsNone reached, ?_⟩
  intro auto moving staysAuto honest enough
  have near : turnsToStop start.place ≤ 4 := by
    cases start.place with
    | top => exact Nat.le_refl 4
    | driving => exact Nat.le_refl 4
    | driven => decide
    | stopping => decide
    | cleared => decide
  have comes : start.ComesToStop 4 := ⟨settled, auto, Or.inr ⟨moving, near⟩⟩
  have last := comes.run setsNone staysAuto honest reached
  rw [Nat.sub_eq_zero_of_le enough] at last
  rcases last.stops with zero | ⟨-, none⟩
  · exact zero
  · cases place : final.place with
    | top | driving | driven | stopping | cleared =>
        rw [place] at none
        cases none

/-- A car that was told 500 behind the stop, and has reported it. -/
def strayed (mode : OperateMode) (speed : Int32) : CarThreads Int32 where
  operateMode := mode
  base := {
    controler := { Controler.init hundredthsFormat.toAngleFormat with
      speed
      transmitted := [Controler.speedFrame 500] }
    targetLineSpeed := 0
    targetAngulaSpeed := 0
    currentDirection := 0 }

/-- Four turns of the thread. -/
def fourTurns : List (ThreadLabel Int32) := List.replicate 4 .turn

theorem stop_made_good_strayed :
    ∃ final, Library.run (carThreadsStep hundredthsFormat) fourTurns (strayed .autoMode 500) =
        some final ∧
      final.lastSpeed = some (Controler.speedFrame 0) := by
  have settled : (strayed .autoMode 500).Settled := ⟨rfl, rfl, by decide⟩
  have setsNone : ∀ label ∈ fourTurns, label.SetsNone := by
    intro label mem
    rw [List.eq_of_mem_replicate mem]
    trivial
  have staysAuto : ∀ label ∈ fourTurns, label.StaysAuto := by
    intro label mem
    rw [List.eq_of_mem_replicate mem]
    trivial
  have honest : Along (carThreadsStep hundredthsFormat) Honest fourTurns
      (strayed .autoMode 500) := by
    decide +kernel
  obtain ⟨final, reached⟩ : ∃ final, Library.run (carThreadsStep hundredthsFormat) fourTurns
      (strayed .autoMode 500) = some final := Option.isSome_iff_exists.mp rfl
  have good := (stop_made_good hundredthsFormat settled setsNone reached).2
  exact ⟨final, reached, good rfl (by decide) staysAuto honest (Nat.le_refl 4)⟩

/-- In the manual mode nothing is made good. -/
example : (Library.run (carThreadsStep hundredthsFormat) (List.replicate 9 .turn)
    (strayed .manualMode 500)).map lastSpeed = some (some (Controler.speedFrame 500)) := by
  decide +kernel

/-! ## The target behind the stop -/

/-- The thread has not decided to stop the car, and will not while the target is there. -/
structure Keeps (threads : CarThreads Angle) : Prop where
  undecided : threads.place ≠ .stopping
  mode : threads.carRunningMode ≠ stopMode

/-- The thread has decided to stop the car, or has forgotten the mode of the target. -/
def Drops (threads : CarThreads Angle) : Prop :=
  threads.place = .stopping ∨ threads.carRunningMode = stopMode

theorem Keeps.move (keeps : threads.Keeps) {place : RunPlace} (other : place ≠ .stopping) :
    ({ threads with place } : CarThreads Angle).Keeps :=
  { keeps with undecided := other }

theorem keeps_turn (keeps : threads.Keeps) :
    (threads.turn format).Keeps ∧ (threads.turn format).isRunning = threads.isRunning := by
  cases place : threads.place with
  | top =>
      by_cases auto : threads.operateMode = .autoMode
      · rw [turn_top place auto]
        refine ⟨keeps.move ?_, rfl⟩
        split
        · decide
        · decide
      · rw [turn_waiting place auto]
        exact ⟨keeps, rfl⟩
  | driving =>
      rw [turn_driving place]
      exact ⟨keeps.move (by decide), rfl⟩
  | driven =>
      rw [turn_driven place, if_neg fun stops => keeps.mode stops.1]
      exact ⟨keeps.move (by decide), rfl⟩
  | stopping => exact absurd place keeps.undecided
  | cleared =>
      have sent : (threads.send format (.stopCar false)).Keeps := { keeps with }
      rw [turn_cleared place]
      exact ⟨sent.move (by decide), rfl⟩

theorem keeps_step {label : ThreadLabel Angle} {next : CarThreads Angle} (keeps : threads.Keeps)
    (leaves : label.LeavesTarget) (stepped : carThreadsStep format label threads = some next) :
    next.Keeps ∧ next.isRunning = threads.isRunning := by
  cases label with
  | turn =>
      cases stepped
      exact keeps_turn keeps
  | drives command =>
      rw [carThreadsStep] at stepped
      split at stepped
      · cases stepped
        exact ⟨{ keeps with }, rfl⟩
      · cases stepped
  | report buf len =>
      cases stepped
      exact ⟨{ keeps with }, rfl⟩
  | clear => exact leaves.elim
  | halt enbreak =>
      cases stepped
      exact ⟨{ keeps with }, rfl⟩
  | setOperateMode mode =>
      cases stepped
      exact ⟨{ keeps with }, rfl⟩
  | beginTarget mode => exact leaves.elim
  | endTarget => exact leaves.elim

/-- A turn of the thread forgets the mode of the target, or leaves it. -/
theorem carRunningMode_turn (format : SteeringFormat Angle) (threads : CarThreads Angle) :
    (threads.turn format).carRunningMode =
      if threads.place = .stopping then stopMode else threads.carRunningMode := by
  cases place : threads.place with
  | top =>
      by_cases auto : threads.operateMode = .autoMode
      · rw [turn_top place auto]
        rfl
      · rw [turn_waiting place auto]
        rfl
  | driving =>
      rw [turn_driving place]
      rfl
  | driven =>
      rw [turn_driven place]
      rfl
  | stopping =>
      rw [turn_stopping place]
      rfl
  | cleared =>
      rw [turn_cleared place]
      rfl

theorem drops_step {label : ThreadLabel Angle} {next : CarThreads Angle} (drops : threads.Drops)
    (leaves : label.LeavesTarget) (stepped : carThreadsStep format label threads = some next) :
    next.Drops := by
  cases label with
  | turn =>
      cases stepped
      apply Or.inr
      rw [carRunningMode_turn]
      split
      next => rfl
      next other => exact drops.resolve_left other
  | drives command =>
      rw [carThreadsStep] at stepped
      split at stepped
      · cases stepped
        exact drops
      · cases stepped
  | report buf len =>
      cases stepped
      exact drops
  | clear => exact leaves.elim
  | halt enbreak =>
      cases stepped
      exact drops
  | setOperateMode mode =>
      cases stepped
      exact drops
  | beginTarget mode => exact leaves.elim
  | endTarget => exact leaves.elim

/-- Some turns of the thread clear the target. -/
def Falls (format : SteeringFormat Angle) (threads : CarThreads Angle) : Prop :=
  ∃ count final, Library.run (carThreadsStep format) (List.replicate count .turn) threads =
    some final ∧ final.isRunning = false

theorem falls_of_turn (falls : Falls format (threads.turn format)) : Falls format threads := by
  obtain ⟨count, final, reached, cleared⟩ := falls
  exact ⟨count + 1, final, reached, cleared⟩

theorem falls_stopping (place : threads.place = .stopping) : Falls format threads := by
  apply falls_of_turn
  rw [turn_stopping place]
  exact ⟨0, _, rfl, rfl⟩

section Forgotten

variable (forgotten : threads.carRunningMode = stopMode) (auto : threads.operateMode = .autoMode)
  (moving : 0 < threads.reported)

include forgotten moving

theorem falls_driven (place : threads.place = .driven) : Falls format threads := by
  apply falls_of_turn
  rw [turn_driven place, if_pos ⟨forgotten, moving⟩]
  exact falls_stopping rfl

theorem falls_driving (place : threads.place = .driving) : Falls format threads := by
  apply falls_of_turn
  rw [turn_driving place]
  exact falls_driven forgotten moving rfl

include auto

theorem falls_top (place : threads.place = .top) : Falls format threads := by
  apply falls_of_turn
  rw [turn_top place auto]
  split
  · exact falls_driving forgotten moving rfl
  · exact falls_driven forgotten moving rfl

theorem falls_cleared (place : threads.place = .cleared) : Falls format threads := by
  apply falls_of_turn
  rw [turn_cleared place]
  have still : 0 < (threads.send format (.stopCar false)).reported := by
    rw [reported_stopCar]
    exact moving
  exact falls_top forgotten auto still rfl

end Forgotten

/-- A car that moves in the automatic mode loses the target. -/
theorem Drops.falls (format : SteeringFormat Angle) (drops : threads.Drops)
    (auto : threads.operateMode = .autoMode) (moving : 0 < threads.reported) :
    Falls format threads := by
  cases place : threads.place with
  | stopping => exact falls_stopping place
  | top => exact falls_top (drops.resolve_left (place ▸ by decide)) auto moving place
  | driving => exact falls_driving (drops.resolve_left (place ▸ by decide)) moving place
  | driven => exact falls_driven (drops.resolve_left (place ▸ by decide)) moving place
  | cleared => exact falls_cleared (drops.resolve_left (place ▸ by decide)) auto moving place

/-- A report that the car moves. -/
def movingReport (i : Nat) : UInt8 := if i = 0 ∨ i = 5 then 1 else 0

theorem reported_movingReport (format : SteeringFormat Angle) (threads : CarThreads Angle) :
    0 < (threads.send format (.report movingReport 8)).reported := by
  have parsed : (threads.send format (.report movingReport 8)).reported = 1 := rfl
  rw [parsed]
  decide

theorem drops_run {labels : List (ThreadLabel Angle)} {final : CarThreads Angle}
    (drops : threads.Drops) (leaves : ∀ label ∈ labels, label.LeavesTarget)
    (reached : Library.run (carThreadsStep format) labels threads = some final) : final.Drops := by
  have step (before : CarThreads Angle) (label : ThreadLabel Angle) (next : CarThreads Angle)
      (drops : before.Drops) (stepped : carThreadsStep format label before = some next)
      (leaves : label.LeavesTarget) : next.Drops := drops_step drops leaves stepped
  exact invariant_of_guard step drops (along_of_forall leaves threads) reached

theorem keeps_run {labels : List (ThreadLabel Angle)} {final : CarThreads Angle}
    (keeps : threads.Keeps) (leaves : ∀ label ∈ labels, label.LeavesTarget)
    (reached : Library.run (carThreadsStep format) labels threads = some final) :
    final.Keeps ∧ final.isRunning = threads.isRunning := by
  have step (before : CarThreads Angle) (label : ThreadLabel Angle) (next : CarThreads Angle)
      (kept : before.Keeps ∧ before.isRunning = threads.isRunning)
      (stepped : carThreadsStep format label before = some next) (leaves : label.LeavesTarget) :
      next.Keeps ∧ next.isRunning = threads.isRunning := by
    obtain ⟨keeps, same⟩ := keeps_step kept.1 leaves stepped
    exact ⟨keeps, same.trans kept.2⟩
  exact invariant_of_guard step ⟨keeps, rfl⟩ (along_of_forall leaves threads) reached

/-- A continuation in which the target is lost. -/
theorem Drops.exists_lost (format : SteeringFormat Angle) (drops : threads.Drops) :
    ∃ later final, (∀ label ∈ later, label.LeavesTarget) ∧
      Library.run (carThreadsStep format) later threads = some final ∧ final.isRunning = false := by
  let auto : CarThreads Angle := { threads with operateMode := .autoMode }
  have moves : (auto.send format (.report movingReport 8)).Drops := drops
  obtain ⟨count, final, reached, lost⟩ :=
    moves.falls format rfl (reported_movingReport format auto)
  refine ⟨.setOperateMode .autoMode :: .report movingReport 8 :: List.replicate count .turn,
    final, ?_, ?_, lost⟩
  · intro label mem
    rcases List.mem_cons.mp mem with rfl | mem
    · trivial
    · rcases List.mem_cons.mp mem with rfl | mem
      · trivial
      · rw [List.eq_of_mem_replicate mem]
        trivial
  · rw [run_cons, carThreadsStep, Option.bind_some, run_cons, carThreadsStep, Option.bind_some]
    exact reached

end CarThreads

end DrivingControl.Controler

import DrivingControl.Controler.CarTargets

/-!
# The charge interlock

In automatic mode the car should send no target while the charge switch is on.  No
handler looks at the switch before it sends one, and a way point that turns it on is
left at once: a run respects the interlock exactly if every target is sent with the
switch off.
-/

namespace DrivingControl.Controler

open DrivingControl.Comm DrivingControl.Event DrivingControl.Library

/-- In automatic mode, the targets of a step are sent with the charge switch off. -/
def SentUncharged (car : AgvCar) (label : CarStep) (next : AgvCar) : Prop :=
  match label with
  | .handle _ _ =>
      car.operateMode = .autoMode →
        ∀ sent ∈ next.controler.issued.drop car.controler.issued.length, sent.charging = false
  | _ => next.controler.issued = car.controler.issued

/-- In automatic mode, no event sends a target when the switch is on or, at an arrival,
the action of the target turns it on. -/
def SwitchedOff (car : AgvCar) (label : CarStep) (_ : AgvCar) : Prop :=
  match label with
  | .handle evt readings =>
      car.operateMode = .autoMode → car.sends readings evt = true → car.charges evt = false
  | _ => True

instance (car : AgvCar) (label : CarStep) (next : AgvCar) :
    Decidable (SentUncharged car label next) :=
  match label with
  | .handle _ _ => inferInstanceAs (Decidable (_ → _))
  | .post _ | .loop _ | .arrive | .halt | .lifter _ _ => inferInstanceAs (Decidable (_ = _))

/-- One step. -/
theorem sentUncharged_iff_switchedOff (car : AgvCar) (label : CarStep) (next : AgvCar)
    (stepped : carStep label car = some next) :
    SentUncharged car label next ↔ SwitchedOff car label next := by
  have issued := issued_carStep stepped
  cases label with
  | handle evt readings =>
      simp only [SentUncharged, SwitchedOff]
      apply imp_congr Iff.rfl
      rw [issued, List.drop_left, CarStep.sent, ← AgvCar.isSome_sentBy]
      cases sent : car.sentBy readings evt with
      | none => simp
      | some entry => simp [AgvCar.charging_sentBy sent]
  | _ => simpa [SentUncharged, SwitchedOff, CarStep.sent] using issued

/-- In any order of events, no target is sent while the charge switch is on exactly when
every target is sent with the switch off before the event, and not from a way point that
turns it on. -/
theorem along_sentUncharged_iff (labels : List CarStep) (start : AgvCar) :
    Along carStep SentUncharged labels start ↔ Along carStep SwitchedOff labels start :=
  along_congr sentUncharged_iff_switchedOff labels start

/-- The car reaches a way point in the middle of the path where it charges: the switch is
turned on and the next way point is sent. -/
theorem leaves_charge_point :
    ¬ ∀ labels : List CarStep, Along carStep SentUncharged labels AgvCar.init := by
  intro uncharged
  have leaves := uncharged (departure [stationAhead 1 5, stationAhead 2 1] ++
    [.loop 1, .arrive, .handle { event := .evNextPathPoint, param := 1 } {}])
  exact absurd leaves (by decide)

end DrivingControl.Controler

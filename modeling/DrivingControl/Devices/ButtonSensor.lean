import DrivingControl.Event.EventHelper

/-!
# The buttons

`CAgvButtonSensor` receives the positions of all buttons in one frame and queues an
event for each one that changed.
-/

namespace DrivingControl.Devices

open DrivingControl.Event

/-- The buttons, in the order of their bytes in a frame. -/
inductive Key where
  | urgentStopKey | startOrStopKey | autoOrManualKey | liftUpOrDownKey
  deriving DecidableEq, Repr

/-- `CAgvButtonSensor`, with the static variables of `ParseCanData`. -/
structure ButtonSensor where
  keyStatus : Key → UInt8 := fun _ => 0
  /-- `flag` of the mode button. -/
  modeFlag : UInt8 := 0
  /-- `flag` of the lift button; -1 before it is pressed. -/
  liftFlag : Int := -1

namespace ButtonSensor

/-- Note the position of a button. -/
def note (key : Key) (value : UInt8) (sensor : ButtonSensor) : ButtonSensor :=
  { sensor with keyStatus := fun other => if other = key then value else sensor.keyStatus other }

/-- The body of the loop of `ParseCanData` for a button that changed, and the event it
queues. -/
def onChanged (key : Key) (value : UInt8) (sensor : ButtonSensor) :
    ButtonSensor × Option AgvEvent :=
  match key with
  | .urgentStopKey =>
      (sensor, if value = 1 then some { event := .evUrgentStop, priority := urgent } else none)
  | .startOrStopKey =>
      (sensor,
        if value = 1 then some { event := .evKeyStart }
        else if value = 2 then some { event := .evKeyStop, priority := urgent }
        else none)
  | .autoOrManualKey =>
      if (value = 1 ∨ value = 2) ∧ sensor.modeFlag ≠ value then
        ({ sensor with modeFlag := value },
          some { event := if value = 1 then .evKeyAutoMode else .evKeyManualMode })
      else (sensor, none)
  | .liftUpOrDownKey =>
      if (value = 1 ∨ value = 2) ∧ sensor.liftFlag ≠ value.toNat then
        ({ sensor with liftFlag := value.toNat },
          some { event := if value = 1 then .evKeyLiftUp else .evKeyLiftDown })
      else (sensor, none)

/-- One turn of that loop. -/
def parseKey (sensor : ButtonSensor) (key : Key) (value : UInt8) :
    ButtonSensor × Option AgvEvent :=
  if value = sensor.keyStatus key then (sensor, none)
  else
    let changed := sensor.onChanged key value
    (changed.1.note key value, changed.2)

/-- The loop over the buttons. -/
def parseKeys : List (Key × UInt8) → ButtonSensor → ButtonSensor × List AgvEvent
  | [], sensor => (sensor, [])
  | (key, value) :: keys, sensor =>
      let parsed := sensor.parseKey key value
      let rest := parseKeys keys parsed.1
      (rest.1, parsed.2.toList ++ rest.2)

/-- `ParseCanData`, with the events it queues and the value it returns. -/
def parseCanData (buf : List UInt8) (sensor : ButtonSensor) :
    ButtonSensor × List AgvEvent × Int :=
  match buf with
  | 0x01 :: urgentStop :: startOrStop :: autoOrManual :: liftUpOrDown :: _ =>
      let parsed := parseKeys [(.urgentStopKey, urgentStop), (.startOrStopKey, startOrStop),
        (.autoOrManualKey, autoOrManual), (.liftUpOrDownKey, liftUpOrDown)] sensor
      (parsed.1, parsed.2, 5)
  | 0x01 :: _ => (sensor, [], -1)
  | _ => (sensor, [], 0)

/-! ## What a frame queues -/

variable {sensor : ButtonSensor} {key : Key} {value : UInt8} {evt : AgvEvent}

/-- The events of the button that starts and stops the car. -/
def isStartOrStop (evt : AgvEvent) : Bool :=
  decide (evt = { event := .evKeyStart } ∨ evt = { event := .evKeyStop, priority := urgent })

/-- Only one button starts and stops the car. -/
theorem parseKey_startOrStop (queued : (sensor.parseKey key value).2 = some evt) :
    isStartOrStop evt = true ↔ key = .startOrStopKey := by
  rw [parseKey] at queued
  split at queued
  · cases queued
  · cases key with
    | urgentStopKey =>
        simp only [onChanged, Option.ite_none_right_eq_some, Option.some.injEq] at queued
        rcases queued with ⟨-, rfl⟩
        decide
    | startOrStopKey =>
        simp only [onChanged] at queued
        split at queued
        · cases queued
          decide
        · simp only [Option.ite_none_right_eq_some, Option.some.injEq] at queued
          rcases queued with ⟨-, rfl⟩
          decide
    | autoOrManualKey =>
        simp only [onChanged] at queued
        split at queued
        · cases queued
          split <;> decide
        · cases queued
    | liftUpOrDownKey =>
        simp only [onChanged] at queued
        split at queued
        · cases queued
          split <;> decide
        · cases queued

/-- What a button queues, if only the button that starts and stops the car may. -/
theorem parseKey_other (other : key ≠ .startOrStopKey)
    (only : ∀ evt ∈ (sensor.parseKey key value).2, isStartOrStop evt = true) :
    (sensor.parseKey key value).2 = none := by
  cases queued : (sensor.parseKey key value).2 with
  | none => rfl
  | some evt => exact absurd ((parseKey_startOrStop queued).mp (only evt queued)) other

/-- The other buttons queue nothing then. -/
theorem parseKeys_others {keys : List (Key × UInt8)}
    (others : .startOrStopKey ∉ keys.map Prod.fst)
    (only : ∀ evt ∈ (parseKeys keys sensor).2, isStartOrStop evt = true) :
    (parseKeys keys sensor).2 = [] := by
  induction keys generalizing sensor with
  | nil => rfl
  | cons entry keys ih =>
      rcases entry with ⟨key, value⟩
      simp only [List.map_cons, List.mem_cons, not_or] at others
      simp only [parseKeys, List.mem_append, Option.mem_toList] at only ⊢
      have first := parseKey_other (Ne.symm others.1) fun evt queued => only evt (.inl queued)
      have rest := ih others.2 fun evt queued => only evt (.inr queued)
      rw [first, rest]
      rfl

theorem length_parseKeys {keys : List (Key × UInt8)} (distinct : (keys.map Prod.fst).Nodup)
    (only : ∀ evt ∈ (parseKeys keys sensor).2, isStartOrStop evt = true) :
    (parseKeys keys sensor).2.length ≤ 1 := by
  induction keys generalizing sensor with
  | nil => exact Nat.zero_le 1
  | cons entry keys ih =>
      rcases entry with ⟨key, value⟩
      simp only [List.map_cons, List.nodup_cons] at distinct
      simp only [parseKeys, List.mem_append, Option.mem_toList] at only ⊢
      by_cases same : key = .startOrStopKey
      · subst same
        have rest := parseKeys_others distinct.1 fun evt queued => only evt (.inr queued)
        rw [rest, List.append_nil]
        exact Option.length_toList_le
      · have first := parseKey_other same fun evt queued => only evt (.inl queued)
        rw [first]
        exact ih distinct.2 fun evt queued => only evt (.inr queued)

/-- A frame in which only that button changed queues at most one event. -/
theorem length_parseCanData (buf : List UInt8) (sensor : ButtonSensor)
    (only : ∀ evt ∈ (sensor.parseCanData buf).2.1, isStartOrStop evt = true) :
    (sensor.parseCanData buf).2.1.length ≤ 1 := by
  simp only [parseCanData] at only ⊢
  split at only
  next => exact length_parseKeys (by simp) only
  next => exact Nat.zero_le 1
  next => exact Nat.zero_le 1

end ButtonSensor

end DrivingControl.Devices

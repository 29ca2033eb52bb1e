import DrivingControl.Controler.CarGauges

/-!
# The levels of an obstacle

A barrier event sets the flag of its distance and clears the two others, unless a nearer
barrier is noted or the event does not matter.  So the level that is set only comes nearer,
until an event tells that the barrier is gone or a start finds none.
-/

namespace DrivingControl.Controler

open DrivingControl.Event DrivingControl.Library

namespace Gauges

/-- How near the obstacle is that is noted: 3 for the nearest level, 0 for none. -/
def nearness (gauges : Gauges) : Nat :=
  if gauges.near then 3 else if gauges.mid then 2 else if gauges.far then 1 else 0

/-- At most one of the three flags is set. -/
def SingleLevel (gauges : Gauges) : Prop :=
  ¬(gauges.near = true ∧ gauges.mid = true) ∧ ¬(gauges.near = true ∧ gauges.far = true) ∧
    ¬(gauges.mid = true ∧ gauges.far = true)

/-- None of the three flags is set. -/
def NoLevel (gauges : Gauges) : Prop :=
  gauges.near = false ∧ gauges.mid = false ∧ gauges.far = false

variable {gauges : Gauges}

/-- Where the near flag is clear the level is at most the middle one. -/
theorem nearness_le_two (near : gauges.near = false) : gauges.nearness ≤ 2 := by
  rw [nearness, near]
  cases gauges.mid <;> cases gauges.far <;> decide

/-- Where the middle flag is clear as well the level is at most the far one. -/
theorem nearness_le_one (near : gauges.near = false) (mid : gauges.mid = false) :
    gauges.nearness ≤ 1 := by
  rw [nearness, near, mid]
  cases gauges.far <;> decide

theorem nearness_le_three (gauges : Gauges) : gauges.nearness ≤ 3 := by
  cases near : gauges.near with
  | true =>
      have full : gauges.nearness = 3 := if_pos near
      exact Nat.le_of_eq full
  | false => exact Nat.le_succ_of_le (nearness_le_two near)

theorem NoLevel.singleLevel (none : gauges.NoLevel) : gauges.SingleLevel := by
  obtain ⟨near, mid, far⟩ := none
  simp [SingleLevel, near, mid]

theorem noLevel_cleared (gauges : Gauges) : gauges.cleared.NoLevel := ⟨rfl, rfl, rfl⟩

end Gauges

/-- The barrier is gone, or a start finds none. -/
def FindsNoBarrier (label : CarStep) : Prop :=
  match label with
  | .handle evt readings =>
      evt.event = .evBarrierOk ∨
        ((evt.event = .evKeyStart ∨ evt.event = .evApplyPath) ∧ readings.laserStuta = 0)
  | _ => False

namespace AgvCar

variable {readings : Readings} {car next : AgvCar} {evt : AgvEvent} {label : CarStep}

/-- At most one flag is set behind a barrier event. -/
theorem singleLevel_barrierFlags (event : EventList) (single : car.gauges.SingleLevel) :
    (car.barrierFlags event).gauges.SingleLevel := by
  rw [gauges_barrierFlags]
  cases event with
  | evBarrierOk => exact (Gauges.noLevel_cleared _).singleLevel
  | evNearBarrier | evMidBarrier | evFarBarrier =>
      refine ⟨?_, ?_, ?_⟩ <;> rintro ⟨first, second⟩ <;> cases first <;> cases second
  | _ => exact single

/-- A barrier event that no nearer barrier hides sets a level that is as near, or clears
all. -/
theorem nearness_barrierFlags (kind : IsBarrier evt.event)
    (seen : car.hidesBarrier evt.event = false) :
    car.gauges.nearness ≤ (car.barrierFlags evt.event).gauges.nearness ∨
      evt.event = .evBarrierOk ∧ (car.barrierFlags evt.event).gauges.NoLevel := by
  rw [gauges_barrierFlags]
  rcases kind with named | named | named | named | named
  · rw [named]
    exact .inl car.gauges.nearness_le_three
  · rw [named] at seen ⊢
    have near : car.gauges.near = false := seen
    exact .inl (Gauges.nearness_le_two near)
  · rw [named] at seen ⊢
    obtain ⟨near, mid⟩ := Bool.or_eq_false_iff.mp seen
    have clear : car.gauges.near = false ∧ car.gauges.mid = false := ⟨near, mid⟩
    exact .inl (Gauges.nearness_le_one clear.1 clear.2)
  · rw [named]
    exact .inl (Nat.le_refl _)
  · rw [named]
    exact .inr ⟨rfl, Gauges.noLevel_cleared _⟩

/-- One step of the program: at most one level stays set, and it comes nearer unless the
step finds no barrier and clears all. -/
theorem levels_carStep (single : car.gauges.SingleLevel)
    (stepped : carStep label car = some next) :
    next.gauges.SingleLevel ∧
      (car.gauges.nearness ≤ next.gauges.nearness ∨
        FindsNoBarrier label ∧ next.gauges.NoLevel) := by
  cases handling : label.isHandle with
  | false =>
      rw [gauges_background handling stepped]
      exact ⟨single, .inl (Nat.le_refl _)⟩
  | true =>
      cases label with
      | handle evt readings =>
          cases handlesGauges_handleEvent stepped with
          | battery kind data same =>
              rw [same]
              exact ⟨single, .inl (Nat.le_refl _)⟩
          | started kind clear same =>
              have none : next.gauges.NoLevel := same ▸ Gauges.noLevel_cleared _
              exact ⟨none.singleLevel, .inr ⟨.inr ⟨kind, clear⟩, none⟩⟩
          | barrier kind automatic matters seen same =>
              rw [same]
              refine ⟨singleLevel_barrierFlags _ single, ?_⟩
              rcases nearness_barrierFlags kind seen with nearer | ⟨gone, none⟩
              · exact .inl nearer
              · exact .inr ⟨.inl gone, none⟩
          | kept other same =>
              rw [same]
              exact ⟨single, .inl (Nat.le_refl _)⟩
      | _ => cases handling

end AgvCar

/-- In every run, with any path stored at the start, at most one of the three flags is set, and
where the level that is set at one time is farther than the one that was set before, all three were
cleared in between, by an event that the barrier is gone or by a start that finds none. -/
theorem singleLevel_of_run (router : RoutePlanner) (front back : List CarStep)
    (car last : AgvCar) (reached : run carStep front { AgvCar.init with router } = some car)
    (continued : run carStep back car = some last) :
    car.gauges.SingleLevel ∧ last.gauges.SingleLevel ∧
      (last.gauges.nearness < car.gauges.nearness →
        ∃ between label rest before after, back = between ++ label :: rest ∧
          run carStep between car = some before ∧ carStep label before = some after ∧
          run carStep rest after = some last ∧ FindsNoBarrier label ∧ after.gauges.NoLevel) := by
  have kept : ∀ (car : AgvCar) (label : CarStep) (next : AgvCar), car.gauges.SingleLevel →
      carStep label car = some next → next.gauges.SingleLevel :=
    fun car label next single stepped => (AgvCar.levels_carStep single stepped).1
  have initial : AgvCar.init.gauges.SingleLevel :=
    Gauges.NoLevel.singleLevel ⟨by decide, by decide, by decide⟩
  have start : ({ AgvCar.init with router } : AgvCar).gauges.SingleLevel := initial
  have single := invariant_of_run kept start reached
  refine ⟨single, invariant_of_run kept single continued, fun farther => ?_⟩
  exact exists_step_of_lowered kept
    (fun car label next single stepped => (AgvCar.levels_carStep single stepped).2)
    single continued farther

/-- A barrier in the middle, gone, and a far one. -/
theorem singleLevel_of_run_gone :
    ∃ car last : AgvCar, car.gauges.nearness = 2 ∧ last.gauges.nearness = 1 ∧
      car.gauges.SingleLevel ∧ last.gauges.SingleLevel := by
  have runs := singleLevel_of_run AgvCar.init.router
    [.handle { event := .evKeyAutoMode } {}, .handle { event := .evMidBarrier } {}]
    [.handle { event := .evBarrierOk } {}, .handle { event := .evFarBarrier } {}] _ _ rfl rfl
  exact ⟨_, _, by decide, by decide, runs.1, runs.2.1⟩

end DrivingControl.Controler

/-!
# Runs of a partial step function

A system is given by a step function from a label and a state to an optional
next state; `none` is a step that does not return.  Everything the step reads
from outside the state is part of the label, so a run is determined by its
labels and quantifying over label lists quantifies over all behaviours of the
environment.

`Along` says that every step a run takes satisfies a relation between the state
before, the label and the state after.  It is the form in which both the
conditions on a run and the properties of a run are stated.
-/

namespace DrivingControl.Library

universe u v w x

/-- A labelled step function.  `none` is a step that does not return. -/
abbrev StepFn (State : Type u) (Label : Type v) := Label → State → Option State

variable {State : Type u} {Label : Type v}

/-- The state after a list of labels, if every step returns. -/
def run (step : StepFn State Label) : List Label → State → Option State
  | [], state => some state
  | label :: labels, state => (step label state).bind (run step labels)

/-- Every step the run takes satisfies `holds`. -/
def Along (step : StepFn State Label) (holds : State → Label → State → Prop) :
    List Label → State → Prop
  | [], _ => True
  | label :: labels, state =>
      ∀ next, step label state = some next →
        holds state label next ∧ Along step holds labels next

/-- Every step the run comes to satisfies `holds` before it is taken, also the one that
does not return. -/
def Before (step : StepFn State Label) (holds : State → Label → Prop) :
    List Label → State → Prop
  | [], _ => True
  | label :: labels, state =>
      holds state label ∧ ∀ next, step label state = some next → Before step holds labels next

section Rules

variable {step : StepFn State Label}

theorem run_cons (label : Label) (labels : List Label) (state : State) :
    run step (label :: labels) state = (step label state).bind (run step labels) := rfl

theorem run_append (front back : List Label) (state : State) :
    run step (front ++ back) state = (run step front state).bind (run step back) := by
  induction front generalizing state with
  | nil => rfl
  | cons label front ih =>
      simp only [List.cons_append, run_cons, Option.bind_assoc]
      congr 1
      funext next
      exact ih next

/-- A step that is taken and satisfies the relation, before a run whose steps do. -/
theorem along_cons {holds : State → Label → State → Prop} {label : Label}
    {labels : List Label} {state next : State} (stepped : step label state = some next)
    (held : holds state label next) (rest : Along step holds labels next) :
    Along step holds (label :: labels) state := by
  intro other reached
  cases stepped.symm.trans reached
  exact ⟨held, rest⟩

/-- What holds along a run holds along both of its parts. -/
theorem along_append {holds : State → Label → State → Prop} {front back : List Label}
    {start : State} (along : Along step holds (front ++ back) start) :
    Along step holds front start ∧
      ∀ state, run step front start = some state → Along step holds back state := by
  induction front generalizing start with
  | nil =>
      refine ⟨trivial, fun state reached => ?_⟩
      cases reached
      exact along
  | cons label front ih =>
      constructor
      · intro next stepped
        obtain ⟨held, rest⟩ := along next stepped
        exact ⟨held, (ih rest).1⟩
      · intro state reached
        obtain ⟨next, stepped, rest⟩ := Option.bind_eq_some_iff.mp reached
        exact (ih (along next stepped).2).2 state rest

theorem along_and {left right : State → Label → State → Prop} {labels : List Label}
    {state : State} (first : Along step left labels state)
    (second : Along step right labels state) :
    Along step (fun state label next => left state label next ∧ right state label next) labels
      state := by
  induction labels generalizing state with
  | nil => trivial
  | cons label labels ih =>
      intro next stepped
      rcases first next stepped with ⟨held, rest⟩
      rcases second next stepped with ⟨other, others⟩
      exact ⟨⟨held, other⟩, ih rest others⟩

/-- What holds of every label holds along the run. -/
theorem along_of_forall {valid : Label → Prop} {labels : List Label}
    (all : ∀ label ∈ labels, valid label) (start : State) :
    Along step (fun _ label _ => valid label) labels start := by
  induction labels generalizing start with
  | nil => trivial
  | cons label labels ih =>
      intro next _
      have rest := fun later mem => all later (List.mem_cons_of_mem label mem)
      exact ⟨all label List.mem_cons_self, ih rest next⟩

/-- A decidable relation can be decided along a run. -/
instance decidableAlong {holds : State → Label → State → Prop}
    [∀ state label next, Decidable (holds state label next)] :
    ∀ (labels : List Label) (state : State), Decidable (Along step holds labels state)
  | [], _ => isTrue trivial
  | label :: labels, state =>
      match stepped : step label state with
      | none => isTrue fun _ reached => nomatch stepped.symm.trans reached
      | some next =>
          have : Decidable (Along step holds labels next) := decidableAlong labels next
          decidable_of_iff (holds state label next ∧ Along step holds labels next)
            ⟨fun both => along_cons stepped both.1 both.2, fun along => along next stepped⟩

/-- The guarded rule for step properties: when every step that meets the guard keeps the
invariant and has the property, a run whose steps all meet the guard has the property at
all its steps. -/
theorem along_of_guard {invariant : State → Prop} {guard holds : State → Label → State → Prop}
    (kept : ∀ state label next, invariant state → step label state = some next →
      guard state label next → invariant next)
    (gives : ∀ state label next, invariant state → step label state = some next →
      guard state label next → holds state label next)
    {labels : List Label} {start : State} (initial : invariant start)
    (guarded : Along step guard labels start) : Along step holds labels start := by
  induction labels generalizing start with
  | nil => trivial
  | cons label labels ih =>
      intro next stepped
      rcases guarded next stepped with ⟨met, rest⟩
      exact ⟨gives start label next initial stepped met,
        ih (kept start label next initial stepped met) rest⟩

/-- When each step from a state with the invariant has the property exactly if it meets
the guard, a run has the property at all its steps exactly if all meet the guard. -/
theorem along_iff_of_guard {invariant : State → Prop}
    {guard holds : State → Label → State → Prop}
    (kept : ∀ state label next, invariant state → step label state = some next →
      guard state label next → invariant next)
    (agree : ∀ state label next, invariant state → step label state = some next →
      (holds state label next ↔ guard state label next))
    {labels : List Label} {start : State} (initial : invariant start) :
    Along step holds labels start ↔ Along step guard labels start := by
  constructor
  · apply along_of_guard _ _ initial
    · intro state label next inv stepped held
      exact kept state label next inv stepped ((agree state label next inv stepped).mp held)
    · intro state label next inv stepped held
      exact (agree state label next inv stepped).mp held
  · apply along_of_guard kept _ initial
    intro state label next inv stepped met
    exact (agree state label next inv stepped).mpr met

/-- A step property that is implied by another one holds along the same runs. -/
theorem along_mono {left right : State → Label → State → Prop}
    (implied : ∀ state label next, left state label next → right state label next)
    {labels : List Label} {start : State} (along : Along step left labels start) :
    Along step right labels start := by
  induction labels generalizing start with
  | nil => trivial
  | cons label labels ih =>
      intro next stepped
      rcases along next stepped with ⟨held, rest⟩
      exact ⟨implied start label next held, ih rest⟩

/-- Two step properties that agree on every step agree on every run. -/
theorem along_congr {left right : State → Label → State → Prop}
    (agree : ∀ state label next, step label state = some next →
      (left state label next ↔ right state label next))
    (labels : List Label) (start : State) :
    Along step left labels start ↔ Along step right labels start :=
  along_iff_of_guard (fun _ _ _ _ _ _ => trivial)
    (fun state label next _ stepped => agree state label next stepped) trivial

/-- Two conditions that agree agree before every step of a run. -/
theorem before_congr {left right : State → Label → Prop}
    (agree : ∀ state label, left state label ↔ right state label)
    (labels : List Label) (start : State) :
    Before step left labels start ↔ Before step right labels start := by
  induction labels generalizing start with
  | nil => exact Iff.rfl
  | cons label labels ih =>
      apply and_congr (agree start label)
      constructor
      · intro rest next stepped
        exact (ih next).mp (rest next stepped)
      · intro rest next stepped
        exact (ih next).mpr (rest next stepped)

/-- What an invariant gives holds before every step of a run with valid labels. -/
theorem before_of_invariant {invariant : State → Prop} {valid : Label → Prop}
    {holds : State → Label → Prop}
    (kept : ∀ state label next, invariant state → valid label → step label state = some next →
      invariant next)
    (gives : ∀ state label, invariant state → valid label → holds state label)
    {labels : List Label} (allValid : ∀ label ∈ labels, valid label) {start : State}
    (initial : invariant start) : Before step holds labels start := by
  induction labels generalizing start with
  | nil => trivial
  | cons label labels ih =>
      have here := allValid label List.mem_cons_self
      have rest := fun later mem => allValid later (List.mem_cons_of_mem label mem)
      exact ⟨gives start label initial here,
        fun next stepped => ih rest (kept start label next initial here stepped)⟩

/-- A decidable condition can be decided before every step of a run. -/
instance decidableBefore {holds : State → Label → Prop}
    [∀ state label, Decidable (holds state label)] :
    ∀ (labels : List Label) (state : State), Decidable (Before step holds labels state)
  | [], _ => isTrue trivial
  | label :: labels, state =>
      match stepped : step label state with
      | none =>
          decidable_of_iff (holds state label)
            ⟨fun held => ⟨held, fun _ reached => nomatch stepped.symm.trans reached⟩, And.left⟩
      | some next =>
          have : Decidable (Before step holds labels next) := decidableBefore labels next
          decidable_of_iff (holds state label ∧ Before step holds labels next)
            ⟨fun both => ⟨both.1, fun _ reached =>
              Option.some.inj (stepped.symm.trans reached) ▸ both.2⟩,
              fun before => ⟨before.1, before.2 next stepped⟩⟩

/-- A guarded run keeps an invariant up to its last state. -/
theorem invariant_of_guard {invariant : State → Prop}
    {guard : State → Label → State → Prop}
    (kept : ∀ state label next, invariant state → step label state = some next →
      guard state label next → invariant next)
    {labels : List Label} {start final : State} (initial : invariant start)
    (guarded : Along step guard labels start)
    (reached : run step labels start = some final) : invariant final := by
  induction labels generalizing start with
  | nil =>
      cases reached
      exact initial
  | cons label labels ih =>
      obtain ⟨next, stepped, rest⟩ := Option.bind_eq_some_iff.mp reached
      obtain ⟨met, guardedRest⟩ := guarded next stepped
      exact ih (kept start label next initial stepped met) guardedRest rest

/-- Every run keeps an invariant that every step keeps. -/
theorem invariant_of_run {invariant : State → Prop}
    (kept : ∀ state label next, invariant state → step label state = some next → invariant next)
    {labels : List Label} {start final : State} (initial : invariant start)
    (reached : run step labels start = some final) : invariant final := by
  induction labels generalizing start with
  | nil =>
      cases reached
      exact initial
  | cons label labels ih =>
      obtain ⟨next, stepped, rest⟩ := Option.bind_eq_some_iff.mp reached
      exact ih (kept start label next initial stepped) rest

/-- When every step with a valid label returns and keeps the invariant, every run with valid
labels returns. -/
theorem exists_run_of_invariant {invariant : State → Prop} {valid : Label → Prop}
    (returns : ∀ state label, invariant state → valid label →
      ∃ next, step label state = some next ∧ invariant next)
    {labels : List Label} (allValid : ∀ label ∈ labels, valid label) {start : State}
    (initial : invariant start) :
    ∃ final, run step labels start = some final ∧ invariant final := by
  induction labels generalizing start with
  | nil => exact ⟨start, rfl, initial⟩
  | cons label labels ih =>
      obtain ⟨next, stepped, kept⟩ := returns start label initial
        (allValid label List.mem_cons_self)
      obtain ⟨final, reached, holds⟩ :=
        ih (fun later mem => allValid later (List.mem_cons_of_mem label mem)) kept
      exact ⟨final, by rw [run_cons, stepped, Option.bind_some, reached], holds⟩

/-- A measure that only special steps lower was lowered by one of them. -/
theorem exists_step_of_lowered {invariant : State → Prop} {measure : State → Nat}
    {special : State → Label → State → Prop}
    (kept : ∀ state label next, invariant state → step label state = some next → invariant next)
    (raised : ∀ state label next, invariant state → step label state = some next →
      measure state ≤ measure next ∨ special state label next)
    {labels : List Label} {start final : State} (initial : invariant start)
    (reached : run step labels start = some final) (lowered : measure final < measure start) :
    ∃ front label back before after, labels = front ++ label :: back ∧
      run step front start = some before ∧ step label before = some after ∧
      run step back after = some final ∧ special before label after := by
  induction labels generalizing start with
  | nil =>
      cases reached
      exact absurd lowered (Nat.lt_irrefl _)
  | cons label labels ih =>
      obtain ⟨next, stepped, rest⟩ := Option.bind_eq_some_iff.mp reached
      rcases raised start label next initial stepped with higher | special
      · obtain ⟨front, last, back, before, after, split, goes, moved, ends, found⟩ :=
          ih (kept start label next initial stepped) rest (Nat.lt_of_lt_of_le lowered higher)
        refine ⟨label :: front, last, back, before, after, ?_, ?_, moved, ends, found⟩
        · rw [split, List.cons_append]
        · rw [run_cons, stepped]
          exact goes
      · exact ⟨[], label, labels, start, next, rfl, rfl, stepped, rest, special⟩

/-- The rule for a countdown: while nothing is done every counted step lowers a count that no
step raises, so a run with more counted steps than the count comes to where it is done. -/
theorem exists_done_of_countdown {waits : State → Nat → Prop} {done : State → Prop}
    {guard : State → Label → State → Prop} {counts : Label → Bool}
    (lowered : ∀ state label next ahead, waits state ahead → step label state = some next →
      guard state label next →
      done next ∨ ∃ left, waits next left ∧ left + (counts label).toNat ≤ ahead)
    {labels : List Label} {start final : State} {ahead : Nat} (waiting : waits start ahead)
    (guarded : Along step guard labels start) (reached : run step labels start = some final)
    (many : ahead < labels.countP counts) :
    ∃ front back state, labels = front ++ back ∧ run step front start = some state ∧
      done state := by
  induction labels generalizing start ahead with
  | nil => exact absurd many (Nat.not_lt_zero _)
  | cons label labels ih =>
      obtain ⟨next, stepped, rest⟩ := Option.bind_eq_some_iff.mp reached
      obtain ⟨met, guardedRest⟩ := guarded next stepped
      have single : run step [label] start = some next := by
        rw [run_cons, stepped]
        rfl
      rcases lowered start label next ahead waiting stepped met with ended | ⟨left, behind, less⟩
      · exact ⟨[label], labels, next, rfl, single, ended⟩
      · have later : left < labels.countP counts := by
          rw [List.countP_cons] at many
          cases counted : counts label with
          | true =>
              rw [counted] at less many
              exact Nat.lt_of_succ_lt_succ (Nat.lt_of_le_of_lt less many)
          | false =>
              rw [counted] at less many
              exact Nat.lt_of_le_of_lt less many
        obtain ⟨front, back, state, split, goes, ended⟩ := ih behind guardedRest rest later
        refine ⟨label :: front, back, state, ?_, ?_, ended⟩
        · rw [split, List.cons_append]
        · rw [run_cons, stepped]
          exact goes

/-- The rule for stuttering: of two systems that run beside each other the one takes steps
the other does not see.  They return together from a step both take, and every step keeps
the relation if it meets the guard. -/
theorem run_filterMap {Other : Type w} {Seen : Type x} {seen : Label → Option Seen}
    {seenStep : StepFn Other Seen} {valid : Label → Prop} {related : State → Other → Prop}
    {guard : State → Label → State → Prop}
    (matched : ∀ state other label inner, related state other → valid label →
      seen label = some inner →
        Option.Rel (fun next nextOther => guard state label next → related next nextOther)
          (step label state) (seenStep inner other))
    (unseen : ∀ state other label, related state other → valid label → seen label = none →
      ∃ next, step label state = some next ∧ (guard state label next → related next other))
    {labels : List Label} (allValid : ∀ label ∈ labels, valid label) {state : State}
    {other : Other} (initial : related state other) (guarded : Along step guard labels state) :
    Option.Rel related (run step labels state)
      (run seenStep (labels.filterMap seen) other) := by
  induction labels generalizing state other with
  | nil => exact .some initial
  | cons label labels ih =>
      have validHere := allValid label List.mem_cons_self
      have validRest := fun later mem => allValid later (List.mem_cons_of_mem label mem)
      cases observed : seen label with
      | none =>
          obtain ⟨next, stepped, kept⟩ := unseen state other label initial validHere observed
          obtain ⟨met, rest⟩ := guarded next stepped
          rw [List.filterMap_cons_none observed, run_cons, stepped]
          exact ih validRest (kept met) rest
      | some inner =>
          have both := matched state other label inner initial validHere observed
          rw [List.filterMap_cons_some observed, run_cons, run_cons]
          cases stepped : step label state with
          | none =>
              rw [stepped] at both
              cases stuck : seenStep inner other with
              | none => exact .none
              | some next => rw [stuck] at both; cases both
          | some next =>
              rw [stepped] at both
              cases moved : seenStep inner other with
              | none => rw [moved] at both; cases both
              | some nextOther =>
                  rw [moved] at both
                  obtain ⟨met, rest⟩ := guarded next stepped
                  cases both with
                  | some kept => exact ih validRest (kept met) rest

end Rules

/-! ## Monitors -/

/-- Run a history variable beside the system: `observe` updates it from the step that
was taken, and never influences a step. -/
def monitored {Memory : Type w} (step : StepFn State Label)
    (observe : State → Label → State → Memory → Memory) : StepFn (State × Memory) Label :=
  fun label paired =>
    (step label paired.1).map fun next => (next, observe paired.1 label next paired.2)

theorem monitored_eq_some {Memory : Type w} {step : StepFn State Label}
    {observe : State → Label → State → Memory → Memory} {label : Label}
    {paired next : State × Memory}
    (stepped : monitored step observe label paired = some next) :
    step label paired.1 = some next.1 ∧
      next.2 = observe paired.1 label next.1 paired.2 := by
  obtain ⟨state, moved, equal⟩ := Option.map_eq_some_iff.mp stepped
  subst equal
  exact ⟨moved, rfl⟩

theorem run_monitored {Memory : Type w} {step : StepFn State Label}
    {observe : State → Label → State → Memory → Memory} (labels : List Label)
    (paired : State × Memory) :
    (run (monitored step observe) labels paired).map Prod.fst = run step labels paired.1 := by
  induction labels generalizing paired with
  | nil => rfl
  | cons label labels ih =>
      rw [run_cons, run_cons, monitored]
      cases step label paired.1 with
      | none => rfl
      | some next => exact ih (next, observe paired.1 label next paired.2)

/-- A property of the system alone holds along a run beside a monitor as it does without. -/
theorem along_monitored {Memory : Type w} {step : StepFn State Label}
    {observe : State → Label → State → Memory → Memory} {holds : State → Label → State → Prop}
    (labels : List Label) (paired : State × Memory) :
    Along (monitored step observe) (fun before label next => holds before.1 label next.1)
      labels paired ↔ Along step holds labels paired.1 := by
  induction labels generalizing paired with
  | nil => exact Iff.rfl
  | cons label labels ih =>
      constructor
      · intro along next stepped
        have moved : monitored step observe label paired =
            some (next, observe paired.1 label next paired.2) := by
          rw [monitored, stepped]
          rfl
        obtain ⟨held, rest⟩ := along _ moved
        exact ⟨held, (ih _).mp rest⟩
      · intro along next stepped
        obtain ⟨held, rest⟩ := along next.1 (monitored_eq_some stepped).1
        exact ⟨held, (ih next).mpr rest⟩

end DrivingControl.Library

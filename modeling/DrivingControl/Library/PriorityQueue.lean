/-!
# First-in first-out queues by priority

A bounded number of levels, each with a queue of its own: an element is appended
to the queue of its level, and the head of the highest level that is not empty is
taken.  This module relates such queues to one list of the waiting elements in the
order of their arrival, from which the oldest element of the highest level is
served.
-/

namespace DrivingControl.Library

universe u

variable {α : Type u}

/-! ## The queues -/

/-- Append an element to the queue of a level. -/
def pushLevel (level : Nat) (element : α) (queues : Nat → List α) : Nat → List α :=
  fun i => if i = level then queues i ++ [element] else queues i

/-- Take the head of the highest non-empty queue below a bound. -/
def popBelow : Nat → (Nat → List α) → Option (α × (Nat → List α))
  | 0, _ => none
  | bound + 1, queues =>
      match queues bound with
      | [] => popBelow bound queues
      | element :: rest =>
          some (element, fun i => if i = bound then rest else queues i)

/-! ## The waiting elements -/

variable (level : α → Nat)

/-- Serve the oldest of the elements on the highest level. -/
def serve : List α → Option (α × List α)
  | [] => none
  | element :: rest =>
      match serve rest with
      | none => some (element, rest)
      | some (other, left) =>
          if level element < level other then some (other, element :: left)
          else some (element, rest)

/-- The queues hold the waiting elements. -/
def Holds (waiting : List α) (queues : Nat → List α) : Prop :=
  ∀ i, queues i = waiting.filter (level · = i)

variable {level}

theorem serve_eq_none {waiting : List α} : serve level waiting = none ↔ waiting = [] := by
  cases waiting with
  | nil => simp [serve]
  | cons element rest =>
      simp only [serve, reduceCtorEq, iff_false]
      split
      · simp
      · split <;> simp

/-- The served element, the older ones that are all lower, and the younger ones that
are not higher. -/
theorem serve_eq_some {waiting left : List α} {element : α}
    (served : serve level waiting = some (element, left)) :
    ∃ front back, waiting = front ++ element :: back ∧ left = front ++ back ∧
      (∀ other ∈ front, level other < level element) ∧
      ∀ other ∈ back, level other ≤ level element := by
  induction waiting generalizing left element with
  | nil => cases served
  | cons first rest ih =>
      simp only [serve] at served
      cases restServed : serve level rest with
      | none =>
          simp only [restServed, Option.some.injEq, Prod.mk.injEq] at served
          rcases served with ⟨rfl, rfl⟩
          cases serve_eq_none.mp restServed
          exact ⟨[], [], rfl, rfl, by simp, by simp⟩
      | some pair =>
          rcases pair with ⟨other, otherLeft⟩
          simp only [restServed] at served
          split at served
          next lower =>
            simp only [Option.some.injEq, Prod.mk.injEq] at served
            rcases served with ⟨rfl, rfl⟩
            rcases ih restServed with ⟨front, back, rfl, rfl, older, younger⟩
            refine ⟨first :: front, back, rfl, rfl, ?_, younger⟩
            intro earlier member
            rcases List.mem_cons.mp member with rfl | member
            · exact lower
            · exact older earlier member
          next notLower =>
            simp only [Option.some.injEq, Prod.mk.injEq] at served
            rcases served with ⟨rfl, rfl⟩
            rcases ih restServed with ⟨front, back, rfl, rfl, older, younger⟩
            refine ⟨[], front ++ other :: back, rfl, rfl, by simp, ?_⟩
            intro later member
            rcases List.mem_append.mp member with member | member
            · have bound := older later member
              omega
            · rcases List.mem_cons.mp member with rfl | member
              · omega
              · have bound := younger later member
                omega

/-- On each level, the served element comes before those left. -/
theorem filter_of_serve {waiting left : List α} {element : α}
    (served : serve level waiting = some (element, left)) (i : Nat) :
    waiting.filter (level · = i) =
      [element].filter (level · = i) ++ left.filter (level · = i) := by
  rcases serve_eq_some served with ⟨front, back, rfl, rfl, older, -⟩
  by_cases same : level element = i
  · have none : front.filter (level · = i) = [] := by
      simp only [List.filter_eq_nil_iff, decide_eq_true_eq]
      intro other member equal
      have bound := older other member
      omega
    simp [List.filter_append, none, same]
  · simp [List.filter_append, same]

theorem perm_of_serve {waiting left : List α} {element : α}
    (served : serve level waiting = some (element, left)) :
    waiting.Perm (element :: left) := by
  rcases serve_eq_some served with ⟨front, back, rfl, rfl, -, -⟩
  exact List.perm_middle

/-- When no later element is on a higher level than an earlier one, the oldest is
served. -/
theorem serve_of_pairwise {element : α} {rest : List α}
    (ordered : (element :: rest).Pairwise (fun earlier later => level later ≤ level earlier)) :
    serve level (element :: rest) = some (element, rest) := by
  rw [serve]
  cases restServed : serve level rest with
  | none => rfl
  | some pair =>
      rcases pair with ⟨other, left⟩
      have member : other ∈ rest := (perm_of_serve restServed).mem_iff.mpr (by simp)
      have bound := (List.pairwise_cons.mp ordered).1 other member
      simp only
      rw [if_neg (by omega)]

/-! ## The queues hold what waits -/

theorem holds_nil : Holds level [] fun _ => [] := fun _ => rfl

theorem holds_push {waiting : List α} {queues : Nat → List α}
    (holds : Holds level waiting queues) (element : α) :
    Holds level (waiting ++ [element]) (pushLevel (level element) element queues) := by
  intro i
  simp only [pushLevel, List.filter_append, ← holds i]
  split
  next same => simp [same]
  next other => simp [Ne.symm other]

/-- Nothing is taken when all queues below the bound are empty. -/
theorem popBelow_eq_none {queues : Nat → List α} {bound : Nat}
    (empty : ∀ i, i < bound → queues i = []) : popBelow bound queues = none := by
  induction bound with
  | zero => rfl
  | succ bound ih =>
      rw [popBelow, empty bound (by omega)]
      exact ih fun i below => empty i (by omega)

/-- Only then nothing is taken. -/
theorem eq_nil_of_popBelow {queues : Nat → List α} {bound i : Nat}
    (drained : popBelow bound queues = none) (below : i < bound) : queues i = [] := by
  induction bound with
  | zero => omega
  | succ bound ih =>
      rw [popBelow] at drained
      split at drained
      next empty =>
        by_cases last : i = bound
        · rw [last, empty]
        · exact ih drained (by omega)
      next => cases drained

/-- The highest non-empty queue gives its head. -/
theorem popBelow_eq_some {queues : Nat → List α} {bound top : Nat} {element : α}
    {rest : List α} (below : top < bound) (head : queues top = element :: rest)
    (higher : ∀ i, top < i → queues i = []) :
    popBelow bound queues = some (element, fun i => if i = top then rest else queues i) := by
  induction bound with
  | zero => omega
  | succ bound ih =>
      by_cases last : top = bound
      · subst last
        rw [popBelow, head]
      · rw [popBelow, higher bound (by omega)]
        exact ih (by omega)

/-- What is taken was the head of its queue, and the other queues stay. -/
theorem eq_of_popBelow {queues others : Nat → List α} {bound : Nat} {element : α}
    (taken : popBelow bound queues = some (element, others)) :
    ∃ top rest, queues top = element :: rest ∧
      others = fun i => if i = top then rest else queues i := by
  induction bound with
  | zero => cases taken
  | succ bound ih =>
      rw [popBelow] at taken
      split at taken
      · exact ih taken
      next first rest head =>
        cases taken
        exact ⟨bound, rest, head, rfl⟩

/-- Every higher queue was empty. -/
theorem highest_of_popBelow {queues others : Nat → List α} {bound : Nat} {element : α}
    (taken : popBelow bound queues = some (element, others)) :
    ∃ top rest, queues top = element :: rest ∧
      (others = fun i => if i = top then rest else queues i) ∧
      ∀ i, top < i → i < bound → queues i = [] := by
  induction bound with
  | zero => cases taken
  | succ bound ih =>
      rw [popBelow] at taken
      split at taken
      next empty =>
        rcases ih taken with ⟨top, rest, head, left, higher⟩
        refine ⟨top, rest, head, left, fun i above below => ?_⟩
        by_cases last : i = bound
        · rw [last, empty]
        · exact higher i above (by omega)
      next first rest head =>
        cases taken
        exact ⟨bound, rest, head, rfl, fun i above below => by omega⟩

/-- What stands on the highest level behind some others is taken, or has come forward by one. -/
theorem ahead_of_popBelow {queues others : Nat → List α} {top ahead : Nat} {element first : α}
    (stands : (queues top)[ahead]? = some element)
    (taken : popBelow (top + 1) queues = some (first, others)) :
    ahead = 0 ∧ first = element ∨
      ∃ left, ahead = left + 1 ∧ (others top)[left]? = some element := by
  rw [popBelow] at taken
  cases head : queues top with
  | nil => simp [head] at stands
  | cons front rest =>
      simp only [head, Option.some.injEq, Prod.mk.injEq] at taken
      obtain ⟨rfl, rfl⟩ := taken
      rw [head] at stands
      cases ahead with
      | zero => exact .inl ⟨rfl, by simpa using stands⟩
      | succ left => exact .inr ⟨left, rfl, by simpa using stands⟩

/-- Taking from the queues serves the waiting elements. -/
theorem popBelow_of_holds {waiting : List α} {queues : Nat → List α} {bound : Nat}
    (holds : Holds level waiting queues) (bounded : ∀ element ∈ waiting, level element < bound) :
    match serve level waiting with
    | none => popBelow bound queues = none
    | some (element, left) =>
        ∃ others, popBelow bound queues = some (element, others) ∧ Holds level left others := by
  cases served : serve level waiting with
  | none =>
      cases serve_eq_none.mp served
      exact popBelow_eq_none fun i _ => holds i
  | some pair =>
      rcases pair with ⟨element, left⟩
      have filtered := filter_of_serve served
      have inWaiting : element ∈ waiting := (perm_of_serve served).mem_iff.mpr (by simp)
      have highest : ∀ i, level element < i → queues i = [] := by
        intro i above
        rw [holds i, List.filter_eq_nil_iff]
        intro other member equal
        rcases serve_eq_some served with ⟨front, back, rfl, -, older, younger⟩
        simp only [decide_eq_true_eq] at equal
        rcases List.mem_append.mp member with member | member
        · have bound := older other member
          omega
        · rcases List.mem_cons.mp member with rfl | member
          · omega
          · have bound := younger other member
            omega
      have head : queues (level element) =
          element :: left.filter (level · = level element) := by
        rw [holds, filtered]
        simp
      refine ⟨_, popBelow_eq_some (bounded element inWaiting) head highest, fun i => ?_⟩
      split
      next same => rw [same]
      next other =>
        rw [holds, filtered]
        simp [Ne.symm other]

/-- Elements removed from every queue are those removed from what waits. -/
theorem holds_filter {waiting : List α} {queues : Nat → List α}
    (holds : Holds level waiting queues) (keep : α → Bool) :
    Holds level (waiting.filter keep) fun i => (queues i).filter keep := by
  intro i
  simp only [holds i, List.filter_filter]
  exact List.filter_congr fun element _ => Bool.and_comm _ _

/-- Taking from the images of queues takes the image of what is taken from them. -/
theorem popBelow_map {β : Type u} (image : α → β) (queues : Nat → List α) (bound : Nat) :
    popBelow bound (fun i => (queues i).map image) =
      (popBelow bound queues).map fun taken =>
        (image taken.1, fun i => (taken.2 i).map image) := by
  induction bound with
  | zero => rfl
  | succ bound ih =>
      simp only [popBelow]
      cases head : queues bound with
      | nil => exact ih
      | cons element rest =>
          simp only [List.map_cons, Option.map_some, Option.some.injEq, Prod.mk.injEq,
            true_and]
          funext i
          split <;> rfl

/-! ## What was received and what was served -/

/-- Every received element was served or waits, and on each level the elements are
served in the order in which they were received. -/
structure Accounted (level : α → Nat) (received served waiting : List α) : Prop where
  perm : received.Perm (served ++ waiting)
  ordered : ∀ i, received.filter (level · = i) =
    served.filter (level · = i) ++ waiting.filter (level · = i)

namespace Accounted

variable {received served waiting : List α}

theorem start : Accounted level [] [] [] := ⟨.nil, fun _ => rfl⟩

theorem push (accounted : Accounted level received served waiting) (element : α) :
    Accounted level (received ++ [element]) served (waiting ++ [element]) where
  perm := by
    rw [← List.append_assoc]
    exact accounted.perm.append_right [element]
  ordered i := by
    rw [List.filter_append, List.filter_append, accounted.ordered i, List.append_assoc]

theorem serve (accounted : Accounted level received served waiting) {element : α}
    {left : List α} (taken : Library.serve level waiting = some (element, left)) :
    Accounted level received (served ++ [element]) left where
  perm := by
    have moved := (perm_of_serve taken).append_left served
    simpa using accounted.perm.trans moved
  ordered i := by
    rw [accounted.ordered i, filter_of_serve taken i, List.filter_append, List.append_assoc]

end Accounted

/-- The elements are served in the order in which they are received, and no waiting
element is on a higher level than an older one. -/
structure InOrder (level : α → Nat) (received served waiting : List α) : Prop where
  same : received = served ++ waiting
  pairwise : waiting.Pairwise fun earlier later => level later ≤ level earlier

namespace InOrder

variable {received served waiting : List α}

theorem start : InOrder level [] [] [] := ⟨rfl, .nil⟩

/-- An element that is not above any waiting one keeps the order. -/
theorem push (inOrder : InOrder level received served waiting) {element : α}
    (notAbove : ∀ other ∈ waiting, level element ≤ level other) :
    InOrder level (received ++ [element]) served (waiting ++ [element]) where
  same := by rw [inOrder.same, List.append_assoc]
  pairwise := by
    rw [List.pairwise_append]
    refine ⟨inOrder.pairwise, List.pairwise_singleton _ _, ?_⟩
    intro earlier member later isElement
    rw [List.mem_singleton.mp isElement]
    exact notAbove earlier member

theorem serve (inOrder : InOrder level received served waiting) {element : α}
    {left : List α} (taken : Library.serve level waiting = some (element, left)) :
    InOrder level received (served ++ [element]) left := by
  cases waiting with
  | nil => cases taken
  | cons first rest =>
      have oldest := serve_of_pairwise inOrder.pairwise
      rw [taken] at oldest
      cases oldest
      refine ⟨?_, (List.pairwise_cons.mp inOrder.pairwise).2⟩
      rw [inOrder.same]
      simp

end InOrder

/-! ## Turns -/

/-- One turn of a server: an element is received, or the oldest of the highest level is
served.  The pair holds what was served and what waits. -/
def turn (level : α → Nat) (queue : List α × List α) : Option α → List α × List α
  | some element => (queue.1, queue.2 ++ [element])
  | none =>
      match serve level queue.2 with
      | none => queue
      | some (element, left) => (queue.1 ++ [element], left)

/-- What was served and what waits behind some turns. -/
def serveTurns (level : α → Nat) (turns : List (Option α)) : List α × List α :=
  turns.foldl (turn level) ([], [])

theorem serveTurns_receive (turns : List (Option α)) (element : α) :
    serveTurns level (turns ++ [some element]) =
      ((serveTurns level turns).1, (serveTurns level turns).2 ++ [element]) := by
  simp [serveTurns, turn]

theorem serveTurns_serve {turns : List (Option α)} {element : α} {left : List α}
    (served : serve level (serveTurns level turns).2 = some (element, left)) :
    serveTurns level (turns ++ [none]) = ((serveTurns level turns).1 ++ [element], left) := by
  rw [serveTurns, List.foldl_append, List.foldl_cons, List.foldl_nil, ← serveTurns, turn, served]

/-- Every turn accounts for the elements. -/
theorem accounted_foldl {received served waiting : List α}
    (accounted : Accounted level received served waiting) (turns : List (Option α)) :
    Accounted level (received ++ turns.filterMap id)
      (turns.foldl (turn level) (served, waiting)).1
      (turns.foldl (turn level) (served, waiting)).2 := by
  induction turns generalizing received served waiting with
  | nil => simpa using accounted
  | cons first turns ih =>
      cases first with
      | some element => simpa [turn] using ih (accounted.push element)
      | none =>
          rw [List.foldl_cons, turn]
          cases taken : serve level waiting with
          | none => simpa using ih accounted
          | some pair => simpa using ih (accounted.serve taken)

theorem accounted_serveTurns (level : α → Nat) (turns : List (Option α)) :
    Accounted level (turns.filterMap id) (serveTurns level turns).1
      (serveTurns level turns).2 := by
  simpa [serveTurns] using accounted_foldl Accounted.start turns

end DrivingControl.Library

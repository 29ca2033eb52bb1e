import DrivingControl.Event.EventHelper
import Mathlib.Data.List.Induction

/-!
# The event queue with deletion

`CAgvEventHelper` for events of every number: `PushEvent`, `PopEvent` and
`DeleteEvent`.  A ledger numbers the pushed events and keeps those that are present
in one list, oldest first; every run of the queue is a run of the ledger, which
serves the oldest of the highest priority.
-/

namespace DrivingControl.Event

open DrivingControl.Library

universe u

variable {Data : Type u}

/-- `CAgvEvent`, its number an `int` and not yet one of the `EventList`. -/
structure NumberedEvent (Data : Type u) where
  event : Int
  name : String
  param : Int
  priority : Nat
  data : Data
  deriving DecidableEq, Repr

/-- `CAgvEventHelper` with its array `eventList`. -/
structure EventQueue (Data : Type u) where
  eventList : Nat → List (NumberedEvent Data) := fun _ => []

namespace EventQueue

/-- The event as `PushEvent` stores it: priorities from `PriorityMax` on are urgent. -/
def clipped (event : NumberedEvent Data) : NumberedEvent Data :=
  if event.priority ≥ priorityMax then { event with priority := urgent } else event

/-- `CAgvEventHelper::PushEvent(CAgvEvent *)`. -/
def pushEvent (event : Option (NumberedEvent Data)) (queue : EventQueue Data) :
    Int × EventQueue Data :=
  match event with
  | none => (-1, queue)
  | some event =>
      let event := clipped event
      (0, { eventList := pushLevel event.priority event queue.eventList })

/-- `CAgvEventHelper::PopEvent`. -/
def popEvent (queue : EventQueue Data) : Option (NumberedEvent Data) × EventQueue Data :=
  match popBelow priorityMax queue.eventList with
  | none => (none, queue)
  | some (event, eventList) => (some event, { eventList })

/-- The loop of `DeleteEvent` over one list. -/
def eraseEvent (event : Int) : List (NumberedEvent Data) → List (NumberedEvent Data)
  | [] => []
  | first :: rest =>
      if first.event = event then eraseEvent event rest else first :: eraseEvent event rest

/-- `CAgvEventHelper::DeleteEvent`. -/
def deleteEvent (event : Int) (queue : EventQueue Data) : Int × EventQueue Data :=
  (0, { eventList := fun i =>
    if i < priorityMax then eraseEvent event (queue.eventList i) else queue.eventList i })

/-- A call of the queue. -/
inductive Call (Data : Type u) where
  | push (event : Option (NumberedEvent Data))
  | pop
  | delete (event : Int)

/-- The queue behind a call. -/
def call : Call Data → EventQueue Data → EventQueue Data
  | .push event, queue => (queue.pushEvent event).2
  | .pop, queue => queue.popEvent.2
  | .delete event, queue => (queue.deleteEvent event).2

/-- The queue behind some calls, from the empty one. -/
def calls (history : List (Call Data)) : EventQueue Data :=
  history.foldl (fun queue next => queue.call next) {}

theorem calls_append (history : List (Call Data)) (next : Call Data) :
    calls (history ++ [next]) = (calls history).call next := by
  simp [calls]

/-- The event a call returns. -/
def returnedBy (queue : EventQueue Data) : Call Data → Option (NumberedEvent Data)
  | .pop => queue.popEvent.1
  | _ => none

/-- The events that the `PopEvent` calls of a run returned, in order. -/
def returns : List (Call Data) → EventQueue Data → List (NumberedEvent Data)
  | [], _ => []
  | next :: rest, queue => (queue.returnedBy next).toList ++ returns rest (queue.call next)

theorem returns_append (history : List (Call Data)) (next : Call Data)
    (queue : EventQueue Data) :
    returns (history ++ [next]) queue =
      returns history queue ++
        ((history.foldl (fun queue next => queue.call next) queue).returnedBy next).toList := by
  induction history generalizing queue with
  | nil => simp [returns]
  | cons first rest ih => simp [returns, ih]

/-- The events that a run pushed, in order and as they are stored. -/
def pushes (history : List (Call Data)) : List (NumberedEvent Data) :=
  history.filterMap fun
    | .push (some event) => some (clipped event)
    | _ => none

/-! ## The ledger -/

/-- A pushed event and its place among the pushed ones. -/
abbrev Entry (Data : Type u) := Nat × NumberedEvent Data

/-- Every event pushed so far, and what became of it: it is present, or it was returned,
or it was deleted. -/
structure Ledger (Data : Type u) where
  pushed : List (Entry Data) := []
  present : List (Entry Data) := []
  returned : List (Entry Data) := []
  deleted : List (Entry Data) := []

/-- The priority an entry waits with. -/
def Entry.level (entry : Entry Data) : Nat := entry.2.priority

/-- Whether an entry has the given event number. -/
def Entry.numbered (event : Int) (entry : Entry Data) : Bool := entry.2.event = event

namespace Ledger

def push (event : NumberedEvent Data) (ledger : Ledger Data) : Ledger Data :=
  let entry := (ledger.pushed.length, clipped event)
  { ledger with pushed := ledger.pushed ++ [entry], present := ledger.present ++ [entry] }

def pop (ledger : Ledger Data) : Ledger Data :=
  match serve Entry.level ledger.present with
  | none => ledger
  | some (entry, left) =>
      { ledger with present := left, returned := ledger.returned ++ [entry] }

def delete (event : Int) (ledger : Ledger Data) : Ledger Data :=
  { ledger with
    present := ledger.present.filter fun entry => !entry.numbered event
    deleted := ledger.deleted ++ ledger.present.filter (Entry.numbered event) }

def call : Call Data → Ledger Data → Ledger Data
  | .push none, ledger => ledger
  | .push (some event), ledger => ledger.push event
  | .pop, ledger => ledger.pop
  | .delete event, ledger => ledger.delete event

/-- The ledger of some calls. -/
def calls (history : List (Call Data)) : Ledger Data :=
  history.foldl (fun ledger next => ledger.call next) {}

theorem calls_append (history : List (Call Data)) (next : Call Data) :
    calls (history ++ [next]) = (calls history).call next := by
  simp [calls]

/-- The entries are numbered in the order of their pushes, those present are in that
order too, and every one of them is in exactly one place. -/
structure Kept (ledger : Ledger Data) : Prop where
  numbers : ledger.pushed.map Prod.fst = List.range ledger.pushed.length
  ordered : ledger.present.Pairwise fun older younger => older.1 < younger.1
  places : ledger.pushed.Perm (ledger.returned ++ ledger.deleted ++ ledger.present)
  bounded : ∀ entry ∈ ledger.present, entry.level < priorityMax

theorem Kept.start : Kept ({} : Ledger Data) :=
  ⟨rfl, .nil, .nil, by simp⟩

theorem clipped_priority_lt (event : NumberedEvent Data) :
    (clipped event).priority < priorityMax := by
  rw [clipped]
  split
  · simp [urgent, priorityMax]
  · omega

variable {ledger : Ledger Data}

theorem Kept.lt_length (kept : Kept ledger) {entry : Entry Data}
    (member : entry ∈ ledger.present) : entry.1 < ledger.pushed.length := by
  have pushed : entry ∈ ledger.pushed :=
    kept.places.mem_iff.mpr (List.mem_append_right _ member)
  have number : entry.1 ∈ ledger.pushed.map Prod.fst := List.mem_map_of_mem pushed
  rw [kept.numbers] at number
  exact List.mem_range.mp number

theorem Kept.push (kept : Kept ledger) (event : NumberedEvent Data) :
    Kept (ledger.push event) where
  numbers := by
    simp [Ledger.push, kept.numbers, List.range_succ]
  ordered := by
    refine List.pairwise_append.mpr ⟨kept.ordered, List.pairwise_singleton _ _, ?_⟩
    intro older member younger isNew
    rw [List.mem_singleton.mp isNew]
    exact kept.lt_length member
  places := by
    simp only [Ledger.push]
    rw [← List.append_assoc]
    exact kept.places.append_right _
  bounded entry member := by
    rcases List.mem_append.mp member with member | member
    · exact kept.bounded entry member
    · rw [List.mem_singleton.mp member]
      exact clipped_priority_lt event

theorem Kept.pop (kept : Kept ledger) : Kept ledger.pop := by
  rw [Ledger.pop]
  split
  · exact kept
  next entry left served =>
    have same := perm_of_serve served
    rcases serve_eq_some served with ⟨older, younger, present, rest, -, -⟩
    have sub : left.Sublist ledger.present := by
      rw [present, rest]
      exact (List.sublist_cons_self entry younger).append_left older
    refine ⟨kept.numbers, kept.ordered.sublist sub, ?_, fun other member =>
      kept.bounded other (sub.mem member)⟩
    refine kept.places.trans ?_
    calc List.Perm (ledger.returned ++ ledger.deleted ++ ledger.present)
            (ledger.returned ++ ledger.deleted ++ (entry :: left)) := same.append_left _
      List.Perm _ (entry :: (ledger.returned ++ ledger.deleted ++ left)) :=
          List.perm_middle
      List.Perm _ (ledger.returned ++ [entry] ++ ledger.deleted ++ left) := by
          simp [List.append_assoc, List.perm_middle.symm]

theorem Kept.delete (kept : Kept ledger) (event : Int) : Kept (ledger.delete event) where
  numbers := kept.numbers
  ordered := kept.ordered.filter _
  places := by
    have split := List.filter_append_perm (Entry.numbered event) ledger.present
    refine kept.places.trans ((split.symm.append_left _).trans ?_)
    simp [Ledger.delete, List.append_assoc]
  bounded entry member := kept.bounded entry (List.mem_filter.mp member).1

theorem Kept.call (kept : Kept ledger) (next : Call Data) : Kept (ledger.call next) := by
  cases next with
  | push event =>
      cases event with
      | none => exact kept
      | some event => exact kept.push event
  | pop => exact kept.pop
  | delete event => exact kept.delete event

theorem kept_calls (history : List (Call Data)) : Kept (calls history) := by
  induction history using List.reverseRecOn with
  | nil => exact Kept.start
  | append_singleton history next ih =>
      rw [calls_append]
      exact ih.call next

end Ledger

/-! ## The queue holds the present entries -/

/-- The list of each priority holds the events of the present entries of that priority,
oldest first. -/
def Represents (ledger : Ledger Data) (queue : EventQueue Data) : Prop :=
  ∀ i, queue.eventList i = (ledger.present.filter (Entry.level · = i)).map Prod.snd

variable {ledger : Ledger Data} {queue : EventQueue Data}

theorem represents_pushEvent (represents : Represents ledger queue)
    (event : NumberedEvent Data) :
    Represents (ledger.push event) (queue.pushEvent (some event)).2 := by
  intro i
  have pushed : Holds Entry.level
      (ledger.present ++ [(ledger.pushed.length, clipped event)]) _ :=
    holds_push (fun _ => rfl) _
  have level : Entry.level (ledger.pushed.length, clipped event) =
      (clipped event).priority := rfl
  simp only [Ledger.push, ← pushed i, pushEvent, pushLevel, level]
  split
  · rw [List.map_append, represents i]
    rfl
  · exact represents i

/-- `PopEvent` returns the event of the entry that the ledger serves. -/
theorem popEvent_eq (kept : ledger.Kept) (represents : Represents ledger queue) :
    match serve Entry.level ledger.present with
    | none => queue.popEvent = (none, queue)
    | some (entry, _) =>
        queue.popEvent.1 = some entry.2 ∧ Represents ledger.pop queue.popEvent.2 := by
  have held : Holds Entry.level ledger.present _ := fun _ => rfl
  have relates := popBelow_of_holds held kept.bounded
  have image : queue.eventList = fun i =>
      (ledger.present.filter (Entry.level · = i)).map Prod.snd := funext represents
  have popped := popBelow_map Prod.snd
    (fun i => ledger.present.filter (Entry.level · = i)) priorityMax
  rw [← image] at popped
  cases served : serve Entry.level ledger.present with
  | none =>
      rw [served] at relates
      simp only at relates
      rw [relates] at popped
      simp [popEvent, popped]
  | some pair =>
      rcases pair with ⟨entry, left⟩
      rw [served] at relates
      rcases relates with ⟨others, taken, holds⟩
      rw [taken] at popped
      simp only [popEvent, popped, Option.map_some, true_and]
      intro i
      simp [Ledger.pop, served, holds i]

theorem eraseEvent_eq (event : Int) (events : List (NumberedEvent Data)) :
    eraseEvent event events = events.filter (fun other => !decide (other.event = event)) := by
  induction events with
  | nil => rfl
  | cons first rest ih =>
      by_cases same : first.event = event
      · simp [eraseEvent, same, ih]
      · simp [eraseEvent, same, ih]

theorem represents_deleteEvent (kept : ledger.Kept) (represents : Represents ledger queue)
    (event : Int) : Represents (ledger.delete event) (queue.deleteEvent event).2 := by
  intro i
  have held : Holds Entry.level ledger.present _ := fun _ => rfl
  have removed := holds_filter held fun entry => !entry.numbered event
  simp only [Ledger.delete, deleteEvent, ← removed i]
  split
  · rw [represents i, eraseEvent_eq, List.filter_map]
    rfl
  next above =>
    have nothing : ledger.present.filter (Entry.level · = i) = [] := by
      simp only [List.filter_eq_nil_iff, decide_eq_true_eq]
      intro entry member level
      exact above (level ▸ kept.bounded entry member)
    rw [represents i, nothing]
    rfl

/-- Every call takes the queue and its ledger along. -/
theorem represents_call (kept : ledger.Kept) (represents : Represents ledger queue)
    (next : Call Data) : Represents (ledger.call next) (queue.call next) := by
  cases next with
  | push event =>
      cases event with
      | none => exact represents
      | some event => exact represents_pushEvent represents event
  | pop =>
      have popped := popEvent_eq kept represents
      cases served : serve Entry.level ledger.present with
      | none =>
          rw [served] at popped
          have still : ledger.pop = ledger := by simp [Ledger.pop, served]
          simpa [EventQueue.call, Ledger.call, still, popped] using represents
      | some pair =>
          rw [served] at popped
          exact popped.2
  | delete event => exact represents_deleteEvent kept represents event

theorem represents_calls (history : List (Call Data)) :
    Represents (Ledger.calls history) (calls history) := by
  induction history using List.reverseRecOn with
  | nil => exact fun _ => rfl
  | append_singleton history next ih =>
      rw [Ledger.calls_append, calls_append]
      exact represents_call (Ledger.kept_calls history) ih next

/-! ## A stable priority queue -/

theorem map_snd_pushed (history : List (Call Data)) :
    (Ledger.calls history).pushed.map Prod.snd = pushes history := by
  induction history using List.reverseRecOn with
  | nil => rfl
  | append_singleton history next ih =>
      rw [Ledger.calls_append]
      match next with
      | .push none | .delete _ => simpa [Ledger.call, Ledger.delete, pushes] using ih
      | .push (some event) => simp [Ledger.call, Ledger.push, pushes, ih]
      | .pop =>
          simp only [Ledger.call, Ledger.pop]
          split <;> simpa [pushes] using ih

/-- What the ledger notes as returned is what the queue returned. -/
theorem map_snd_returned (history : List (Call Data)) :
    (Ledger.calls history).returned.map Prod.snd = returns history {} := by
  induction history using List.reverseRecOn with
  | nil => rfl
  | append_singleton history next ih =>
      rw [Ledger.calls_append, returns_append, ← ih, ← calls]
      match next with
      | .push none | .push (some _) | .delete _ =>
          simp [Ledger.call, Ledger.push, Ledger.delete, returnedBy]
      | .pop =>
          have popped := popEvent_eq (Ledger.kept_calls history) (represents_calls history)
          simp only [Ledger.call, Ledger.pop, returnedBy]
          split at popped
          next => simp [popped]
          next => simp [popped.1]

/-- What a stable priority queue does behind some calls, told by its ledger. -/
structure Stable (history : List (Call Data)) : Prop where
  /-- The entries are the pushes in their order, each with a number of its own. -/
  pushed : (Ledger.calls history).pushed.map Prod.snd = pushes history
  numbers : ((Ledger.calls history).pushed.map Prod.fst).Nodup
  /-- Every entry is in one place: it was returned, it was deleted, or it is present. -/
  places : (Ledger.calls history).pushed.Perm
    ((Ledger.calls history).returned ++ (Ledger.calls history).deleted ++
      (Ledger.calls history).present)
  returned : (Ledger.calls history).returned.map Prod.snd = returns history {}
  /-- The present entries are those that the queue holds, and they stand in the order of
  their pushes. -/
  represents : Represents (Ledger.calls history) (calls history)
  ordered : (Ledger.calls history).present.Pairwise fun older younger => older.1 < younger.1
  /-- `PopEvent` returns `NULL` when nothing is present, and then only. -/
  empty : (calls history).popEvent.1 = none ↔ (Ledger.calls history).present = []
  /-- The event it returns is above every older one and not below any younger one, and
  its entry moves to those returned. -/
  oldest : ∀ event, (calls history).popEvent.1 = some event →
    ∃ older number younger,
      (Ledger.calls history).present = older ++ (number, event) :: younger ∧
      (∀ other ∈ older, other.2.priority < event.priority) ∧
      (∀ other ∈ younger, other.2.priority ≤ event.priority) ∧
      (Ledger.calls (history ++ [.pop])).present = older ++ younger ∧
      (Ledger.calls (history ++ [.pop])).returned =
        (Ledger.calls history).returned ++ [(number, event)]
  /-- `DeleteEvent` removes the events with the given number, and no others. -/
  removed : ∀ event : Int,
    (Ledger.calls (history ++ [.delete event])).present =
        (Ledger.calls history).present.filter (fun entry => entry.2.event ≠ event) ∧
      (Ledger.calls (history ++ [.delete event])).deleted =
        (Ledger.calls history).deleted ++
          (Ledger.calls history).present.filter (fun entry => entry.2.event = event)

/-- The event queue is a stable priority queue behind all calls. -/
theorem stable_calls (history : List (Call Data)) : Stable history where
  pushed := map_snd_pushed history
  numbers := by
    rw [(Ledger.kept_calls history).numbers]
    exact List.nodup_range
  places := (Ledger.kept_calls history).places
  returned := map_snd_returned history
  represents := represents_calls history
  ordered := (Ledger.kept_calls history).ordered
  empty := by
    have popped := popEvent_eq (Ledger.kept_calls history) (represents_calls history)
    have nothing : serve Entry.level (Ledger.calls history).present = none ↔ _ :=
      serve_eq_none
    rw [← nothing]
    split at popped
    next served => simp [served, popped]
    next entry left served => simp [served, popped.1]
  oldest event taken := by
    have popped := popEvent_eq (Ledger.kept_calls history) (represents_calls history)
    split at popped
    next served => simp [popped] at taken
    next entry left served =>
      rcases serve_eq_some served with ⟨older, younger, present, rest, higher, notLower⟩
      have same : entry.2 = event := Option.some.inj (popped.1.symm.trans taken)
      subst same
      refine ⟨older, entry.1, younger, present, higher, notLower, ?_, ?_⟩
      · simp [Ledger.calls_append, Ledger.call, Ledger.pop, served, rest]
      · simp [Ledger.calls_append, Ledger.call, Ledger.pop, served]
  removed event := by
    have numbered : (fun entry : Entry Data => decide (entry.2.event = event)) =
        Entry.numbered event := rfl
    simp [Ledger.calls_append, Ledger.call, Ledger.delete, Entry.numbered, numbered]

end EventQueue

/-! ## The car's queue -/

/-- An event of the list, as the number and the text that the macros pass. -/
def AgvEvent.numbered (event : AgvEvent) : NumberedEvent EventData where
  event := event.event.ctorIdx
  name := reprStr event.event
  param := event.param
  priority := event.priority
  data := event.data

/-- The queue of the car, with numbered events. -/
def EventHelper.numbered (helper : EventHelper) : EventQueue EventData where
  eventList i := (helper.eventList i).map AgvEvent.numbered

/-- The events of the list are queued as numbered ones are. -/
theorem numbered_pushEvent (event : AgvEvent) (helper : EventHelper) :
    (helper.pushEvent event).numbered =
      (helper.numbered.pushEvent (some event.numbered)).2 := by
  have clips : EventQueue.clipped event.numbered =
      ({ event with priority := event.level } : AgvEvent).numbered := by
    rw [EventQueue.clipped, AgvEvent.level, AgvEvent.numbered]
    split <;> rfl
  simp only [EventHelper.numbered, EventHelper.pushEvent, EventQueue.pushEvent, clips]
  congr 1
  funext i
  simp only [pushLevel]
  split
  next same => simp [AgvEvent.numbered, same]
  next other => simp [AgvEvent.numbered, other]

/-- They are taken as numbered ones are. -/
theorem numbered_popEvent (helper : EventHelper) :
    helper.numbered.popEvent =
      match helper.popEvent with
      | none => (none, helper.numbered)
      | some (event, rest) => (some event.numbered, rest.numbered) := by
  have popped := popBelow_map AgvEvent.numbered helper.eventList priorityMax
  simp only [EventQueue.popEvent, EventHelper.popEvent, EventHelper.numbered, popped]
  cases popBelow priorityMax helper.eventList <;> rfl

end DrivingControl.Event

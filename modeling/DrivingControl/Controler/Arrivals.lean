import DrivingControl.Controler.PlannerTarget

/-!
# Arrivals and targets

The motion loop ends a drive, waits until the car stands and queues an arrival with the
station of its present target.  The main loop takes events from the queue.  A history
variable counts the installed paths and remembers for which of them a target was sent, and
at which station a drive has ended.

`HandleEvent` never looks at the station of an arrival.  Nevertheless every arrival that
is handled names the planner's target and comes from a drive that ended there and belongs to
the installed path, as long as the planner leaves no target whose arrival waits, and the loop
reports no drive whose target the planner has left.
-/

namespace DrivingControl.Controler

open DrivingControl.Comm DrivingControl.Event DrivingControl.Library

/-! ## The program with its queue -/

/-- One step of the program: the main loop handles the event it takes from the queue, and
only the motion loop queues arrivals. -/
def queuedStep : StepFn AgvCar CarStep
  | .handle evt readings, car =>
      match car.events.popEvent with
      | none => none
      | some (head, rest) =>
          if head = evt then { car with events := rest }.handleEvent readings evt else none
  | .post evt, car => if evt.isArrival then none else carStep (.post evt) car
  | label, car => carStep label car

theorem queuedStep_handle {evt : AgvEvent} {readings : Readings} {car next : AgvCar}
    (stepped : queuedStep (.handle evt readings) car = some next) :
    ∃ rest, car.events.popEvent = some (evt, rest) ∧
      { car with events := rest }.handleEvent readings evt = some next := by
  rw [queuedStep] at stepped
  cases popped : car.events.popEvent with
  | none => simp [popped] at stepped
  | some taken =>
      rcases taken with ⟨head, rest⟩
      simp only [popped] at stepped
      split at stepped
      next same =>
        subst same
        exact ⟨rest, rfl, stepped⟩
      next => cases stepped

/-- Every other step is one of the car. -/
theorem carStep_of_queuedStep {label : CarStep} {car next : AgvCar}
    (other : label.isHandle = false) (stepped : queuedStep label car = some next) :
    carStep label car = some next := by
  cases label with
  | handle evt readings => cases other
  | post evt =>
      simp only [queuedStep] at stepped
      split at stepped
      · cases stepped
      · exact stepped
  | _ => exact stepped

/-- Whether an event installs a path. -/
def installsPath (evt : AgvEvent) : Bool :=
  decide (evt.event = .evGetNewPath ∧ evt.data ≠ .null)

/-- Whether the planner leaves its target in an event. -/
def AgvCar.leavesTarget (readings : Readings) (evt : AgvEvent) (car : AgvCar) : Bool :=
  installsPath evt || decide (car.nextTarget readings evt ≠ car.router.targetId)

/-! ## Provenance -/

/-- For which path a target was sent, and whether the planner has left it since. -/
structure Origin where
  path : Nat := 0
  left : Bool := true
  deriving DecidableEq, Repr

/-- Where the targets of the move helper and the queued arrivals come from. -/
structure Provenance where
  /-- The number of paths installed so far. -/
  installed : Nat := 0
  /-- The origin of `targetPoint`. -/
  driven : Origin := {}
  /-- The origin of `lastPathMag`. -/
  saved : Origin := {}
  /-- The origin of the target whose drive ended last. -/
  reached : Origin := {}
  /-- The station at which that drive ended. -/
  station : Int := 0
  /-- The paths and the stations of the drives whose arrivals wait, oldest first. -/
  queued : List (Nat × Int) := []
  deriving DecidableEq, Repr

namespace Provenance

/-- An event is taken from the queue. -/
def take (evt : AgvEvent) (memory : Provenance) : Provenance :=
  if evt.isArrival then { memory with queued := memory.queued.tail } else memory

/-- The planner leaves its target. -/
def leave (installs : Bool) (memory : Provenance) : Provenance :=
  { memory with
    installed := if installs then memory.installed + 1 else memory.installed
    driven := { memory.driven with left := true }
    saved := { memory.saved with left := true }
    reached := { memory.reached with left := true } }

/-- A target is sent. -/
def send (memory : Provenance) (entry : Issued) : Provenance :=
  let saved := if entry.resumed then memory.saved else ⟨memory.installed, false⟩
  { memory with saved, driven := if entry.accepted then saved else memory.driven }

/-- The drive to a station ends. -/
def reach (station : Int) (memory : Provenance) : Provenance :=
  { memory with reached := memory.driven, station }

/-- An arrival is queued. -/
def arrive (memory : Provenance) : Provenance :=
  { memory with queued := memory.queued ++ [(memory.reached.path, memory.station)] }

end Provenance

/-- The provenance behind a step. -/
def observeArrival (car : AgvCar) (label : CarStep) (next : AgvCar) (memory : Provenance) :
    Provenance :=
  match label with
  | .handle evt readings =>
      let taken := memory.take evt
      let left := if car.leavesTarget readings evt then taken.leave (installsPath evt) else taken
      (next.controler.issued.drop car.controler.issued.length).foldl Provenance.send left
  | .loop _ =>
      if next.controler.moveHelper.arriving then
        memory.reach car.controler.moveHelper.targetPoint.station
      else memory
  | .arrive => memory.arrive
  | _ => memory

/-- The program beside its provenance. -/
def arrivalStep : StepFn (AgvCar × Provenance) CarStep := monitored queuedStep observeArrival

/-- An arrival that makes the car perform an action or moves the cursor names the
planner's target, and was queued for a drive that ended there, on the installed path. -/
def MatchesTarget (paired : AgvCar × Provenance) (label : CarStep)
    (next : AgvCar × Provenance) : Prop :=
  match label with
  | .handle evt _ =>
      evt.isArrival = true ∧
          (next.1.performed ≠ paired.1.performed ∨
            next.1.router.targetPathId ≠ paired.1.router.targetPathId) →
        paired.1.router.targetId = some evt.param ∧
          paired.2.queued.head? = some (paired.2.installed, evt.param)
  | _ => True

/-- The planner leaves its target only while no other arrival waits, and the loop reports
no drive whose target the planner has left, be it before the drive ended or since. -/
def Orderly (paired : AgvCar × Provenance) (label : CarStep) (_ : AgvCar × Provenance) :
    Prop :=
  match label with
  | .handle evt readings =>
      paired.1.leavesTarget readings evt = true →
        paired.1.events.arrivals important = [evt].filter AgvEvent.isArrival
  | .arrive => paired.2.reached.left = false
  | _ => True

instance (paired : AgvCar × Provenance) (label : CarStep) (next : AgvCar × Provenance) :
    Decidable (MatchesTarget paired label next) :=
  match label with
  | .handle _ _ => inferInstanceAs (Decidable (_ ∧ _ → _ ∧ _))
  | .post _ | .loop _ | .arrive | .halt | .lifter _ _ => inferInstanceAs (Decidable True)

instance (paired : AgvCar × Provenance) (label : CarStep) (next : AgvCar × Provenance) :
    Decidable (Orderly paired label next) :=
  match label with
  | .handle _ _ => inferInstanceAs (Decidable (_ → _ = _))
  | .arrive => inferInstanceAs (Decidable (_ = _))
  | .post _ | .loop _ | .halt | .lifter _ _ => inferInstanceAs (Decidable True)

/-! ## The invariant -/

/-- A target that the planner has not left is its target, and was sent for the installed
path. -/
def Origin.Follows (installed : Nat) (target : Option Int) (station : Int) (origin : Origin) :
    Prop :=
  origin.left = false → origin.path = installed ∧ target = some station

/-- The arrivals that wait name the planner's target, and the provenance is that of the
target that is driven to, of the saved one and of the one whose drive ended last.  Whoever
leaves the target of the last drive leaves the one that is driven to and the saved one. -/
structure Traced (events : EventHelper) (target : Option Int) (driven saved : Int)
    (memory : Provenance) : Prop where
  others : ∀ priority, priority ≠ important → events.arrivals priority = []
  length : memory.queued.length = (events.arrivals important).length
  stations : ∀ evt ∈ events.arrivals important, target = some evt.param
  drives : ∀ drive ∈ memory.queued, drive.1 = memory.installed ∧ target = some drive.2
  driven : memory.driven.Follows memory.installed target driven
  saved : memory.saved.Follows memory.installed target saved
  reached : memory.reached.Follows memory.installed target memory.station
  drivenStays : memory.reached.left = false → memory.driven.left = false
  savedStays : memory.driven.left = false → memory.saved.left = false

namespace Traced

variable {events other : EventHelper} {target : Option Int} {driven saved : Int}
  {memory : Provenance} {evt : AgvEvent}

/-- Other events than arrivals may come and go. -/
theorem of_sameArrivals (traced : Traced events target driven saved memory)
    (same : events.SameArrivals other) : Traced other target driven saved memory where
  others priority isOther := (same priority).trans (traced.others priority isOther)
  length := by rw [same important, traced.length]
  stations := by
    rw [same important]
    exact traced.stations
  drives := traced.drives
  driven := traced.driven
  saved := traced.saved
  reached := traced.reached
  drivenStays := traced.drivenStays
  savedStays := traced.savedStays

/-- An event that is taken is an arrival of priority `Important`, or leaves the
arrivals. -/
theorem arrivals_taken (traced : Traced events target driven saved memory)
    (taken : events.popEvent = some (evt, other)) :
    events.arrivals important = [evt].filter AgvEvent.isArrival ++ other.arrivals important ∧
      ∀ priority, priority ≠ important → other.arrivals priority = [] := by
  rcases EventHelper.arrivals_popEvent taken with ⟨top, split⟩
  have none : ∀ priority, priority ≠ important → other.arrivals priority = [] := by
    intro priority isOther
    have nothing := split priority
    rw [traced.others priority isOther] at nothing
    exact (List.append_eq_nil_iff.mp nothing.symm).2
  refine ⟨?_, none⟩
  rw [split important]
  congr 1
  cases arrival : evt.isArrival with
  | false => simp [arrival]
  | true =>
      have isTop : important = top := by
        apply Classical.byContradiction
        intro isOther
        have nothing := split top
        rw [traced.others top (Ne.symm isOther)] at nothing
        simp [arrival] at nothing
      simp [isTop, arrival]

theorem take (traced : Traced events target driven saved memory)
    (taken : events.popEvent = some (evt, other)) :
    Traced other target driven saved (memory.take evt) := by
  rcases traced.arrivals_taken taken with ⟨split, none⟩
  have stations : ∀ arrival ∈ other.arrivals important, target = some arrival.param := by
    intro arrival waits
    exact traced.stations arrival (split ▸ List.mem_append_right _ waits)
  have length := traced.length
  rw [split] at length
  rw [Provenance.take]
  cases arrival : evt.isArrival with
  | false =>
      simp only [arrival, List.filter_cons, Bool.false_eq_true, if_false, List.filter_nil,
        List.nil_append] at length ⊢
      exact { traced with others := none, length, stations }
  | true =>
      simp only [arrival, List.filter_cons, if_true, List.filter_nil, List.length_append,
        List.length_singleton] at length ⊢
      refine { traced with others := none, length := ?_, stations, drives := ?_ }
      · simp only [List.length_tail, length]
        omega
      · intro drive waits
        exact traced.drives drive (List.mem_of_mem_tail waits)

/-- The planner may leave its target while no arrival waits. -/
theorem leave (traced : Traced events target driven saved memory) (installs : Bool)
    (next : Option Int) (empty : events.arrivals important = []) :
    Traced events next driven saved (memory.leave installs) where
  others := traced.others
  length := traced.length
  stations := by
    rw [empty]
    exact fun _ waits => (nomatch waits)
  drives := by
    have nothing : memory.queued = [] := by
      rw [← List.length_eq_zero_iff, traced.length, empty, List.length_nil]
    rw [Provenance.leave, nothing]
    exact fun _ waits => (nomatch waits)
  driven := (nomatch ·)
  saved := (nomatch ·)
  reached := (nomatch ·)
  drivenStays := (nomatch ·)
  savedStays := (nomatch ·)

/-- The target that is sent is the planner's, or the saved one. -/
theorem send (traced : Traced events target driven saved memory) {entry : Issued}
    (first : entry.resumed = false → target = some entry.target.station)
    (again : entry.resumed = true → entry.target.station = saved) :
    Traced events target (if entry.accepted then entry.target.station else driven)
      (if entry.resumed then saved else entry.target.station) (memory.send entry) := by
  have origin : (memory.send entry).saved.Follows memory.installed target
      entry.target.station := by
    cases resumed : entry.resumed with
    | false =>
        simp only [Provenance.send, resumed]
        exact fun _ => ⟨rfl, first resumed⟩
    | true =>
        simp only [Provenance.send, resumed]
        rw [again resumed]
        exact traced.saved
  have savedKept : memory.saved.left = false → (memory.send entry).saved.left = false := by
    intro stays
    cases resumed : entry.resumed with
    | false => simp [Provenance.send, resumed]
    | true => simpa [Provenance.send, resumed] using stays
  refine ⟨traced.others, traced.length, traced.stations, traced.drives, ?_, ?_, traced.reached,
    ?_, ?_⟩
  · cases accepted : entry.accepted with
    | false =>
        simp only [Provenance.send, accepted]
        exact traced.driven
    | true =>
        simp only [Provenance.send, accepted, if_true] at origin ⊢
        exact origin
  · cases resumed : entry.resumed with
    | false =>
        simp only [Bool.false_eq_true, if_false]
        exact origin
    | true =>
        simp only [if_true]
        rw [← again resumed]
        exact origin
  · intro reached
    have stays := traced.drivenStays reached
    cases accepted : entry.accepted with
    | false => simpa [Provenance.send, accepted] using stays
    | true => simpa [Provenance.send, accepted] using savedKept (traced.savedStays stays)
  · intro stays
    cases accepted : entry.accepted with
    | false =>
        apply savedKept
        apply traced.savedStays
        simpa [Provenance.send, accepted] using stays
    | true => simpa [Provenance.send, accepted] using stays

/-- The drive to the present target ends. -/
theorem reach (traced : Traced events target driven saved memory) :
    Traced events target driven saved (memory.reach driven) :=
  { traced with reached := traced.driven, drivenStays := id }

/-- The loop reports the target it drives to, which is the one it has reached. -/
theorem arrive (traced : Traced events target driven saved memory)
    (present : memory.reached.left = false) :
    Traced (events.sendImportantEvent .evNextPathPoint driven) target driven saved
      memory.arrive := by
  have ended := traced.reached present
  rcases traced.driven (traced.drivenStays present) with ⟨-, station⟩
  have queued : ∀ priority,
      (events.sendImportantEvent .evNextPathPoint driven).arrivals priority =
        events.arrivals priority ++
          if priority = important then
            [{ event := .evNextPathPoint, param := driven, priority := important }]
          else [] := by
    intro priority
    rw [EventHelper.sendImportantEvent, EventHelper.arrivals_pushEvent]
    by_cases isImportant : priority = important
    · subst isImportant
      rfl
    · rw [if_neg isImportant, if_neg fun both => isImportant both.1]
  refine { traced with others := ?_, length := ?_, stations := ?_, drives := ?_ }
  · intro priority isOther
    rw [queued, traced.others priority isOther, if_neg isOther]
    rfl
  · simp [queued, Provenance.arrive, traced.length]
  · intro evt waits
    simp only [queued, if_true, List.mem_append, List.mem_singleton] at waits
    rcases waits with waits | rfl
    · exact traced.stations evt waits
    · exact station
  · intro drive waits
    simp only [Provenance.arrive, List.mem_append, List.mem_singleton] at waits
    rcases waits with waits | rfl
    · exact traced.drives drive waits
    · exact ended

end Traced

namespace AgvCar

/-- The invariant of the car beside its provenance. -/
def Traced (car : AgvCar) (memory : Provenance) : Prop :=
  Controler.Traced car.events car.router.targetId car.controler.moveHelper.targetPoint.station
    car.controler.lastPathMag.station memory

variable {readings : Readings} {car next : AgvCar} {evt : AgvEvent} {memory : Provenance}

/-- What is sent keeps the provenance. -/
theorem traced_sends {sent : Option Issued} {events : EventHelper} {target : Option Int}
    (traced : Controler.Traced events target car.controler.moveHelper.targetPoint.station
      car.controler.lastPathMag.station memory)
    (sends : CarControler.Sends sent car.controler next.controler)
    (named : ∀ entry, sent = some entry →
      entry.resumed = false ∧ target = some entry.target.station ∨
        entry.resumed = true ∧ entry.target.station = car.controler.lastPathMag.station) :
    Controler.Traced events target next.controler.moveHelper.targetPoint.station
      next.controler.lastPathMag.station
      ((next.controler.issued.drop car.controler.issued.length).foldl Provenance.send
        memory) := by
  have entries : next.controler.issued.drop car.controler.issued.length = sent.toList := by
    rw [sends.issued, List.drop_left]
  rw [entries, sends.lastPathMag]
  cases sent with
  | none =>
      have rests : car.controler.moveHelper.Rests next.controler.moveHelper := sends.moveHelper
      rw [rests.targetPoint]
      exact traced
  | some entry =>
      have names := named entry rfl
      have first : entry.resumed = false → target = some entry.target.station := by
        intro isFirst
        exact (names.resolve_right (by simp [isFirst])).2
      have again : entry.resumed = true →
          entry.target.station = car.controler.lastPathMag.station := by
        intro resumed
        exact (names.resolve_left (by simp [resumed])).2
      have sentOne := traced.send first again
      have driven : next.controler.moveHelper.targetPoint.station =
          if entry.accepted then entry.target.station
          else car.controler.moveHelper.targetPoint.station := by
        have drives := sends.moveHelper
        rcases entry with ⟨target, charging, resumed, _ | _⟩
        · exact congrArg PathMag.station (MoveHelper.Rests.targetPoint drives)
        · exact congrArg PathMag.station drives
      have saved : (CarControler.savedAfter (some entry) car.controler.lastPathMag).station =
          if entry.resumed then car.controler.lastPathMag.station else entry.target.station := by
        simp only [CarControler.savedAfter]
        split <;> rfl
      rw [driven, saved]
      exact sentOne

/-- Handling an event keeps the invariant, as long as no arrival waits when the planner
leaves its target. -/
theorem traced_handleEvent (traced : car.Traced memory)
    (handled : car.handleEvent readings evt = some next)
    (waits : car.leavesTarget readings evt = true → car.events.arrivals important = []) :
    next.Traced ((next.controler.issued.drop car.controler.issued.length).foldl
      Provenance.send (if car.leavesTarget readings evt then memory.leave (installsPath evt)
        else memory)) := by
  rcases sends_handleEvent handled with ⟨sends, arrivals⟩
  have behind : Controler.Traced car.events (car.nextTarget readings evt)
      car.controler.moveHelper.targetPoint.station car.controler.lastPathMag.station
      (if car.leavesTarget readings evt then memory.leave (installsPath evt) else memory) := by
    split
    next leaves => exact Controler.Traced.leave traced _ _ (waits leaves)
    next stays =>
      have same : car.nextTarget readings evt = car.router.targetId := by
        simp only [leavesTarget, Bool.or_eq_true, decide_eq_true_eq, not_or] at stays
        exact Decidable.of_not_not stays.2
      rw [same]
      exact traced
  have sentNow := traced_sends behind sends fun entry sent => (station_sentBy sent).imp id
    fun again => ⟨again.1, again.2.2⟩
  rw [Traced]
  rw [targetId_handleEvent handled]
  exact sentNow.of_sameArrivals arrivals

/-- A step of another thread that queues no arrival keeps the invariant. -/
theorem traced_background {label : CarStep} (traced : car.Traced memory)
    (stepped : queuedStep label car = some next) (other : label.isHandle = false)
    (quiet : label.queues .evNextPathPoint = false) : next.Traced memory := by
  have moved := carStep_of_queuedStep other stepped
  have background := background_carStep other moved
  have foreign : ∀ event, label.queues event = true → (event == .evNextPathPoint) = false := by
    intro event queues
    rw [beq_eq_false_iff_ne]
    rintro rfl
    simp [quiet] at queues
  rw [Traced]
  rw [background.router, background.moveHelper.targetPoint, background.lastPathMag]
  exact Controler.Traced.of_sameArrivals traced (ofKind_carStep other moved foreign)

end AgvCar

/-! ## Runs -/

/-- Each orderly step keeps the invariant. -/
theorem traced_arrivalStep (paired : AgvCar × Provenance) (label : CarStep)
    (next : AgvCar × Provenance) (traced : paired.1.Traced paired.2)
    (stepped : arrivalStep label paired = some next) (orderly : Orderly paired label next) :
    next.1.Traced next.2 := by
  rcases monitored_eq_some stepped with ⟨moved, observed⟩
  rcases paired with ⟨car, memory⟩
  rcases next with ⟨next, after⟩
  simp only at moved observed traced ⊢
  subst observed
  cases label with
  | handle evt readings =>
      rcases queuedStep_handle moved with ⟨rest, popped, handled⟩
      have taken : AgvCar.Traced { car with events := rest } (memory.take evt) :=
        Traced.take traced popped
      have waits : car.leavesTarget readings evt = true → rest.arrivals important = [] := by
        intro leaves
        have split := (Traced.arrivals_taken traced popped).1
        rw [orderly leaves] at split
        exact List.append_right_eq_self.mp split.symm
      have kept := AgvCar.traced_handleEvent taken handled waits
      exact kept
  | post evt =>
      have posted := moved
      simp only [queuedStep] at posted
      split at posted
      · cases posted
      next other => exact AgvCar.traced_background traced moved rfl (Bool.eq_false_iff.mpr other)
  | loop ret =>
      have kept := AgvCar.traced_background traced moved rfl rfl
      have background := AgvCar.background_carStep rfl (carStep_of_queuedStep rfl moved)
      have point := congrArg PathMag.station background.moveHelper.targetPoint
      simp only [observeArrival]
      split
      · rw [← point]
        exact Traced.reach kept
      · exact kept
  | arrive =>
      simp only [queuedStep, carStep] at moved
      split at moved
      · cases moved
        exact Traced.arrive traced orderly
      · cases moved
  | halt => exact AgvCar.traced_background traced moved rfl rfl
  | lifter height lstatus => exact AgvCar.traced_background traced moved rfl rfl

/-- An arrival that is handled names the planner's target and belongs to the installed
path. -/
theorem matchesTarget_arrivalStep (paired : AgvCar × Provenance) (label : CarStep)
    (next : AgvCar × Provenance) (traced : paired.1.Traced paired.2)
    (stepped : arrivalStep label paired = some next) : MatchesTarget paired label next := by
  cases label with
  | handle evt readings =>
      rintro ⟨arrival, -⟩
      rcases queuedStep_handle (monitored_eq_some stepped).1 with ⟨rest, popped, -⟩
      have split := (Traced.arrivals_taken traced popped).1
      simp only [arrival, List.filter_cons, if_true, List.filter_nil] at split
      have waits : evt ∈ paired.1.events.arrivals important := by simp [split]
      refine ⟨traced.stations evt waits, ?_⟩
      have length := traced.length
      rw [split] at length
      rcases queued : paired.2.queued with _ | ⟨⟨path, station⟩, drives⟩
      · simp [queued] at length
      · rcases traced.drives (path, station) (by simp [queued]) with ⟨rfl, same⟩
        have named : station = evt.param :=
          Option.some.inj (same.symm.trans (traced.stations evt waits))
        rw [List.head?_cons, named]
  | _ => trivial

/-- Before anything is queued the invariant holds. -/
theorem traced_init (router : RoutePlanner) : { AgvCar.init with router }.Traced {} :=
  ⟨fun _ _ => rfl, rfl, fun _ waits => (nomatch waits), fun _ waits => (nomatch waits),
    (nomatch ·), (nomatch ·), (nomatch ·), (nomatch ·), (nomatch ·)⟩

/-- Whatever file and settings are stored: in any interleaving in which the planner leaves its
target only while no other arrival waits, and the loop reports no drive whose target was left,
arrivals match targets. -/
theorem along_matchesTarget (router : RoutePlanner) (labels : List CarStep)
    (orderly : Along arrivalStep Orderly labels ({ AgvCar.init with router }, {})) :
    Along arrivalStep MatchesTarget labels ({ AgvCar.init with router }, {}) :=
  along_of_guard traced_arrivalStep
    (fun paired label next traced stepped _ =>
      matchesTarget_arrivalStep paired label next traced stepped) (traced_init router) orderly

/-! ## Sample runs -/

/-- A path is received. -/
def receivePath (stations : List StationInfo) : List CarStep :=
  let evt : AgvEvent :=
    { event := .evGetNewPath, param := stations.length, priority := important,
      data := .stationList }
  [.post evt, .handle evt { stationList := stations }]

/-- The car enters automatic mode, and a path is received and started. -/
def queuedDeparture (stations : List StationInfo) : List CarStep :=
  [.post { event := .evKeyAutoMode }, .handle { event := .evKeyAutoMode } {}] ++
    receivePath stations ++ [.handle { event := .evApplyPath } {}]

/-- The main loop handles the arrival at a station. -/
def handleArrival (station : Int) : CarStep :=
  .handle { event := .evNextPathPoint, param := station, priority := important } {}

/-- Both stations of a path are reached. -/
def twoStations : List CarStep :=
  queuedDeparture [stationAhead 1 0, stationAhead 2 1] ++
    [.loop 1, .arrive, handleArrival 1, .loop 1, .arrive, handleArrival 2]

theorem matchesTarget_twoStations :
    (run arrivalStep twoStations (AgvCar.init, {})).map (·.1.performed.length) = some 2 ∧
      Along arrivalStep MatchesTarget twoStations (AgvCar.init, {}) :=
  ⟨by decide, along_matchesTarget {} twoStations (by decide)⟩

/-- While the loop stops the drive at the end of a path, the path is replaced.  The
arrival it then queues is taken for the first station of the new one. -/
theorem left_over_arrival :
    ¬ ∀ (router : RoutePlanner) (labels : List CarStep),
      Along arrivalStep MatchesTarget labels ({ AgvCar.init with router }, {}) := by
  intro arrivalsMatch
  have leftOver := arrivalsMatch {} (queuedDeparture [stationAhead 1 1] ++ [.loop 1] ++
    receivePath [stationAhead 2 1] ++ [.arrive, handleArrival 1])
  exact absurd leftOver (by decide)

/-- When the new path is also started meanwhile, the arrival names its station, but not the
drive that has ended. -/
example :
    let labels := queuedDeparture [stationAhead 1 1] ++ [.loop 1] ++
      receivePath [stationAhead 2 1] ++ [.handle { event := .evApplyPath } {}, .arrive]
    (run arrivalStep labels (AgvCar.init, {})).map (·.2.queued) = some [(1, 1)] ∧
      ¬ Along arrivalStep Orderly labels (AgvCar.init, {}) := by decide

end DrivingControl.Controler

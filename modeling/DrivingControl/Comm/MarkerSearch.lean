import DrivingControl.Comm.AcceptedFrames

/-!
# The first frame of a buffer

`CheckProtocol` passes once over a buffer with a head that moves to every marker too
close behind it.  It finds the first two markers that are more than eight positions
apart and have no marker between them: what lies before them, and pairs that are too
close, never hide them.
-/

namespace DrivingControl.Comm

/-- Two markers of a buffer, far enough apart for a frame, with none between them. -/
structure MarkerPair (buf : List UInt8) (start stop : Nat) : Prop where
  head : buf[start]? = some marker
  tail : buf[stop]? = some marker
  far : start + 8 < stop
  between : ∀ i, start < i → i < stop → buf[i]? ≠ some marker

/-- The pair that comes before all others. -/
structure FirstPair (buf : List UInt8) (start stop : Nat) : Prop where
  pair : MarkerPair buf start stop
  first : ∀ other otherStop, MarkerPair buf other otherStop → start ≤ other ∧ stop ≤ otherStop

variable {buf : List UInt8} {start stop other otherStop i : Nat} {hi : Option Nat}

/-- A pair ends behind another one only if it also begins there. -/
theorem MarkerPair.stop_le (pair : MarkerPair buf start stop)
    (later : MarkerPair buf other otherStop) (behind : stop < otherStop) : stop ≤ other := by
  apply Classical.byContradiction
  intro before
  exact later.between stop (by omega) behind pair.tail

/-- Two pairs with one end have one beginning. -/
theorem MarkerPair.start_eq (pair : MarkerPair buf start stop)
    (same : MarkerPair buf other stop) : start = other := by
  rcases Nat.lt_trichotomy start other with less | equal | greater
  · exact absurd same.head (pair.between other less (by have := same.far; omega))
  · exact equal
  · exact absurd pair.head (same.between start greater (by have := pair.far; omega))

/-- A pair with no pair that ends before it is the first. -/
theorem MarkerPair.firstPair (pair : MarkerPair buf start stop)
    (none : ∀ other otherStop, MarkerPair buf other otherStop → stop ≤ otherStop) :
    FirstPair buf start stop := by
  refine ⟨pair, fun other otherStop found => ?_⟩
  have bound := none other otherStop found
  have apart := pair.far
  rcases Nat.lt_or_eq_of_le bound with behind | equal
  · have begins := pair.stop_le found behind
    exact ⟨by omega, bound⟩
  · subst equal
    have begins := pair.start_eq found
    exact ⟨by omega, bound⟩

/-! ## The pass over the buffer -/

/-- No marker is met yet, or the head is the last one met. -/
def HeadAt (buf : List UInt8) (i : Nat) : Option Nat → Prop
  | none => ∀ j, j < i → buf[j]? ≠ some marker
  | some head => head < i ∧ buf[head]? = some marker ∧
      ∀ j, head < j → j < i → buf[j]? ≠ some marker

/-- Before position `i` no pair has ended, and the head is what the loop takes it for. -/
structure Scanned (buf : List UInt8) (i : Nat) (hi : Option Nat) : Prop where
  head : HeadAt buf i hi
  none : ∀ start stop, MarkerPair buf start stop → i ≤ stop

/-- A byte that is no marker is passed. -/
theorem Scanned.pass (scanned : Scanned buf i hi) (other : buf[i]? ≠ some marker) :
    Scanned buf (i + 1) hi := by
  constructor
  · cases hi with
    | none =>
        intro j before
        rcases Nat.lt_succ_iff_lt_or_eq.mp before with less | equal
        · exact scanned.head j less
        · exact equal ▸ other
    | some head =>
        rcases scanned.head with ⟨behind, isMarker, between⟩
        refine ⟨by omega, isMarker, fun j after before => ?_⟩
        rcases Nat.lt_succ_iff_lt_or_eq.mp before with less | equal
        · exact between j after less
        · exact equal ▸ other
  · intro start stop pair
    have bound := scanned.none start stop pair
    apply Nat.lt_of_le_of_ne bound
    intro equal
    exact other (equal ▸ pair.tail)

/-- A marker behind the head ends a pair exactly if it is far enough away. -/
theorem Scanned.pair_iff (scanned : Scanned buf i hi) (isMarker : buf[i]? = some marker) :
    i - hi.getD i > 8 ↔ ∃ start, MarkerPair buf start i := by
  cases hi with
  | none =>
      constructor
      · intro far
        simp at far
      · rintro ⟨start, pair⟩
        exact absurd pair.head (scanned.head start (by have := pair.far; omega))
  | some head =>
      rcases scanned.head with ⟨behind, headMarker, between⟩
      rw [Option.getD_some]
      constructor
      · intro far
        exact ⟨head, headMarker, isMarker, by omega, between⟩
      · rintro ⟨start, pair⟩
        have apart := pair.far
        rcases Nat.lt_trichotomy start head with less | equal | greater
        · exact absurd headMarker (pair.between head less behind)
        · omega
        · exact absurd pair.head (between start greater (by omega))

/-- A marker that ends no pair becomes the head. -/
theorem Scanned.move (scanned : Scanned buf i hi) (isMarker : buf[i]? = some marker)
    (close : ¬ i - hi.getD i > 8) : Scanned buf (i + 1) (some i) := by
  constructor
  · exact ⟨Nat.lt_succ_self i, isMarker, fun j after before => by omega⟩
  · intro start stop pair
    have bound := scanned.none start stop pair
    apply Nat.lt_of_le_of_ne bound
    intro equal
    subst equal
    exact close ((scanned.pair_iff isMarker).mpr ⟨start, pair⟩)

/-- A marker that ends a pair ends the first one. -/
theorem Scanned.found (scanned : Scanned buf i hi) (isMarker : buf[i]? = some marker)
    (far : i - hi.getD i > 8) : FirstPair buf (hi.getD i) i := by
  cases hi with
  | none => simp at far
  | some head =>
      rcases scanned.head with ⟨behind, headMarker, between⟩
      rw [Option.getD_some] at far ⊢
      exact MarkerPair.firstPair ⟨headMarker, isMarker, by omega, between⟩ scanned.none

/-- What the loop returns from a position on: the first pair, or nothing if there is no
pair. -/
def Finds (buf : List UInt8) : Option (Nat × Nat) → Prop
  | none => ∀ start stop, ¬ MarkerPair buf start stop
  | some (start, stop) => FirstPair buf start stop

theorem Scanned.finds (rest : List UInt8) (suffix : buf.drop i = rest)
    (scanned : Scanned buf i hi) : Finds buf (checkLoop rest i hi) := by
  induction rest generalizing i hi with
  | nil =>
      intro start stop pair
      have short := List.drop_eq_nil_iff.mp suffix
      have inside := (List.getElem?_eq_some_iff.mp pair.tail).1
      have bound := scanned.none start stop pair
      omega
  | cons byte rest ih =>
      have here : buf[i]? = some byte := by
        rw [← List.head?_drop, suffix, List.head?_cons]
      have behind : buf.drop (i + 1) = rest := by
        rw [← List.tail_drop, suffix, List.tail_cons]
      rw [checkLoop]
      by_cases isMarker : byte = marker
      · subst isMarker
        rw [if_pos rfl]
        split
        next far => exact scanned.found here far
        next close => exact ih behind (scanned.move here close)
      · rw [if_neg isMarker]
        apply ih behind
        apply scanned.pass
        rw [here]
        exact fun same => isMarker (Option.some.inj same)

/-- The whole pass. -/
theorem finds_checkLoop (buf : List UInt8) : Finds buf (checkLoop buf 0 none) := by
  apply Scanned.finds (i := 0) buf rfl
  exact ⟨fun j before => absurd before (Nat.not_lt_zero j), fun _ _ _ => Nat.zero_le _⟩

/-- A pair needs ten bytes. -/
theorem MarkerPair.ten_le_length (pair : MarkerPair buf start stop) : 10 ≤ buf.length := by
  have inside := (List.getElem?_eq_some_iff.mp pair.tail).1
  have apart := pair.far
  omega

/-- `CheckProtocol` finds the first pair, or there is none. -/
theorem finds_checkProtocol (buf : List UInt8) : Finds buf (checkProtocol buf) := by
  rw [checkProtocol]
  split
  next short =>
    intro start stop pair
    have enough := pair.ten_le_length
    omega
  next => exact finds_checkLoop buf

/-- No marker lies between the two of a pair. -/
theorem MarkerPair.notMem (pair : MarkerPair buf start stop) :
    marker ∉ (buf.take stop).drop (start + 1) := by
  intro member
  rcases List.mem_iff_getElem?.mp member with ⟨k, found⟩
  rw [List.getElem?_drop, List.getElem?_take] at found
  split at found
  next inside => exact pair.between (start + 1 + k) (by omega) inside found
  next => cases found

/-- The bytes that are decoded hold no marker. -/
theorem marker_notMem_innerBytes (buf : List UInt8) : marker ∉ innerBytes buf := by
  have finds := finds_checkProtocol buf
  rw [innerBytes]
  split
  next => simp
  next start stop found =>
    rw [found] at finds
    exact finds.pair.notMem

/-- For every buffer: `CheckProtocol` succeeds exactly if the buffer has at least ten bytes
and a pair of markers; what it returns is the first pair, and the bytes between the two
that `UnPackData` decodes hold no marker. -/
theorem checkProtocol_spec (buf : List UInt8) :
    ((checkProtocol buf).isSome = true ↔
      10 ≤ buf.length ∧ ∃ start stop, MarkerPair buf start stop) ∧
    (∀ start stop, checkProtocol buf = some (start, stop) ↔ FirstPair buf start stop) ∧
    marker ∉ innerBytes buf := by
  have finds := finds_checkProtocol buf
  refine ⟨?_, fun start stop => ?_, marker_notMem_innerBytes buf⟩
  · cases found : checkProtocol buf with
    | none =>
        rw [found] at finds
        simp only [Option.isSome_none, Bool.false_eq_true, false_iff]
        rintro ⟨-, start, stop, pair⟩
        exact finds start stop pair
    | some markers =>
        rw [found] at finds
        exact iff_of_true rfl
          ⟨finds.pair.ten_le_length, markers.1, markers.2, finds.pair⟩
  · cases found : checkProtocol buf with
    | none =>
        rw [found] at finds
        exact iff_of_false (nomatch ·) fun first => finds start stop first.pair
    | some markers =>
        rw [found] at finds
        rcases markers with ⟨here, there⟩
        constructor
        · rintro ⟨⟩
          exact finds
        · intro first
          rcases first.first here there finds.pair with ⟨startLe, stopLe⟩
          rcases finds.first start stop first.pair with ⟨leStart, leStop⟩
          rw [Nat.le_antisymm leStart startLe, Nat.le_antisymm leStop stopLe]

end DrivingControl.Comm

import Mathlib.Algebra.GroupWithZero.Nat

/-!
# Delimited frames in a stream

A frame is a body without the delimiter between two delimiters.  The stream of
several frames may be cut into segments anywhere.  This module characterises the
cuts that fall between frames by counting: a segment that starts at a frame
boundary ends at one exactly when it holds an even number of delimiters.
-/

namespace DrivingControl.Library

universe u

variable {α : Type u} [DecidableEq α]

/-- A body without the delimiter, between two delimiters. -/
def IsFrame (delimiter : α) (frame : List α) : Prop :=
  ∃ body, delimiter ∉ body ∧ frame = delimiter :: (body ++ [delimiter])

/-- The segments are whole groups of consecutive frames. -/
def WholeFrames (frames segments : List (List α)) : Prop :=
  ∃ groups : List (List (List α)),
    groups.flatten = frames ∧ groups.map List.flatten = segments

namespace IsFrame

variable {delimiter : α} {frame : List α}

theorem count_eq_two (isFrame : IsFrame delimiter frame) :
    frame.count delimiter = 2 := by
  obtain ⟨body, absent, rfl⟩ := isFrame
  simp [List.count_append, List.count_eq_zero.mpr absent]

omit [DecidableEq α] in
theorem ne_nil (isFrame : IsFrame delimiter frame) : frame ≠ [] := by
  obtain ⟨body, -, rfl⟩ := isFrame
  simp

/-- A cut strictly inside a frame leaves one delimiter on each side. -/
theorem count_of_cut {front back : List α} (isFrame : IsFrame delimiter frame)
    (cut : frame = front ++ back) (frontNonempty : front ≠ []) (backNonempty : back ≠ []) :
    front.count delimiter = 1 := by
  have total := isFrame.count_eq_two
  obtain ⟨body, -, rfl⟩ := isFrame
  have inFront : 0 < front.count delimiter := by
    cases front with
    | nil => contradiction
    | cons head tail =>
        obtain ⟨rfl, -⟩ := List.cons.inj cut
        simp
  have inBack : 0 < back.count delimiter := by
    rcases List.eq_nil_or_concat back with rfl | ⟨init, last, rfl⟩
    · contradiction
    · have ends : (delimiter :: body) ++ [delimiter] = (front ++ init) ++ [last] := by
        simpa using cut
      obtain ⟨-, lastEq⟩ := List.append_inj' ends rfl
      simp [List.cons.inj lastEq]
  rw [cut, List.count_append] at total
  omega

end IsFrame

variable {delimiter : α}

/-- A concatenation of frames holds two delimiters for each of them. -/
theorem count_flatten_frames {frames : List (List α)}
    (areFrames : ∀ frame ∈ frames, IsFrame delimiter frame) :
    frames.flatten.count delimiter = 2 * frames.length := by
  induction frames with
  | nil => rfl
  | cons frame frames ih =>
      have head := (areFrames frame (by simp)).count_eq_two
      have tail := ih fun other member => areFrames other (by simp [member])
      simp only [List.flatten_cons, List.count_append, List.length_cons, head, tail]
      omega

/-- A segment at the start of a stream of frames that holds an even number of
delimiters is a concatenation of whole frames. -/
theorem split_of_even_count {frames : List (List α)}
    (areFrames : ∀ frame ∈ frames, IsFrame delimiter frame)
    {segment rest : List α} (stream : segment ++ rest = frames.flatten)
    (even : segment.count delimiter % 2 = 0) :
    ∃ front back, frames = front ++ back ∧ segment = front.flatten ∧
      rest = back.flatten := by
  induction frames generalizing segment with
  | nil =>
      obtain ⟨rfl, rfl⟩ := List.append_eq_nil_iff.mp stream
      exact ⟨[], [], rfl, rfl, rfl⟩
  | cons frame frames ih =>
      have headFrame := areFrames frame (by simp)
      have tailFrames : ∀ other ∈ frames, IsFrame delimiter other :=
        fun other member => areFrames other (by simp [member])
      rw [List.flatten_cons] at stream
      rcases List.append_eq_append_iff.mp stream with
        ⟨tail, cut, restEq⟩ | ⟨tail, segmentEq, streamTail⟩
      · -- The segment ends inside the first frame or at one of its ends.
        by_cases segmentNil : segment = []
        · subst segmentNil
          refine ⟨[], frame :: frames, rfl, rfl, ?_⟩
          simpa [List.flatten_cons] using stream
        by_cases tailNil : tail = []
        · subst tailNil
          refine ⟨[frame], frames, rfl, ?_, ?_⟩
          · simpa using cut.symm
          · simpa using restEq
        · have odd := headFrame.count_of_cut cut segmentNil tailNil
          omega
      · -- The whole first frame lies in the segment.
        have evenTail : tail.count delimiter % 2 = 0 := by
          have total := headFrame.count_eq_two
          rw [segmentEq, List.count_append] at even
          omega
        obtain ⟨front, back, rfl, rfl, rfl⟩ := ih tailFrames streamTail.symm evenTail
        exact ⟨frame :: front, back, rfl, by simpa using segmentEq, rfl⟩

/-- When every segment of a stream of frames holds an even number of delimiters,
no frame is cut. -/
theorem wholeFrames_of_even_counts {frames segments : List (List α)}
    (areFrames : ∀ frame ∈ frames, IsFrame delimiter frame)
    (stream : segments.flatten = frames.flatten)
    (even : ∀ segment ∈ segments, segment.count delimiter % 2 = 0) :
    WholeFrames frames segments := by
  induction segments generalizing frames with
  | nil =>
      cases frames with
      | nil => exact ⟨[], rfl, rfl⟩
      | cons frame frames =>
          have nonempty := (areFrames frame (by simp)).ne_nil
          simp [nonempty] at stream
  | cons segment segments ih =>
      rw [List.flatten_cons] at stream
      obtain ⟨front, back, rfl, rfl, restEq⟩ :=
        split_of_even_count areFrames stream (even segment (by simp))
      obtain ⟨groups, rfl, rfl⟩ := ih
        (fun frame member => areFrames frame (by simp [member])) restEq
        (fun other member => even other (by simp [member]))
      exact ⟨front :: groups, rfl, rfl⟩

/-- Sums of halved counts fall short of half the total as soon as one count is
odd. -/
theorem sum_halves_lt_of_odd {counts : List Nat} (odd : ∃ count ∈ counts, count % 2 = 1) :
    2 * (counts.map (· / 2)).sum < counts.sum := by
  have bound : ∀ others : List Nat, 2 * (others.map (· / 2)).sum ≤ others.sum := by
    intro others
    induction others with
    | nil => simp
    | cons count others ih =>
        simp only [List.map_cons, List.sum_cons]
        omega
  induction counts with
  | nil => simp at odd
  | cons count counts ih =>
      simp only [List.map_cons, List.sum_cons]
      obtain ⟨witness, member, isOdd⟩ := odd
      rcases List.mem_cons.mp member with rfl | member
      · have rest := bound counts
        omega
      · have rest := ih ⟨witness, member, isOdd⟩
        omega

end DrivingControl.Library

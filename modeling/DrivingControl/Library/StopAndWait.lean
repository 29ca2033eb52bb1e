import Mathlib.Data.Multiset.AddSub
import Mathlib.Data.List.Range

/-!
# Stop and wait

A sender sends numbered frames, and the next one only when it has an echo of the last.
Frames and echoes are delayed, overtake each other and are lost; a frame can be sent more
than once.  The numbers are not on the wire: the sender takes every echo for that of its
last frame.

If the receiver gets no number twice, it gets them in order, and the sender is never wrong.
-/

namespace DrivingControl.Library

/-- The numbers under way in both directions, and those received, in their order. -/
structure Traffic where
  forward : Multiset Nat := 0
  received : List Nat := []
  backward : Multiset Nat := 0

namespace Traffic

variable {number other : Nat} {traffic : Traffic}

def send (number : Nat) (traffic : Traffic) : Traffic :=
  { traffic with forward := number ::ₘ traffic.forward }

def lose (number : Nat) (traffic : Traffic) : Traffic :=
  { traffic with forward := traffic.forward.erase number }

/-- A frame is received and echoed. -/
def receive (number : Nat) (traffic : Traffic) : Traffic where
  forward := traffic.forward.erase number
  received := traffic.received ++ [number]
  backward := number ::ₘ traffic.backward

/-- An echo leaves the channel: the sender has it, or it is lost. -/
def takeEcho (number : Nat) (traffic : Traffic) : Traffic :=
  { traffic with backward := traffic.backward.erase number }

/-- All numbers below one are received, and no echo is under way. -/
structure Settled (number : Nat) (traffic : Traffic) : Prop where
  forward : ∀ sent ∈ traffic.forward, sent < number
  received : traffic.received = List.range number
  backward : traffic.backward = 0

/-- The sender waits for the echo of a number. -/
structure Waiting (number : Nat) (traffic : Traffic) : Prop where
  forward : ∀ sent ∈ traffic.forward, sent ≤ number
  received : (traffic.received = List.range number ∧ traffic.backward = 0) ∨
    (traffic.received = List.range (number + 1) ∧
      (traffic.backward = 0 ∨ traffic.backward = {number}))

theorem settled_start : Settled 0 {} :=
  ⟨fun _ sent => absurd sent (Multiset.notMem_zero _), rfl, rfl⟩

theorem Settled.send (settled : Settled number traffic) :
    Waiting number (traffic.send number) := by
  refine ⟨fun sent member => ?_, .inl ⟨settled.received, settled.backward⟩⟩
  rcases Multiset.mem_cons.mp member with rfl | before
  · exact Nat.le_refl _
  · exact Nat.le_of_lt (settled.forward sent before)

/-- A frame can be sent again while its echo is awaited. -/
theorem Waiting.send (waiting : Waiting number traffic) :
    Waiting number (traffic.send number) := by
  refine ⟨fun sent member => ?_, waiting.received⟩
  rcases Multiset.mem_cons.mp member with rfl | before
  · exact Nat.le_refl _
  · exact waiting.forward sent before

theorem Settled.lose (settled : Settled number traffic) (other : Nat) :
    Settled number (traffic.lose other) :=
  ⟨fun sent member => settled.forward sent (Multiset.mem_of_mem_erase member),
    settled.received, settled.backward⟩

theorem Waiting.lose (waiting : Waiting number traffic) (other : Nat) :
    Waiting number (traffic.lose other) :=
  ⟨fun sent member => waiting.forward sent (Multiset.mem_of_mem_erase member),
    waiting.received⟩

/-- Before the next number is sent, every frame under way was received already. -/
theorem Settled.mem_received (settled : Settled number traffic)
    (sent : other ∈ traffic.forward) : other ∈ traffic.received := by
  rw [settled.received, List.mem_range]
  exact settled.forward other sent

/-- The only new number is the one whose echo is awaited. -/
theorem Waiting.receive (waiting : Waiting number traffic) (sent : other ∈ traffic.forward)
    (new : other ∉ traffic.received) : Waiting number (traffic.receive other) := by
  have bound := waiting.forward other sent
  refine ⟨fun still member => waiting.forward still (Multiset.mem_of_mem_erase member), ?_⟩
  rcases waiting.received with ⟨received, silent⟩ | ⟨received, -⟩
  · rw [received, List.mem_range] at new
    have same : other = number := by omega
    subst same
    refine .inr ⟨?_, .inr ?_⟩
    · simp only [Traffic.receive, received, List.range_succ]
    · simp only [Traffic.receive, silent]
      rfl
  · rw [received, List.mem_range] at new
    omega

theorem Settled.not_mem_backward (settled : Settled number traffic) :
    other ∉ traffic.backward := by
  rw [settled.backward]
  exact Multiset.notMem_zero other

/-- An echo that is under way is the awaited one, and the only one. -/
theorem Waiting.echo (waiting : Waiting number traffic) (echoed : other ∈ traffic.backward) :
    other = number ∧ traffic.received = List.range (number + 1) ∧
      traffic.backward = {number} := by
  rcases waiting.received with ⟨-, silent⟩ | ⟨received, silent | single⟩
  · rw [silent] at echoed
    exact absurd echoed (Multiset.notMem_zero other)
  · rw [silent] at echoed
    exact absurd echoed (Multiset.notMem_zero other)
  · rw [single, Multiset.mem_singleton] at echoed
    exact ⟨echoed, received, single⟩

/-- With an echo the sender can go on to the next number. -/
theorem Waiting.settled (waiting : Waiting number traffic)
    (echoed : other ∈ traffic.backward) : Settled (number + 1) (traffic.takeEcho other) := by
  rcases waiting.echo echoed with ⟨rfl, received, single⟩
  refine ⟨fun sent member => Nat.lt_succ_of_le (waiting.forward sent member), received, ?_⟩
  simp only [takeEcho, single, Multiset.erase_singleton]

/-- An echo can be lost. -/
theorem Waiting.takeEcho (waiting : Waiting number traffic)
    (echoed : other ∈ traffic.backward) : Waiting number (traffic.takeEcho other) := by
  rcases waiting.echo echoed with ⟨rfl, received, single⟩
  refine ⟨waiting.forward, .inr ⟨received, .inl ?_⟩⟩
  simp only [Traffic.takeEcho, single, Multiset.erase_singleton]

end Traffic

end DrivingControl.Library

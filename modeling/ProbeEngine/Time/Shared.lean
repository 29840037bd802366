import ProbeEngine.Time.Clock

/-!
# Shared clocks

A clock is held through handles. The clone of a handle is to the same clock, so
whoever holds one sees the clock move when it is advanced through another. The
time of a clock is a duration; it cannot be advanced past the longest one.
-/

namespace ProbeEngine

/-- Clocks, and the place of the clock that each handle is to. Handles are
numbered in the order in which they are made. -/
structure Clocks where
  clocks : List Clock := []
  handles : List Nat := []
  handles_lt : ∀ i ∈ handles, i < clocks.length := by simp

namespace Clocks

/-- The clock of a handle. -/
def clock? (s : Clocks) (h : Nat) : Option Clock :=
  s.handles[h]?.bind fun i => s.clocks[i]?

/-- Starts another clock, with a handle to it. -/
def start (s : Clocks) (epoch : Timestamp) : Clocks where
  clocks := s.clocks ++ [Clock.startingAt epoch]
  handles := s.handles ++ [s.clocks.length]
  handles_lt i hi := by
    rw [List.length_append]
    rcases List.mem_append.1 hi with hi | hi
    · exact Nat.lt_succ_of_lt (s.handles_lt i hi)
    · exact List.mem_singleton.1 hi ▸ Nat.lt_succ_self _

/-- Makes another handle to the clock of a handle. -/
def clone? (s : Clocks) (h : Nat) : Option Clocks :=
  if hh : h < s.handles.length then
    some
      { s with
        handles := s.handles ++ [s.handles[h]]
        handles_lt := fun i hi => by
          rcases List.mem_append.1 hi with hi | hi
          · exact s.handles_lt i hi
          · exact List.mem_singleton.1 hi ▸ s.handles_lt _ (List.getElem_mem hh) }
  else none

/-- Replaces the clock at a place. -/
def setClock (s : Clocks) (i : Nat) (c : Clock) : Clocks where
  clocks := s.clocks.set i c
  handles := s.handles
  handles_lt j hj := by
    rw [List.length_set]
    exact s.handles_lt j hj

/-- Advances the clock of a handle, unless its time is then no duration. -/
def advance? (s : Clocks) (h nanos : Nat) : Option Clocks :=
  s.handles[h]?.bind fun i =>
    (s.clocks[i]?.bind fun c => c.advance? nanos).map fun c => s.setClock i c

end Clocks

end ProbeEngine

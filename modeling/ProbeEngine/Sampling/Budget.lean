import ProbeEngine.Sampling.Time

/-!
# The global budget

How many snapshots all probes together may take in a window of one second. A
window starts when none is open, and when more than a second has passed since
the last one started.
-/

namespace ProbeEngine

/-- The budget: the limit of a window, its start, and what was counted in it. -/
structure GlobalBudget (τ : Type) where
  limit : Nat
  windowStart : Option τ := none
  count : Nat := 0

namespace GlobalBudget

variable {τ : Type} [SamplingTime τ]

/-- The limit unless settings say otherwise. -/
def defaultLimit : Nat := 25

/-- The greatest count. -/
def greatestCount : Nat := UInt32.size - 1

/-- Whether the window of a budget is still open at a time. -/
def isOpen (b : GlobalBudget τ) (now : τ) : Bool :=
  match b.windowStart with
  | some start => SamplingTime.atMost (SamplingTime.between now start) SamplingTime.window
  | none => false

/-- The budget at a time: with a new window if none is open. -/
def opened (b : GlobalBudget τ) (now : τ) : GlobalBudget τ :=
  if b.isOpen now then b else { b with windowStart := some now, count := 0 }

/-- Whether the window has room for another snapshot. -/
def hasRoom (b : GlobalBudget τ) : Bool := b.count < b.limit

/-- Counts a snapshot. -/
def record (b : GlobalBudget τ) : GlobalBudget τ :=
  { b with count := min (b.count + 1) greatestCount }

end GlobalBudget

end ProbeEngine

import ProbeEngine.Number.Binary64
import ProbeEngine.Time.Timestamp

/-!
# Clocks

A clock shows the time since its start, in nanoseconds, and the point in time.
It moves only when it is advanced. The point in time stops at the latest one of
the calendar.
-/

namespace ProbeEngine

/-- A clock: the point in time at which it started, and the nanoseconds since. -/
structure Clock where
  epoch : Timestamp
  elapsed : Nat
  deriving DecidableEq, Repr

/-- The greatest count that sixty-four bits hold. -/
def greatestCount : Nat := UInt64.size - 1

namespace Duration

/-- The longest duration: as many seconds as sixty-four bits hold, and the
nanoseconds up to the next one. -/
def longest : Nat := greatestCount * 1000000000 + 999999999

/-- A duration in whole milliseconds, rounded down and capped. -/
def millis (nanos : Nat) : Nat := min (nanos / 1000000) greatestCount

/-- A duration in nanoseconds, capped. -/
def cappedNanos (nanos : Nat) : Nat := min nanos greatestCount

/-- The seconds of a duration as a double: the whole seconds and the fraction
are rounded each, then added. -/
def seconds (nanos : Nat) : Float :=
  Binary64.ofNat (nanos / 1000000000) + Binary64.ofNat (nanos % 1000000000) / 1e9

/-- The milliseconds of a duration as a double. -/
def millisFloat (nanos : Nat) : Float := seconds nanos * 1e3

/-- The longest signed duration, in nanoseconds: as many milliseconds as
sixty-three bits hold. -/
def longestSigned : Nat := (Nat.pow 2 63 - 1) * 1000000

/-- A duration as a signed one, if it is not too long for that. -/
def signed? (nanos : Nat) : Option Int :=
  if nanos ≤ longestSigned then some (nanos : Int) else none

end Duration

namespace Clock

/-- A clock that starts at a point in time. -/
def startingAt (epoch : Timestamp) : Clock := ⟨epoch, 0⟩

/-- The clock some nanoseconds later. -/
def advance (c : Clock) (nanos : Nat) : Clock := { c with elapsed := c.elapsed + nanos }

/-- The clock some nanoseconds later, unless its time is then no duration. -/
def advance? (c : Clock) (nanos : Nat) : Option Clock :=
  if c.elapsed + nanos ≤ Duration.longest then some (c.advance nanos) else none

/-- The time since the start, in whole milliseconds. -/
def elapsedMillis (c : Clock) : Nat := Duration.millis c.elapsed

/-- The point in time that the clock shows. -/
def now (c : Clock) : Timestamp :=
  ((Duration.signed? c.elapsed).bind c.epoch.add?).getD Timestamp.latest

end Clock

end ProbeEngine

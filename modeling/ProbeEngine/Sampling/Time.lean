import ProbeEngine.Time.Clock

/-!
# Times for sampling

Sampling compares the time between two points with a length. It asks nothing
else of a time, so it works on any type with these operations; the engine runs
it on doubles, in milliseconds.
-/

namespace ProbeEngine

/-- Times, in milliseconds, with what sampling needs of them. -/
class SamplingTime (τ : Type) where
  /-- The time from the second point to the first one. -/
  between : τ → τ → τ
  /-- Whether one length is at most another. -/
  atMost : τ → τ → Bool
  /-- The length of a window: one second. -/
  window : τ
  /-- The point so many nanoseconds after the start of a clock. -/
  ofNanos : Nat → τ
  /-- The time between two firings at so many per second, unless that is no
  positive finite number. -/
  interval? : Float → Option τ

/-- A rate that is a positive finite number, as settings ask for it. -/
def isPositiveRate (rate : Float) : Bool := rate.isFinite && 0 < rate

/-- Doubles keep the fraction of a millisecond, so that rates above one firing per
millisecond hold. A rate is refused if it is not finite, or not above zero. -/
instance : SamplingTime Float where
  between now start := now - start
  atMost x y := x ≤ y
  window := 1000
  ofNanos := Duration.millisFloat
  interval? rate := if !rate.isFinite || rate ≤ 0 then none else some (1000 / rate)

end ProbeEngine

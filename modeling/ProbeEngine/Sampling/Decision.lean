import ProbeEngine.Sampling.Budget
import ProbeEngine.Sampling.Sampler

/-!
# Sampling decisions

A call is sampled if the budget and the rate of its probe both allow it, and
only then both record it. The budget counts snapshots alone, and it is asked
first.
-/

namespace ProbeEngine

/-- Why a call is skipped. -/
inductive SkipReason
  | globalBudget
  | probeRate
  deriving DecidableEq, Repr

/-- A sampling decision. -/
inductive SamplingDecision
  | sample
  | skip (reason : SkipReason)
  deriving DecidableEq, Repr

/-- What a decision leaves behind: itself, the budget, and the sampler. -/
structure SamplingOutcome (τ : Type) where
  decision : SamplingDecision
  budget : GlobalBudget τ
  sampler : ProbeSampler τ

namespace GlobalBudget

variable {τ : Type} [SamplingTime τ]

/-- Decides about a call at a time. A full window and a rate that is not due leave
the counts as they are, but asking may start a new window. -/
def sample (b : GlobalBudget τ) (s : ProbeSampler τ) (isSnapshot : Bool) (now : τ) :
    SamplingOutcome τ :=
  let asked := if isSnapshot then b.opened now else b
  if isSnapshot && !asked.hasRoom then ⟨.skip .globalBudget, asked, s⟩
  else if !s.isDue now then ⟨.skip .probeRate, asked, s⟩
  else ⟨.sample, if isSnapshot then asked.record else asked, s.record now⟩

end GlobalBudget

end ProbeEngine

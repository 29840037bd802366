import Mathlib.Algebra.Order.Field.Rat
import Mathlib.Tactic.Positivity
import ProbeEngine.Sampling.Sampler

/-!
# Exact times

Sampling works on any times that can be compared. The engine runs it on doubles,
which are rounded; here it gets rationals, which are not. A rate is the number that
its double is, a rate is accepted exactly if the engine accepts it
(`isPositiveRate_iff`), and the time between two firings is then exactly the one
that the rate asks for (`ofRate_eq_ok_iff`).
-/

namespace ProbeEngine

namespace Binary64

/-- The number that a double is, if it is finite. -/
def rational? (x : Float) : Option ℚ :=
  match x.toModel.unpack with
  | .finite .positive m e _ => some (m * 2 ^ e.toNat / 2 ^ (-e).toNat)
  | .finite .negative m e _ => some (-(m * 2 ^ e.toNat / 2 ^ (-e).toNat))
  | .zero _ => some 0
  | .infinity _ => none
  | .notANumber => none

end Binary64

/-- A rate is positive as a double exactly if it is as a number. -/
theorem isPositiveRate_iff (rate : Float) :
    isPositiveRate rate ↔ ∃ r, Binary64.rational? rate = some r ∧ 0 < r := by
  have hzero : (0 : Float).toModel.unpack = .zero .positive := rfl
  have hlt : 0 < rate ↔
      (Float.Model.UnpackedFloat.zero .positive).lt rate.toModel.unpack = true := by
    rw [← hzero]
    exact decide_eq_true_iff
  have hfinite : rate.isFinite = rate.toModel.unpack.isFinite := rfl
  rw [isPositiveRate, Bool.and_eq_true, decide_eq_true_eq, hlt, hfinite, Binary64.rational?]
  cases rate.toModel.unpack with
  | notANumber =>
    refine iff_of_false (fun h => Bool.false_ne_true h.1) ?_
    rintro ⟨r, hr, -⟩
    cases hr
  | infinity sign =>
    refine iff_of_false (fun h => Bool.false_ne_true h.1) ?_
    rintro ⟨r, hr, -⟩
    cases hr
  | zero sign =>
    refine iff_of_false (fun h => Bool.false_ne_true h.2) ?_
    rintro ⟨r, hr, hr0⟩
    cases hr
    exact lt_irrefl 0 hr0
  | finite sign m e hm =>
    have hpos : (0 : ℚ) < m * 2 ^ e.toNat / 2 ^ (-e).toNat := by positivity
    cases sign with
    | positive => exact iff_of_true ⟨rfl, rfl⟩ ⟨_, rfl, hpos⟩
    | negative =>
      refine iff_of_false (fun h => Bool.false_ne_true h.2) ?_
      rintro ⟨r, hr, hr0⟩
      cases hr
      exact absurd hr0 (not_lt.2 (neg_nonpos.2 hpos.le))

/-- Rationals, in milliseconds. -/
instance : SamplingTime ℚ where
  between now start := now - start
  atMost x y := decide (x ≤ y)
  window := 1000
  ofNanos n := n / 1000000
  interval? rate :=
    if isPositiveRate rate then (Binary64.rational? rate).map fun r => 1000 / r else none

/-- The sampler for a rate waits exactly as long as the rate asks for. -/
theorem ProbeSampler.ofRate_eq_ok_iff {rate : Float} {x : ProbeSampler ℚ} :
    ProbeSampler.ofRate rate = .ok x ↔
      ∃ r, Binary64.rational? rate = some r ∧ 0 < r ∧ x = ⟨1000 / r, none⟩ := by
  have hinterval : (SamplingTime.interval? rate : Option ℚ) =
      if isPositiveRate rate then (Binary64.rational? rate).map fun r => 1000 / r else none := rfl
  rw [ProbeSampler.ofRate, hinterval]
  by_cases hrate : isPositiveRate rate
  · obtain ⟨r, hr, hpos⟩ := (isPositiveRate_iff rate).1 hrate
    simp [hrate, hr, hpos, eq_comm]
  · have hnone : ¬ ∃ r, Binary64.rational? rate = some r ∧ 0 < r :=
      fun h => hrate ((isPositiveRate_iff rate).2 h)
    rw [if_neg hrate]
    constructor
    · intro h
      cases h
    · rintro ⟨r, hr, hpos, -⟩
      exact absurd ⟨r, hr, hpos⟩ hnone

end ProbeEngine

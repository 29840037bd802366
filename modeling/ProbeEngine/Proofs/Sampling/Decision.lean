import ProbeEngine.Sampling.Decision

/-!
# What sampling keeps and counts

A decision looks at the budget first and then at the rate (`decision_sample`). It
keeps the interval of the sampler (`interval_sample`), records the time of a call that
is sampled and of no other (`sampler_sample`), and changes the budget for snapshots
alone (`budget_sample`). So a call that is sampled is counted in the budget exactly if
it takes a snapshot (`sample_of_sampled`).
-/

namespace ProbeEngine.GlobalBudget

variable {τ : Type} [SamplingTime τ]

theorem interval_sample (b : GlobalBudget τ) (s : ProbeSampler τ) (isSnapshot : Bool) (now : τ) :
    (b.sample s isSnapshot now).sampler.interval = s.interval := by
  rw [sample]
  cases isSnapshot with
  | false => cases s.isDue now <;> simp [ProbeSampler.record]
  | true =>
    cases hr : (b.opened now).hasRoom with
    | false => simp [hr]
    | true => cases s.isDue now <;> simp [hr, ProbeSampler.record]

/-- What a call that is sampled leaves behind. -/
theorem sample_of_sampled {b : GlobalBudget τ} {s : ProbeSampler τ} {isSnapshot : Bool} {now : τ}
    (h : (b.sample s isSnapshot now).decision = .sample) :
    b.sample s isSnapshot now =
      ⟨.sample, if isSnapshot then (b.opened now).record else b, s.record now⟩ := by
  rw [sample] at h ⊢
  cases isSnapshot with
  | false => cases hd : s.isDue now <;> simp [hd] at h ⊢
  | true =>
    cases hr : (b.opened now).hasRoom with
    | false => simp [hr] at h
    | true => cases hd : s.isDue now <;> simp [hr, hd] at h ⊢

theorem decision_sample (b : GlobalBudget τ) (s : ProbeSampler τ) (isSnapshot : Bool) (now : τ) :
    (b.sample s isSnapshot now).decision =
      if isSnapshot = true ∧ (b.opened now).hasRoom = false then .skip .globalBudget
      else if s.isDue now = false then .skip .probeRate
      else .sample := by
  unfold sample
  cases isSnapshot with
  | false => cases hd : s.isDue now <;> simp
  | true =>
    cases hr : (b.opened now).hasRoom with
    | false => simp [hr]
    | true => cases hd : s.isDue now <;> simp [hr]

/-- What a call that is skipped leaves behind. -/
theorem sample_of_skipped {b : GlobalBudget τ} {s : ProbeSampler τ} {isSnapshot : Bool} {now : τ}
    (h : (b.sample s isSnapshot now).decision ≠ .sample) :
    b.sample s isSnapshot now =
      ⟨(b.sample s isSnapshot now).decision, if isSnapshot then b.opened now else b, s⟩ := by
  unfold sample at h ⊢
  cases isSnapshot with
  | false => cases hd : s.isDue now <;> simp_all
  | true =>
    cases hr : (b.opened now).hasRoom with
    | false => simp [hr]
    | true => cases hd : s.isDue now <;> simp_all

/-- Only a call that is sampled is recorded by its sampler. -/
theorem sampler_sample (b : GlobalBudget τ) (s : ProbeSampler τ) (isSnapshot : Bool) (now : τ) :
    (b.sample s isSnapshot now).sampler =
      if (b.sample s isSnapshot now).decision = .sample then s.record now else s := by
  by_cases h : (b.sample s isSnapshot now).decision = .sample
  · rw [if_pos h, sample_of_sampled h]
  · rw [if_neg h, sample_of_skipped h]

/-- A snapshot that asks may open a window, whatever is decided; any other call leaves the
budget alone. -/
theorem budget_sample (b : GlobalBudget τ) (s : ProbeSampler τ) (isSnapshot : Bool) (now : τ) :
    (b.sample s isSnapshot now).budget =
      if isSnapshot then
        if (b.sample s isSnapshot now).decision = .sample then (b.opened now).record
        else b.opened now
      else b := by
  by_cases h : (b.sample s isSnapshot now).decision = .sample
  · rw [if_pos h, sample_of_sampled h]
  · rw [if_neg h, sample_of_skipped h]

/-- A call that takes no snapshot is decided about without the budget. -/
theorem decision_sample_false (b b' : GlobalBudget τ) (s : ProbeSampler τ) (now : τ) :
    (b.sample s false now).decision = (b'.sample s false now).decision := by
  rw [decision_sample, decision_sample]
  simp

end ProbeEngine.GlobalBudget

import Mathlib.Data.Rat.Floor
import Mathlib.Tactic.Ring
import ProbeEngine.Proofs.Sampling.History

/-!
# How much can be sampled in some time

Two ceilings hold of every history that was decided by the verdict:

* `snapshotsWithin_le` — in a second, both ends included, at most twice the limit of
  snapshots are sampled. A window is longer than a second, so at most one starts in
  that time; the calls before its start are in one window, the later ones in the next;
* `samplesWithin_le` — in any time a sampler is sampled at most once more than its
  interval fits into that time.
-/

namespace ProbeEngine.Sampling

variable {ι : Type}

/-- Whether a request was sampled at a time from `a` to `b`. -/
def Decided.isSampledWithin (a b : ℚ) (e : Decided ι) : Bool :=
  e.isSampled && decide (a ≤ e.now ∧ e.now ≤ b)

theorem isSampledWithin_iff {a b : ℚ} {e : Decided ι} :
    e.isSampledWithin a b = true ↔ e.decision = .sample ∧ a ≤ e.now ∧ e.now ≤ b := by
  simp [Decided.isSampledWithin, Decided.isSampled]

/-! ## Histories that the verdict decides -/

section

variable [DecidableEq ι] {limit : Nat} {intervals : ι → ℚ} {past : List (Decided ι)}

/-- A history in which every request was decided by the verdict. -/
def Ruled (limit : Nat) (intervals : ι → ℚ) (past : List (Decided ι)) : Prop :=
  ∀ before e after, past = before ++ e :: after →
    e.decision = verdict limit intervals before e.toRequest

theorem ruled_nil (limit : Nat) (intervals : ι → ℚ) : Ruled limit intervals [] := by
  intro before e after h
  cases before <;> cases h

theorem ruled_concat_iff {e : Decided ι} :
    Ruled limit intervals (past ++ [e]) ↔
      Ruled limit intervals past ∧ e.decision = verdict limit intervals past e.toRequest := by
  constructor
  · intro h
    refine ⟨fun before x after hx => h before x (after ++ [e]) ?_, h past e [] rfl⟩
    rw [hx, List.append_assoc, List.cons_append]
  · rintro ⟨h, he⟩ before x after hx
    rcases List.eq_nil_or_concat after with rfl | ⟨after, y, rfl⟩
    · obtain ⟨rfl, hxe⟩ := List.append_inj' hx rfl
      cases hxe
      exact he
    · refine h before x after ?_
      rw [List.concat_eq_append, ← List.cons_append, ← List.append_assoc] at hx
      exact (List.append_inj' hx rfl).1

/-- A sampled snapshot found room in its window. -/
theorem sampledIn_windowFor_lt {c : Request ι}
    (h : verdict limit intervals past c = .sample) (hc : c.isSnapshot = true) :
    sampledIn (windowFor (currentWindow past) c) < limit := by
  rcases (verdict_eq_sample_iff.1 h).1 with hno | hlt
  · rw [hc] at hno
    cases hno
  · exact hlt

/-- A window never holds more sampled calls than the limit. -/
theorem sampledIn_currentWindow_le (h : Ruled limit intervals past) :
    sampledIn (currentWindow past) ≤ limit := by
  induction past using List.reverseRecOn with
  | nil => exact Nat.zero_le limit
  | append_singleton past e ih =>
    obtain ⟨hpast, he⟩ := ruled_concat_iff.1 h
    have hle := ih hpast
    rw [currentWindow_concat]
    cases hsnap : e.isSnapshot with
    | false =>
      rw [enter, hsnap]
      exact hle
    | true =>
      rw [sampledIn_enter hsnap]
      by_cases hd : e.decision = .sample
      · have hlt := sampledIn_windowFor_lt (he.symm.trans hd) hsnap
        rw [if_pos hd]
        omega
      · rw [if_neg hd, windowFor]
        split
        · exact Nat.zero_le limit
        · exact hle

end

/-! ## The ceiling of all snapshots -/

/-- How many snapshots were sampled from `a` to `b`. -/
def snapshotsWithin (a b : ℚ) (past : List (Decided ι)) : Nat :=
  past.countP fun e => e.isSnapshot && e.isSampledWithin a b

theorem snapshotsWithin_concat (a b : ℚ) (past : List (Decided ι)) (e : Decided ι) :
    snapshotsWithin a b (past ++ [e]) =
      snapshotsWithin a b past + if e.isSnapshot && e.isSampledWithin a b then 1 else 0 := by
  unfold snapshotsWithin
  rw [List.countP_append, List.countP_singleton]

/-- How many snapshots from `a` to `b` a history can hold, by where its current window
starts: those of this window if it started before, and those of one more window if it
started in that time. -/
def allowance (limit : Nat) (a b : ℚ) (window : List (Decided ι)) : Nat :=
  match window.head? with
  | none => 0
  | some first =>
    if first.now < a then sampledIn window
    else if first.now ≤ b then limit + sampledIn window
    else 2 * limit

theorem allowance_le {limit : Nat} {window : List (Decided ι)} (h : sampledIn window ≤ limit)
    (a b : ℚ) : allowance limit a b window ≤ 2 * limit := by
  unfold allowance
  split
  · exact Nat.zero_le _
  · split
    · omega
    · split <;> omega

section

variable {limit : Nat} {past : List (Decided ι)} {a b : ℚ}

/-- A window that starts in the time finds at most the calls of one window before it. -/
theorem allowance_le_of_startsWindow (hab : b - a ≤ 1000) {c : Request ι}
    (hwindow : sampledIn (currentWindow past) ≤ limit) (hs : StartsWindow (currentWindow past) c)
    (hlate : ∀ x ∈ past, x.now ≤ c.now) (hb : c.now ≤ b) :
    allowance limit a b (currentWindow past) ≤ limit := by
  unfold allowance
  cases hhead : (currentWindow past).head? with
  | none => exact Nat.zero_le limit
  | some first =>
    dsimp only
    have hgap : 1000 < c.now - first.now := hs.2 first hhead
    have hfirst : first.now ≤ c.now :=
      hlate first (mem_of_mem_currentWindow (List.mem_of_mem_head? hhead))
    have hbefore : first.now < a := by linarith
    rw [if_pos hbefore]
    exact hwindow

/-- The step of the ceiling: one more request keeps the snapshots within the allowance. -/
theorem snapshotsWithin_enter_le (hab : b - a ≤ 1000) {e : Decided ι}
    (hwindow : sampledIn (currentWindow past) ≤ limit) (hlate : ∀ x ∈ past, x.now ≤ e.now)
    (ih : snapshotsWithin a b past ≤ allowance limit a b (currentWindow past))
    (hsnap : e.isSnapshot = true) :
    snapshotsWithin a b (past ++ [e]) ≤ allowance limit a b (enter (currentWindow past) e) := by
  have hcount : (if e.isSnapshot && e.isSampledWithin a b then 1 else 0) ≤
      (if e.decision = .sample then 1 else 0) := by
    by_cases hd : e.decision = .sample
    · rw [if_pos hd]
      split <;> omega
    · have hno : e.isSampledWithin a b = false := by
        rw [← Bool.not_eq_true, isSampledWithin_iff]
        exact fun h => hd h.1
      rw [hno]
      simp
  rw [snapshotsWithin_concat, allowance, head?_enter hsnap, sampledIn_enter hsnap]
  by_cases hs : StartsWindow (currentWindow past) e.toRequest
  · rw [if_pos hs, windowFor, if_pos hs]
    dsimp only
    by_cases hbefore : e.now < a
    · -- all that was sampled so far was sampled too early
      have hnone : snapshotsWithin a b past = 0 := by
        refine List.countP_eq_zero.2 fun x hx hwithin => ?_
        have hax := (isSampledWithin_iff.1 (Bool.and_eq_true_iff.1 hwithin).2).2.1
        exact absurd (hlate x hx) (by linarith)
      have hempty : sampledIn (ι := ι) [] = 0 := rfl
      rw [if_pos hbefore, hnone, hempty]
      omega
    · rw [if_neg hbefore]
      by_cases hb : e.now ≤ b
      · have hle := allowance_le_of_startsWindow hab hwindow hs hlate hb
        have hempty : sampledIn (ι := ι) [] = 0 := rfl
        rw [if_pos hb, hempty]
        omega
      · have hno : e.isSampledWithin a b = false := by
          rw [← Bool.not_eq_true, isSampledWithin_iff]
          exact fun h => hb h.2.2
        have hle := allowance_le hwindow a b
        rw [if_neg hb, hno, Bool.and_false, if_neg Bool.false_ne_true]
        omega
  · rw [if_neg hs, windowFor_of_not_startsWindow hs]
    unfold allowance at ih
    cases hhead : (currentWindow past).head? with
    | none =>
      refine absurd ⟨hsnap, fun first hfirst => ?_⟩ hs
      rw [hhead] at hfirst
      cases hfirst
    | some first =>
      rw [hhead] at ih
      dsimp only at ih ⊢
      by_cases hbefore : first.now < a
      · rw [if_pos hbefore] at ih ⊢
        omega
      · rw [if_neg hbefore] at ih ⊢
        by_cases hb : first.now ≤ b
        · rw [if_pos hb] at ih ⊢
          omega
        · -- the window started after the time, and so did this call
          have hfirst : first.now ≤ e.now :=
            hlate first (mem_of_mem_currentWindow (List.mem_of_mem_head? hhead))
          have hno : e.isSampledWithin a b = false := by
            rw [← Bool.not_eq_true, isSampledWithin_iff]
            exact fun h => hb (hfirst.trans h.2.2)
          rw [if_neg hb] at ih ⊢
          rw [hno, Bool.and_false, if_neg Bool.false_ne_true]
          omega

/-- **The ceiling of all snapshots.** Within a second at most twice the limit are sampled. -/
theorem snapshotsWithin_le [DecidableEq ι] {intervals : ι → ℚ} (hruled : Ruled limit intervals past)
    (hsorted : past.Pairwise fun x y => x.now ≤ y.now) (hab : b - a ≤ 1000) :
    snapshotsWithin a b past ≤ 2 * limit := by
  have hall : snapshotsWithin a b past ≤ allowance limit a b (currentWindow past) := by
    induction past using List.reverseRecOn with
    | nil => exact Nat.zero_le _
    | append_singleton past e ih =>
      obtain ⟨hpast, -⟩ := ruled_concat_iff.1 hruled
      rw [List.pairwise_append] at hsorted
      have hlate : ∀ x ∈ past, x.now ≤ e.now := fun x hx =>
        hsorted.2.2 x hx e List.mem_cons_self
      rw [currentWindow_concat]
      cases hsnap : e.isSnapshot with
      | false =>
        rw [enter, hsnap, if_neg Bool.false_ne_true, snapshotsWithin_concat, hsnap]
        exact ih hpast hsorted.1
      | true =>
        exact snapshotsWithin_enter_le hab (sampledIn_currentWindow_le hpast) hlate
          (ih hpast hsorted.1) hsnap
  exact hall.trans (allowance_le (sampledIn_currentWindow_le hruled) a b)

end

/-! ## The ceiling of one sampler -/

section

variable [DecidableEq ι] {limit : Nat} {intervals : ι → ℚ} {past : List (Decided ι)}

/-- How often a sampler was sampled from `a` to `b`. -/
def samplesWithin (i : ι) (a b : ℚ) (past : List (Decided ι)) : Nat :=
  past.countP fun e => decide (e.sampler = i) && e.isSampledWithin a b

/-- Each sample but the first one took its interval, and the last one came after them. -/
theorem samplesWithin_spaced (hruled : Ruled limit intervals past) {i : ι}
    (hpos : 0 < intervals i) (a t : ℚ) {k : Nat}
    (hk : samplesWithin i a (a + t) past = k + 1) :
    k * intervals i ≤ t ∧ ∃ last ∈ lastSample? past i, a + k * intervals i ≤ last := by
  induction past using List.reverseRecOn generalizing k with
  | nil => cases hk
  | append_singleton past e ih =>
    obtain ⟨hpast, he⟩ := ruled_concat_iff.1 hruled
    have hcount : samplesWithin i a (a + t) (past ++ [e]) = samplesWithin i a (a + t) past +
        if decide (e.sampler = i) && e.isSampledWithin a (a + t) then 1 else 0 := by
      unfold samplesWithin
      rw [List.countP_append, List.countP_singleton]
    rw [lastSample?_concat]
    rw [hcount] at hk
    by_cases hi : e.decision = .sample ∧ e.sampler = i
    · obtain ⟨hd, hi⟩ := hi
      rw [if_pos ⟨hd, hi⟩]
      have hgap : ∀ last ∈ lastSample? past i, intervals i ≤ e.now - last := by
        rw [← hi]
        exact (verdict_eq_sample_iff.1 (he.symm.trans hd)).2
      by_cases hwithin : a ≤ e.now ∧ e.now ≤ a + t
      · have hin : e.isSampledWithin a (a + t) = true := isSampledWithin_iff.2 ⟨hd, hwithin⟩
        rw [hin, decide_eq_true hi, Bool.and_self, if_pos rfl, Nat.add_right_cancel_iff] at hk
        cases k with
        | zero =>
          rw [Nat.cast_zero, zero_mul, add_zero]
          exact ⟨by linarith, e.now, rfl, hwithin.1⟩
        | succ k =>
          obtain ⟨-, last, hlast, hle⟩ := ih hpast hk
          have hnext : a + ((k + 1 : Nat) : ℚ) * intervals i ≤ e.now := by
            have := hgap last hlast
            push_cast
            linarith
          exact ⟨by linarith, e.now, rfl, hnext⟩
      · have hout : e.isSampledWithin a (a + t) = false := by
          rw [← Bool.not_eq_true, isSampledWithin_iff]
          exact fun h => hwithin h.2
        rw [hout, Bool.and_false, if_neg Bool.false_ne_true, Nat.add_zero] at hk
        obtain ⟨hle, last, hlast, hlate⟩ := ih hpast hk
        have := hgap last hlast
        exact ⟨hle, e.now, rfl, by linarith⟩
    · have hout : (decide (e.sampler = i) && e.isSampledWithin a (a + t)) = false := by
        rw [← Bool.not_eq_true, Bool.and_eq_true, decide_eq_true_eq, isSampledWithin_iff]
        exact fun h => hi ⟨h.2.1, h.1⟩
      rw [hout, if_neg Bool.false_ne_true, Nat.add_zero] at hk
      rw [if_neg hi]
      exact ih hpast hk

/-- **The ceiling of one sampler.** In any time it is sampled at most once more than its
interval fits into that time. -/
theorem samplesWithin_le (hruled : Ruled limit intervals past) {i : ι} (hpos : 0 < intervals i)
    (a t : ℚ) : samplesWithin i a (a + t) past ≤ ⌊t / intervals i⌋₊ + 1 := by
  cases hk : samplesWithin i a (a + t) past with
  | zero => exact Nat.zero_le _
  | succ k =>
    have hspaced := (samplesWithin_spaced hruled hpos a t hk).1
    have hfit : (k : ℚ) ≤ t / intervals i := (le_div_iff₀ hpos).2 hspaced
    exact Nat.succ_le_succ (Nat.le_floor hfit)

end

end ProbeEngine.Sampling

import Mathlib.Logic.Function.Basic
import Mathlib.Tactic.Linarith
import ProbeEngine.Proofs.Sampling.Decision
import ProbeEngine.Proofs.Sampling.Exact

/-!
# Sampling and its history

What sampling decides is a function of the requests that were made before and of what
was decided about them. This is written down without counters: the current window is
the list of the snapshot calls since its start (`currentWindow`), a sampler was last
sampled when the history says so (`lastSample?`), and `verdict` is the decision.

* `decision_of_reflects`, `reflects_sample` — a budget that reflects a history decides
  by the verdict, and then reflects the longer history;
* `controller_refines_history` — so does one budget with any number of samplers, after
  any requests at any times.
-/

namespace ProbeEngine.Sampling

/-! ## Requests and their history -/

/-- A call that asks whether it is sampled: the sampler of its probe, whether it takes a
snapshot, and the time in milliseconds. -/
structure Request (ι : Type) where
  sampler : ι
  isSnapshot : Bool
  now : ℚ

/-- A request with what was decided about it. -/
structure Decided (ι : Type) extends Request ι where
  decision : SamplingDecision

variable {ι : Type}

/-- Whether a request was sampled. -/
def Decided.isSampled (e : Decided ι) : Bool := decide (e.decision = .sample)

/-- How many of some requests were sampled. -/
def sampledIn (es : List (Decided ι)) : Nat := es.countP Decided.isSampled

/-! ## Windows -/

/-- Whether a request starts a window when these are the calls of the current one: it
does if it takes a snapshot, and no window is open or more than a second has passed
since the first of them. -/
def StartsWindow (window : List (Decided ι)) (c : Request ι) : Prop :=
  c.isSnapshot = true ∧ ∀ first ∈ window.head?, 1000 < c.now - first.now

instance (window : List (Decided ι)) (c : Request ι) : Decidable (StartsWindow window c) :=
  inferInstanceAs (Decidable (_ ∧ _))

/-- The calls before a request that are in its window. -/
def windowFor (window : List (Decided ι)) (c : Request ι) : List (Decided ι) :=
  if StartsWindow window c then [] else window

/-- The calls of the current window after one more request. -/
def enter (window : List (Decided ι)) (e : Decided ι) : List (Decided ι) :=
  if e.isSnapshot then windowFor window e.toRequest ++ [e] else window

/-- The snapshot calls of the current window, the one that started it first. -/
def currentWindow (past : List (Decided ι)) : List (Decided ι) := past.foldl enter []

theorem currentWindow_concat (past : List (Decided ι)) (e : Decided ι) :
    currentWindow (past ++ [e]) = enter (currentWindow past) e := by
  rw [currentWindow, List.foldl_append, ← currentWindow]
  rfl

theorem windowFor_of_not_startsWindow {window : List (Decided ι)} {c : Request ι}
    (h : ¬ StartsWindow window c) : windowFor window c = window := if_neg h

/-- A snapshot call that starts no window finds one that is open. -/
theorem head?_enter {window : List (Decided ι)} {e : Decided ι} (he : e.isSnapshot = true) :
    (enter window e).head? =
      if StartsWindow window e.toRequest then some e else window.head? := by
  unfold enter windowFor
  rw [if_pos he]
  split
  · rfl
  · rename_i hs
    cases window with
    | nil => exact absurd ⟨he, by simp⟩ hs
    | cons first rest => rfl

theorem sampledIn_enter {window : List (Decided ι)} {e : Decided ι} (he : e.isSnapshot = true) :
    sampledIn (enter window e) =
      sampledIn (windowFor window e.toRequest) + if e.decision = .sample then 1 else 0 := by
  unfold enter sampledIn
  rw [if_pos he, List.countP_append, List.countP_singleton]
  simp [Decided.isSampled]

/-- The calls of a window were made. -/
theorem mem_of_mem_currentWindow {past : List (Decided ι)} {e : Decided ι}
    (he : e ∈ currentWindow past) : e ∈ past := by
  induction past using List.reverseRecOn with
  | nil => cases he
  | append_singleton past x ih =>
    rw [currentWindow_concat, enter, windowFor] at he
    rw [List.mem_append, List.mem_singleton]
    split at he
    · rcases List.mem_append.1 he with he | he
      · split at he
        · cases he
        · exact Or.inl (ih he)
      · exact Or.inr (List.mem_singleton.1 he)
    · exact Or.inl (ih he)

/-! ## Samplers -/

section

variable [DecidableEq ι]

/-- When a sampler was last sampled, if it ever was. -/
def lastSample? (past : List (Decided ι)) (i : ι) : Option ℚ :=
  ((past.filter fun e => e.isSampled && decide (e.sampler = i)).getLast?).map (·.now)

theorem lastSample?_concat (past : List (Decided ι)) (e : Decided ι) (i : ι) :
    lastSample? (past ++ [e]) i =
      if e.decision = .sample ∧ e.sampler = i then some e.now else lastSample? past i := by
  unfold lastSample?
  rw [List.filter_append, List.filter_singleton]
  by_cases h : e.decision = .sample ∧ e.sampler = i
  · simp [Decided.isSampled, h]
  · rw [if_neg h]
    have hf : (e.isSampled && decide (e.sampler = i)) = false := by
      simpa [Decided.isSampled] using h
    rw [hf]
    simp

/-- A sampler that no request was made to was never sampled. -/
theorem lastSample?_eq_none {past : List (Decided ι)} {i : ι} (h : ∀ e ∈ past, e.sampler ≠ i) :
    lastSample? past i = none := by
  unfold lastSample?
  have hnone : (past.filter fun e => e.isSampled && decide (e.sampler = i)) = [] := by
    rw [List.filter_eq_nil_iff]
    intro e he
    simp [h e he]
  rw [hnone]
  rfl

/-! ## The verdict -/

/-- What is decided about a request by the history: the budget refuses a snapshot whose
window is full, and then the rate refuses a call that comes too early. -/
def verdict (limit : Nat) (intervals : ι → ℚ) (past : List (Decided ι)) (c : Request ι) :
    SamplingDecision :=
  if c.isSnapshot = true ∧ limit ≤ sampledIn (windowFor (currentWindow past) c) then
    .skip .globalBudget
  else if ∃ last ∈ lastSample? past c.sampler, c.now - last < intervals c.sampler then
    .skip .probeRate
  else .sample

theorem verdict_eq_sample_iff {limit : Nat} {intervals : ι → ℚ} {past : List (Decided ι)}
    {c : Request ι} :
    verdict limit intervals past c = .sample ↔
      (c.isSnapshot = false ∨ sampledIn (windowFor (currentWindow past) c) < limit) ∧
        ∀ last ∈ lastSample? past c.sampler, intervals c.sampler ≤ c.now - last := by
  have hbudget : ¬ (c.isSnapshot = true ∧ limit ≤ sampledIn (windowFor (currentWindow past) c)) ↔
      c.isSnapshot = false ∨ sampledIn (windowFor (currentWindow past) c) < limit := by
    rw [not_and_or, Bool.not_eq_true, not_le]
  unfold verdict
  by_cases hb : c.isSnapshot = true ∧ limit ≤ sampledIn (windowFor (currentWindow past) c)
  · rw [if_pos hb, ← hbudget]
    simp [hb]
  · rw [if_neg hb, and_iff_right (hbudget.1 hb)]
    split
    · rename_i hrate
      obtain ⟨last, hlast, hlt⟩ := hrate
      exact iff_of_false (by simp) fun h => absurd (h last hlast) (not_le.2 hlt)
    · rename_i hrate
      refine iff_of_true rfl fun last hlast => not_lt.1 fun hlt => hrate ⟨last, hlast, hlt⟩

theorem verdict_eq_globalBudget_iff {limit : Nat} {intervals : ι → ℚ}
    {past : List (Decided ι)} {c : Request ι} :
    verdict limit intervals past c = .skip .globalBudget ↔
      c.isSnapshot = true ∧ limit ≤ sampledIn (windowFor (currentWindow past) c) := by
  unfold verdict
  by_cases hb : c.isSnapshot = true ∧ limit ≤ sampledIn (windowFor (currentWindow past) c)
  · rw [if_pos hb]
    exact iff_of_true rfl hb
  · rw [if_neg hb]
    refine iff_of_false ?_ hb
    split <;> simp

theorem verdict_eq_probeRate_iff {limit : Nat} {intervals : ι → ℚ} {past : List (Decided ι)}
    {c : Request ι} :
    verdict limit intervals past c = .skip .probeRate ↔
      (c.isSnapshot = false ∨ sampledIn (windowFor (currentWindow past) c) < limit) ∧
        ∃ last ∈ lastSample? past c.sampler, c.now - last < intervals c.sampler := by
  unfold verdict
  by_cases hb : c.isSnapshot = true ∧ limit ≤ sampledIn (windowFor (currentWindow past) c)
  · rw [if_pos hb]
    refine iff_of_false (by simp) fun h => ?_
    rcases h.1 with h | h
    · rw [h] at hb
      cases hb.1
    · omega
  · rw [if_neg hb]
    rw [not_and_or, Bool.not_eq_true, not_le] at hb
    rw [and_iff_right hb]
    split
    · rename_i hrate
      exact iff_of_true rfl hrate
    · rename_i hrate
      exact iff_of_false (by simp) hrate

end

/-! ## The budget reflects the history -/

/-- A budget that holds what the history says: the limit, the start of the current window,
and how many snapshots were sampled in it. -/
structure Reflects (limit : Nat) (past : List (Decided ι)) (b : GlobalBudget ℚ) : Prop where
  limit_eq : b.limit = limit
  windowStart : b.windowStart = (currentWindow past).head?.map (·.now)
  count : b.count = sampledIn (currentWindow past)
  count_le : b.count ≤ limit

section

variable {limit : Nat} {past : List (Decided ι)} {b : GlobalBudget ℚ}

theorem reflects_nil (limit : Nat) : Reflects (ι := ι) limit [] { limit := limit } where
  limit_eq := rfl
  windowStart := rfl
  count := rfl
  count_le := Nat.zero_le limit

/-- A window is open for a snapshot call exactly if the call starts none. -/
theorem isOpen_eq_false_iff (h : Reflects limit past b) {c : Request ι}
    (hc : c.isSnapshot = true) :
    b.isOpen c.now = false ↔ StartsWindow (currentWindow past) c := by
  have hopen : b.isOpen c.now =
      ((currentWindow past).head?.any fun first => decide (c.now - first.now ≤ 1000)) := by
    rw [GlobalBudget.isOpen, h.windowStart]
    cases (currentWindow past).head? <;> rfl
  rw [hopen, StartsWindow, and_iff_right hc]
  cases (currentWindow past).head? with
  | none => simp
  | some first =>
    rw [Option.any_some, decide_eq_false_iff_not, not_le]
    simp

/-- The budget that a snapshot call finds: a new one if it starts a window. -/
theorem opened_eq (h : Reflects limit past b) {c : Request ι} (hc : c.isSnapshot = true) :
    b.opened c.now =
      if StartsWindow (currentWindow past) c then
        { b with windowStart := some c.now, count := 0 }
      else b := by
  rw [GlobalBudget.opened]
  by_cases hs : StartsWindow (currentWindow past) c
  · rw [if_pos hs, (isOpen_eq_false_iff h hc).2 hs]
    rfl
  · have hopen : b.isOpen c.now = true := by
      rw [← Bool.not_eq_false, isOpen_eq_false_iff h hc]
      exact hs
    rw [if_neg hs, if_pos hopen]

theorem count_opened (h : Reflects limit past b) {c : Request ι} (hc : c.isSnapshot = true) :
    (b.opened c.now).count = sampledIn (windowFor (currentWindow past) c) := by
  rw [opened_eq h hc, windowFor]
  split
  · rfl
  · exact h.count

theorem limit_opened (h : Reflects limit past b) {c : Request ι} (hc : c.isSnapshot = true) :
    (b.opened c.now).limit = limit := by
  rw [opened_eq h hc]
  split <;> exact h.limit_eq

theorem hasRoom_opened_eq_false_iff (h : Reflects limit past b) {c : Request ι}
    (hc : c.isSnapshot = true) :
    (b.opened c.now).hasRoom = false ↔
      limit ≤ sampledIn (windowFor (currentWindow past) c) := by
  rw [GlobalBudget.hasRoom, count_opened h hc, limit_opened h hc, decide_eq_false_iff_not, not_lt]

/-- The start of the window after a request. -/
theorem windowStart_sample (h : Reflects limit past b) (s : ProbeSampler ℚ) (c : Request ι) :
    (b.sample s c.isSnapshot c.now).budget.windowStart =
      if c.isSnapshot = true ∧ ∀ start ∈ b.windowStart, 1000 < c.now - start then some c.now
      else b.windowStart := by
  have hstarts : (c.isSnapshot = true ∧ ∀ start ∈ b.windowStart, 1000 < c.now - start) ↔
      StartsWindow (currentWindow past) c := by
    rw [StartsWindow, h.windowStart]
    simp
  have hrecord : (b.opened c.now).record.windowStart = (b.opened c.now).windowStart := rfl
  simp only [hstarts]
  rw [GlobalBudget.budget_sample]
  cases hc : c.isSnapshot with
  | false =>
    have hno : ¬ StartsWindow (currentWindow past) c := fun hs => absurd hs.1 (by simp [hc])
    rw [if_neg hno]
    rfl
  | true =>
    rw [if_pos rfl, apply_ite GlobalBudget.windowStart, hrecord, ite_self, opened_eq h hc]
    split <;> rfl

/-- **A budget that reflects a history decides by the verdict**, if the sampler is as the
history says. -/
theorem decision_of_reflects [DecidableEq ι] {intervals : ι → ℚ} (h : Reflects limit past b)
    (c : Request ι) :
    (b.sample ⟨intervals c.sampler, lastSample? past c.sampler⟩ c.isSnapshot c.now).decision =
      verdict limit intervals past c := by
  have hroom : (c.isSnapshot = true ∧ (b.opened c.now).hasRoom = false) ↔
      (c.isSnapshot = true ∧ limit ≤ sampledIn (windowFor (currentWindow past) c)) :=
    and_congr_right fun hc => hasRoom_opened_eq_false_iff h hc
  have hdue : ProbeSampler.isDue ⟨intervals c.sampler, lastSample? past c.sampler⟩ c.now = false ↔
      ∃ last ∈ lastSample? past c.sampler, c.now - last < intervals c.sampler := by
    unfold ProbeSampler.isDue
    cases lastSample? past c.sampler with
    | none => simp
    | some last => simp [SamplingTime.atMost, SamplingTime.between]
  rw [GlobalBudget.decision_sample, verdict]
  simp only [hroom, hdue]

/-- **A decision keeps the budget in step with the history**, whatever the sampler says. A
count never reaches the greatest one that the budget can hold. -/
theorem reflects_sample (hlimit : limit ≤ GlobalBudget.greatestCount)
    (h : Reflects limit past b) (s : ProbeSampler ℚ) (c : Request ι) :
    Reflects limit (past ++ [⟨c, (b.sample s c.isSnapshot c.now).decision⟩])
      (b.sample s c.isSnapshot c.now).budget := by
  set d := (b.sample s c.isSnapshot c.now).decision with hd
  rw [GlobalBudget.budget_sample, ← hd]
  cases hc : c.isSnapshot with
  | false =>
    have hsame : currentWindow (past ++ [⟨c, d⟩]) = currentWindow past := by
      rw [currentWindow_concat, enter, hc]
      rfl
    exact ⟨h.limit_eq, hsame ▸ h.windowStart, hsame ▸ h.count, h.count_le⟩
  | true =>
    have hhead : (currentWindow (past ++ [⟨c, d⟩])).head?.map (·.now) =
        (b.opened c.now).windowStart := by
      rw [currentWindow_concat, head?_enter hc, opened_eq h hc]
      by_cases hs : StartsWindow (currentWindow past) c
      · rw [if_pos hs, if_pos hs]
        rfl
      · rw [if_neg hs, if_neg hs, h.windowStart]
    have hcount : sampledIn (currentWindow (past ++ [⟨c, d⟩])) =
        (b.opened c.now).count + if d = .sample then 1 else 0 := by
      rw [currentWindow_concat, sampledIn_enter hc, count_opened h hc]
    have hle : (b.opened c.now).count ≤ limit := by
      rw [opened_eq h hc]
      split
      · exact Nat.zero_le limit
      · exact h.count_le
    rw [if_pos rfl]
    by_cases hsample : d = .sample
    · -- a call that is sampled found room, so its count is within the limit
      have hroom : (b.opened c.now).count < limit := by
        have hdecision := GlobalBudget.decision_sample b s c.isSnapshot c.now
        rw [← hd, hsample, hc] at hdecision
        by_contra hfull
        have hno : (b.opened c.now).hasRoom = false := by
          rw [GlobalBudget.hasRoom, limit_opened h hc]
          simpa using hfull
        simp [hno] at hdecision
      rw [if_pos hsample] at hcount ⊢
      have hrecord : (b.opened c.now).record.count = (b.opened c.now).count + 1 := by
        unfold GlobalBudget.record
        dsimp only
        omega
      exact ⟨limit_opened h hc, hhead.symm, by rw [hrecord, hcount], by omega⟩
    · rw [if_neg hsample] at hcount ⊢
      exact ⟨limit_opened h hc, hhead.symm, hcount.symm, hle⟩

end

/-! ## One budget with many samplers -/

/-- The budget that all probes share, and the sampler of each. -/
structure Controller (ι : Type) where
  budget : GlobalBudget ℚ
  samplers : ι → ProbeSampler ℚ

namespace Controller

/-- A budget with nothing counted, and samplers that were never sampled. -/
def new (limit : Nat) (intervals : ι → ℚ) : Controller ι :=
  ⟨{ limit := limit }, fun i => ⟨intervals i, none⟩⟩

/-- What is decided about a request. -/
def ask (x : Controller ι) (c : Request ι) : SamplingOutcome ℚ :=
  x.budget.sample (x.samplers c.sampler) c.isSnapshot c.now

variable [DecidableEq ι]

/-- The budget and the samplers after a request. -/
def step (x : Controller ι) (c : Request ι) : Controller ι :=
  ⟨(x.ask c).budget, Function.update x.samplers c.sampler (x.ask c).sampler⟩

/-- The budget and the samplers after some requests in order. -/
def run (x : Controller ι) (cs : List (Request ι)) : Controller ι := cs.foldl step x

/-- The requests with what was decided about each. -/
def history : Controller ι → List (Request ι) → List (Decided ι)
  | _, [] => []
  | x, c :: cs => ⟨c, (x.ask c).decision⟩ :: history (x.step c) cs

theorem run_concat (x : Controller ι) (cs : List (Request ι)) (c : Request ι) :
    x.run (cs ++ [c]) = (x.run cs).step c := by
  rw [run, List.foldl_append, ← run]
  rfl

theorem history_concat (x : Controller ι) (cs : List (Request ι)) (c : Request ι) :
    x.history (cs ++ [c]) = x.history cs ++ [⟨c, ((x.run cs).ask c).decision⟩] := by
  induction cs generalizing x with
  | nil => rfl
  | cons d cs ih =>
    rw [List.cons_append, history, ih, history, List.cons_append]
    rfl

/-- A request records its time with its own sampler if it is sampled, and changes no other
sampler. -/
theorem samplers_step {x : Controller ι} {intervals : ι → ℚ} {past : List (Decided ι)}
    (h : ∀ i, x.samplers i = ⟨intervals i, lastSample? past i⟩) (c : Request ι) (i : ι) :
    (x.step c).samplers i =
      ⟨intervals i, lastSample? (past ++ [⟨c, (x.ask c).decision⟩]) i⟩ := by
  have hstep : (x.step c).samplers i =
      if i = c.sampler then (x.ask c).sampler else x.samplers i := Function.update_apply ..
  have hsampler : (x.ask c).sampler =
      if (x.ask c).decision = .sample then (x.samplers c.sampler).record c.now
      else x.samplers c.sampler := GlobalBudget.sampler_sample ..
  rw [hstep, hsampler, lastSample?_concat]
  by_cases hi : i = c.sampler
  · subst hi
    rw [if_pos rfl, h]
    by_cases hd : (x.ask c).decision = .sample
    · rw [if_pos hd, if_pos ⟨hd, rfl⟩]
      rfl
    · rw [if_neg hd, if_neg fun hs => hd hs.1]
  · rw [if_neg hi, if_neg fun hs => hi hs.2.symm, h]

/-- After any requests the budget and the samplers are what the history says. -/
theorem reflects_run {limit : Nat} (hlimit : limit ≤ GlobalBudget.greatestCount)
    (intervals : ι → ℚ) (cs : List (Request ι)) :
    Reflects limit ((new limit intervals).history cs) ((new limit intervals).run cs).budget ∧
      ∀ i, ((new limit intervals).run cs).samplers i =
        ⟨intervals i, lastSample? ((new limit intervals).history cs) i⟩ := by
  induction cs using List.reverseRecOn with
  | nil => exact ⟨reflects_nil limit, fun i => rfl⟩
  | append_singleton cs c ih =>
    rw [run_concat, history_concat]
    exact ⟨reflects_sample hlimit ih.1 _ c, samplers_step ih.2 c⟩

end Controller

/-! ## Main result -/

/-- **Sampling refines its history.** Let any requests be made, at any times, to one budget
with any samplers. The budget then holds its limit, the start of the current window and the
number of snapshots sampled since then, which is within the limit; and each sampler holds
when it was last sampled. The next request is sampled exactly if it takes no snapshot or
fewer than the limit were sampled in its window, and its sampler was never sampled or long
enough ago. The budget is the reason of a refusal exactly if the window is full, the rate
only if it is not. A window starts with the request exactly if it takes a snapshot, and none is
open or more than a second has passed since its start. A refusal changes no sampler and
counts nothing, and a call that takes no snapshot leaves the budget alone. -/
theorem controller_refines_history [DecidableEq ι] (limit : UInt32) (intervals : ι → ℚ)
    (cs : List (Request ι)) :
    let x := (Controller.new limit.toNat intervals).run cs
    let past := (Controller.new limit.toNat intervals).history cs
    let window := currentWindow past
    (x.budget.limit = limit.toNat ∧
      x.budget.windowStart = window.head?.map (·.now) ∧
      x.budget.count = sampledIn window ∧ x.budget.count ≤ limit.toNat ∧
      ∀ i, (x.samplers i).interval = intervals i ∧
        (x.samplers i).last = lastSample? past i) ∧
    ∀ c : Request ι,
      let o := x.ask c
      let counted := if StartsWindow window c then 0 else sampledIn window
      (o.decision = .sample ↔
        (c.isSnapshot = false ∨ counted < limit.toNat) ∧
          (lastSample? past c.sampler = none ∨
            ∃ last, lastSample? past c.sampler = some last ∧
              intervals c.sampler ≤ c.now - last)) ∧
      (o.decision = .skip .globalBudget ↔ c.isSnapshot = true ∧ limit.toNat ≤ counted) ∧
      (o.decision = .skip .probeRate ↔
        (c.isSnapshot = false ∨ counted < limit.toNat) ∧
          ∃ last, lastSample? past c.sampler = some last ∧
            c.now - last < intervals c.sampler) ∧
      (x.step c).budget.windowStart =
        (if c.isSnapshot = true ∧ ∀ start ∈ x.budget.windowStart, 1000 < c.now - start then
          some c.now else x.budget.windowStart) ∧
      (o.decision ≠ .sample →
        (x.step c).samplers = x.samplers ∧ (x.step c).budget.count ≤ x.budget.count) ∧
      (c.isSnapshot = false → (x.step c).budget = x.budget) := by
  intro x past window
  have hlimit : limit.toNat ≤ GlobalBudget.greatestCount := by
    have hlt := limit.toNat_lt
    simp only [GlobalBudget.greatestCount, UInt32.size]
    omega
  obtain ⟨hbudget, hsamplers⟩ := Controller.reflects_run hlimit intervals cs
  refine ⟨⟨hbudget.limit_eq, hbudget.windowStart, hbudget.count, hbudget.count_le, fun i => ?_⟩,
    ?_⟩
  · rw [hsamplers i]
    exact ⟨rfl, rfl⟩
  intro c o counted
  have hcounted : sampledIn (windowFor window c) = counted := by
    simp only [windowFor, counted]
    split <;> rfl
  have hverdict : o.decision = verdict limit.toNat intervals past c := by
    rw [← decision_of_reflects hbudget c, ← hsamplers c.sampler]
    rfl
  refine ⟨?_, ?_, ?_, ?_, ?_, ?_⟩
  · rw [hverdict, verdict_eq_sample_iff, hcounted]
    cases lastSample? past c.sampler <;> simp
  · rw [hverdict, verdict_eq_globalBudget_iff, hcounted]
  · rw [hverdict, verdict_eq_probeRate_iff, hcounted]
    simp
  · have hstep : (x.step c).budget.windowStart = o.budget.windowStart := rfl
    rw [hstep]
    exact windowStart_sample hbudget _ c
  · intro hskip
    have hsampler : o.sampler = x.samplers c.sampler :=
      (GlobalBudget.sampler_sample ..).trans (if_neg hskip)
    constructor
    · have hstep : (x.step c).samplers = Function.update x.samplers c.sampler o.sampler := rfl
      rw [hstep, hsampler, Function.update_eq_self]
    · have hstep : (x.step c).budget = o.budget := rfl
      have ho : o.budget = if c.isSnapshot then x.budget.opened c.now else x.budget := by
        rw [show o = x.ask c from rfl, Controller.ask, GlobalBudget.sample_of_skipped hskip]
      rw [hstep, ho]
      split
      · rename_i hc
        rw [opened_eq hbudget hc]
        split
        · exact Nat.zero_le _
        · exact Nat.le_refl _
      · exact Nat.le_refl _
  · intro hc
    have hstep : (x.step c).budget = (x.ask c).budget := rfl
    rw [hstep, Controller.ask, GlobalBudget.budget_sample, hc]
    rfl

end ProbeEngine.Sampling

import ProbeEngine.Proofs.Instrumentation.Replacement
import ProbeEngine.Proofs.Sampling.Ceilings

/-!
# How many calls are admitted

Every start of a run whose probe is found makes one request to the budget and to the
sampler of the registration that is in force (`rulings`). So a run is a history:

* `tallied_run` — after any actions the budget and all samplers are what this history
  says, and it was decided by the verdict;
* `rate_ceilings` — the ceilings of the budget and of the rates hold of the admitted
  starts of every run, whatever was registered, replaced and removed in it.
-/

namespace ProbeEngine.Instrumentation

open Host (Value Getters)
open Sampling

/-! ## The starts of a run -/

/-- The call that an action starts, if it starts one. -/
def Action.start? : Action → Option CallStart
  | .start c => some c
  | _ => none

/-- The starts among some more actions, each with all actions before it. -/
def startsFrom : List Action → List Action → List OpenCall
  | _, [] => []
  | before, a :: as =>
    (a.start?.map (OpenCall.mk before)).toList ++ startsFrom (before ++ [a]) as

/-- The starts among some actions, each with the actions before it. -/
def starts (as : List Action) : List OpenCall := startsFrom [] as

theorem startsFrom_append (before as bs : List Action) :
    startsFrom before (as ++ bs) = startsFrom before as ++ startsFrom (before ++ as) bs := by
  induction as generalizing before with
  | nil => rw [List.nil_append, List.append_nil, startsFrom, List.nil_append]
  | cons a as ih =>
    rw [List.cons_append, startsFrom, startsFrom, ih, List.append_assoc, List.append_assoc,
      List.singleton_append]

theorem startsFrom_concat (before as : List Action) (a : Action) :
    startsFrom before (as ++ [a]) =
      startsFrom before as ++ (a.start?.map (OpenCall.mk (before ++ as))).toList := by
  rw [startsFrom_append, startsFrom, startsFrom, List.append_nil]

theorem starts_concat (as : List Action) (a : Action) :
    starts (as ++ [a]) = starts as ++ (a.start?.map (OpenCall.mk as)).toList := by
  rw [starts, startsFrom_concat, List.nil_append, ← starts]

theorem start?_of_ne_start {a : Action} (h : ∀ c, a ≠ .start c) : a.start? = none := by
  cases a with
  | start c => exact absurd rfl (h c)
  | _ => rfl

/-- The actions before a start are the first ones. -/
theorem exists_append_of_mem_starts {as : List Action} {o : OpenCall} (h : o ∈ starts as) :
    ∃ after, as = o.before ++ after := by
  induction as using List.reverseRecOn with
  | nil => cases h
  | append_singleton as a ih =>
    rw [starts_concat, List.mem_append] at h
    rcases h with h | h
    · obtain ⟨after, hafter⟩ := ih h
      refine ⟨after ++ [a], ?_⟩
      rw [← List.append_assoc, ← hafter]
    · rw [Option.mem_toList] at h
      obtain ⟨c, -, rfl⟩ := Option.map_eq_some_iff.1 h
      exact ⟨[a], rfl⟩

/-! ## Admitted starts -/

/-- Whether the start of a call of an id opens a window of the budget: its probe takes
snapshots, and no window is open. -/
def opensWindow (s : Instrumentation ℚ) (id : String) : Bool :=
  (s.registry.get? id).any fun p =>
    p.capturesSnapshot && !s.budget.isOpen (SamplingTime.ofNanos s.clock.elapsed)

namespace OpenCall

/-- The time of a start in a run, in milliseconds. -/
def time (g : Getters) (w : World ℚ) (o : OpenCall) : ℚ :=
  SamplingTime.ofNanos (w.run g o.before).engine.clock.elapsed

/-- Whether a start is made at a time from `a` to `b`. -/
def isWithin (g : Getters) (w : World ℚ) (a b : ℚ) (o : OpenCall) : Bool :=
  decide (a ≤ o.time g w ∧ o.time g w ≤ b)

/-- The probe that a start finds, if it admits the call. -/
def admittedBy? (g : Getters) (w : World ℚ) (o : OpenCall) : Option (Probe ℚ) :=
  ((w.run g o.before).engine.registry.get? o.call.id).filter fun p =>
    decide ((w.run g o.before).engine.admits p)

/-- Whether a start is admitted and its probe takes snapshots. -/
def takesSnapshot (g : Getters) (w : World ℚ) (o : OpenCall) : Bool :=
  (o.admittedBy? g w).any (·.capturesSnapshot)

/-- Whether a start finds in force the registration that was made by the action of a
number. -/
def finds (s : Settings) (number : Nat) (o : OpenCall) : Bool :=
  (inForce s o.call.id o.before : Option (Enrolment ℚ)).any fun e => e.number == number

end OpenCall

/-! ## A run as a history -/

/-- A registration as its sampler is known by: the id, the number of the action that made
it, and the least time between two firings. -/
structure Registered where
  id : String
  number : Nat
  interval : ℚ
  deriving DecidableEq

/-- A registration that is in force under an id. -/
def Enrolment.registered (e : Enrolment ℚ) (id : String) : Registered :=
  ⟨id, e.number, e.probe.sampler.interval⟩

/-- The request that a start makes in a run, with what is decided about it. -/
def OpenCall.ruling? (g : Getters) (w : World ℚ) (o : OpenCall) : Option (Decided Registered) :=
  ((w.run g o.before).engine.registry.get? o.call.id).bind fun p =>
    (inForce w.engine.registry.settings o.call.id o.before).map fun e =>
      { sampler := e.registered o.call.id
        isSnapshot := p.capturesSnapshot
        now := o.time g w
        decision := ((w.run g o.before).engine.sampling p).decision }

/-- The requests of a run, with what was decided about them. -/
def rulings (g : Getters) (w : World ℚ) (as : List Action) : List (Decided Registered) :=
  (starts as).filterMap (OpenCall.ruling? g w)

theorem rulings_concat (g : Getters) (w : World ℚ) (as : List Action) (a : Action) :
    rulings g w (as ++ [a]) =
      rulings g w as ++
        ((a.start?.map (OpenCall.mk as)).bind (OpenCall.ruling? g w)).toList := by
  rw [rulings, starts_concat, List.filterMap_append, ← rulings]
  cases a.start? with
  | none => rfl
  | some c =>
    dsimp only [Option.map_some, Option.bind_some, Option.toList_some]
    rw [List.filterMap_cons, List.filterMap_nil]
    cases OpenCall.ruling? g w ⟨as, c⟩ <;> rfl

/-! ## What a start finds -/

/-- An action starts a call of a registered probe, or it does not. -/
theorem unfound_or_found {τ : Type} (w : World τ) (a : Action) :
    (∀ c, a = .start c → w.engine.registry.get? c.id = none) ∨
      ∃ c p, a = .start c ∧ w.engine.registry.get? c.id = some p := by
  cases a with
  | start c =>
    cases hp : w.engine.registry.get? c.id with
    | none =>
      left
      rintro d ⟨⟩
      exact hp
    | some p => exact Or.inr ⟨c, p, rfl, hp⟩
  | _ =>
    left
    rintro d ⟨⟩

section

variable {τ : Type} [SamplingTime τ] {g : Getters} {w : World τ} {a : Action}

/-- Unless an action starts a call of a registered probe, the probes change by what it
registers and what it takes out. -/
theorem get?_step_of_unfound
    (h : ∀ c, a = .start c → w.engine.registry.get? c.id = none) (id : String) :
    (w.step g a).engine.registry.get? id =
      (a.registers? w.engine.registry.settings id).or
        (if a.revokes id then none else w.engine.registry.get? id) := by
  by_cases hs : ∃ c, a = .start c
  · obtain ⟨c, rfl⟩ := hs
    have hkept : (Action.start c).registers? w.engine.registry.settings id =
        (none : Option (Probe τ)) := rfl
    rw [get?_step_start, hkept, Option.none_or]
    by_cases hid : c.id = id
    · rw [if_pos hid, ← hid, h c rfl]
      rfl
    · rw [if_neg hid]
      rfl
  · exact get?_step_of_ne_start g w id fun c hc => hs ⟨c, hc⟩

theorem budget_step_of_unfound (h : ∀ c, a = .start c → w.engine.registry.get? c.id = none) :
    (w.step g a).engine.budget = w.engine.budget := by
  by_cases hs : ∃ c, a = .start c
  · obtain ⟨c, rfl⟩ := hs
    rw [budget_of_start, h c rfl, Option.elim_none]
  · exact budget_step_of_ne_start g w fun c hc => hs ⟨c, hc⟩

end

section

variable {g : Getters} {w₀ : World ℚ} {as : List Action}

/-- The request of a start whose probe is found. -/
theorem ruling?_eq {before : List Action} {c : CallStart} {p : Probe ℚ} {e : Enrolment ℚ}
    (hp : (w₀.run g before).engine.registry.get? c.id = some p)
    (he : inForce w₀.engine.registry.settings c.id before = some e) :
    OpenCall.ruling? g w₀ ⟨before, c⟩ =
      some ⟨⟨e.registered c.id, p.capturesSnapshot, OpenCall.time g w₀ ⟨before, c⟩⟩,
        ((w₀.run g before).engine.sampling p).decision⟩ := by
  rw [OpenCall.ruling?, hp, Option.bind_some, he, Option.map_some]

theorem rulings_of_unfound {a : Action}
    (h : ∀ c, a = .start c → (w₀.run g as).engine.registry.get? c.id = none) :
    rulings g w₀ (as ++ [a]) = rulings g w₀ as := by
  rw [rulings_concat]
  by_cases hs : ∃ c, a = .start c
  · obtain ⟨c, rfl⟩ := hs
    have hnone : OpenCall.ruling? g w₀ ⟨as, c⟩ = none := by
      rw [OpenCall.ruling?, h c rfl, Option.bind_none]
    have hstart : (Action.start c).start? = some c := rfl
    rw [hstart, Option.map_some, Option.bind_some, hnone, Option.toList_none, List.append_nil]
  · rw [start?_of_ne_start fun c hc => hs ⟨c, hc⟩, Option.map_none, Option.bind_none,
      Option.toList_none, List.append_nil]

theorem rulings_start {c : CallStart} {p : Probe ℚ} {e : Enrolment ℚ}
    (hp : (w₀.run g as).engine.registry.get? c.id = some p)
    (he : inForce w₀.engine.registry.settings c.id as = some e) :
    rulings g w₀ (as ++ [.start c]) = rulings g w₀ as ++
      [⟨⟨e.registered c.id, p.capturesSnapshot, OpenCall.time g w₀ ⟨as, c⟩⟩,
        ((w₀.run g as).engine.sampling p).decision⟩] := by
  have hstart : (Action.start c).start? = some c := rfl
  rw [rulings_concat, hstart, Option.map_some, Option.bind_some, ruling?_eq hp he,
    Option.toList_some]

/-! ## The invariant -/

/-- After some actions of a run the budget and the samplers are what the history says. It
was decided by the verdict, at times that never went back, and all registrations in it
were made by actions of the run. -/
structure Tallied (g : Getters) (w₀ : World ℚ) (limit : Nat) (as : List Action) : Prop where
  budget : Reflects limit (rulings g w₀ as) (w₀.run g as).engine.budget
  sampler : ∀ id p e, (w₀.run g as).engine.registry.get? id = some p →
    inForce w₀.engine.registry.settings id as = some e →
    p.sampler = ⟨e.probe.sampler.interval, lastSample? (rulings g w₀ as) (e.registered id)⟩
  ruled : Ruled limit Registered.interval (rulings g w₀ as)
  made : ∀ x ∈ rulings g w₀ as, x.sampler.number < as.length
  past : ∀ x ∈ rulings g w₀ as,
    x.now ≤ SamplingTime.ofNanos (w₀.run g as).engine.clock.elapsed
  sorted : (rulings g w₀ as).Pairwise fun x y => x.now ≤ y.now

theorem ofNanos_le_of_le {m n : Nat} (h : m ≤ n) :
    (SamplingTime.ofNanos m : ℚ) ≤ SamplingTime.ofNanos n := by
  have hm : (SamplingTime.ofNanos m : ℚ) = m / 1000000 := rfl
  have hn : (SamplingTime.ofNanos n : ℚ) = n / 1000000 := rfl
  rw [hm, hn]
  gcongr

theorem time_le_step (g : Getters) (w : World ℚ) (a : Action) :
    (SamplingTime.ofNanos w.engine.clock.elapsed : ℚ) ≤
      SamplingTime.ofNanos (w.step g a).engine.clock.elapsed :=
  ofNanos_le_of_le (elapsed_le_step g w a)

variable {limit : Nat}

/-- An action that makes no request leaves the history as it is; a new registration is one
that it does not know yet. -/
theorem Tallied.of_unfound (h : Tallied g w₀ limit as) {a : Action}
    (ha : ∀ c, a = .start c → (w₀.run g as).engine.registry.get? c.id = none) :
    Tallied g w₀ limit (as ++ [a]) := by
  have hsame := rulings_of_unfound ha
  constructor
  case budget =>
    rw [hsame, World.run_concat, budget_step_of_unfound ha]
    exact h.budget
  case sampler =>
    intro id p e hp he
    rw [World.run_concat, get?_step_of_unfound ha, settings_run] at hp
    rw [inForce_concat, inForceAfter] at he
    rw [hsame]
    have hregistered := Action.map_asRegistered_registers? (τ := ℚ) w₀.engine.registry.settings id a
    cases hr : (a.registers? w₀.engine.registry.settings id : Option (Probe ℚ)) with
    | some q =>
      rw [hr, Option.some_or] at hp
      rw [hr, Option.map_some, Option.some_or] at he
      rw [hr, Option.map_some] at hregistered
      cases hp
      cases he
      have hnew : lastSample? (rulings g w₀ as) (Enrolment.registered ⟨as.length, p⟩ id) = none :=
        lastSample?_eq_none fun x hx hxs => by
          have hlt := h.made x hx
          rw [hxs] at hlt
          exact absurd hlt (Nat.lt_irrefl _)
      rw [hnew]
      exact (congrArg Probe.sampler (Option.some.inj hregistered)).symm
    | none =>
      rw [hr, Option.none_or] at hp
      rw [hr, Option.map_none, Option.none_or] at he
      cases hv : a.revokes id with
      | true =>
        rw [hv] at hp
        cases hp
      | false =>
        rw [hv] at hp he
        exact h.sampler id p e hp he
  case ruled => exact hsame ▸ h.ruled
  case made =>
    intro x hx
    rw [hsame] at hx
    rw [List.length_append]
    exact Nat.lt_add_right _ (h.made x hx)
  case past =>
    intro x hx
    rw [hsame] at hx
    rw [World.run_concat]
    exact (h.past x hx).trans (time_le_step g _ a)
  case sorted => exact hsame ▸ h.sorted

/-- The start of a call of a registered probe adds its request to the history. -/
theorem Tallied.start (hlimit : limit ≤ GlobalBudget.greatestCount) (h : Tallied g w₀ limit as)
    {c : CallStart} {p : Probe ℚ} {e : Enrolment ℚ}
    (hp : (w₀.run g as).engine.registry.get? c.id = some p)
    (he : inForce w₀.engine.registry.settings c.id as = some e) :
    Tallied g w₀ limit (as ++ [.start c]) := by
  have hrulings := rulings_start hp he
  set r : Request Registered :=
    ⟨e.registered c.id, p.capturesSnapshot, OpenCall.time g w₀ ⟨as, c⟩⟩
  have hsampler : p.sampler = ⟨r.sampler.interval, lastSample? (rulings g w₀ as) r.sampler⟩ :=
    h.sampler c.id p e hp he
  have hsampling : (w₀.run g as).engine.sampling p =
      (w₀.run g as).engine.budget.sample p.sampler r.isSnapshot r.now := rfl
  have hkept : inForce w₀.engine.registry.settings c.id (as ++ [.start c]) = some e := by
    rw [inForce_concat, inForceAfter_of_kept (Action.rewrites_start _ _ c), he]
  constructor
  case budget =>
    rw [hrulings, World.run_concat, budget_of_start, hp, Option.elim_some, hsampling]
    exact reflects_sample hlimit h.budget p.sampler r
  case sampler =>
    intro id q f hq hf
    rw [World.run_concat, get?_step_start] at hq
    rw [hrulings, lastSample?_concat]
    by_cases hid : c.id = id
    · rw [if_pos hid, ← hid, hp] at hq
      rw [← hid, hkept] at hf
      cases hq
      cases hf
      have hrecord : ((w₀.run g as).engine.sampling p).sampler =
          if ((w₀.run g as).engine.sampling p).decision = .sample then p.sampler.record r.now
          else p.sampler := GlobalBudget.sampler_sample ..
      dsimp only
      rw [hrecord, hsampler, ← hid]
      by_cases hd : ((w₀.run g as).engine.sampling p).decision = .sample
      · rw [if_pos hd, if_pos ⟨hd, rfl⟩]
        rfl
      · rw [if_neg hd, if_neg fun hs => hd hs.1]
        rfl
    · rw [if_neg hid] at hq
      rw [inForce_concat, inForceAfter_of_kept (Action.rewrites_start _ _ c)] at hf
      have hother : ¬ e.registered c.id = f.registered id := fun hs =>
        hid (congrArg Registered.id hs)
      rw [if_neg fun hs => hother hs.2]
      exact h.sampler id q f hq hf
  case ruled =>
    rw [hrulings, hsampling]
    refine ruled_concat_iff.2 ⟨h.ruled, ?_⟩
    dsimp only
    rw [hsampler]
    exact decision_of_reflects h.budget r
  case made =>
    intro x hx
    rw [List.length_append]
    rw [hrulings, List.mem_append, List.mem_singleton] at hx
    rcases hx with hx | rfl
    · exact Nat.lt_add_right _ (h.made x hx)
    · exact Nat.lt_add_right _ (number_lt_of_inForce he)
  case past =>
    intro x hx
    rw [World.run_concat]
    refine le_trans ?_ (time_le_step g (w₀.run g as) (.start c))
    rw [hrulings, List.mem_append, List.mem_singleton] at hx
    rcases hx with hx | rfl
    · exact h.past x hx
    · exact le_refl _
  case sorted =>
    rw [hrulings, List.pairwise_append]
    refine ⟨h.sorted, List.pairwise_singleton _ _, fun x hx y hy => ?_⟩
    rw [List.mem_singleton.1 hy]
    exact h.past x hx

end

/-- **Every run is tallied**: it is a history that the verdict decided. -/
theorem tallied_run (g : Getters) {s : Settings} (clock : Clock) (sink : Option Sink)
    (stack : Option String) (hlimit : s.sampling.globalLimit ≤ GlobalBudget.greatestCount)
    (as : List Action) :
    Tallied g (World.begin s clock sink stack) s.sampling.globalLimit as := by
  induction as using List.reverseRecOn with
  | nil =>
    constructor
    case budget => exact reflects_nil _
    case sampler =>
      intro id p e hp
      cases hp
    case ruled => exact ruled_nil _ _
    case made =>
      intro x hx
      cases hx
    case past =>
      intro x hx
      cases hx
    case sorted => exact List.Pairwise.nil
  | append_singleton as a ih =>
    rcases unfound_or_found ((World.begin s clock sink stack : World ℚ).run g as) a with
      ha | ⟨c, p, rfl, hp⟩
    · exact ih.of_unfound ha
    · obtain ⟨e, he, -⟩ := exists_inForce_of_get? g hp
      exact ih.start hlimit hp he

/-! ## Counting the admitted starts -/

section

variable {g : Getters} {w₀ : World ℚ}

/-- Starts are counted by the requests that they make. -/
theorem countP_starts_le {as : List Action} {counts : OpenCall → Bool}
    {holds : Decided Registered → Bool}
    (h : ∀ o ∈ starts as, counts o = true →
      ∃ x, OpenCall.ruling? g w₀ o = some x ∧ holds x = true) :
    (starts as).countP counts ≤ (rulings g w₀ as).countP holds := by
  rw [rulings, List.countP_filterMap]
  refine List.countP_mono_left fun o ho hcounts => ?_
  obtain ⟨x, hx, hholds⟩ := h o ho hcounts
  rw [hx]
  exact hholds

theorem takesSnapshot_eq {before : List Action} {c : CallStart} {p : Probe ℚ}
    (hp : (w₀.run g before).engine.registry.get? c.id = some p) :
    OpenCall.takesSnapshot g w₀ ⟨before, c⟩ =
      (decide (((w₀.run g before).engine.sampling p).decision = .sample) &&
        p.capturesSnapshot) := by
  have hadmits : decide ((w₀.run g before).engine.admits p) =
      decide (((w₀.run g before).engine.sampling p).decision = .sample) := rfl
  rw [OpenCall.takesSnapshot, OpenCall.admittedBy?, hp, Option.filter_some, hadmits]
  cases decide (((w₀.run g before).engine.sampling p).decision = .sample) <;> rfl

/-- A start opens a window exactly if its request starts one. -/
theorem opensWindow_iff {limit : Nat} {before : List Action} {c : CallStart} {p : Probe ℚ}
    {past : List (Decided Registered)} (h : Reflects limit past (w₀.run g before).engine.budget)
    (hp : (w₀.run g before).engine.registry.get? c.id = some p) (i : Registered) :
    opensWindow (w₀.run g before).engine c.id = true ↔
      StartsWindow (currentWindow past)
        ⟨i, p.capturesSnapshot, OpenCall.time g w₀ ⟨before, c⟩⟩ := by
  rw [opensWindow, hp, Option.any_some, Bool.and_eq_true, Bool.not_eq_true']
  constructor
  · rintro ⟨hsnap, hopen⟩
    exact (isOpen_eq_false_iff h hsnap).1 hopen
  · intro hs
    exact ⟨hs.1, (isOpen_eq_false_iff h hs.1).2 hs⟩

end

section

variable {g : Getters} {s : Settings} {clock : Clock} {sink : Option Sink}
  {stack : Option String}

/-- An admitted start made a request that was sampled. -/
theorem exists_ruling_of_admittedBy? {o : OpenCall} {p : Probe ℚ}
    (h : o.admittedBy? g (World.begin s clock sink stack) = some p) :
    ∃ e : Enrolment ℚ, inForce s o.call.id o.before = some e ∧
      o.ruling? g (World.begin s clock sink stack) =
        some ⟨⟨e.registered o.call.id, p.capturesSnapshot,
          o.time g (World.begin s clock sink stack)⟩, .sample⟩ := by
  obtain ⟨hp, hadmits⟩ := Option.filter_eq_some_iff.1 h
  obtain ⟨e, he, -⟩ := exists_inForce_of_get? g hp
  have hsample : (((World.begin s clock sink stack).run g o.before).engine.sampling p).decision =
      .sample := of_decide_eq_true hadmits
  refine ⟨e, he, ?_⟩
  have hruling := ruling?_eq (c := o.call) hp he
  rw [hsample] at hruling
  exact hruling

/-- While no other window opens, the admitted snapshots are those of the current one. -/
theorem countP_startsFrom_le (hlimit : s.sampling.globalLimit ≤ GlobalBudget.greatestCount)
    {before during : List Action}
    (h : ∀ first c rest, during = first ++ .start c :: rest → first ≠ [] →
      opensWindow ((World.begin s clock sink stack).run g (before ++ first)).engine c.id = false) :
    (startsFrom before during).countP
        (OpenCall.takesSnapshot g (World.begin s clock sink stack)) ≤
      sampledIn
        (currentWindow (rulings g (World.begin s clock sink stack) (before ++ during))) := by
  set w₀ : World ℚ := World.begin s clock sink stack with hw₀
  induction during using List.reverseRecOn with
  | nil => exact Nat.zero_le _
  | append_singleton during a ih =>
    have hle := ih fun first c rest hfirst => h first c (rest ++ [a]) (by
      rw [hfirst, List.append_assoc, List.cons_append])
    rw [startsFrom_concat, List.countP_append, ← List.append_assoc]
    rcases unfound_or_found (w₀.run g (before ++ during)) a with ha | ⟨c, p, rfl, hp⟩
    · have hnone : (a.start?.map (OpenCall.mk (before ++ during))).toList.countP
          (OpenCall.takesSnapshot g w₀) = 0 := by
        refine List.countP_eq_zero.2 fun o ho => ?_
        rw [Option.mem_toList] at ho
        obtain ⟨c, hc, rfl⟩ := Option.map_eq_some_iff.1 ho
        cases a with
        | start d =>
          cases hc
          rw [OpenCall.takesSnapshot, OpenCall.admittedBy?, ha c rfl]
          exact Bool.false_ne_true
        | _ => cases hc
      rw [hnone, rulings_of_unfound ha]
      exact hle
    · obtain ⟨e, he, -⟩ := exists_inForce_of_get? g hp
      have hbudget := (tallied_run g clock sink stack hlimit (before ++ during)).budget
      have hstart : (Action.start c).start? = some c := rfl
      rw [hstart, Option.map_some, Option.toList_some, List.countP_singleton, takesSnapshot_eq hp,
        rulings_start hp he, currentWindow_concat]
      cases hsnap : p.capturesSnapshot with
      | false =>
        rw [Bool.and_false, if_neg Bool.false_ne_true, enter]
        exact hle
      | true =>
        rw [Bool.and_true, sampledIn_enter rfl, windowFor]
        by_cases hs : StartsWindow (currentWindow (rulings g w₀ (before ++ during)))
            ⟨e.registered c.id, true, OpenCall.time g w₀ ⟨before ++ during, c⟩⟩
        · -- a window that opens is the one that the actions began with
          have hopens : opensWindow (w₀.run g (before ++ during)).engine c.id = true := by
            rw [opensWindow_iff hbudget hp (e.registered c.id), hsnap]
            exact hs
          have hfirst : during = [] := by
            by_contra hne
            rw [h during c [] rfl hne] at hopens
            cases hopens
          subst hfirst
          rw [if_pos hs]
          simp [startsFrom, sampledIn]
        · rw [if_neg hs]
          simp only [decide_eq_true_eq]
          omega

end

/-! ## Main result -/

/-- **The ceilings of every run.** Let any calls be started and ended, probes be registered,
replaced and removed, and time pass, in any order. Within any second, both ends included, at
most twice the limit of snapshots are admitted. From one start that opens a window to the
next one, at most the limit. And under any single registration, in any time of `t`
milliseconds, at most one call more than the rate gives for it. -/
theorem rate_ceilings (g : Getters) {s : Settings} (clock : Clock) (sink : Option Sink)
    (stack : Option String) (hlimit : s.sampling.globalLimit ≤ GlobalBudget.greatestCount)
    (as : List Action) :
    let w₀ : World ℚ := World.begin s clock sink stack
    (∀ a b : ℚ, b - a ≤ 1000 →
      (starts as).countP (fun o => o.takesSnapshot g w₀ && o.isWithin g w₀ a b) ≤
        2 * s.sampling.globalLimit) ∧
    (∀ before during after, as = before ++ during ++ after →
      (∀ first c rest, during = first ++ .start c :: rest → first ≠ [] →
        opensWindow (w₀.run g (before ++ first)).engine c.id = false) →
      (startsFrom before during).countP (OpenCall.takesSnapshot g w₀) ≤
        s.sampling.globalLimit) ∧
    ∀ n d r, as[n]? = some (.register d) → Binary64.rational? (Probe.rateOf d s) = some r →
      ∀ a t : ℚ,
        (starts as).countP (fun o =>
          (o.admittedBy? g w₀).isSome && o.finds s n && o.isWithin g w₀ a (a + t)) ≤
          ⌊t * r / 1000⌋₊ + 1 := by
  intro w₀
  have htally := tallied_run g clock sink stack hlimit as
  refine ⟨?_, ?_, ?_⟩
  · intro a b hab
    refine le_trans (countP_starts_le fun o _ hcounts => ?_)
      (snapshotsWithin_le htally.ruled htally.sorted hab)
    rw [Bool.and_eq_true, OpenCall.takesSnapshot, Option.any_eq_true] at hcounts
    obtain ⟨⟨p, hp, hsnap⟩, hwithin⟩ := hcounts
    obtain ⟨e, -, hx⟩ := exists_ruling_of_admittedBy? hp
    refine ⟨_, hx, ?_⟩
    rw [hsnap, Bool.true_and, isSampledWithin_iff]
    exact ⟨rfl, of_decide_eq_true hwithin⟩
  · intro before during after has h
    exact (countP_startsFrom_le hlimit h).trans
      (sampledIn_currentWindow_le (tallied_run g clock sink stack hlimit (before ++ during)).ruled)
  · intro n d r hn hrate a t
    have hcounted : ∀ o ∈ starts as,
        ((o.admittedBy? g w₀).isSome && o.finds s n && o.isWithin g w₀ a (a + t)) = true →
          0 < r ∧ ∃ x, OpenCall.ruling? g w₀ o = some x ∧
            (decide (x.sampler = ⟨d.id, n, 1000 / r⟩) && x.isSampledWithin a (a + t)) = true := by
      intro o ho hcounts
      rw [Bool.and_eq_true, Bool.and_eq_true, Option.isSome_iff_exists, OpenCall.finds,
        Option.any_eq_true] at hcounts
      obtain ⟨⟨⟨p, hp⟩, f, hf, hnumber⟩, hwithin⟩ := hcounts
      obtain ⟨e, he, hx⟩ := exists_ruling_of_admittedBy? hp
      rw [he] at hf
      obtain rfl := Option.some.inj hf
      obtain rfl := eq_of_beq hnumber
      -- the registration is the action of its number, so it is compiled from `d`
      obtain ⟨b, hb, hregisters⟩ := exists_register_of_inForce he
      obtain ⟨after, rfl⟩ := exists_append_of_mem_starts ho
      rw [List.getElem?_append_left (number_lt_of_inForce he), hb] at hn
      cases hn
      obtain ⟨d', hd', hid, hcompiled⟩ := Action.registers?_eq_some_iff.1 hregisters
      cases hd'
      obtain ⟨c, m, x, -, -, hsampler, hprobe⟩ := Probe.of_compile hcompiled
      obtain ⟨r', hr', hpos, rfl⟩ := ProbeSampler.ofRate_eq_ok_iff.1 hsampler
      rw [hrate] at hr'
      cases hr'
      refine ⟨hpos, _, hx, ?_⟩
      rw [Bool.and_eq_true, decide_eq_true_eq, isSampledWithin_iff]
      refine ⟨?_, rfl, of_decide_eq_true hwithin⟩
      rw [Enrolment.registered, hprobe, hid]
    by_cases hpos : 0 < r
    · have hinterval : (0 : ℚ) < Registered.interval ⟨d.id, n, 1000 / r⟩ := by
        have hthousand : (0 : ℚ) < 1000 := by norm_num
        exact div_pos hthousand hpos
      have hle := samplesWithin_le htally.ruled hinterval a t
      rw [div_div_eq_mul_div] at hle
      exact le_trans (countP_starts_le fun o ho hcounts => (hcounted o ho hcounts).2) hle
    · rw [List.countP_eq_zero.2 fun o ho hcounts => hpos (hcounted o ho hcounts).1]
      exact Nat.zero_le _

/-- A burst that reaches two of the ceilings. The slow probe opens a window with a call that
its own rate refuses; the fast one takes the only snapshot of this window, and half a second
later that of the next one. -/
theorem rate_ceilings_of_burst :
    let s : Settings := { sampling := { globalLimit := 1 } }
    let w₀ : World ℚ := World.begin s ⟨Timestamp.ofMillis 0, 0⟩ none none
    let fast : ProbeDefinition :=
      { id := "fast", capturesSnapshot := true, sampling := some ⟨some 5⟩ }
    let before : List Action :=
      [.register { id := "slow", capturesSnapshot := true, sampling := some ⟨some (1 / 8)⟩ },
        .register fast, .start (plainStart "slow"), .advance 1001000000]
    let during : List Action :=
      [.start (plainStart "slow"), .advance 499000000, .start (plainStart "fast"),
        .advance 502000000]
    let after : List Action := [.start (plainStart "fast")]
    let as := before ++ during ++ after
    let within := fun o : OpenCall =>
      o.takesSnapshot plainGetters w₀ && o.isWithin plainGetters w₀ 1500 2500
    let ofFast := fun o : OpenCall =>
      (o.admittedBy? plainGetters w₀).isSome && o.finds s 1 &&
        o.isWithin plainGetters w₀ 1500 (1500 + 1000)
    s.sampling.globalLimit ≤ GlobalBudget.greatestCount ∧
      ((starts as).countP within ≤ 2 * s.sampling.globalLimit ∧ (starts as).countP within = 2) ∧
      ((startsFrom before during).countP (OpenCall.takesSnapshot plainGetters w₀) ≤
          s.sampling.globalLimit ∧
        (startsFrom before during).countP (OpenCall.takesSnapshot plainGetters w₀) = 1) ∧
      (Binary64.rational? (Probe.rateOf fast s) = some 5 ∧
        (starts as).countP ofFast ≤ ⌊(1000 * 5 / 1000 : ℚ)⌋₊ + 1) := by
  intro s w₀ fast before during after as within ofFast
  have hlimit : s.sampling.globalLimit ≤ GlobalBudget.greatestCount := by decide
  have hrate : Binary64.rational? (Probe.rateOf fast s) = some 5 := by decide +kernel
  have hlength : (1000 : ℚ) ≤ 1000 := le_refl _
  have hwindow : ∀ first c rest, during = first ++ .start c :: rest → first ≠ [] →
      opensWindow (w₀.run plainGetters (before ++ first)).engine c.id = false := by
    intro first c rest h hne
    have hfirst : first = [.start (plainStart "slow"), .advance 499000000] ∧
        c = plainStart "fast" := by
      rcases first with _ | ⟨x, _ | ⟨y, _ | ⟨z, _ | ⟨u, first⟩⟩⟩⟩
      · exact absurd rfl hne
      all_goals simp_all [during]
    rw [hfirst.1, hfirst.2]
    decide +kernel
  obtain ⟨hsecond, hbetween, hregistration⟩ :=
    rate_ceilings plainGetters ⟨Timestamp.ofMillis 0, 0⟩ none none hlimit as
  refine ⟨hlimit, ⟨hsecond 1500 2500 ?_, by decide +kernel⟩,
    ⟨hbetween before during after rfl hwindow, by decide +kernel⟩, hrate,
    hregistration 1 fast 5 rfl hrate 1500 1000⟩
  norm_num

end ProbeEngine.Instrumentation

import ProbeEngine.Proofs.Config.Validation
import ProbeEngine.Proofs.Instrumentation.Registrations

/-!
# The first call of a run

Before the first call of a run nothing has been sampled: the budget is as it was at the start and
no probe has fired (`IsUnsampled`), which every action but a start keeps (`IsUnsampled.run`). So
the first call is admitted if the budget has room for anything (`IsUnsampled.admits`). Settings
that were checked give it room, and a sampler to every definition that leaves its rate to them:
**with a checked configuration, default sampling fails nowhere** (`default_sampling_is_total`).
-/

namespace ProbeEngine

/-! ## Definitions without a rate -/

/-- Whether a definition leaves its rate to the settings. -/
def ProbeDefinition.HasDefaultRate (d : ProbeDefinition) : Prop :=
  d.sampling.bind (·.snapshotsPerSecond) = none

/-- Whether an error refuses the rate of a definition. -/
def RegistrationError.IsOfRate (e : RegistrationError) : Prop := ∃ id cause, e = .sampling id cause

theorem Probe.not_isOfRate_of_compileCondition {d : ProbeDefinition} {e : RegistrationError}
    (h : compileCondition d = .error e) : ¬ e.IsOfRate := by
  rintro ⟨id, cause, rfl⟩
  rw [compileCondition] at h
  split at h
  · cases h
  · split at h <;> cases h

/-- A definition that leaves its rate to settings which have a sampler for it is not refused for
its rate. -/
theorem Probe.not_isOfRate_of_compile {d : ProbeDefinition} {s : Settings} {e : RegistrationError}
    (hd : d.HasDefaultRate) (hs : s.IsSamplable)
    (h : (compile d s : Except RegistrationError (Probe Float)) = .error e) : ¬ e.IsOfRate := by
  have hrate : rateOf d s = s.defaultRate d.capturesSnapshot := by
    rw [rateOf, hd, Option.getD_none]
  obtain ⟨x, hx⟩ := hs.sampler d.capturesSnapshot
  rw [compile, bind_eq_error_iff] at h
  obtain hcondition | ⟨condition, -, h⟩ := h
  · exact not_isOfRate_of_compileCondition hcondition
  · obtain htemplate | ⟨template, -, h⟩ := bind_eq_error_iff.1 h
    · obtain ⟨cause, -, rfl⟩ := mapError_eq_error_iff.1 htemplate
      rintro ⟨id, cause, heq⟩
      cases heq
    · rw [hrate, hx] at h
      cases h

/-- A probe that was compiled has not fired. -/
theorem Probe.last_of_compile {τ : Type} [SamplingTime τ] {d : ProbeDefinition} {s : Settings}
    {p : Probe τ} (h : compile d s = .ok p) : p.sampler.last = none := by
  obtain ⟨_, _, _, -, -, hsampler, rfl⟩ := of_compile h
  exact ProbeSampler.last_of_ofRate hsampler

namespace Instrumentation

open Host (Getters)

variable {τ : Type}

/-! ## Before the first call -/

/-- A state in which nothing has been sampled. -/
structure IsUnsampled (limit : Nat) (s : Instrumentation τ) : Prop where
  budget : s.budget = { limit := limit }
  last : ∀ id p, s.registry.get? id = some p → p.sampler.last = none

variable {limit : Nat} {s : Instrumentation τ} {w : World τ} {as : List Action} {p : Probe τ}

theorem isUnsampled_begin (s : Settings) (clock : Clock) (sink : Option Sink)
    (stack : Option String) :
    (World.begin s clock sink stack : World τ).engine.IsUnsampled s.sampling.globalLimit :=
  ⟨rfl, nofun⟩

variable [SamplingTime τ]

/-- Only a start samples. -/
theorem IsUnsampled.step (h : w.engine.IsUnsampled limit) (g : Getters) {a : Action}
    (ha : ∀ c, a ≠ .start c) : (w.step g a).engine.IsUnsampled limit := by
  refine ⟨(budget_step_of_ne_start g w ha).trans h.budget, fun id p hp => ?_⟩
  rw [get?_step_of_ne_start g w id ha, Option.or_eq_some_iff] at hp
  rcases hp with hp | ⟨-, hp⟩
  · obtain ⟨d, -, -, hcompile⟩ := Action.registers?_eq_some_iff.1 hp
    exact Probe.last_of_compile hcompile
  · split at hp
    · cases hp
    · exact h.last id p hp

theorem IsUnsampled.run (h : w.engine.IsUnsampled limit) (g : Getters)
    (has : ∀ a ∈ as, ∀ c, a ≠ .start c) : (w.run g as).engine.IsUnsampled limit := by
  induction as generalizing w with
  | nil => exact h
  | cons a as ih =>
    exact ih (h.step g (has a List.mem_cons_self)) fun b hb => has b (List.mem_cons_of_mem a hb)

/-- Where nothing has been sampled, any probe is admitted if the budget has room for anything. -/
theorem IsUnsampled.admits (h : s.IsUnsampled limit) (hlimit : limit ≠ 0) {id : String}
    (hp : s.registry.get? id = some p) : s.admits p := by
  have hdue : ∀ now, p.sampler.isDue now = true := by
    intro now
    rw [ProbeSampler.isDue, h.last id p hp]
  have hroom : ∀ now, (s.budget.opened now).hasRoom = true := by
    intro now
    rw [h.budget]
    exact decide_eq_true (Nat.pos_of_ne_zero hlimit)
  rw [Instrumentation.admits, sampling, GlobalBudget.decision_sample, hdue, hroom]
  simp

/-! ## Default sampling -/

/-- No definition that leaves its rate to the settings is refused for its rate. -/
def RegistersDefaultRates (s : Settings) : Prop :=
  ∀ (engine : Instrumentation Float) (d : ProbeDefinition), engine.registry.settings = s →
    d.HasDefaultRate → ∀ e ∈ (engine.register d).2.1, ¬ e.IsOfRate

/-- The first call of every run is admitted if there is a probe for it. -/
def AdmitsFirstCall (s : Settings) : Prop :=
  ∀ (g : Getters) (clock : Clock) (sink : Option Sink) (stack : Option String) (as : List Action)
    (c : CallStart) (p : Probe Float), (∀ a ∈ as, ∀ c, a ≠ .start c) →
    ((World.begin s clock sink stack).run g as).engine.registry.get? c.id = some p →
    ((World.begin s clock sink stack).run g as).engine.admits p

theorem registersDefaultRates_of_isSamplable {s : Settings} (hs : s.IsSamplable) :
    RegistersDefaultRates s := by
  rintro engine d rfl hd e he
  have herrors : (engine.register d).2.1 = (engine.registry.register d).errors := rfl
  rw [herrors, Registry.register] at he
  split at he
  · cases he
  · rename_i err herr
    obtain rfl := List.mem_singleton.1 he
    exact Probe.not_isOfRate_of_compile hd hs herr

theorem admitsFirstCall_of_isSamplable {s : Settings} (hs : s.IsSamplable) : AdmitsFirstCall s := by
  intro g clock sink stack as c p has hp
  exact ((isUnsampled_begin s clock sink stack).run g has).admits hs.globalLimit_ne_zero hp

/-- **With a checked configuration, default sampling fails nowhere**: whatever source it comes from,
no definition that leaves its rate to it is refused for its rate, and the first call of a run is
admitted. A configuration under which this could fail is refused for one of its values. -/
theorem default_sampling_is_total (source : Config.Source) :
    (∀ c, source.config = .ok c →
        RegistersDefaultRates c.settings ∧ AdmitsFirstCall c.settings) ∧
      ∀ s, source.settings? = some s →
        (s.sampling.globalLimit = 0 ∨ ∃ isSnapshot e,
          (ProbeSampler.ofRate (s.defaultRate isSnapshot) :
            Except InvalidRate (ProbeSampler Float)) = .error e) →
        ∃ setting, source.config = .error (.invalidValue setting) := by
  constructor
  · intro c hc
    obtain ⟨-, hs⟩ := Config.Source.settings_of_config hc
    exact ⟨registersDefaultRates_of_isSamplable hs, admitsFirstCall_of_isSamplable hs⟩
  · rintro s hread hinvalid
    refine Config.Source.config_of_not_isSamplable hread fun hs => ?_
    obtain hlimit | ⟨isSnapshot, e, he⟩ := hinvalid
    · exact hs.globalLimit_ne_zero hlimit
    · obtain ⟨x, hx⟩ := hs.sampler isSnapshot
      rw [hx] at he
      cases he

/-- A limit of one snapshot is accepted, and a probe that takes snapshots and leaves its rate to
the configuration is registered and admitted, after the end of a call that never started; a limit
of none is refused. -/
theorem default_sampling_of_limits :
    let source (limit : Nat) : Config.Source :=
      .json (.object [("sampling", .object [("global_snapshots_per_second", .integer limit)])])
    let before (s : Settings) : World Float :=
      (World.begin s ⟨Timestamp.ofMillis 0, 0⟩ none none).run plainGetters
        [.stop (plainStop "p"), .register { id := "p", capturesSnapshot := true }, .advance 7]
    (∃ c p, (source 1).config = .ok c ∧ (before c.settings).engine.registry.get? "p" = some p ∧
        (before c.settings).engine.admits p) ∧
      ∃ setting, (source 0).config = .error (.invalidValue setting) := by
  intro source before
  have haccepted : (source 1).config = .ok { settings := { sampling := { globalLimit := 1 } } } :=
    rfl
  have hprobe :
      ((before { sampling := { globalLimit := 1 } }).engine.registry.get? "p").isSome := by
    decide +kernel
  obtain ⟨p, hp⟩ := Option.isSome_iff_exists.1 hprobe
  refine ⟨⟨_, p, haccepted, hp, ?_⟩, ?_⟩
  · obtain ⟨-, hfirst⟩ := (default_sampling_is_total (source 1)).1 _ haccepted
    exact hfirst plainGetters _ none none _ (plainStart "p") p (by simp) hp
  · exact (default_sampling_is_total (source 0)).2 { sampling := { globalLimit := 0 } } rfl
      (.inl rfl)

end Instrumentation

end ProbeEngine

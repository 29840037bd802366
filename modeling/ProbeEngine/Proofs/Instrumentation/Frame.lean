import ProbeEngine.Proofs.Instrumentation.Run

/-!
# What an action changes

Each part of the state is changed by few actions, and here it is said by which
ones:

* the calls under way of an id by its starts and ends alone (`pending_step_start`,
  `pending_step_stop`, `pending_step_of_ne`);
* the probe found under an id by its registrations and removals
  (`get?_step_of_ne_start`), and its sampler by its starts (`get?_step_start`);
* the budget by starts alone (`budget_step_of_ne_start`);
* the reports by ends alone, each of which adds at most one (`reports_step_stop`,
  `reports_step_of_not_stop`);
* the clock by time that passes, so it never goes back (`elapsed_le_run`).

The settings, the length of messages and whether there is a sink are the same
all along a run (`fixed_run`).
-/

namespace ProbeEngine.Instrumentation

open Host (Value Heap Getters Counting)

variable {τ : Type}

/-! ## Kinds of actions -/

namespace Action

/-- The id whose hook the program calls, if it calls one. -/
def site? : Action → Option String
  | .start c => some c.id
  | .stop c => some c.id
  | _ => none

/-- Whether an action is the end of a call. -/
def isStop : Action → Bool
  | .stop _ => true
  | _ => false

/-- Whether an action takes the probe of an id out. -/
def revokes (id : String) : Action → Bool
  | .remove i => i == id
  | .clear => true
  | _ => false

variable [SamplingTime τ]

/-- The probe that an action registers under an id. -/
def registers? (s : Settings) (id : String) : Action → Option (Probe τ)
  | .register d => Registry.compiled? s d id
  | _ => none

end Action

/-! ## The calls under way -/

theorem pending_push (s : Instrumentation τ) (i : String) (c : PendingCall) (id : String) :
    (s.push i c).pending id = if i = id then c :: s.pending i else s.pending id := by
  simp only [pending, push]
  by_cases h : i = id
  · subst h
    rw [OrderedTable.get?_put_self, if_pos rfl, Option.getD_some]
  · rw [OrderedTable.get?_put_of_ne _ _ h, if_neg h]

theorem pending_popped (s : Instrumentation τ) (i id : String) :
    (s.popped i).pending id = if i = id then (s.pending i).tail else s.pending id := by
  have hget : (s.popped i).pending id = ((s.callsWithout i).get? id).getD [] := rfl
  rw [hget, callsWithout]
  by_cases h : i = id
  · subst h
    rw [if_pos rfl]
    split
    · rename_i hs
      rw [hs, ← pending, hs, List.tail_nil]
    · rename_i hs
      rw [OrderedTable.get?_erase_self, hs, Option.getD_none, List.tail_cons]
    · rename_i hs
      rw [OrderedTable.get?_put_self, hs, Option.getD_some, List.tail_cons]
  · rw [if_neg h]
    split
    · rfl
    · rw [OrderedTable.get?_erase_of_ne _ h, pending]
    · rw [OrderedTable.get?_put_of_ne _ _ h, pending]

theorem pending_offering (s : Instrumentation τ) (r : Option Report) (id : String) :
    (s.offering r).pending id = s.pending id := by
  cases r <;> rfl

/-! ## Parts that the helpers leave alone -/

theorem registry_push (s : Instrumentation τ) (i : String) (c : PendingCall) :
    (s.push i c).registry = s.registry := rfl

theorem registry_popped (s : Instrumentation τ) (i : String) :
    (s.popped i).registry = s.registry := rfl

theorem registry_offering (s : Instrumentation τ) (r : Option Report) :
    (s.offering r).registry = s.registry := by
  cases r <;> rfl

theorem clock_offering (s : Instrumentation τ) (r : Option Report) :
    (s.offering r).clock = s.clock := by
  cases r <;> rfl

theorem budget_offering (s : Instrumentation τ) (r : Option Report) :
    (s.offering r).budget = s.budget := by
  cases r <;> rfl

theorem maxMessageLength_offering (s : Instrumentation τ) (r : Option Report) :
    (s.offering r).maxMessageLength = s.maxMessageLength := by
  cases r <;> rfl

theorem isSome_sink_offering (s : Instrumentation τ) (r : Option Report) :
    (s.offering r).sink.isSome = s.sink.isSome := by
  cases r with
  | none => rfl
  | some r => exact Option.isSome_map

variable [SamplingTime τ]

/-- Asking the sampler changes the budget and the probes alone. -/
theorem asked_eq (s : Instrumentation τ) (i : String) :
    s.asked i = { s with budget := (s.asked i).budget, registry := (s.asked i).registry } := by
  rw [asked]
  split <;> rfl

theorem pending_asked (s : Instrumentation τ) (i id : String) :
    (s.asked i).pending id = s.pending id := by
  rw [asked_eq]
  rfl

theorem pending_step_start (g : Getters) (w : World τ) (c : CallStart) (id : String) :
    (w.step g (.start c)).engine.pending id =
      if c.id = id then startedCall g w c :: w.engine.pending c.id else w.engine.pending id := by
  rw [World.engine_step_start, pending_push, pending_asked, pending_asked]

theorem pending_step_stop (g : Getters) (w : World τ) (c : CallStop) (id : String) :
    (w.step g (.stop c)).engine.pending id =
      if c.id = id then (w.engine.pending c.id).tail else w.engine.pending id := by
  rw [World.engine_step_stop, pending_offering, pending_popped]

/-- Only the hooks of an id change which of its calls are under way. -/
theorem pending_step_of_ne (g : Getters) (w : World τ) {a : Action} {id : String}
    (h : a.site? ≠ some id) : (w.step g a).engine.pending id = w.engine.pending id := by
  cases a with
  | start c => rw [pending_step_start, if_neg fun hc => h (congrArg some hc)]
  | stop c => rw [pending_step_stop, if_neg fun hc => h (congrArg some hc)]
  | register d => rfl
  | remove i => rfl
  | clear => rfl
  | advance n => rfl
  | stack t => rfl
  | trace t => rfl

/-! ## The registered probes -/

theorem get?_asked (s : Instrumentation τ) (i id : String) :
    (s.asked i).registry.get? id =
      if i = id then (s.registry.get? id).map fun p => { p with sampler := (s.sampling p).sampler }
      else s.registry.get? id := by
  rw [asked]
  cases hi : s.registry.get? i with
  | none =>
    by_cases h : i = id
    · rw [if_pos h, ← h, hi, Option.map_none]
    · rw [if_neg h]
  | some p =>
    have hset : (s.sampled i (s.sampling p)).registry =
        s.registry.setSampler i (s.sampling p).sampler := rfl
    rw [hset, Registry.get?_setSampler]
    by_cases h : i = id
    · rw [if_pos h, if_pos h, ← h, hi, Option.map_some, Option.map_some]
    · rw [if_neg h, if_neg h]

/-- A start changes the sampler of the probe of its id. -/
theorem get?_step_start (g : Getters) (w : World τ) (c : CallStart) (id : String) :
    (w.step g (.start c)).engine.registry.get? id =
      if c.id = id then (w.engine.registry.get? id).map fun p =>
        { p with sampler := (w.engine.sampling p).sampler }
      else w.engine.registry.get? id := by
  rw [World.engine_step_start, registry_push, get?_asked]

/-- An action that starts no call registers a probe, takes one out, or leaves the
probes alone. -/
theorem get?_step_of_ne_start (g : Getters) (w : World τ) {a : Action} (id : String)
    (h : ∀ c, a ≠ .start c) :
    (w.step g a).engine.registry.get? id =
      (a.registers? w.engine.registry.settings id).or
        (if a.revokes id then none else w.engine.registry.get? id) := by
  cases a with
  | start c => exact absurd rfl (h c)
  | stop c =>
    rw [World.engine_step_stop, registry_offering, registry_popped]
    rfl
  | register d => exact Registry.get?_register _ _ _
  | remove i =>
    refine (Registry.get?_remove _ i id).trans ?_
    simp [Action.registers?, Action.revokes]
  | clear => exact Registry.get?_clear _ id
  | advance n => rfl
  | stack t => rfl
  | trace t => rfl

/-! ## The budget -/

/-- Only the start of a call asks the budget. -/
theorem budget_step_of_ne_start (g : Getters) (w : World τ) {a : Action}
    (h : ∀ c, a ≠ .start c) : (w.step g a).engine.budget = w.engine.budget := by
  cases a with
  | start c => exact absurd rfl (h c)
  | stop c =>
    rw [World.engine_step_stop, budget_offering]
    rfl
  | register d => rfl
  | remove i => rfl
  | clear => rfl
  | advance n => rfl
  | stack t => rfl
  | trace t => rfl

/-- What the start of a call leaves of the budget. -/
theorem budget_of_start (g : Getters) (w : World τ) (c : CallStart) :
    (w.step g (.start c)).engine.budget =
      (w.engine.registry.get? c.id).elim w.engine.budget fun p => (w.engine.sampling p).budget := by
  rw [World.engine_step_start, asked]
  cases w.engine.registry.get? c.id <;> rfl

/-! ## Settings, sink and clock -/

/-- What no action changes: the settings, the greatest length of a message, and whether
there is a sink. -/
def World.fixed (w : World τ) : Settings × Nat × Bool :=
  (w.engine.registry.settings, w.engine.maxMessageLength, w.engine.sink.isSome)

theorem settings_asked (s : Instrumentation τ) (i : String) :
    (s.asked i).registry.settings = s.registry.settings := by
  rw [asked]
  split
  · rfl
  · exact Registry.settings_setSampler _ _ _

theorem fixed_step (g : Getters) (w : World τ) (a : Action) : (w.step g a).fixed = w.fixed := by
  rw [World.fixed, World.fixed]
  cases a with
  | start c =>
    rw [World.engine_step_start, registry_push, settings_asked, asked_eq]
    rfl
  | stop c =>
    rw [World.engine_step_stop, registry_offering, maxMessageLength_offering,
      isSome_sink_offering]
    rfl
  | register d =>
    have hsettings : (w.engine.registry.register d).registry.settings =
        w.engine.registry.settings := Registry.settings_register _ _
    exact Prod.ext hsettings rfl
  | remove i =>
    have hsettings : (w.engine.registry.remove i).1.settings = w.engine.registry.settings :=
      Registry.settings_remove _ _
    exact Prod.ext hsettings rfl
  | clear => rfl
  | advance n => rfl
  | stack t => rfl
  | trace t => rfl

/-- The clock never goes back. -/
theorem elapsed_le_step (g : Getters) (w : World τ) (a : Action) :
    w.engine.clock.elapsed ≤ (w.step g a).engine.clock.elapsed := by
  cases a with
  | start c =>
    rw [World.engine_step_start, asked_eq]
    exact Nat.le_refl _
  | stop c =>
    rw [World.engine_step_stop, clock_offering]
    exact Nat.le_refl _
  | register d => exact Nat.le_refl _
  | remove i => exact Nat.le_refl _
  | clear => exact Nat.le_refl _
  | advance n => exact Nat.le_add_right _ n
  | stack t => exact Nat.le_refl _
  | trace t => exact Nat.le_refl _

/-! ## Reports -/

/-- The report that the sink is offered at the end of a call. -/
def delivered (g : Getters) (w : World τ) (c : CallStop) : Option Report :=
  w.engine.sink.bind fun _ => stopReport g w c

/-- The end of a call adds at most one report to those that were made. -/
theorem reports_step_stop (g : Getters) (w : World τ) (c : CallStop) :
    (w.step g (.stop c)).reports = w.reports ++ (delivered g w c).toList := by
  have hsink : (w.engine.popped c.id).sink = w.engine.sink := rfl
  rw [World.reports, World.reports, World.engine_step_stop, delivered]
  cases hr : stopReport g w c with
  | none =>
    cases hk : w.engine.sink <;> simp [offering, hsink, hk]
  | some r =>
    cases hk : w.engine.sink <;> simp [offering, hsink, hk, Sink.offer]

/-- Nothing but the end of a call makes a report. -/
theorem reports_step_of_not_stop (g : Getters) (w : World τ) {a : Action} (h : a.isStop = false) :
    (w.step g a).reports = w.reports := by
  cases a with
  | start c =>
    rw [World.reports, World.engine_step_start, asked_eq]
    rfl
  | stop c => exact absurd h (by simp [Action.isStop])
  | register d => rfl
  | remove i => rfl
  | clear => rfl
  | advance n => rfl
  | stack t => rfl
  | trace t => rfl

/-! ## Along a run -/

theorem fixed_run (g : Getters) (w : World τ) (as : List Action) :
    (w.run g as).fixed = w.fixed := by
  induction as generalizing w with
  | nil => rfl
  | cons a as ih => rw [World.run_cons, ih, fixed_step]

theorem settings_step (g : Getters) (w : World τ) (a : Action) :
    (w.step g a).engine.registry.settings = w.engine.registry.settings :=
  congrArg Prod.fst (fixed_step g w a)

theorem settings_run (g : Getters) (w : World τ) (as : List Action) :
    (w.run g as).engine.registry.settings = w.engine.registry.settings :=
  congrArg Prod.fst (fixed_run g w as)

theorem maxMessageLength_run (g : Getters) (w : World τ) (as : List Action) :
    (w.run g as).engine.maxMessageLength = w.engine.maxMessageLength :=
  congrArg (fun x => x.2.1) (fixed_run g w as)

theorem isSome_sink_run (g : Getters) (w : World τ) (as : List Action) :
    (w.run g as).engine.sink.isSome = w.engine.sink.isSome :=
  congrArg (fun x => x.2.2) (fixed_run g w as)

theorem elapsed_le_run (g : Getters) (w : World τ) (as : List Action) :
    w.engine.clock.elapsed ≤ (w.run g as).engine.clock.elapsed := by
  induction as generalizing w with
  | nil => exact Nat.le_refl _
  | cons a as ih => exact Nat.le_trans (elapsed_le_step g w a) (ih (w.step g a))

end ProbeEngine.Instrumentation

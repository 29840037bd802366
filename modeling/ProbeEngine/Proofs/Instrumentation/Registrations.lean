import Mathlib.Data.List.Induction
import ProbeEngine.Proofs.Instrumentation.Frame
import ProbeEngine.Proofs.Sampling.Decision

/-!
# Registrations

The probe that is found under an id changes with every start of a call, since the
start keeps when the probe last fired. What was registered does not change with
it: `registration?` is the probe without its firings, and

* `registration?_step` — a registration that compiles puts another one in force, a
  removal puts none in force, and no other action changes which one is;
* `registration?_run` — so the one in force is that of the last such action
  (`inForce`);
* `inForce_eq_iff` — and it stays in force exactly as long as no action rewrites
  the id.
-/

namespace ProbeEngine

/-- A probe as it was registered: without its firings. -/
def Probe.asRegistered {τ : Type} (p : Probe τ) : Probe τ :=
  { p with sampler := { p.sampler with last := none } }

variable {τ : Type} [SamplingTime τ]

/-- A compiled probe has not fired. -/
theorem Probe.asRegistered_of_compile {d : ProbeDefinition} {s : Settings} {p : Probe τ}
    (h : Probe.compile d s = .ok p) : p.asRegistered = p := by
  obtain ⟨c, t, ⟨i, last⟩, -, -, hx, rfl⟩ := Probe.of_compile h
  cases ProbeSampler.last_of_ofRate hx
  rfl

namespace Instrumentation

open Host (Getters)

theorem asRegistered_sampling (s : Instrumentation τ) (p : Probe τ) :
    { p with sampler := (s.sampling p).sampler }.asRegistered = p.asRegistered := by
  simp only [Probe.asRegistered, sampling, GlobalBudget.interval_sample]

/-! ## One step -/

/-- What is registered under an id. -/
def registration? (s : Instrumentation τ) (id : String) : Option (Probe τ) :=
  (s.registry.get? id).map Probe.asRegistered

namespace Action

/-- What is registered is compiled from a definition of the id. -/
theorem registers?_eq_some_iff {s : Settings} {id : String} {a : Action} {p : Probe τ} :
    a.registers? s id = some p ↔ ∃ d, a = .register d ∧ d.id = id ∧ Probe.compile d s = .ok p := by
  cases a with
  | register d =>
    rw [registers?, Registry.compiled?]
    cases hc : (Probe.compile d s : Except RegistrationError (Probe τ)) <;>
      simp [Except.toOption, hc]
  | _ => simp [registers?]

theorem map_asRegistered_registers? (s : Settings) (id : String) (a : Action) :
    (a.registers? s id : Option (Probe τ)).map Probe.asRegistered = a.registers? s id := by
  cases a with
  | register d =>
    rw [registers?, Registry.compiled?]
    split
    · cases hc : (Probe.compile d s : Except RegistrationError (Probe τ)) with
      | error e => rfl
      | ok p => exact congrArg some (Probe.asRegistered_of_compile hc)
    · rfl
  | _ => rfl

variable (τ) in
/-- Whether an action puts another probe in force under an id, or none. -/
def rewrites (s : Settings) (id : String) (a : Action) : Bool :=
  (a.registers? s id : Option (Probe τ)).isSome || a.revokes id

theorem rewrites_start (s : Settings) (id : String) (c : CallStart) :
    (Action.start c).rewrites τ s id = false := rfl

theorem rewrites_eq_false_iff {s : Settings} {id : String} {a : Action} :
    a.rewrites τ s id = false ↔
      (a.registers? s id : Option (Probe τ)) = none ∧ a.revokes id = false := by
  rw [rewrites, Bool.or_eq_false_iff, Option.isSome_eq_false_iff, Option.isNone_iff_eq_none]

end Action

/-- What is registered under an id changes by registrations and removals alone. -/
theorem registration?_step (g : Getters) (w : World τ) (a : Action) (id : String) :
    (w.step g a).engine.registration? id =
      (a.registers? w.engine.registry.settings id).or
        (if a.revokes id then none else w.engine.registration? id) := by
  by_cases hs : ∃ c, a = .start c
  · obtain ⟨c, rfl⟩ := hs
    have hkept : (w.step g (.start c)).engine.registration? id = w.engine.registration? id := by
      rw [registration?, get?_step_start, registration?]
      split
      · rw [Option.map_map]
        exact congrArg (Option.map · _) (funext (asRegistered_sampling w.engine))
      · rfl
    rw [hkept]
    rfl
  · rw [registration?, get?_step_of_ne_start g w id fun c hc => hs ⟨c, hc⟩, Option.map_or,
      Action.map_asRegistered_registers?, registration?]
    split <;> rfl

/-- What no action rewrites stays registered. -/
theorem registration?_run_of_kept (g : Getters) (w : World τ) {id : String} {as : List Action}
    (h : ∀ a ∈ as, a.rewrites τ w.engine.registry.settings id = false) :
    (w.run g as).engine.registration? id = w.engine.registration? id := by
  induction as generalizing w with
  | nil => rfl
  | cons a as ih =>
    obtain ⟨hregister, hrevoke⟩ := Action.rewrites_eq_false_iff.1 (h a List.mem_cons_self)
    have hstep : (w.step g a).engine.registration? id = w.engine.registration? id := by
      rw [registration?_step, hregister, hrevoke]
      rfl
    rw [World.run_cons, ih _ fun b hb => ?_, hstep]
    rw [settings_step]
    exact h b (List.mem_cons_of_mem a hb)

/-! ## Which registration is in force -/

/-- A registration in a run: how many actions came before it, and the probe that it
put in force. -/
structure Enrolment (τ : Type) where
  number : Nat
  probe : Probe τ

/-- The registration in force after one more action, of which there were so many
before. -/
def inForceAfter (s : Settings) (id : String) (number : Nat) (current : Option (Enrolment τ))
    (a : Action) : Option (Enrolment τ) :=
  ((a.registers? s id).map (Enrolment.mk number)).or (if a.revokes id then none else current)

/-- The registration in force after some more actions. -/
def inForceFrom (s : Settings) (id : String) :
    Nat → Option (Enrolment τ) → List Action → Option (Enrolment τ)
  | _, current, [] => current
  | number, current, a :: as =>
    inForceFrom s id (number + 1) (inForceAfter s id number current a) as

/-- The registration of an id that is in force after some actions: the last one, unless
it was removed since. -/
def inForce (s : Settings) (id : String) (as : List Action) : Option (Enrolment τ) :=
  inForceFrom s id 0 none as

theorem inForceFrom_append (s : Settings) (id : String) (number : Nat)
    (current : Option (Enrolment τ)) (as bs : List Action) :
    inForceFrom s id number current (as ++ bs) =
      inForceFrom s id (number + as.length) (inForceFrom s id number current as) bs := by
  induction as generalizing number current with
  | nil => rfl
  | cons a as ih =>
    rw [List.cons_append, inForceFrom, inForceFrom, ih, List.length_cons, Nat.add_assoc,
      Nat.add_comm 1]

theorem inForce_append (s : Settings) (id : String) (as bs : List Action) :
    (inForce s id (as ++ bs) : Option (Enrolment τ)) =
      inForceFrom s id as.length (inForce s id as) bs := by
  rw [inForce, inForceFrom_append, Nat.zero_add, ← inForce]

theorem inForce_concat (s : Settings) (id : String) (as : List Action) (a : Action) :
    (inForce s id (as ++ [a]) : Option (Enrolment τ)) =
      inForceAfter s id as.length (inForce s id as) a := by
  rw [inForce_append, inForceFrom, inForceFrom]

theorem inForceAfter_of_kept {s : Settings} {id : String} {a : Action}
    (h : a.rewrites τ s id = false) (number : Nat) (current : Option (Enrolment τ)) :
    inForceAfter s id number current a = current := by
  obtain ⟨hregister, hrevoke⟩ := Action.rewrites_eq_false_iff.1 h
  rw [inForceAfter, hregister, hrevoke]
  rfl

/-- A rewritten id has no registration in force that was in force before. -/
theorem inForceAfter_ne_of_rewrites {s : Settings} {id : String} {a : Action}
    (h : a.rewrites τ s id = true) {number : Nat} {current : Option (Enrolment τ)}
    {e : Enrolment τ} (he : e.number < number) : inForceAfter s id number current a ≠ some e := by
  intro heq
  rw [inForceAfter] at heq
  cases hregister : (a.registers? s id : Option (Probe τ)) with
  | some p =>
    rw [hregister] at heq
    have hnumber : number = e.number := congrArg Enrolment.number (Option.some.inj heq)
    omega
  | none =>
    have hrevoke : a.revokes id = true := by
      rw [Action.rewrites, hregister] at h
      exact h
    rw [hregister, hrevoke] at heq
    cases heq

/-- What is not in force any more does not come back. -/
theorem inForceFrom_ne {s : Settings} {id : String} {number : Nat} {current : Option (Enrolment τ)}
    {e : Enrolment τ} (he : e.number < number) (hne : current ≠ some e) (as : List Action) :
    inForceFrom s id number current as ≠ some e := by
  induction as generalizing number current with
  | nil => exact hne
  | cons a as ih =>
    refine ih (Nat.lt_succ_of_lt he) ?_
    cases hr : a.rewrites τ s id with
    | true => exact inForceAfter_ne_of_rewrites hr he
    | false => rwa [inForceAfter_of_kept hr]

theorem inForceFrom_eq_iff {s : Settings} {id : String} {number : Nat} {e : Enrolment τ}
    (he : e.number < number) (as : List Action) :
    inForceFrom s id number (some e) as = some e ↔ ∀ a ∈ as, a.rewrites τ s id = false := by
  induction as generalizing number with
  | nil => simp [inForceFrom]
  | cons a as ih =>
    rw [List.forall_mem_cons, inForceFrom]
    cases hr : a.rewrites τ s id with
    | true =>
      have hne : inForceFrom s id (number + 1) (inForceAfter s id number (some e) a) as ≠ some e :=
        inForceFrom_ne (Nat.lt_succ_of_lt he) (inForceAfter_ne_of_rewrites hr he) as
      simp [hne]
    | false => rw [inForceAfter_of_kept hr, ih (Nat.lt_succ_of_lt he), and_iff_right rfl]

/-- A registration that is in force was made among the actions so far. -/
theorem number_lt_of_inForceFrom (s : Settings) (id : String) {number : Nat}
    {current : Option (Enrolment τ)} (h : ∀ e ∈ current, e.number < number) (as : List Action) :
    ∀ e ∈ inForceFrom s id number current as, e.number < number + as.length := by
  induction as generalizing number current with
  | nil => exact h
  | cons a as ih =>
    rw [List.length_cons, Nat.add_comm as.length, ← Nat.add_assoc]
    refine ih fun e he => ?_
    rcases Option.or_eq_some_iff.1 he with he | ⟨-, he⟩
    · obtain ⟨p, -, rfl⟩ := Option.map_eq_some_iff.1 he
      exact Nat.lt_succ_self number
    · split at he
      · cases he
      · exact Nat.lt_succ_of_lt (h e he)

theorem number_lt_of_inForce {s : Settings} {id : String} {as : List Action} {e : Enrolment τ}
    (h : inForce s id as = some e) : e.number < as.length := by
  have hnone : ∀ e ∈ (none : Option (Enrolment τ)), e.number < 0 := by
    rintro e ⟨⟩
  have hlt := number_lt_of_inForceFrom s id hnone as e h
  omega

/-- A registration in force is the action of its number. -/
theorem exists_register_of_inForce {s : Settings} {id : String} {as : List Action}
    {e : Enrolment τ} (h : inForce s id as = some e) :
    ∃ a, as[e.number]? = some a ∧ a.registers? s id = some e.probe := by
  induction as using List.reverseRecOn with
  | nil => cases h
  | append_singleton as a ih =>
    rw [inForce_concat, inForceAfter, Option.or_eq_some_iff] at h
    rcases h with h | ⟨-, h⟩
    · obtain ⟨p, hp, rfl⟩ := Option.map_eq_some_iff.1 h
      exact ⟨a, List.getElem?_concat_length, hp⟩
    · split at h
      · cases h
      · obtain ⟨b, hb, hregisters⟩ := ih h
        refine ⟨b, ?_, hregisters⟩
        rw [List.getElem?_append_left (number_lt_of_inForce h)]
        exact hb

/-- **One registration stays in force** exactly as long as no action rewrites its id. -/
theorem inForce_eq_iff {s : Settings} {id : String} {before during : List Action}
    {e : Enrolment τ} (h : inForce s id before = some e) :
    inForce s id (before ++ during) = some e ↔ ∀ a ∈ during, a.rewrites τ s id = false := by
  rw [inForce_append, h, inForceFrom_eq_iff (number_lt_of_inForce h)]

/-- What is registered after some actions is what is in force then. -/
theorem registration?_inForceFrom (g : Getters) {w : World τ} {id : String}
    {current : Option (Enrolment τ)}
    (h : w.engine.registration? id = current.map Enrolment.probe) (number : Nat)
    (as : List Action) :
    (w.run g as).engine.registration? id =
      (inForceFrom w.engine.registry.settings id number current as).map Enrolment.probe := by
  induction as generalizing w number current with
  | nil => exact h
  | cons a as ih =>
    have hstep : (w.step g a).engine.registration? id =
        (inForceAfter w.engine.registry.settings id number current a).map Enrolment.probe := by
      rw [registration?_step, inForceAfter, Option.map_or, Option.map_map, h]
      congr 1
      · exact Option.map_id'.symm
      · split <;> rfl
    rw [World.run_cons, ih hstep (number + 1), settings_step, inForceFrom]

/-- **What is registered is what is in force**, in every run from a world without
probes. -/
theorem registration?_run (g : Getters) {w : World τ} {id : String}
    (h : w.engine.registration? id = none) (as : List Action) :
    (w.run g as).engine.registration? id =
      (inForce w.engine.registry.settings id as).map Enrolment.probe := by
  have hnone : w.engine.registration? id = (none : Option (Enrolment τ)).map Enrolment.probe := h
  exact registration?_inForceFrom g hnone 0 as

end Instrumentation

end ProbeEngine

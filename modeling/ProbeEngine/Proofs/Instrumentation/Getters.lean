import ProbeEngine.Proofs.Instrumentation.Frame
import ProbeEngine.Proofs.Message.Getters

/-!
# Getters and the hooks

Getters are code of the instrumented program, and conditions and messages must not
run it. Nothing that is evaluated depends on what stands behind an accessor, and of
the getters that a hook runs each is run to capture a value
(`evaluation_ignores_getters`).
-/

namespace ProbeEngine.Instrumentation

open Host (Value Heap Getters Redirection)

variable {τ : Type}

theorem checkCondition_redirect (ρ : Redirection) (h : Heap) (p : Probe τ) (context : Context) :
    checkCondition p context (h.redirect ρ) = checkCondition p context h := by
  rw [checkCondition, checkCondition, Condition.holds_redirect]
  cases Condition.holds p.condition context h with
  | ok b => rfl
  | error e => simp only [EvalError.message_redirect]

/-- A probe is evaluated alike whatever stands behind the accessors: it fires or not, with
the same message, failures and events. -/
theorem evaluateProbe_redirect (ρ : Redirection) (h : Heap) (s : Instrumentation τ)
    (p : Probe τ) (context : Context) :
    s.evaluateProbe p context (h.redirect ρ) = s.evaluateProbe p context h := by
  simp only [evaluateProbe, checkCondition_redirect, Probe.message, Template.evaluate_redirect]

/-! ## The getters that a hook runs -/

theorem calls_recordCall (g : Getters) (h : Heap) (s : Instrumentation τ) (p : Probe τ)
    (c : CallStart) (m : Option Message) (n : Nat) :
    ((s.recordCall g h p c.this c.args m).run n).2 =
      if capturesEntry p then ((captureArguments g h p c.this c.args).run n).2 else n := by
  simp only [recordCall]
  split <;> rfl

/-- Starting a sampled call runs no getter, or those of the values captured then. -/
theorem calls_startSampled (g : Getters) (s : Instrumentation τ) (p : Probe τ) (c : CallStart)
    (n : Nat) :
    ((s.startSampled g c.heap p c.this c.args).run n).2 = n ∨
      capturesEntry p ∧ ((s.startSampled g c.heap p c.this c.args).run n).2 =
        ((captureArguments g c.heap p c.this c.args).run n).2 := by
  have hrecord : ∀ m, ((s.recordCall g c.heap p c.this c.args m).run n).2 = n ∨
      capturesEntry p ∧ ((s.recordCall g c.heap p c.this c.args m).run n).2 =
        ((captureArguments g c.heap p c.this c.args).run n).2 := fun m => by
    rw [calls_recordCall]
    by_cases hp : capturesEntry p
    · exact Or.inr ⟨hp, if_pos hp⟩
    · exact Or.inl (if_neg hp)
  simp only [startSampled]
  cases p.evaluateAt with
  | exit => exact hrecord none
  | entry =>
    dsimp only
    cases (s.evaluateProbe p (entryContext p c.this c.args) c.heap).message with
    | none => exact Or.inl rfl
    | some m => exact hrecord (some m)

/-- Finishing a call runs no getter, or those of the values captured then. -/
theorem calls_finish (g : Getters) (s : Instrumentation τ) (p : Probe τ) (r : CallRecord)
    (c : CallStop) (n : Nat) :
    ((s.finish g c.heap p c.id r c.this c.args c.how).run n).2 = n ∨
      ((s.finish g c.heap p c.id r c.this c.args c.how).run n).2 =
        ((captureExit g c.heap p c.this c.args c.how).run n).2 := by
  simp only [finish]
  cases p.evaluateAt with
  | entry => exact Or.inr rfl
  | exit =>
    dsimp only
    cases (s.evaluateProbe p (exitContext c.this c.args (s.clock.elapsed - r.start) c.how)
      c.heap).message with
    | none => exact Or.inl rfl
    | some m => exact Or.inr rfl

namespace World

variable [SamplingTime τ]

theorem getterCalls_step_start (g : Getters) (w : World τ) (c : CallStart) :
    (w.step g (.start c)).getterCalls = w.getterCalls ∨
      ∃ p ∈ w.engine.registry.get? c.id, capturesEntry p ∧
        (w.step g (.start c)).getterCalls =
          ((captureArguments g c.heap p c.this c.args).run w.getterCalls).2 := by
  simp only [step, onEntry]
  cases w.engine.registry.get? c.id with
  | none => exact Or.inl rfl
  | some p =>
    dsimp only
    cases (w.engine.budget.sample p.sampler p.capturesSnapshot
      (SamplingTime.ofNanos w.engine.clock.elapsed)).decision with
    | skip reason => exact Or.inl rfl
    | sample =>
      rcases calls_startSampled g (w.engine.sampled c.id (w.engine.sampling p)) p c
        w.getterCalls with h | ⟨hp, h⟩
      · exact Or.inl h
      · exact Or.inr ⟨p, rfl, hp, h⟩

theorem getterCalls_step_stop (g : Getters) (w : World τ) (c : CallStop) :
    (w.step g (.stop c)).getterCalls = w.getterCalls ∨
      ∃ p ∈ w.engine.registry.get? c.id, (w.step g (.stop c)).getterCalls =
        ((captureExit g c.heap p c.this c.args c.how).run w.getterCalls).2 := by
  have hstep : (w.step g (.stop c)).getterCalls =
      ((w.engine.onExit g c.heap c.id c.this c.args c.how).run w.getterCalls).2 := by
    cases hc : c.how <;> simp only [step, hc] <;> rfl
  have hreg : (w.engine.popped c.id).registry = w.engine.registry := rfl
  rw [hstep]
  simp only [onExit, pop?_eq]
  cases w.engine.pending c.id with
  | nil => exact Or.inl rfl
  | cons call calls =>
    cases call with
    | skipped => exact Or.inl rfl
    | active r =>
      simp only [List.head?_cons, Option.map_some, hreg]
      cases w.engine.registry.get? c.id with
      | none => exact Or.inl rfl
      | some p =>
        rcases calls_finish g (w.engine.popped c.id) p r c w.getterCalls with h | h
        · exact Or.inl h
        · exact Or.inr ⟨p, rfl, h⟩

end World

/-! ## Main result -/

variable [SamplingTime τ]

/-- **Evaluation neither observes nor runs getters.** Put any other functions behind the
accessors of a heap. Every expression then has the same value, and makes the same objects,
or fails with the same error in the same words, which is never one that the host threw.
Every condition, template and rendered value gives the same, and so does every probe as the
hooks evaluate it. The getters that a hook runs are those of the values that it captures;
what it evaluates runs none. -/
theorem evaluation_ignores_getters (ρ : Redirection) (h : Heap) (context : Context) :
    (∀ e : Expr,
      e.evaluate context (h.redirect ρ) =
        (e.evaluate context h).map (fun r => (r.1, r.2.redirect ρ)) ∧
      ∀ v, e.evaluate context h ≠ .error (.thrown v)) ∧
    (∀ e : EvalError, e.message (h.redirect ρ) = e.message h) ∧
    (∀ c : Condition, c.evaluate context (h.redirect ρ) = c.evaluate context h) ∧
    (∀ (t : Template) (limits : CaptureLimits) (maxLength : Nat),
      t.evaluate context (h.redirect ρ) limits maxLength =
        t.evaluate context h limits maxLength) ∧
    (∀ (limits : CaptureLimits) (v : Value),
      inspect (h.redirect ρ) limits v = inspect h limits v) ∧
    (∀ (s : Instrumentation τ) (p : Probe τ),
      s.evaluateProbe p context (h.redirect ρ) = s.evaluateProbe p context h) ∧
    ∀ (g : Getters) (w : World τ),
      (∀ c : CallStart,
        (w.step g (.start c)).getterCalls = w.getterCalls ∨
        ∃ p ∈ w.engine.registry.get? c.id, capturesEntry p ∧
          (w.step g (.start c)).getterCalls =
            ((captureArguments g c.heap p c.this c.args).run w.getterCalls).2) ∧
      ∀ c : CallStop,
        (w.step g (.stop c)).getterCalls = w.getterCalls ∨
        ∃ p ∈ w.engine.registry.get? c.id,
          (w.step g (.stop c)).getterCalls =
            ((captureExit g c.heap p c.this c.args c.how).run w.getterCalls).2 := by
  refine ⟨fun e => ⟨?_, ?_⟩, ?_, ?_, ?_, ?_, ?_, fun g w => ⟨?_, ?_⟩⟩
  · exact e.evaluate_redirect context ρ h
  · exact e.notThrown_evaluate context h
  · exact fun e => e.message_redirect ρ h
  · exact fun c => c.evaluate_redirect ρ h context
  · exact fun t => t.evaluate_redirect ρ h context
  · exact inspect_redirect ρ h
  · exact fun s p => evaluateProbe_redirect ρ h s p context
  · exact w.getterCalls_step_start g
  · exact w.getterCalls_step_stop g

end ProbeEngine.Instrumentation

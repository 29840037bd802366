import ProbeEngine.Proofs.Instrumentation.Evaluation
import ProbeEngine.Proofs.Message.Segments
import ProbeEngine.Proofs.OrderedTable

/-!
# What a start gives a probe to read

At the start of a call a probe is given the receiver and the arguments, unless it has neither
condition nor expressions: then it is given nothing. The hook decides that by the compiled
probe, and the probe is compiled in one of three ways: from a text, from literal segments that
are joined, or from segments one by one. That these agree is said here, and that it makes no
difference:

* `Probe.readsCall_of_compile`, `Probe.template_of_compile` — which definitions make a probe
  that is given nothing, and what it says;
* `startSampledWith_eq`, `onEntryWith_eq` — the hook for a start does the same with any other
  variables for such a probe;
* `World.stepWith_eq`, `World.runWith_eq` — so does a step, and a run;
* `entry_context_is_not_observed` — **nothing tells whether a probe was given the call**.
-/

namespace ProbeEngine

open Host (Value Heap Getters Counting)

/-! ## Definitions without expressions -/

namespace ProbeDefinition

/-- Whether a definition has a condition, or an expression in its message. -/
def readsCall (d : ProbeDefinition) : Bool :=
  d.condition.isSome || Template.needsEvaluation d.segments

/-- The message of a definition without expressions: the texts of its segments, or its template
where it has none. -/
def literalMessage (d : ProbeDefinition) : String :=
  if d.segments.isEmpty then d.template else Template.literalText d.segments

end ProbeDefinition

theorem TemplatePart.isDynamic_of_compile {s : Segment} {part : TemplatePart}
    (hs : compile s = .ok part) : part.isDynamic = Template.needsEvaluation [s] := by
  cases s with
  | literal text =>
    cases hs
    rfl
  | expression e =>
    obtain ⟨expr, -, rfl⟩ := map_eq_ok_iff.1 hs
    rfl

/-- A template has to be evaluated exactly if its segments have to. -/
theorem Template.isDynamic_of_compile {segments : List Segment} {t : Template}
    (ht : compile segments = .ok t) : t.isDynamic = needsEvaluation segments := by
  rcases of_compile ht with hparts | hseg
  · rw [isDynamic]
    clear ht
    generalize t.parts = parts at hparts
    induction hparts with
    | nil => rfl
    | @cons s part segments parts hs _ ih =>
      have hcons : needsEvaluation (s :: segments) =
          (needsEvaluation [s] || needsEvaluation segments) := by
        rw [← List.singleton_append, needsEvaluation, List.any_append]
        rfl
      rw [List.any_cons, ih, TemplatePart.isDynamic_of_compile hs, hcons]
  · rw [eq_ofText_of_compile ht hseg, hseg]
    rfl

namespace Probe

variable {τ : Type}

/-- Whether a probe has a condition, or an expression in its message. -/
def readsCall (p : Probe τ) : Bool := p.condition.isSome || p.template.isDynamic

theorem isSome_compileCondition {d : ProbeDefinition} {c : Option Condition}
    (hc : compileCondition d = .ok c) : c.isSome = d.condition.isSome := by
  rw [compileCondition] at hc
  cases hd : d.condition with
  | none =>
    rw [hd] at hc
    cases hc
    rfl
  | some e =>
    rw [hd] at hc
    dsimp only at hc
    split at hc
    · cases hc
      rfl
    · cases hc

/-- The template of a definition has to be evaluated exactly if its segments have to; a text
never has. -/
theorem isDynamic_compileTemplate {d : ProbeDefinition} {t : Template}
    (ht : compileTemplate d = .ok t) : t.isDynamic = Template.needsEvaluation d.segments := by
  rw [compileTemplate] at ht
  split at ht
  · rename_i hempty
    cases ht
    rw [List.isEmpty_iff.1 hempty]
    rfl
  · exact Template.isDynamic_of_compile ht

theorem compileTemplate_of_literal {d : ProbeDefinition} {t : Template}
    (ht : compileTemplate d = .ok t) (hd : Template.needsEvaluation d.segments = false) :
    t = Template.ofText d.literalMessage := by
  rw [compileTemplate] at ht
  rw [ProbeDefinition.literalMessage]
  split at ht
  · rw [if_pos ‹_›]
    exact (Except.ok.inj ht).symm
  · rw [if_neg ‹_›]
    exact Template.eq_ofText_of_compile ht hd

variable [SamplingTime τ] {d : ProbeDefinition} {settings : Settings} {p : Probe τ}

/-- **A probe reads a call exactly if its definition says so**, however it was compiled. -/
theorem readsCall_of_compile (hp : Probe.compile d settings = .ok p) :
    p.readsCall = d.readsCall := by
  obtain ⟨c, t, _, hc, ht, -, rfl⟩ := Probe.of_compile hp
  rw [readsCall, ProbeDefinition.readsCall, isSome_compileCondition hc,
    isDynamic_compileTemplate ht]

/-- A definition without a condition makes a probe without one. -/
theorem condition_of_compile (hp : Probe.compile d settings = .ok p) (hd : d.condition = none) :
    p.condition = none := by
  obtain ⟨c, _, _, hc, -, -, rfl⟩ := Probe.of_compile hp
  rw [compileCondition, hd] at hc
  exact (Except.ok.inj hc).symm

/-- A definition without expressions makes a probe that says one text. -/
theorem template_of_compile (hp : Probe.compile d settings = .ok p)
    (hd : Template.needsEvaluation d.segments = false) :
    p.template = Template.ofText d.literalMessage := by
  obtain ⟨_, t, _, -, ht, -, rfl⟩ := Probe.of_compile hp
  exact compileTemplate_of_literal ht hd

end Probe

namespace Instrumentation

variable {τ : Type}

/-! ## What the hook gives a probe -/

/-- The variables of a call are never none: there is a receiver. -/
theorem callContext_ne_empty (this : Value) (args : Bindings) :
    callContext this args ≠ OrderedTable.empty := by
  intro hempty
  have hthis : ((callContext this args).get? "this").isSome := by
    rw [callContext, OrderedTable.get?_putAll, OrderedTable.get?_put_self, Option.isSome_or,
      Option.isSome_some, Bool.or_true]
  rw [hempty] at hthis
  cases hthis

theorem entryContext_eq (p : Probe τ) (this : Value) (args : Bindings) :
    entryContext p this args =
      if p.readsCall then callContext this args else OrderedTable.empty := by
  rw [entryContext, Probe.readsCall]
  cases p.condition <;> cases p.template.isDynamic <;> rfl

/-- The hook gives a probe no variables exactly if the probe reads none. -/
theorem entryContext_eq_empty_iff (p : Probe τ) (this : Value) (args : Bindings) :
    entryContext p this args = OrderedTable.empty ↔ p.readsCall = false := by
  rw [entryContext_eq]
  cases hp : p.readsCall with
  | false => exact iff_of_true rfl rfl
  | true => exact iff_of_false (callContext_ne_empty this args) nofun

/-- A probe that reads nothing is evaluated to the same for all variables. -/
theorem evaluateProbe_of_not_readsCall (s : Instrumentation τ) {p : Probe τ}
    (hp : p.readsCall = false) (context context' : Context) (h : Heap) :
    s.evaluateProbe p context h = s.evaluateProbe p context' h := by
  obtain ⟨hc, ht⟩ := Bool.or_eq_false_iff.1 hp
  have hnone : p.condition = none :=
    Option.isNone_iff_eq_none.1 (Option.isSome_eq_false_iff.1 hc)
  exact s.evaluateProbe_of_static hnone ht _ _ _

/-- A probe that is one text fires with it. -/
theorem evaluateProbe_of_literal (s : Instrumentation τ) {p : Probe τ} (hc : p.condition = none)
    {text : String} (ht : p.template = Template.ofText text) (context : Context) (h : Heap) :
    s.evaluateProbe p context h =
      ⟨some ⟨Message.truncate s.maxMessageLength text, []⟩, []⟩ := by
  simp only [evaluateProbe, checkCondition, hc, Condition.holds, Probe.message, ht,
    Template.evaluate_ofText]
  rfl

/-! ## Other variables for a probe -/

/-- A choice of the variables that a probe is given for the start of a call. -/
abbrev ContextChoice (τ : Type) := Probe τ → Value → Bindings → Context

namespace ContextChoice

/-- A choice that gives the variables of the call to the probes that read them. Others may be
given anything. -/
def Serves (contextOf : ContextChoice τ) : Prop :=
  ∀ p this args, p.readsCall = true → contextOf p this args = callContext this args

theorem serves_entryContext : Serves (entryContext : ContextChoice τ) := fun p this args hp => by
  rw [entryContext_eq, if_pos hp]

theorem serves_callContext : Serves fun _ : Probe τ => callContext := fun _ _ _ _ => rfl

end ContextChoice

/-- Starts a call that was sampled, with a choice of variables. -/
def startSampledWith (contextOf : ContextChoice τ) (s : Instrumentation τ) (g : Getters)
    (h : Heap) (p : Probe τ) (this : Value) (args : Bindings) :
    Counting (PendingCall × List LogEvent) := do
  match p.evaluateAt with
  | .exit => return (.active (← recordCall s g h p this args none), [])
  | .entry =>
    let e := s.evaluateProbe p (contextOf p this args) h
    match e.message with
    | some m => return (.active (← recordCall s g h p this args (some m)), e.events)
    | none => return (.skipped, e.events)

/-- With the choice of the hook, this is what the hook does. -/
theorem startSampledWith_entryContext (s : Instrumentation τ) (g : Getters) (h : Heap)
    (p : Probe τ) (this : Value) (args : Bindings) :
    s.startSampledWith entryContext g h p this args = s.startSampled g h p this args := rfl

variable {contextOf contextOf' : ContextChoice τ}

theorem evaluateProbe_of_serves (hc : contextOf.Serves) (hc' : contextOf'.Serves)
    (s : Instrumentation τ) (p : Probe τ) (this : Value) (args : Bindings) (h : Heap) :
    s.evaluateProbe p (contextOf p this args) h = s.evaluateProbe p (contextOf' p this args) h := by
  cases hp : p.readsCall with
  | false => exact s.evaluateProbe_of_not_readsCall hp _ _ h
  | true => rw [hc p this args hp, hc' p this args hp]

theorem startSampledWith_eq (hc : contextOf.Serves) (s : Instrumentation τ) (g : Getters)
    (h : Heap) (p : Probe τ) (this : Value) (args : Bindings) :
    s.startSampledWith contextOf g h p this args = s.startSampled g h p this args := by
  rw [startSampledWith, evaluateProbe_of_serves hc ContextChoice.serves_entryContext,
    ← startSampledWith, startSampledWith_entryContext]

variable [SamplingTime τ]

/-- The hook for the start of a call, with a choice of variables. -/
def onEntryWith (contextOf : ContextChoice τ) (s : Instrumentation τ) (g : Getters) (h : Heap)
    (id : String) (this : Value) (args : Bindings) : Counting (HookOutcome τ) := do
  match s.registry.get? id with
  | none => return ⟨s.push id .skipped, [.notRegistered id]⟩
  | some p =>
    let now := SamplingTime.ofNanos s.clock.elapsed
    let o := s.budget.sample p.sampler p.capturesSnapshot now
    let s' := s.sampled id o
    match o.decision with
    | .skip reason => return ⟨s'.push id .skipped, [.skipped id reason]⟩
    | .sample =>
      let (call, events) ← startSampledWith contextOf s' g h p this args
      return ⟨s'.push id call, events⟩

theorem onEntryWith_entryContext (s : Instrumentation τ) (g : Getters) (h : Heap) (id : String)
    (this : Value) (args : Bindings) :
    s.onEntryWith entryContext g h id this args = s.onEntry g h id this args := rfl

/-- **The hook does the same**: the same state with the same records of calls, the same events,
and the same getters run. -/
theorem onEntryWith_eq (hc : contextOf.Serves) (s : Instrumentation τ) (g : Getters) (h : Heap)
    (id : String) (this : Value) (args : Bindings) :
    s.onEntryWith contextOf g h id this args = s.onEntry g h id this args := by
  have hstart : startSampledWith contextOf = startSampledWith entryContext := by
    funext s g h p this args
    rw [startSampledWith_eq hc, startSampledWith_entryContext]
  rw [onEntryWith, hstart, ← onEntryWith, onEntryWith_entryContext]

/-! ## Runs -/

namespace World

/-- The world after an action, with a choice of variables for the starts of calls. -/
def stepWith (contextOf : ContextChoice τ) (g : Getters) (w : World τ) : Action → World τ
  | .start c =>
    let (o, n) := (w.engine.onEntryWith contextOf g c.heap c.id c.this c.args).run w.getterCalls
    ⟨o.state, n⟩
  | a => w.step g a

/-- The world after some actions in order, with a choice of variables. -/
def runWith (contextOf : ContextChoice τ) (g : Getters) (w : World τ) (as : List Action) :
    World τ :=
  as.foldl (stepWith contextOf g) w

theorem stepWith_eq (hc : contextOf.Serves) (g : Getters) (w : World τ) (a : Action) :
    w.stepWith contextOf g a = w.step g a := by
  cases a with
  | start c => rw [stepWith, onEntryWith_eq hc]; rfl
  | stop c => rfl
  | register d => rfl
  | remove id => rfl
  | clear => rfl
  | advance nanos => rfl
  | stack text => rfl
  | trace t => rfl

theorem runWith_eq (hc : contextOf.Serves) (g : Getters) (w : World τ) (as : List Action) :
    w.runWith contextOf g as = w.run g as := by
  induction as generalizing w with
  | nil => rfl
  | cons a as ih =>
    have hcons : w.runWith contextOf g (a :: as) =
        (w.stepWith contextOf g a).runWith contextOf g as := rfl
    rw [hcons, ih, stepWith_eq hc, run_cons]

end World

/-- The choice matters to a probe that reads a call: without the variables it reports a failure. -/
example :
    let w₀ : World Float := World.begin {} ⟨Timestamp.ofMillis 0, 0⟩ (some Sink.collecting) none
    let as : List Action :=
      [.register { id := "p", segments := [.expression ⟨"x", .object [("ref", .string "x")]⟩]
                   evaluateAt := .entry },
        .start { plainStart "p" with args := OrderedTable.ofList [("x", .bool true)] },
        .stop (plainStop "p")]
    (w₀.run plainGetters as).reports.map (·.message) = ["true"] ∧
      (w₀.runWith (fun _ _ _ => OrderedTable.empty) plainGetters as).reports.map (·.message) =
        ["\x7bReferenceError: x is not defined\x7d"] := by
  decide +kernel

/-! ## Main result -/

/-- **Nothing tells whether a probe was given the call.** For every definition that compiles, the
probe is given no variables at the start of a call exactly if there is neither a condition nor an
expression, whether the message was delivered as a text or in segments. It then fires with one
text for all variables, cut to the length of messages. Were all probes given the receiver and
the arguments instead, a start would leave the same state with the same record of the call, and
log the same events, and a run would end in the same world with the same reports. -/
theorem entry_context_is_not_observed {d : ProbeDefinition} {settings : Settings} {p : Probe τ}
    (hp : Probe.compile d settings = .ok p) :
    (∀ this args, entryContext p this args = OrderedTable.empty ↔
      d.condition = none ∧ Template.needsEvaluation d.segments = false) ∧
    (d.condition = none → Template.needsEvaluation d.segments = false →
      ∀ (s : Instrumentation τ) (context : Context) (h : Heap),
        s.evaluateProbe p context h =
          ⟨some ⟨Message.truncate s.maxMessageLength d.literalMessage, []⟩, []⟩) ∧
    (∀ (s : Instrumentation τ) (g : Getters) (h : Heap) (this : Value) (args : Bindings),
      s.startSampledWith (fun _ => callContext) g h p this args =
          s.startSampled g h p this args ∧
        ∀ id, s.onEntryWith (fun _ => callContext) g h id this args =
          s.onEntry g h id this args) ∧
    ∀ (g : Getters) (w : World τ) (as : List Action),
      w.runWith (fun _ => callContext) g as = w.run g as := by
  refine ⟨fun this args => ?_, fun hc hs s context h => ?_, fun s g h this args => ⟨?_, ?_⟩, ?_⟩
  · rw [entryContext_eq_empty_iff, Probe.readsCall_of_compile hp, ProbeDefinition.readsCall,
      Bool.or_eq_false_iff, Option.isSome_eq_false_iff, Option.isNone_iff_eq_none]
  · exact s.evaluateProbe_of_literal (Probe.condition_of_compile hp hc)
      (Probe.template_of_compile hp hs) context h
  · exact startSampledWith_eq ContextChoice.serves_callContext s g h p this args
  · exact fun id => onEntryWith_eq ContextChoice.serves_callContext s g h id this args
  · exact World.runWith_eq ContextChoice.serves_callContext

/-- Two literal segments are joined and cut to five characters; the text of the template is not
read, and neither are the receiver and the argument. -/
theorem entry_context_is_not_observed_of_joined :
    let d : ProbeDefinition :=
      { id := "p", template := "x", segments := [.literal "cache ", .literal "miss"]
        evaluateAt := .entry }
    let settings : Settings := { message := { maxLength := 5 } }
    let w₀ : World Float :=
      World.begin settings ⟨Timestamp.ofMillis 0, 0⟩ (some Sink.collecting) none
    let call : CallStart := { plainStart "p" with args := OrderedTable.ofList [("x", .bool true)] }
    let as : List Action := [.register d, .start call, .stop (plainStop "p")]
    ∃ p : Probe Float, Probe.compile d settings = .ok p ∧
      entryContext p call.this call.args = OrderedTable.empty ∧
      (w₀.runWith (fun _ => callContext) plainGetters as).reports.map (·.message) = ["cache…"] := by
  intro d settings w₀ call as
  have hcompiles : (Probe.compile d settings : Except _ (Probe Float)).isOk := by decide +kernel
  cases hp : (Probe.compile d settings : Except _ (Probe Float)) with
  | error e => rw [hp] at hcompiles; cases hcompiles
  | ok p =>
    obtain ⟨hempty, -, -, hrun⟩ := entry_context_is_not_observed hp
    refine ⟨p, rfl, (hempty _ _).2 ⟨rfl, rfl⟩, ?_⟩
    rw [hrun]
    decide +kernel

end Instrumentation

end ProbeEngine

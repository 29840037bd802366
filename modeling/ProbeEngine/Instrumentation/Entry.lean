import ProbeEngine.Instrumentation.Basic

/-!
# Starts of calls

What happens when an instrumented call starts: sampling decides whether the call
is going to be reported, and if so, what is known of it now is recorded.
-/

namespace ProbeEngine.Instrumentation

open Host (Value Heap Getters Counting)

variable {τ : Type} [SamplingTime τ]

/-- How many frames of the host stack belong to the hook itself. -/
def hookFrames : Nat := 1

/-- The variables that are evaluated at the start of a call. A probe that reads none
gets none. -/
def entryContext (p : Probe τ) (this : Value) (args : Bindings) : Context :=
  if p.condition.isNone && !p.template.isDynamic then OrderedTable.empty
  else callContext this args

/-- Whether the values of a call are captured at its start: those of a probe that
takes snapshots and is known to fire. -/
def capturesEntry (p : Probe τ) : Bool :=
  p.capturesSnapshot && (p.evaluateAt == .entry || p.condition.isNone)

/-- Records a call that was sampled, with what the probe evaluates at its start. -/
def recordCall (s : Instrumentation τ) (g : Getters) (h : Heap) (p : Probe τ) (this : Value)
    (args : Bindings) (message : Option Message) : Counting CallRecord := do
  let entry ←
    if capturesEntry p then do
      let arguments ← captureArguments g h p this args
      pure (some { arguments := arguments })
    else pure none
  return { start := s.clock.elapsed
           timestamp := message.map fun _ => s.clock.now
           message := message.map Message.text
           entry := entry
           stack := (s.hostStack.map fun t => StackFrame.ofStack t hookFrames).getD []
           failures := (message.map Message.failures).getD [] }

/-- Starts a call that was sampled. -/
def startSampled (s : Instrumentation τ) (g : Getters) (h : Heap) (p : Probe τ) (this : Value)
    (args : Bindings) : Counting (PendingCall × List LogEvent) := do
  match p.evaluateAt with
  | .exit => return (.active (← recordCall s g h p this args none), [])
  | .entry =>
    let e := s.evaluateProbe p (entryContext p this args) h
    match e.message with
    | some m => return (.active (← recordCall s g h p this args (some m)), e.events)
    | none => return (.skipped, e.events)

/-- The state after sampling a call of a probe. -/
def sampled (s : Instrumentation τ) (id : String) (o : SamplingOutcome τ) : Instrumentation τ :=
  { s with budget := o.budget, registry := s.registry.setSampler id o.sampler }

/-- The hook for the start of a call. -/
def onEntry (s : Instrumentation τ) (g : Getters) (h : Heap) (id : String) (this : Value)
    (args : Bindings) : Counting (HookOutcome τ) := do
  match s.registry.get? id with
  | none => return ⟨s.push id .skipped, [.notRegistered id]⟩
  | some p =>
    let now := SamplingTime.ofNanos s.clock.elapsed
    let o := s.budget.sample p.sampler p.capturesSnapshot now
    let s' := s.sampled id o
    match o.decision with
    | .skip reason => return ⟨s'.push id .skipped, [.skipped id reason]⟩
    | .sample =>
      let (call, events) ← startSampled s' g h p this args
      return ⟨s'.push id call, events⟩

end ProbeEngine.Instrumentation

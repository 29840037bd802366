import ProbeEngine.Instrumentation.Basic

/-!
# Ends of calls

What happens when an instrumented call returns or throws: its start is taken from
the stack, and if it is to be reported and its probe is still there, a report is
made and offered to the sink. The call itself is never affected.
-/

namespace ProbeEngine.Instrumentation

open Host (Value Heap Getters Counting)

variable {τ : Type} [SamplingTime τ]

/-- How a call ended: it returned a value, with its locals if they are known, or it
threw one. -/
inductive CallEnd
  | returned (value : Value) (locals : Option Bindings)
  | threw (value : Value)

/-- The variables of a call at its end: those of its start, the duration in
milliseconds, the locals, and what was returned or thrown. -/
def exitContext (this : Value) (args : Bindings) (duration : Nat) (e : CallEnd) : Context :=
  let started := (callContext this args).put "@duration" (.number (Duration.millisFloat duration))
  match e with
  | .returned value locals =>
    (started.putAll ((locals.map OrderedTable.entries).getD [])).put "@return" value
  | .threw value => started.put "@exception" value

/-- The values captured at the end of a call: on a return if the probe takes
snapshots, and always when something was thrown. -/
def captureExit (g : Getters) (h : Heap) (p : Probe τ) (this : Value) (args : Bindings)
    (e : CallEnd) : Counting (Option CaptureSet) := do
  match e with
  | .returned value locals =>
    if p.capturesSnapshot then
      let arguments ← captureArguments g h p this args
      let captured ← captureLocals g h p value locals
      return some { arguments := arguments, locals := some captured }
    else return none
  | .threw value =>
    let arguments ← captureArguments g h p this args
    return some { arguments := arguments, throwable := some (Throwable.ofValue h value) }

/-- The thread of the instrumented program. It runs in one thread, the main one: calls
in threads with other names, or with none, are not modelled. -/
def threadName : String := "main"

/-- The method that the reports of a probe are about. -/
def loggerOf (p : Probe τ) : LoggerInfo :=
  { name := (p.location.typeName.or p.location.sourceFile).getD ""
    method := p.location.methodName.getD ""
    version := p.version
    threadName := threadName }

/-- The report of a call from its record and the values captured at its end. -/
def reportOf (s : Instrumentation τ) (p : Probe τ) (r : CallRecord) (duration : Nat)
    (captured : Option CaptureSet) : Report :=
  { message := r.message.getD ""
    logger := loggerOf p
    trace := s.trace
    snapshot :=
      { timestamp := r.timestamp.getD s.clock.now
        probe := p.info
        stack := r.stack
        duration := Duration.cappedNanos duration
        captures := ⟨r.entry, captured⟩
        failures := r.failures } }

/-- Offers a report to the sink, if there is one. -/
def send (s : Instrumentation τ) (p : Probe τ) (id : String) (r : Report) : HookOutcome τ :=
  match s.sink with
  | none => ⟨s, [.noSink id]⟩
  | some sink =>
    let (sink', error) := sink.offer r
    ⟨{ s with sink := some sink' }, error.toList.map (.sendFailed id p.version)⟩

/-- A record with a message that was evaluated now. -/
def withMessage (s : Instrumentation τ) (r : CallRecord) (m : Message) : CallRecord :=
  { r with
    timestamp := some s.clock.now
    message := some m.text
    failures := r.failures ++ m.failures }

/-- Reports a call that ended, unless its condition does not hold. -/
def finish (s : Instrumentation τ) (g : Getters) (h : Heap) (p : Probe τ) (id : String)
    (r : CallRecord) (this : Value) (args : Bindings) (e : CallEnd) :
    Counting (HookOutcome τ) := do
  let duration := s.clock.elapsed - r.start
  let reportWith := fun (r : CallRecord) (events : List LogEvent) => do
    let captured ← captureExit g h p this args e
    let o := s.send p id (s.reportOf p r duration captured)
    return (⟨o.state, events ++ o.events⟩ : HookOutcome τ)
  match p.evaluateAt with
  | .entry => reportWith r []
  | .exit =>
    let v := s.evaluateProbe p (exitContext this args duration e) h
    match v.message with
    | some m => reportWith (s.withMessage r m) v.events
    | none => return ⟨s, v.events⟩

/-- The hook for the end of a call. -/
def onExit (s : Instrumentation τ) (g : Getters) (h : Heap) (id : String) (this : Value)
    (args : Bindings) (e : CallEnd) : Counting (HookOutcome τ) := do
  match s.pop? id with
  | none => return ⟨s, [.unmatchedExit id]⟩
  | some (.skipped, s') => return ⟨s', []⟩
  | some (.active r, s') =>
    match s'.registry.get? id with
    | none => return ⟨s', [.removedDuringCall id]⟩
    | some p => finish s' g h p id r this args e

/-- The hook for a call that returns; the value is passed on. -/
def onReturn (s : Instrumentation τ) (g : Getters) (h : Heap) (id : String) (value this : Value)
    (args : Bindings) (locals : Option Bindings) : Counting (Value × HookOutcome τ) := do
  let o ← s.onExit g h id this args (.returned value locals)
  return (value, o)

/-- The hook for a call that throws; what it throws is passed on. -/
def onThrow (s : Instrumentation τ) (g : Getters) (h : Heap) (id : String) (value this : Value)
    (args : Bindings) : Counting (Value × HookOutcome τ) := do
  let o ← s.onExit g h id this args (.threw value)
  return (value, o)

end ProbeEngine.Instrumentation

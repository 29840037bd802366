import ProbeEngine.Capture.Basic
import ProbeEngine.Probe.Registry
import ProbeEngine.Time.Clock

/-!
# Instrumentation

The state in which the hooks of an instrumented program work. Each id has a stack
of its calls that are under way, innermost first; an id without calls has no
stack. A call that is not going to be reported keeps its place on the stack, so
that every end of a call meets its own start.
-/

namespace ProbeEngine

open Host (Value Heap Getters Counting)

/-- Named values of a call, such as its arguments or locals. -/
abbrev Bindings := OrderedTable String Value

/-- What is kept of a call from its start: the time on the clock, the message and
its point in time if they are known already, captured values, the stack, and what
failed to evaluate. -/
structure CallRecord where
  start : Nat
  timestamp : Option Timestamp := none
  message : Option String := none
  entry : Option CaptureSet := none
  stack : List StackFrame := []
  failures : List EvaluationFailure := []

/-- A call under way: one to be reported, or one that was skipped. -/
inductive PendingCall
  | active (r : CallRecord)
  | skipped

/-- The state of the instrumentation. -/
structure Instrumentation (τ : Type) where
  registry : Registry τ
  budget : GlobalBudget τ
  clock : Clock
  maxMessageLength : Nat
  sink : Option Sink := none
  hostStack : Option String := none
  trace : TraceContext := {}
  calls : OrderedTable String (List PendingCall) := OrderedTable.empty

/-- What a hook leaves behind: the state, and the events it logged. -/
structure HookOutcome (τ : Type) where
  state : Instrumentation τ
  events : List LogEvent

namespace Instrumentation

variable {τ : Type} [SamplingTime τ]

/-- The state with no probe, under some settings. -/
def new (s : Settings) (clock : Clock) : Instrumentation τ :=
  { registry := { settings := s }
    budget := { limit := s.sampling.globalLimit }
    clock := clock
    maxMessageLength := s.message.maxLength }

/-- The calls of an id that are under way, innermost first. -/
def pending (s : Instrumentation τ) (id : String) : List PendingCall := (s.calls.get? id).getD []

/-- How many calls of an id are under way. -/
def pendingCount (s : Instrumentation τ) (id : String) : Nat := (s.pending id).length

/-- Puts a call on the stack of an id. -/
def push (s : Instrumentation τ) (id : String) (c : PendingCall) : Instrumentation τ :=
  { s with calls := s.calls.put id (c :: s.pending id) }

/-- Takes the innermost call of an id. -/
def pop? (s : Instrumentation τ) (id : String) : Option (PendingCall × Instrumentation τ) :=
  match s.pending id with
  | [] => none
  | [c] => some (c, { s with calls := s.calls.erase id })
  | c :: cs => some (c, { s with calls := s.calls.put id cs })

/-- The state some nanoseconds later. -/
def advance (s : Instrumentation τ) (nanos : Nat) : Instrumentation τ :=
  { s with clock := s.clock.advance nanos }

/-! ## Probes -/

/-- The state with another registry. -/
def withRegistry (s : Instrumentation τ) (r : Registry τ) : Instrumentation τ :=
  { s with registry := r }

/-- Registers a probe. -/
def register (s : Instrumentation τ) (d : ProbeDefinition) :
    Instrumentation τ × List RegistrationError × List LogEvent :=
  let r := s.registry.register d
  (s.withRegistry r.registry, r.errors, r.events)

/-- Registers the entries of a list in order. -/
def registerEntries (s : Instrumentation τ) (es : List DefinitionEntry) :
    Instrumentation τ × List RegistrationError × List LogEvent :=
  let r := s.registry.registerEntries es
  (s.withRegistry r.registry, r.errors, r.events)

/-- Removes a probe. Its calls stay under way. -/
def remove (s : Instrumentation τ) (id : String) : HookOutcome τ :=
  let r := s.registry.remove id
  ⟨s.withRegistry r.1, r.2⟩

/-- Removes all probes. -/
def clear (s : Instrumentation τ) : Instrumentation τ := s.withRegistry s.registry.clear

/-! ## What a call shows -/

/-- The variables of a call at its start: the receiver, and the arguments, of which
one may take its name. -/
def callContext (this : Value) (args : Bindings) : Context :=
  (OrderedTable.empty.put "this" this).putAll args.entries

/-- The captured receiver and arguments of a call. -/
def captureArguments (g : Getters) (h : Heap) (p : Probe τ) (this : Value) (args : Bindings) :
    Counting CapturedTable :=
  Capture.captureAll g h p.limits (("this", this) :: args.entries)

/-- The captured locals of a call and the value that it returned. -/
def captureLocals (g : Getters) (h : Heap) (p : Probe τ) (value : Value)
    (locals : Option Bindings) : Counting CapturedTable :=
  Capture.captureAll g h p.limits
    ((locals.map OrderedTable.entries).getD [] ++ [("@return", value)])

/-- What checking a condition gives: whether the call is reported, and if the
condition failed, the failure and the event. -/
structure ConditionCheck where
  holds : Bool
  failures : List EvaluationFailure := []
  events : List LogEvent := []

/-- Checks the condition of a probe. One that fails to evaluate counts as holding,
and the failure is recorded. -/
def checkCondition (p : Probe τ) (context : Context) (h : Heap) : ConditionCheck :=
  match Condition.holds p.condition context h with
  | .ok b => { holds := b }
  | .error e =>
    let source := (p.condition.map Condition.source).getD ""
    { holds := true
      failures := [⟨source, e.message h⟩]
      events := [.conditionFailed p.id p.version (e.message h)] }

/-- What evaluating a probe at one time of a call gives: its failures and message if
the call is reported, and the events. -/
structure Evaluation where
  message : Option Message
  events : List LogEvent

/-- Evaluates the condition of a probe and, if it holds, the message. The failure of
the condition comes before those of the message. -/
def evaluateProbe (s : Instrumentation τ) (p : Probe τ) (context : Context) (h : Heap) :
    Evaluation :=
  let c := checkCondition p context h
  if c.holds then
    let m := p.message context h s.maxMessageLength
    ⟨some ⟨m.text, c.failures ++ m.failures⟩, c.events⟩
  else ⟨none, c.events ++ [.conditionFalse p.id]⟩

end Instrumentation

end ProbeEngine

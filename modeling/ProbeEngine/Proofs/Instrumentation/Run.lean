import ProbeEngine.Instrumentation.Entry
import ProbeEngine.Instrumentation.Exit
import ProbeEngine.Proofs.Probe.Registry

/-!
# Runs of the instrumentation

A run is a list of actions: hook calls of the instrumented program, changes of
the probes, and changes of the world that the hooks read. What each hook does is
said once:

* `engine_step_start`: a start asks the sampler and pushes one call, which is
  `startedCall`;
* `engine_step_stop`: an end pops one call, if there is one, and offers the sink
  at most one report, which is `stopReport`.

A list of definitions is registered entry by entry (`engine_registerEntries`), so it
takes no action of its own.
-/

namespace ProbeEngine.Instrumentation

open Host (Value Heap Getters Counting)

variable {τ : Type}

/-! ## Actions and worlds -/

/-- What the hook for the start of a call is given, with the heap it finds. -/
structure CallStart where
  heap : Heap
  id : String
  this : Value
  args : Bindings

/-- What the hooks for the end of a call are given, with the heap they find. -/
structure CallStop where
  heap : Heap
  id : String
  this : Value
  args : Bindings
  how : CallEnd

/-- What a call that ends returned or threw. -/
def CallEnd.value : CallEnd → Value
  | .returned value _ => value
  | .threw value => value

/-- What happens to the instrumentation. -/
inductive Action
  /-- The instrumented program starts a call. -/
  | start (c : CallStart)
  /-- The instrumented program ends a call. -/
  | stop (c : CallStop)
  /-- A probe is registered. -/
  | register (d : ProbeDefinition)
  /-- A probe is removed. -/
  | remove (id : String)
  /-- All probes are removed. -/
  | clear
  /-- Time passes. -/
  | advance (nanos : Nat)
  /-- The stack of the program becomes another one. -/
  | stack (text : Option String)
  /-- Another trace becomes active. -/
  | trace (t : TraceContext)

/-- The action that registers an entry of a list, unless the entry is malformed. -/
def Action.ofEntry? : DefinitionEntry → Option Action
  | .definition d => some (.register d)
  | .malformed _ _ => none

/-- The instrumentation, and how many getters it ran. -/
structure World (τ : Type) where
  engine : Instrumentation τ
  getterCalls : Nat := 0

/-- The reports that the sink was offered so far. -/
def World.reports (w : World τ) : List Report := (w.engine.sink.map Sink.offered).getD []

/-! ## What an end does -/

/-- The calls under way after the innermost one of an id was taken. -/
def callsWithout (s : Instrumentation τ) (id : String) : OrderedTable String (List PendingCall) :=
  match s.pending id with
  | [] => s.calls
  | [_] => s.calls.erase id
  | _ :: cs => s.calls.put id cs

/-- The state after taking the innermost call of an id, if there is one. -/
def popped (s : Instrumentation τ) (id : String) : Instrumentation τ :=
  { s with calls := s.callsWithout id }

/-- The state after offering the sink a report, if there are both. -/
def offering (s : Instrumentation τ) : Option Report → Instrumentation τ
  | none => s
  | some r => { s with sink := s.sink.map fun k => (k.offer r).1 }

/-- The record of a call as it ends: with the message that a probe evaluates at the end,
if it does. There is none if the condition is checked then and does not hold. -/
def finalRecord (w : World τ) (p : Probe τ) (r : CallRecord) (c : CallStop) : Option CallRecord :=
  match p.evaluateAt with
  | .entry => some r
  | .exit =>
    let context := exitContext c.this c.args (w.engine.clock.elapsed - r.start) c.how
    (w.engine.evaluateProbe p context c.heap).message.map (w.engine.withMessage r)

/-- The values that a probe captures at the end of a call. -/
def exitCapture (g : Getters) (w : World τ) (p : Probe τ) (c : CallStop) : Option CaptureSet :=
  ((captureExit g c.heap p c.this c.args c.how).run w.getterCalls).1

/-- What a probe reports of a call that ends, from the record of its start. -/
def finishReport (g : Getters) (w : World τ) (p : Probe τ) (r : CallRecord) (c : CallStop) :
    Option Report :=
  (finalRecord w p r c).map fun x =>
    w.engine.reportOf p x (w.engine.clock.elapsed - r.start) (exitCapture g w p c)

/-- What a probe evaluates at the end of a call does not change what was kept of its
start. -/
theorem of_finalRecord {w : World τ} {p : Probe τ} {r x : CallRecord} {c : CallStop}
    (h : finalRecord w p r c = some x) : x.entry = r.entry ∧ x.stack = r.stack := by
  rw [finalRecord] at h
  split at h
  · cases h
    exact ⟨rfl, rfl⟩
  · obtain ⟨m, -, rfl⟩ := Option.map_eq_some_iff.1 h
    exact ⟨rfl, rfl⟩

/-- The report that the end of a call makes. -/
def stopReport (g : Getters) (w : World τ) (c : CallStop) : Option Report :=
  match w.engine.pending c.id with
  | .active r :: _ => (w.engine.registry.get? c.id).bind fun p => finishReport g w p r c
  | _ => none

theorem pop?_eq (s : Instrumentation τ) (id : String) :
    s.pop? id = (s.pending id).head?.map fun c => (c, s.popped id) := by
  rw [pop?, popped, callsWithout]
  cases s.pending id with
  | nil => rfl
  | cons c cs => cases cs <;> rfl

theorem state_send (s : Instrumentation τ) (p : Probe τ) (id : String) (r : Report) :
    (s.send p id r).state = s.offering (some r) := by
  obtain ⟨_, _, _, _, sink, _, _, _⟩ := s
  cases sink <;> rfl

/-- An end whose probe is there offers what the probe reports; the calls under way are
not read for that. -/
theorem state_finish (g : Getters) (w : World τ) (p : Probe τ) (r : CallRecord) (c : CallStop)
    (calls : OrderedTable String (List PendingCall)) :
    ((finish { w.engine with calls := calls } g c.heap p c.id r c.this c.args c.how).run
        w.getterCalls).1.state =
      offering { w.engine with calls := calls } (finishReport g w p r c) := by
  have hv : ∀ context, evaluateProbe { w.engine with calls := calls } p context c.heap =
      w.engine.evaluateProbe p context c.heap := fun _ => rfl
  simp only [finish, finishReport, finalRecord]
  cases p.evaluateAt with
  | entry => exact state_send _ _ _ _
  | exit =>
    simp only [hv]
    cases (w.engine.evaluateProbe p (exitContext c.this c.args
      (w.engine.clock.elapsed - r.start) c.how) c.heap).message with
    | none => rfl
    | some m => exact state_send _ _ _ _

theorem state_onExit (g : Getters) (w : World τ) (c : CallStop) :
    ((w.engine.onExit g c.heap c.id c.this c.args c.how).run w.getterCalls).1.state =
      (w.engine.popped c.id).offering (stopReport g w c) := by
  have hreg : (w.engine.popped c.id).registry = w.engine.registry := rfl
  simp only [onExit, pop?_eq, stopReport]
  cases hs : w.engine.pending c.id with
  | nil =>
    have hp : w.engine.popped c.id = w.engine := by rw [popped, callsWithout, hs]
    simp only [List.head?_nil, Option.map_none, hp]
    rfl
  | cons call calls =>
    cases call with
    | skipped => rfl
    | active r =>
      simp only [List.head?_cons, Option.map_some, hreg]
      cases w.engine.registry.get? c.id with
      | none => rfl
      | some p => exact state_finish g w p r c (w.engine.callsWithout c.id)

/-! ## What a start does -/

/-- The values that a probe captures at the start of a call. -/
def entryCapture (g : Getters) (w : World τ) (p : Probe τ) (c : CallStart) : Option CaptureSet :=
  if capturesEntry p then
    some { arguments := ((captureArguments g c.heap p c.this c.args).run w.getterCalls).1 }
  else none

/-- The frames above the hook on the stack of the program. -/
def callerStack (s : Instrumentation τ) : List StackFrame :=
  (s.hostStack.map fun t => StackFrame.ofStack t hookFrames).getD []

/-- The record of a call that starts now, with its message if that is known already. -/
def recordOf (g : Getters) (w : World τ) (p : Probe τ) (c : CallStart) (m : Option Message) :
    CallRecord :=
  { start := w.engine.clock.elapsed
    timestamp := m.map fun _ => w.engine.clock.now
    message := m.map Message.text
    entry := entryCapture g w p c
    stack := w.engine.callerStack
    failures := (m.map Message.failures).getD [] }

/-- What a probe records of the start of a sampled call; nothing if its condition is
checked there and does not hold. -/
def startRecord (g : Getters) (w : World τ) (p : Probe τ) (c : CallStart) : Option CallRecord :=
  match p.evaluateAt with
  | .exit => some (recordOf g w p c none)
  | .entry =>
    (w.engine.evaluateProbe p (entryContext p c.this c.args) c.heap).message.map fun m =>
      recordOf g w p c (some m)

theorem recordCall_eq (g : Getters) (w : World τ) (p : Probe τ) (c : CallStart)
    (m : Option Message) :
    ((w.engine.recordCall g c.heap p c.this c.args m).run w.getterCalls).1 =
      recordOf g w p c m := by
  simp only [recordCall, recordOf, entryCapture]
  split <;> rfl

/-- What a record keeps of the start of its call, whether or not the probe evaluates
anything there. -/
theorem of_startRecord {g : Getters} {w : World τ} {p : Probe τ} {c : CallStart} {r : CallRecord}
    (h : startRecord g w p c = some r) :
    r.start = w.engine.clock.elapsed ∧ r.entry = entryCapture g w p c ∧
      r.stack = w.engine.callerStack := by
  rw [startRecord] at h
  split at h
  · cases h
    exact ⟨rfl, rfl, rfl⟩
  · obtain ⟨m, -, rfl⟩ := Option.map_eq_some_iff.1 h
    exact ⟨rfl, rfl, rfl⟩

/-- What sampling changes of the state is not read by the probe that starts a call. -/
theorem startSampled_sampled (g : Getters) (w : World τ) (p : Probe τ) (c : CallStart)
    (o : SamplingOutcome τ) :
    (((w.engine.sampled c.id o).startSampled g c.heap p c.this c.args).run w.getterCalls).1.1 =
      (startRecord g w p c).elim .skipped .active := by
  have hv : (w.engine.sampled c.id o).evaluateProbe p (entryContext p c.this c.args) c.heap =
      w.engine.evaluateProbe p (entryContext p c.this c.args) c.heap := rfl
  simp only [startSampled, startRecord, ← recordCall_eq]
  cases p.evaluateAt with
  | exit => rfl
  | entry =>
    simp only [hv]
    cases (w.engine.evaluateProbe p (entryContext p c.this c.args) c.heap).message <;> rfl

variable [SamplingTime τ]

/-- What sampling decides about a call of a probe now. -/
def sampling (s : Instrumentation τ) (p : Probe τ) : SamplingOutcome τ :=
  s.budget.sample p.sampler p.capturesSnapshot (SamplingTime.ofNanos s.clock.elapsed)

/-- Whether the budget and the rate of a probe admit a call now. -/
def admits (s : Instrumentation τ) (p : Probe τ) : Prop := (s.sampling p).decision = .sample

instance (s : Instrumentation τ) (p : Probe τ) : Decidable (s.admits p) :=
  inferInstanceAs (Decidable ((s.sampling p).decision = .sample))

/-- The state after asking whether a call of an id is sampled. -/
def asked (s : Instrumentation τ) (id : String) : Instrumentation τ :=
  match s.registry.get? id with
  | none => s
  | some p => s.sampled id (s.sampling p)

/-- The call that a start puts on the stack of its id. -/
def startedCall (g : Getters) (w : World τ) (c : CallStart) : PendingCall :=
  match w.engine.registry.get? c.id with
  | none => .skipped
  | some p =>
    if w.engine.admits p then (startRecord g w p c).elim .skipped .active else .skipped

theorem state_onEntry (g : Getters) (w : World τ) (c : CallStart) :
    ((w.engine.onEntry g c.heap c.id c.this c.args).run w.getterCalls).1.state =
      (w.engine.asked c.id).push c.id (startedCall g w c) := by
  simp only [onEntry, asked, startedCall]
  cases hp : w.engine.registry.get? c.id with
  | none => rfl
  | some p =>
    simp only [← startSampled_sampled g w p c (w.engine.sampling p), admits]
    rw [← sampling]
    cases hd : (w.engine.sampling p).decision with
    | skip reason =>
      rw [if_neg (by simp)]
      rfl
    | sample =>
      rw [if_pos rfl]
      rfl

/-! ## Steps and runs -/

namespace World

/-- A world whose instrumentation is new. -/
def begin (s : Settings) (clock : Clock) (sink : Option Sink) (stack : Option String) : World τ :=
  { engine := { Instrumentation.new s clock with sink := sink, hostStack := stack } }

/-- The world after an action. -/
def step (g : Getters) (w : World τ) : Action → World τ
  | .start c =>
    let (o, n) := (w.engine.onEntry g c.heap c.id c.this c.args).run w.getterCalls
    ⟨o.state, n⟩
  | .stop c =>
    match c.how with
    | .returned value locals =>
      let ((_, o), n) :=
        (w.engine.onReturn g c.heap c.id value c.this c.args locals).run w.getterCalls
      ⟨o.state, n⟩
    | .threw value =>
      let ((_, o), n) := (w.engine.onThrow g c.heap c.id value c.this c.args).run w.getterCalls
      ⟨o.state, n⟩
  | .register d => { w with engine := (w.engine.register d).1 }
  | .remove id => { w with engine := (w.engine.remove id).state }
  | .clear => { w with engine := w.engine.clear }
  | .advance nanos => { w with engine := w.engine.advance nanos }
  | .stack text => { w with engine := { w.engine with hostStack := text } }
  | .trace t => { w with engine := { w.engine with trace := t } }

/-- The world after some actions in order. -/
def run (g : Getters) (w : World τ) (as : List Action) : World τ := as.foldl (step g) w

@[simp] theorem run_nil (g : Getters) (w : World τ) : w.run g [] = w := rfl

@[simp] theorem run_cons (g : Getters) (w : World τ) (a : Action) (as : List Action) :
    w.run g (a :: as) = (w.step g a).run g as := rfl

theorem run_append (g : Getters) (w : World τ) (as bs : List Action) :
    w.run g (as ++ bs) = (w.run g as).run g bs :=
  List.foldl_append

theorem run_concat (g : Getters) (w : World τ) (as : List Action) (a : Action) :
    w.run g (as ++ [a]) = (w.run g as).step g a := by
  rw [run_append, run_cons, run_nil]

/-- Registering the entries of a list is registering those that are well formed, in
order. -/
theorem engine_registerEntries (g : Getters) (w : World τ) (es : List DefinitionEntry) :
    (w.engine.registerEntries es).1 = (w.run g (es.filterMap Action.ofEntry?)).engine := by
  induction es generalizing w with
  | nil => rfl
  | cons e es ih =>
    cases e with
    | malformed id cause => exact ih w
    | definition d => exact ih (w.step g (.register d))

/-- **What a start does.** It asks the sampler and pushes one call. -/
theorem engine_step_start (g : Getters) (w : World τ) (c : CallStart) :
    (w.step g (.start c)).engine = (w.engine.asked c.id).push c.id (startedCall g w c) :=
  state_onEntry g w c

/-- **What an end does.** It pops one call, if there is one, and offers the sink at most
one report. -/
theorem engine_step_stop (g : Getters) (w : World τ) (c : CallStop) :
    (w.step g (.stop c)).engine = (w.engine.popped c.id).offering (stopReport g w c) := by
  have hstep : w.step g (.stop c) =
      let r := (w.engine.onExit g c.heap c.id c.this c.args c.how).run w.getterCalls
      ⟨r.1.state, r.2⟩ := by
    cases hc : c.how <;> simp only [step, hc] <;> rfl
  rw [hstep]
  exact state_onExit g w c

end World

/-! ## Plain calls -/

/-- The start of a call without receiver and arguments. -/
def plainStart (id : String) : CallStart := ⟨{}, id, .undefined, OrderedTable.empty⟩

/-- The end of such a call; it returns nothing. -/
def plainStop (id : String) : CallStop :=
  ⟨{}, id, .undefined, OrderedTable.empty, .returned .undefined none⟩

/-- Getters that answer their receiver. -/
def plainGetters : Getters := ⟨fun _ _ _ receiver => .ok receiver⟩

end ProbeEngine.Instrumentation

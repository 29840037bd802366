import ProbeEngine.Proofs.Instrumentation.Brackets
import ProbeEngine.Proofs.Message.Template

/-!
# What a call evaluates and reports

A probe fires if it has no condition, if its condition is true, or if its
condition fails to evaluate. The variables of a call at its start and at its end
are written down here as lists (`Call.bindingsAt`), and a report is put together
from what was evaluated and captured (`Call.reportFrom`):

* `message_evaluateProbe` — a probe gives a message exactly if it fires, with the
  failure of the condition before those of the template;
* `evaluateProbe_eq_evaluationFrom` — it does so from what its condition and the
  expressions of its template come to (`evaluations`);
* `Call.context_entry`, `Call.context_exit` — the hooks evaluate it for the
  variables of the call;
* `Call.report_eq` — a call is reported exactly if the probes that are evaluated
  for it fire, whichever probes are found at its start and at its end.
-/

namespace ProbeEngine

open Host (Value Heap Getters)

variable {τ : Type}

/-! ## Conditions and messages -/

namespace Probe

/-- Whether a probe fires for the variables of a call. -/
def fires (p : Probe τ) (context : Context) (h : Heap) : Bool :=
  match p.condition with
  | none => true
  | some c =>
    match c.expr.evaluate context h with
    | .ok r => r.1.isTruthy
    | .error _ => true

/-- The failure of the condition of a probe, if it has one that has no value. -/
def conditionFailure? (p : Probe τ) (context : Context) (h : Heap) : Option EvaluationFailure :=
  p.condition.bind fun c =>
    match c.expr.evaluate context h with
    | .ok _ => none
    | .error e => some ⟨c.source, e.message h⟩

/-- What a probe fails to evaluate: its condition, then segments of its template. -/
def failures (p : Probe τ) (context : Context) (h : Heap) : List EvaluationFailure :=
  (p.conditionFailure? context h).toList ++
    p.template.parts.filterMap (TemplatePart.failure? context h)

end Probe

namespace Instrumentation

theorem holds_checkCondition (p : Probe τ) (context : Context) (h : Heap) :
    (checkCondition p context h).holds = p.fires context h := by
  simp only [checkCondition, Probe.fires]
  cases p.condition with
  | none => rfl
  | some c =>
    simp only [Condition.holds, Condition.evaluate]
    cases c.expr.evaluate context h <;> rfl

theorem failures_checkCondition (p : Probe τ) (context : Context) (h : Heap) :
    (checkCondition p context h).failures = (p.conditionFailure? context h).toList := by
  simp only [checkCondition, Probe.conditionFailure?]
  cases p.condition with
  | none => rfl
  | some c =>
    simp only [Condition.holds, Condition.evaluate, Option.bind_some]
    cases c.expr.evaluate context h <;> rfl

/-- **A probe gives a message exactly if it fires**, and the failure of the condition
comes before those of the template. -/
theorem message_evaluateProbe (s : Instrumentation τ) (p : Probe τ) (context : Context)
    (h : Heap) :
    (s.evaluateProbe p context h).message =
      if p.fires context h then
        some ⟨(p.message context h s.maxMessageLength).text, p.failures context h⟩
      else none := by
  have hfailures : (p.message context h s.maxMessageLength).failures =
      p.template.parts.filterMap (TemplatePart.failure? context h) :=
    Template.failures_evaluate _ _ _ _ _
  rw [evaluateProbe, Probe.failures, ← hfailures, ← failures_checkCondition,
    ← holds_checkCondition]
  split <;> rfl

/-- A probe without condition and without expressions reads no variables. -/
theorem evaluateProbe_of_static (s : Instrumentation τ) {p : Probe τ} (hc : p.condition = none)
    (ht : p.template.isDynamic = false) (context context' : Context) (h : Heap) :
    s.evaluateProbe p context h = s.evaluateProbe p context' h := by
  have hcheck : ∀ context, checkCondition p context h = { holds := true } := by
    intro context
    rw [checkCondition, hc]
    rfl
  have hmessage : p.message context h s.maxMessageLength =
      p.message context' h s.maxMessageLength :=
    Template.evaluate_of_not_isDynamic ht _ _ _ _ _
  simp only [evaluateProbe, hcheck, hmessage]

/-- A probe that gets no variables at the start of a call reads none. -/
theorem evaluateProbe_entryContext (s : Instrumentation τ) (p : Probe τ) (this : Value)
    (args : Bindings) (h : Heap) :
    s.evaluateProbe p (entryContext p this args) h =
      s.evaluateProbe p (callContext this args) h := by
  rw [entryContext]
  split
  · rename_i hstatic
    obtain ⟨hc, ht⟩ := Bool.and_eq_true_iff.1 hstatic
    exact s.evaluateProbe_of_static (Option.isNone_iff_eq_none.1 hc) (by simpa using ht) _ _ _
  · rfl

/-! ## What is evaluated of a probe -/

/-- What a probe evaluates for the variables of a call, in order: its condition, and the
parts of its template that are expressions. -/
def evaluations (p : Probe τ) (context : Context) : List (Eval Value) :=
  ((p.condition.map Condition.expr).toList ++ p.template.parts.filterMap TemplatePart.expr?).map
    fun e => e.eval { context := context }

/-- What some evaluations come to in a heap: each its value and the heap with what it added, or
an error. -/
def outcomes (xs : List (Eval Value)) (h : Heap) : List (Except EvalError (Value × Heap)) :=
  xs.map fun x => x h

/-- The message of a probe from what the expressions of its template came to. -/
def messageFrom (s : Instrumentation τ) (p : Probe τ) (h : Heap)
    (os : List (Except EvalError (Value × Heap))) : Message :=
  let pieces := TemplatePart.piecesFrom h p.limits p.template.parts os
  ⟨Message.truncate s.maxMessageLength (String.join (pieces.map (·.1))), pieces.filterMap (·.2)⟩

/-- What a probe gives from what was evaluated for it: its condition, if it has one, and then
the expressions of its template. -/
def evaluationFrom (s : Instrumentation τ) (p : Probe τ) (h : Heap)
    (os : List (Except EvalError (Value × Heap))) : Evaluation :=
  match p.condition with
  | none => ⟨some (s.messageFrom p h os), []⟩
  | some c =>
    match os with
    | [] => ⟨none, []⟩
    | .ok (v, _) :: os =>
      if v.isTruthy then ⟨some (s.messageFrom p h os), []⟩ else ⟨none, [.conditionFalse p.id]⟩
    | .error e :: os =>
      let m := s.messageFrom p h os
      ⟨some ⟨m.text, ⟨c.source, e.message h⟩ :: m.failures⟩,
        [.conditionFailed p.id p.version (e.message h)]⟩

theorem outcomes_evaluations (p : Probe τ) (context : Context) (h : Heap) :
    outcomes (evaluations p context) h =
      (p.condition.map fun c => c.expr.evaluate context h).toList ++
        (p.template.parts.filterMap TemplatePart.expr?).map fun e => e.evaluate context h := by
  rw [outcomes, evaluations, List.map_map, List.map_append]
  cases p.condition <;> rfl

theorem message_eq_messageFrom (s : Instrumentation τ) (p : Probe τ) (context : Context)
    (h : Heap) :
    p.message context h s.maxMessageLength =
      s.messageFrom p h ((p.template.parts.filterMap TemplatePart.expr?).map
        fun e => e.evaluate context h) := by
  rw [Probe.message, Template.evaluate_eq, messageFrom, TemplatePart.piecesFrom_evaluate]

/-- **Evaluating a probe is evaluating what is listed for it**, and nothing else. Where its
condition does not hold, what the template comes to is not looked at. -/
theorem evaluateProbe_eq_evaluationFrom (s : Instrumentation τ) (p : Probe τ)
    (context : Context) (h : Heap) :
    s.evaluateProbe p context h =
      s.evaluationFrom p h (outcomes (evaluations p context) h) := by
  rw [outcomes_evaluations, evaluateProbe, message_eq_messageFrom, evaluationFrom]
  cases hc : p.condition with
  | none => simp [checkCondition, hc, Condition.holds]
  | some c =>
    cases ho : c.expr.evaluate context h <;>
      simp [checkCondition, hc, Condition.holds, Condition.evaluate, ho, Except.map]

/-! ## Calls and what is evaluated of them -/

namespace Call

/-- The variables of a call at its start and at its end, in the order in which they are
written. A later one may take the name of an earlier one. -/
def bindingsAt (x : Call τ) : EvaluateAt → List (String × Value)
  | .entry => ("this", x.start.this) :: x.start.args.entries
  | .exit =>
    ("this", x.stop.this) :: x.stop.args.entries ++
      [("@duration", .number (Duration.millisFloat x.duration))] ++
      match x.stop.how with
      | .returned value locals =>
        (locals.map OrderedTable.entries).getD [] ++ [("@return", value)]
      | .threw value => [("@exception", value)]

/-- The context in which a probe is evaluated at a time of a call. -/
def context (x : Call τ) (t : EvaluateAt) : Context := OrderedTable.ofList (x.bindingsAt t)

/-- The heap that is found at a time of a call. -/
def heap (x : Call τ) : EvaluateAt → Heap
  | .entry => x.start.heap
  | .exit => x.stop.heap

/-- The world at a time of a call. -/
def world (x : Call τ) : EvaluateAt → World τ
  | .entry => x.before
  | .exit => x.after

/-- Whether a probe fires for a call, at its own time. -/
def fires (x : Call τ) (p : Probe τ) : Bool :=
  p.fires (x.context p.evaluateAt) (x.heap p.evaluateAt)

/-- What a probe fails to evaluate of a call. -/
def failures (x : Call τ) (p : Probe τ) : List EvaluationFailure :=
  p.failures (x.context p.evaluateAt) (x.heap p.evaluateAt)

/-- The text of the message of a probe for a call. -/
def text (x : Call τ) (p : Probe τ) : String :=
  (p.message (x.context p.evaluateAt) (x.heap p.evaluateAt)
    (x.world p.evaluateAt).engine.maxMessageLength).text

theorem context_entry (x : Call τ) : x.context .entry = callContext x.start.this x.start.args :=
  rfl

theorem context_exit (x : Call τ) :
    x.context .exit = exitContext x.stop.this x.stop.args x.duration x.stop.how := by
  have hstarted : OrderedTable.ofList (("this", x.stop.this) :: x.stop.args.entries ++
      [("@duration", .number (Duration.millisFloat x.duration))]) =
        (callContext x.stop.this x.stop.args).put "@duration"
          (.number (Duration.millisFloat x.duration)) :=
    OrderedTable.putAll_append _ _ _
  rw [context, bindingsAt, OrderedTable.ofList, OrderedTable.putAll_append, ← OrderedTable.ofList,
    hstarted]
  cases x.stop.how with
  | returned value locals => exact OrderedTable.putAll_append _ _ _
  | threw value => rfl

/-! ## The report of a call -/

/-- The probes that are evaluated for a call, if one is found at its start and one at its
end. -/
def judges (p q : Probe τ) : List (Probe τ) :=
  (if p.evaluateAt = .entry then [p] else []) ++ (if q.evaluateAt = .exit then [q] else [])

theorem judges_self (p : Probe τ) : judges p p = [p] := by
  rw [judges]
  cases p.evaluateAt <;> rfl

/-- What is reported of a call. The last message that was evaluated stands. -/
def reportFrom (g : Getters) (x : Call τ) (p q : Probe τ) : Report :=
  let last := (judges p q).getLast?
  { message := (last.map x.text).getD ""
    logger := loggerOf q
    trace := x.after.engine.trace
    snapshot :=
      { timestamp := (x.world ((last.map Probe.evaluateAt).getD .exit)).engine.clock.now
        probe := q.info
        stack := x.before.engine.callerStack
        duration := Duration.cappedNanos x.duration
        captures := ⟨entryCapture g x.before p x.start, exitCapture g x.after q x.stop⟩
        failures := (judges p q).flatMap x.failures } }

theorem startRecord_entry (g : Getters) (x : Call τ) {p : Probe τ} (hp : p.evaluateAt = .entry) :
    startRecord g x.before p x.start =
      if x.fires p then some (recordOf g x.before p x.start (some ⟨x.text p, x.failures p⟩))
      else none := by
  have hmessage : (x.before.engine.evaluateProbe p
      (entryContext p x.start.this x.start.args) x.start.heap).message =
        if x.fires p then some ⟨x.text p, x.failures p⟩ else none := by
    rw [evaluateProbe_entryContext, message_evaluateProbe, fires, text, failures, hp,
      context_entry]
    rfl
  simp only [startRecord, hp, hmessage]
  cases x.fires p <;> rfl

theorem startRecord_exit (g : Getters) (x : Call τ) {p : Probe τ} (hp : p.evaluateAt = .exit) :
    startRecord g x.before p x.start = some (recordOf g x.before p x.start none) := by
  simp only [startRecord, hp]

theorem finishReport_entry (g : Getters) (x : Call τ) {q : Probe τ} (r : CallRecord)
    (hq : q.evaluateAt = .entry) (hr : r.start = x.before.engine.clock.elapsed) :
    finishReport g x.after q r x.stop =
      some (x.after.engine.reportOf q r x.duration (exitCapture g x.after q x.stop)) := by
  have hduration : x.after.engine.clock.elapsed - r.start = x.duration := by rw [duration, hr]
  simp only [finishReport, finalRecord, hq, hduration, Option.map_some]

theorem finishReport_exit (g : Getters) (x : Call τ) {q : Probe τ} (r : CallRecord)
    (hq : q.evaluateAt = .exit) (hr : r.start = x.before.engine.clock.elapsed) :
    finishReport g x.after q r x.stop =
      if x.fires q then
        some (x.after.engine.reportOf q
          (x.after.engine.withMessage r ⟨x.text q, x.failures q⟩) x.duration
          (exitCapture g x.after q x.stop))
      else none := by
  have hduration : x.after.engine.clock.elapsed - r.start = x.duration := by rw [duration, hr]
  have hmessage : (x.after.engine.evaluateProbe q
      (exitContext x.stop.this x.stop.args x.duration x.stop.how) x.stop.heap).message =
        if x.fires q then some ⟨x.text q, x.failures q⟩ else none := by
    rw [message_evaluateProbe, fires, text, failures, hq, context_exit]
    rfl
  simp only [finishReport, finalRecord, hq, hduration, hmessage]
  cases x.fires q <;> rfl

/-- **The report of a call**, for any two probes that are found at its start and at its
end: there is one exactly if those that are evaluated fire. -/
theorem report_eq (g : Getters) (x : Call τ) (p q : Probe τ) :
    x.report g p q = if (judges p q).all x.fires then some (x.reportFrom g p q) else none := by
  rw [report, reportFrom, judges]
  cases hp : p.evaluateAt with
  | entry =>
    rw [startRecord_entry g x hp]
    cases hf : x.fires p with
    | false => simp [hf]
    | true =>
      rw [if_pos rfl, Option.bind_some]
      cases hq : q.evaluateAt with
      | entry =>
        rw [finishReport_entry g x (recordOf ..) hq rfl]
        simp [hf, hp, reportOf, recordOf, world]
      | exit =>
        rw [finishReport_exit g x (recordOf ..) hq rfl]
        cases hl : x.fires q with
        | false => simp [hl]
        | true => simp [hf, hl, hq, reportOf, withMessage, recordOf, world]
  | exit =>
    rw [startRecord_exit g x hp, Option.bind_some]
    cases hq : q.evaluateAt with
    | entry =>
      rw [finishReport_entry g x (recordOf ..) hq rfl]
      simp [reportOf, recordOf, world]
    | exit =>
      rw [finishReport_exit g x (recordOf ..) hq rfl]
      cases hl : x.fires q with
      | false => simp [hl]
      | true => simp [hl, hq, reportOf, withMessage, recordOf, world]

end Call

end Instrumentation

end ProbeEngine

import ProbeEngine.Proofs.Expr.Scoping
import ProbeEngine.Proofs.Instrumentation.Evaluation
import ProbeEngine.Proofs.OrderedTable

/-!
# What the names of a call mean at its end

The variables of a call at its end are written one over the other: the receiver, the arguments,
the duration, the locals, and how the call ended. What a name means is then said by looking in
the opposite order:

* `get?_exitContext` — what the call ended with is found first, then a local, then the duration,
  then an argument, and last the receiver;
* `evaluateProbe_congr` — a condition and a message depend only on what the names mean;
* `start_of_balanced` — the duration is counted from the start of the same call;
* `variables_at_end` — **what the condition and the message of a call see at its end**. A local
  that is named like the duration hides it (`duration_is_shadowed_by_local`).
-/

namespace ProbeEngine

open Host (Value Heap Getters)

/-! ## Contexts in which the names mean the same -/

/-- A probe is evaluated to the same in contexts that bind all names alike. -/
theorem Instrumentation.evaluateProbe_congr {τ : Type} {context context' : Context}
    (hnames : ∀ name, context.get? name = context'.get? name) (s : Instrumentation τ)
    (p : Probe τ) (h : Heap) : s.evaluateProbe p context h = s.evaluateProbe p context' h := by
  have hvalue : ∀ e : Expr, e.evaluate context h = e.evaluate context' h :=
    fun e => Expr.evaluate_congr (fun m _ => hnames m.name) h
  simp only [evaluateProbe_eq_evaluationFrom, outcomes_evaluations, hvalue]

namespace Instrumentation

/-! ## Look-ups -/

namespace CallEnd

/-- The name of what a call returned or threw. -/
def outcomeName : CallEnd → String
  | .returned _ _ => "@return"
  | .threw _ => "@exception"

/-- The locals that are known of a call that ended; none of one that threw. -/
def locals : CallEnd → Bindings
  | .returned _ locals => locals.getD OrderedTable.empty
  | .threw _ => OrderedTable.empty

/-- No call ends with the duration. -/
theorem outcomeName_ne_duration (e : CallEnd) : e.outcomeName ≠ "@duration" := by
  cases e with
  | returned value locals => exact (by decide : "@return" ≠ "@duration")
  | threw value => exact (by decide : "@exception" ≠ "@duration")

end CallEnd

/-- What a name means at the start of a call: an argument, or else the receiver. -/
theorem get?_callContext (this : Value) {args : Bindings} (hargs : args.keys.Nodup)
    (name : String) :
    (callContext this args).get? name =
      (args.get? name).or (if name = "this" then some this else none) := by
  rw [callContext, OrderedTable.get?_putAll_entries _ hargs]
  by_cases hname : name = "this"
  · rw [if_pos hname, hname, OrderedTable.get?_put_self]
  · rw [if_neg hname, OrderedTable.get?_put_of_ne _ _ (Ne.symm hname), OrderedTable.get?_empty]

/-- The variables at the end of a call, whether it returned or threw. -/
theorem exitContext_eq (this : Value) (args : Bindings) (duration : Nat) (e : CallEnd) :
    exitContext this args duration e =
      (((callContext this args).put "@duration" (.number (Duration.millisFloat duration))).putAll
        e.locals.entries).put e.outcomeName e.value := by
  cases e with
  | returned value locals => cases locals <;> rfl
  | threw value => rfl

/-- What a name means at the end of a call. -/
theorem get?_exitContext (this : Value) {args : Bindings} (hargs : args.keys.Nodup)
    (duration : Nat) {e : CallEnd} (hlocals : e.locals.keys.Nodup) (name : String) :
    (exitContext this args duration e).get? name =
      if name = e.outcomeName then some e.value
      else (e.locals.get? name).or
        (if name = "@duration" then some (.number (Duration.millisFloat duration))
          else (args.get? name).or (if name = "this" then some this else none)) := by
  rw [exitContext_eq]
  by_cases hout : name = e.outcomeName
  · rw [if_pos hout, hout, OrderedTable.get?_put_self]
  · rw [if_neg hout, OrderedTable.get?_put_of_ne _ _ (Ne.symm hout),
      OrderedTable.get?_putAll_entries _ hlocals]
    by_cases hdur : name = "@duration"
    · rw [if_pos hdur, hdur, OrderedTable.get?_put_self]
    · rw [if_neg hdur, OrderedTable.get?_put_of_ne _ _ (Ne.symm hdur), get?_callContext this hargs]

/-! ## The hook for an end -/

variable {τ : Type}

/-- What the hook reports of a call that a probe evaluates at its end. -/
theorem finishReport_of_lookups (g : Getters) (w : World τ) {p : Probe τ}
    (hp : p.evaluateAt = .exit) (r : CallRecord) (c : CallStop) {seen : Context}
    (hseen : ∀ name, seen.get? name =
      (exitContext c.this c.args (w.engine.clock.elapsed - r.start) c.how).get? name) :
    finishReport g w p r c =
      if p.fires seen c.heap then
        some (w.engine.reportOf p
          (w.engine.withMessage r ⟨(p.message seen c.heap w.engine.maxMessageLength).text,
            p.failures seen c.heap⟩)
          (w.engine.clock.elapsed - r.start) (exitCapture g w p c))
      else none := by
  simp only [finishReport, finalRecord, hp, ← evaluateProbe_congr hseen, message_evaluateProbe]
  cases p.fires seen c.heap <;> rfl

variable [SamplingTime τ]

/-- The innermost call under way keeps the time of its own start. -/
theorem start_of_balanced {g : Getters} {w : World τ} {s : CallStart} {during : List Action}
    (hb : Balanced s.id during) {r : CallRecord} {rest : List PendingCall}
    (hr : (w.run g (.start s :: during)).engine.pending s.id = .active r :: rest) :
    r.start = w.engine.clock.elapsed := by
  rw [World.run_cons, pending_run_of_balanced hb, pending_step_start, if_pos rfl] at hr
  have hstarted : startedCall g w s = .active r := (List.cons.inj hr).1
  rw [startedCall] at hstarted
  split at hstarted
  · cases hstarted
  · rename_i p _
    split at hstarted
    · cases hrecord : startRecord g w p s with
      | none => rw [hrecord] at hstarted; cases hstarted
      | some x =>
        rw [hrecord] at hstarted
        cases hstarted
        exact (of_startRecord hrecord).1
    · cases hstarted

/-! ## Main result -/

/-- **What a probe sees at the end of a call**, one that returned or one that threw. However the
arguments and the locals are named (each name being bound once among the arguments and once among
the locals), the value that the call returned or threw is found under its name. The duration,
which is the time since the start of the same call, is found under `@duration` unless a local of
another value has that name, which a call that throws never has. Every other name is that of the
local, or else that of the argument, or else that of the receiver. The hook takes the call from
its stack and reports it exactly if the condition holds for these meanings of the names, in any
context that has them, with the message and the failures that they give. -/
theorem variables_at_end {w : World τ} {p : Probe τ} {c : CallStop} {r : CallRecord}
    {rest : List PendingCall} (hp : w.engine.registry.get? c.id = some p)
    (hexit : p.evaluateAt = .exit) (hr : w.engine.pending c.id = .active r :: rest)
    (hargs : c.args.keys.Nodup) (hlocals : c.how.locals.keys.Nodup) :
    let duration := w.engine.clock.elapsed - r.start
    let millis : Value := .number (Duration.millisFloat duration)
    let context := exitContext c.this c.args duration c.how
    (context.get? c.how.outcomeName = some c.how.value ∧
      context.get? "@duration" = some ((c.how.locals.get? "@duration").getD millis) ∧
      (context.get? "@duration" = some millis ↔
        ∀ v, c.how.locals.get? "@duration" = some v → v = millis) ∧
      ∀ name, name ≠ c.how.outcomeName → name ≠ "@duration" →
        context.get? name =
          (c.how.locals.get? name).or
            ((c.args.get? name).or (if name = "this" then some c.this else none))) ∧
    (∀ (g : Getters) (w₀ : World τ) (s : CallStart) (during : List Action), s.id = c.id →
      Balanced c.id during → w = w₀.run g (.start s :: during) →
        duration = w.engine.clock.elapsed - w₀.engine.clock.elapsed) ∧
    ∀ seen : Context, (∀ name, seen.get? name = context.get? name) → ∀ g : Getters,
      (w.step g (.stop c)).engine =
        (w.engine.popped c.id).offering
          (if p.fires seen c.heap then
            some (w.engine.reportOf p
              (w.engine.withMessage r ⟨(p.message seen c.heap w.engine.maxMessageLength).text,
                p.failures seen c.heap⟩)
              duration (exitCapture g w p c))
          else none) := by
  intro duration millis context
  have hget := get?_exitContext c.this hargs duration hlocals
  have hduration : context.get? "@duration" =
      some ((c.how.locals.get? "@duration").getD millis) := by
    rw [hget, if_neg c.how.outcomeName_ne_duration.symm, if_pos rfl]
    cases c.how.locals.get? "@duration" <;> rfl
  refine ⟨⟨?_, hduration, ?_, fun name hout hdur => ?_⟩, ?_, fun seen hseen g => ?_⟩
  · rw [hget, if_pos rfl]
  · rw [hduration, Option.some_inj]
    cases c.how.locals.get? "@duration" with
    | none => exact iff_of_true rfl nofun
    | some v => simp only [Option.getD_some, Option.some_inj, forall_eq']
  · rw [hget, if_neg hout, if_neg hdur]
  · rintro g w₀ s during hs hb rfl
    rw [← hs] at hb hr
    exact congrArg _ (start_of_balanced hb hr)
  · rw [World.engine_step_stop, stopReport, hr]
    dsimp only
    rw [hp, Option.bind_some, finishReport_of_lookups g w hexit r c hseen]

/-- The receiver, the duration and what is returned have arguments of their names, and what is
returned has a local of its name too: the receiver is hidden by an argument, the others are not. -/
theorem variables_at_end_of_namesakes :
    let name (n : String) : Segment := .expression ⟨n, .object [("ref", .string n)]⟩
    let w₀ : World Float := World.begin {} ⟨Timestamp.ofMillis 0, 0⟩ (some Sink.collecting) none
    let w := w₀.run plainGetters
      [.register { id := "p", segments := [name "this", .literal " ", name "@duration",
          .literal " ", name "@return", .literal " ", name "x"] },
        .start (plainStart "p"), .advance 5000000]
    let c : CallStop :=
      { plainStop "p" with
        args := OrderedTable.ofList [("this", .string "a"), ("@duration", .string "b"),
          ("@return", .string "c"), ("x", .string "d")]
        how := .returned (.string "v") (some (OrderedTable.ofList
          [("@return", .string "e"), ("x", .string "f")])) }
    (w.step plainGetters (.stop c)).reports.map (·.message) = ["a 5 v f"] ∧
      ∃ (r : CallRecord) (rest : List PendingCall), w.engine.pending c.id = .active r :: rest ∧
        let duration := w.engine.clock.elapsed - r.start
        let context := exitContext c.this c.args duration c.how
        context.get? "this" = some (.string "a") ∧
          context.get? "@duration" = some (.number (Duration.millisFloat duration)) ∧
          context.get? "@return" = some (.string "v") ∧ context.get? "x" = some (.string "f") := by
  intro name w₀ w c
  have hregistered : (w.engine.registry.get? c.id).isSome := by decide +kernel
  have hexit : ∀ p ∈ w.engine.registry.get? c.id, p.evaluateAt = .exit := by decide +kernel
  have hreported : (stopReport plainGetters w c).isSome := by decide +kernel
  obtain ⟨p, hp⟩ := Option.isSome_iff_exists.1 hregistered
  obtain ⟨r, rest, hr⟩ : ∃ r rest, w.engine.pending c.id = .active r :: rest := by
    rw [stopReport] at hreported
    split at hreported
    · exact ⟨_, _, ‹_›⟩
    · cases hreported
  obtain ⟨⟨hout, hduration, -, hother⟩, -, -⟩ := variables_at_end hp (hexit p hp) hr
    (OrderedTable.nodup_keys_ofList _) (OrderedTable.nodup_keys_ofList _)
  refine ⟨by decide +kernel, r, rest, hr, ?_, hduration, hout, ?_⟩
  · exact hother "this" (by decide +kernel) (by decide)
  · exact hother "x" (by decide +kernel) (by decide)

/-- **A local named like the duration is seen in its place.** The same call without the local
takes five milliseconds. -/
theorem duration_is_shadowed_by_local :
    let w₀ : World Float := World.begin {} ⟨Timestamp.ofMillis 0, 0⟩ (some Sink.collecting) none
    let w := w₀.run plainGetters
      [.register { id := "p", segments :=
          [.expression ⟨"@duration", .object [("ref", .string "@duration")]⟩] },
        .start (plainStart "p"), .advance 5000000]
    let locals : Bindings := OrderedTable.ofList [("@duration", .string "local")]
    let c : CallStop := { plainStop "p" with how := .returned .undefined (some locals) }
    (w.step plainGetters (.stop c)).reports.map (·.message) = ["local"] ∧
      (w.step plainGetters (.stop (plainStop "p"))).reports.map (·.message) = ["5"] ∧
      (exitContext c.this c.args 5000000 c.how).get? "@duration" = some (.string "local") := by
  intro w₀ w locals c
  exact ⟨by decide +kernel, by decide +kernel, rfl⟩

end Instrumentation

end ProbeEngine

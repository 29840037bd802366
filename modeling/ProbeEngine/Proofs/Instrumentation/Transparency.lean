import ProbeEngine.Proofs.Expr.Additions
import ProbeEngine.Proofs.Instrumentation.Evaluation
import ProbeEngine.Proofs.Instrumentation.Getters

/-!
# The instrumentation is not noticed

Reports leave through the sink, and the sink may refuse them or not be there. That makes
no difference to the program and none to the instrumentation:

* `World.step_withSink`, `World.run_withSink` — with another sink all else is the same,
  and each sink is offered the same reports (`made`);
* `passedOn_eq` — what a call returned or threw is passed on;
* `startSampled_eq_evaluationFrom`, `finish_eq_evaluationFrom` — the hooks evaluate what is
  listed for them (`hookEvaluations`) and nothing else;
* `transparent` — so it is in every run; and what the hooks evaluate leaves every object
  that they find as it was.
-/

namespace ProbeEngine

open Host (Value Heap Getters Counting ObjectId)

/-! ## Sinks -/

namespace Sink

/-- A sink that was offered some more reports. -/
def offerAll (k : Sink) (rs : List Report) : Sink := rs.foldl (fun k r => (k.offer r).1) k

theorem offerAll_append (k : Sink) (rs ts : List Report) :
    k.offerAll (rs ++ ts) = (k.offerAll rs).offerAll ts :=
  List.foldl_append

theorem offered_offerAll (k : Sink) (rs : List Report) :
    (k.offerAll rs).offered = k.offered ++ rs := by
  induction rs generalizing k with
  | nil => exact (List.append_nil _).symm
  | cons r rs ih =>
    have hoffer : (k.offer r).1.offered = k.offered ++ [r] := rfl
    have hcons : k.offerAll (r :: rs) = (k.offer r).1.offerAll rs := rfl
    rw [hcons, ih, hoffer, List.append_assoc, List.singleton_append]

end Sink

namespace Instrumentation

variable {τ : Type}

/-! ## What the program gets back -/

/-- What the hook for the end of a call hands back to the program. -/
def passedOn (g : Getters) (w : World τ) (c : CallStop) : Value :=
  match c.how with
  | .returned value locals =>
    ((w.engine.onReturn g c.heap c.id value c.this c.args locals).run w.getterCalls).1.1
  | .threw value => ((w.engine.onThrow g c.heap c.id value c.this c.args).run w.getterCalls).1.1

/-- **What a call returned or threw is passed on**, whatever the hook does. -/
theorem passedOn_eq (g : Getters) (w : World τ) (c : CallStop) :
    passedOn g w c = c.how.value := by
  unfold passedOn
  cases c.how <;> rfl

/-! ## Another sink -/

/-- The state with another sink, or with none. -/
def withSink (s : Instrumentation τ) (k : Option Sink) : Instrumentation τ := { s with sink := k }

/-- A world with another sink, or with none. -/
def World.withSink (w : World τ) (k : Option Sink) : World τ :=
  { w with engine := w.engine.withSink k }

theorem World.ext {v w : World τ} (hengine : v.engine = w.engine)
    (hcalls : v.getterCalls = w.getterCalls) : v = w := by
  cases v
  cases w
  cases hengine
  cases hcalls
  rfl

theorem World.engine_withSink (w : World τ) (k : Option Sink) :
    (w.withSink k).engine = w.engine.withSink k := rfl

/-- The report that an action makes, whether or not there is a sink. -/
def madeBy (g : Getters) (w : World τ) : Action → Option Report
  | .stop c => stopReport g w c
  | _ => none

theorem offering_withSink (s : Instrumentation τ) (k : Option Sink) (r : Option Report) :
    (s.withSink k).offering r =
      (s.offering r).withSink (k.map fun x => x.offerAll r.toList) := by
  cases r with
  | none =>
    have hsame : (k.map fun x => x.offerAll []) = k := Option.map_id'
    rw [Option.toList_none, hsame]
    rfl
  | some r => rfl

/-- Finishing a call runs the same getters whatever the sink. -/
theorem calls_finish_withSink (s : Instrumentation τ) (k : Option Sink) (g : Getters)
    (p : Probe τ) (r : CallRecord) (c : CallStop) (n : Nat) :
    (((s.withSink k).finish g c.heap p c.id r c.this c.args c.how).run n).2 =
      ((s.finish g c.heap p c.id r c.this c.args c.how).run n).2 := by
  have hclock : (s.withSink k).clock = s.clock := rfl
  have hv : ∀ context, (s.withSink k).evaluateProbe p context c.heap =
      s.evaluateProbe p context c.heap := fun _ => rfl
  simp only [finish, hv, hclock]
  cases p.evaluateAt with
  | entry => rfl
  | exit =>
    dsimp only
    cases (s.evaluateProbe p (exitContext c.this c.args (s.clock.elapsed - r.start) c.how)
      c.heap).message <;> rfl

theorem calls_onExit_withSink (s : Instrumentation τ) (k : Option Sink) (g : Getters)
    (c : CallStop) (n : Nat) :
    (((s.withSink k).onExit g c.heap c.id c.this c.args c.how).run n).2 =
      ((s.onExit g c.heap c.id c.this c.args c.how).run n).2 := by
  have hpending : (s.withSink k).pending c.id = s.pending c.id := rfl
  have hpopped : (s.withSink k).popped c.id = (s.popped c.id).withSink k := rfl
  have hregistry : (s.popped c.id).registry = s.registry := rfl
  have hregistrySink : ((s.popped c.id).withSink k).registry = s.registry := rfl
  simp only [onExit, pop?_eq, hpending, hpopped]
  cases s.pending c.id with
  | nil => rfl
  | cons call calls =>
    cases call with
    | skipped => rfl
    | active r =>
      simp only [List.head?_cons, Option.map_some, hregistry, hregistrySink]
      cases s.registry.get? c.id with
      | none => rfl
      | some p => exact calls_finish_withSink (s.popped c.id) k g p r c n

/-- So does starting a call that was sampled. -/
theorem calls_startSampled_withSink (s : Instrumentation τ) (k : Option Sink) (g : Getters)
    (p : Probe τ) (c : CallStart) (n : Nat) :
    (((s.withSink k).startSampled g c.heap p c.this c.args).run n).2 =
      ((s.startSampled g c.heap p c.this c.args).run n).2 := by
  have hv : ∀ context, (s.withSink k).evaluateProbe p context c.heap =
      s.evaluateProbe p context c.heap := fun _ => rfl
  have hrecord : ∀ m, (((s.withSink k).recordCall g c.heap p c.this c.args m).run n).2 =
      ((s.recordCall g c.heap p c.this c.args m).run n).2 := by
    intro m
    rw [calls_recordCall, calls_recordCall]
  simp only [startSampled, hv]
  cases p.evaluateAt with
  | exit => exact hrecord none
  | entry =>
    dsimp only
    cases (s.evaluateProbe p (entryContext p c.this c.args) c.heap).message with
    | none => rfl
    | some m => exact hrecord (some m)

variable [SamplingTime τ]

theorem calls_onEntry_withSink (s : Instrumentation τ) (k : Option Sink) (g : Getters)
    (c : CallStart) (n : Nat) :
    (((s.withSink k).onEntry g c.heap c.id c.this c.args).run n).2 =
      ((s.onEntry g c.heap c.id c.this c.args).run n).2 := by
  have hregistry : (s.withSink k).registry = s.registry := rfl
  have hbudget : (s.withSink k).budget = s.budget := rfl
  have hclock : (s.withSink k).clock = s.clock := rfl
  simp only [onEntry, hregistry, hbudget, hclock]
  cases s.registry.get? c.id with
  | none => rfl
  | some p =>
    dsimp only
    cases (s.budget.sample p.sampler p.capturesSnapshot
      (SamplingTime.ofNanos s.clock.elapsed)).decision with
    | skip reason => rfl
    | sample => exact calls_startSampled_withSink (s.sampled c.id _) k g p c n

theorem asked_withSink (s : Instrumentation τ) (k : Option Sink) (id : String) :
    (s.withSink k).asked id = (s.asked id).withSink k := by
  have hget : (s.withSink k).registry.get? id = s.registry.get? id := rfl
  rw [asked, asked, hget]
  cases s.registry.get? id <;> rfl

namespace World

/-- **An action with another sink** does the same to all else, and offers it the same
report. -/
theorem step_withSink (g : Getters) (w : World τ) (k : Option Sink) (a : Action) :
    (w.withSink k).step g a =
      (w.step g a).withSink (k.map fun x => x.offerAll (madeBy g w a).toList) := by
  have hnone : ∀ b, madeBy g w b = none →
      (k.map fun x => x.offerAll (madeBy g w b).toList) = k := by
    intro b hb
    rw [hb]
    exact Option.map_id'
  cases a with
  | start c =>
    rw [hnone _ rfl]
    refine World.ext ?_ (calls_onEntry_withSink w.engine k g c w.getterCalls)
    rw [engine_withSink, engine_step_start, engine_step_start, engine_withSink, asked_withSink]
    rfl
  | stop c =>
    refine World.ext ?_ ?_
    · rw [engine_withSink, engine_step_stop, engine_step_stop]
      exact offering_withSink (w.engine.popped c.id) k (stopReport g w c)
    · have hcalls : ∀ v : World τ, (v.step g (.stop c)).getterCalls =
          ((v.engine.onExit g c.heap c.id c.this c.args c.how).run v.getterCalls).2 := by
        intro v
        cases hc : c.how <;> simp only [step, hc] <;> rfl
      have hsink : ((w.step g (.stop c)).withSink (k.map fun x =>
          x.offerAll (madeBy g w (.stop c)).toList)).getterCalls =
            (w.step g (.stop c)).getterCalls := rfl
      rw [hsink, hcalls, hcalls]
      exact calls_onExit_withSink w.engine k g c w.getterCalls
  | _ =>
    rw [hnone _ rfl]
    rfl

/-- The reports that some actions make, in order. -/
def made (g : Getters) : World τ → List Action → List Report
  | _, [] => []
  | w, a :: as => (madeBy g w a).toList ++ made g (w.step g a) as

/-- **A run with another sink** does the same to all else, and offers it the same reports in
the same order. -/
theorem run_withSink (g : Getters) (w : World τ) (k : Option Sink) (as : List Action) :
    (w.withSink k).run g as = (w.run g as).withSink (k.map fun x => x.offerAll (made g w as)) := by
  induction as generalizing w k with
  | nil =>
    have hsame : (k.map fun x => x.offerAll []) = k := Option.map_id'
    rw [run_nil, run_nil, made, hsame]
  | cons a as ih =>
    rw [run_cons, run_cons, step_withSink, ih, Option.map_map, made]
    congr 2
    funext x
    exact (x.offerAll_append _ _).symm

/-- A world reports to the sink that it is given. -/
theorem reports_withSink_run (g : Getters) (w : World τ) (k : Sink) (as : List Action) :
    ((w.withSink (some k)).run g as).reports = k.offered ++ made g w as := by
  rw [run_withSink, Option.map_some, ← k.offered_offerAll]
  rfl

end World

/-! ## What the hooks evaluate -/

/-- What a hook evaluates in a world: something only if it starts a call that is sampled or
finishes one that was, and if that is the time at which the probe is evaluated. -/
def hookEvaluations (w : World τ) : Action → List (Eval Value)
  | .start c =>
    match w.engine.registry.get? c.id with
    | some p =>
      if w.engine.admits p ∧ p.evaluateAt = .entry then
        evaluations p (entryContext p c.this c.args)
      else []
    | none => []
  | .stop c =>
    match w.engine.pending c.id, w.engine.registry.get? c.id with
    | .active r :: _, some p =>
      if p.evaluateAt = .exit then
        evaluations p (exitContext c.this c.args (w.engine.clock.elapsed - r.start) c.how)
      else []
    | _, _ => []
  | _ => []

/-- **Starting a call that was sampled evaluates what is listed for its hook**, and nothing else:
the call and the events are told by what that came to. -/
theorem startSampled_eq_evaluationFrom (g : Getters) (w : World τ) (c : CallStart) {p : Probe τ}
    (hp : w.engine.registry.get? c.id = some p) (hadmits : w.engine.admits p) :
    (((w.engine.asked c.id).startSampled g c.heap p c.this c.args).run w.getterCalls).1 =
      let e := w.engine.evaluationFrom p c.heap (outcomes (hookEvaluations w (.start c)) c.heap)
      match p.evaluateAt with
      | .exit => (.active (recordOf g w p c none), [])
      | .entry =>
        (e.message.elim .skipped fun m => .active (recordOf g w p c (some m)), e.events) := by
  have hrecord : ∀ m, (((w.engine.asked c.id).recordCall g c.heap p c.this c.args m).run
      w.getterCalls).1 = recordOf g w p c m := by
    intro m
    rw [asked_eq, ← recordCall_eq]
    rfl
  have hevaluate : ∀ context, (w.engine.asked c.id).evaluateProbe p context c.heap =
      w.engine.evaluationFrom p c.heap (outcomes (evaluations p context) c.heap) := by
    intro context
    rw [← evaluateProbe_eq_evaluationFrom, asked_eq]
    rfl
  cases he : p.evaluateAt with
  | exit =>
    simp only [startSampled, he, ← hrecord]
    rfl
  | entry =>
    have hlisted : hookEvaluations w (.start c) = evaluations p (entryContext p c.this c.args) := by
      simp only [hookEvaluations, hp, if_pos (And.intro hadmits he)]
    simp only [startSampled, he, hevaluate, hlisted, ← hrecord]
    cases (w.engine.evaluationFrom p c.heap
      (outcomes (evaluations p (entryContext p c.this c.args)) c.heap)).message <;> rfl

/-- **Finishing a call evaluates what is listed for its hook**, and nothing else. -/
theorem finish_eq_evaluationFrom (g : Getters) (w : World τ) (c : CallStop) {p : Probe τ}
    {r : CallRecord} {calls : List PendingCall} (hp : w.engine.registry.get? c.id = some p)
    (hr : w.engine.pending c.id = .active r :: calls) :
    (((w.engine.popped c.id).finish g c.heap p c.id r c.this c.args c.how).run w.getterCalls).1 =
      let s := w.engine.popped c.id
      let e := w.engine.evaluationFrom p c.heap (outcomes (hookEvaluations w (.stop c)) c.heap)
      let sendWith := fun r : CallRecord =>
        s.send p c.id
          (s.reportOf p r (w.engine.clock.elapsed - r.start) (exitCapture g w p c))
      match p.evaluateAt with
      | .entry => sendWith r
      | .exit =>
        match e.message with
        | none => ⟨s, e.events⟩
        | some m =>
          ⟨(sendWith (s.withMessage r m)).state,
            e.events ++ (sendWith (s.withMessage r m)).events⟩ := by
  have hevaluate : ∀ context, (w.engine.popped c.id).evaluateProbe p context c.heap =
      w.engine.evaluationFrom p c.heap (outcomes (evaluations p context) c.heap) :=
    fun context => w.engine.evaluateProbe_eq_evaluationFrom p context c.heap
  cases he : p.evaluateAt with
  | entry =>
    simp only [finish, he]
    rfl
  | exit =>
    have hlisted : hookEvaluations w (.stop c) =
        evaluations p (exitContext c.this c.args (w.engine.clock.elapsed - r.start) c.how) := by
      simp only [hookEvaluations, hr, hp, if_pos he]
    have hclock : (w.engine.popped c.id).clock = w.engine.clock := rfl
    simp only [finish, he, hclock, hevaluate, hlisted]
    cases (w.engine.evaluationFrom p c.heap (outcomes (evaluations p (exitContext c.this c.args
      (w.engine.clock.elapsed - r.start) c.how)) c.heap)).message <;> rfl

/-- The heap that a hook finds. -/
def Action.heap? : Action → Option Heap
  | .start c => some c.heap
  | .stop c => some c.heap
  | _ => none

/-! ## Main result -/

/-- **The instrumentation is not noticed.** Run it with any two sinks, whichever reports
they refuse, or with none. After any actions the calls under way, the probes with their
samplers, the budget and the number of getters that ran are the same; the sinks that are
there were offered the same reports in the same order; and the end of a call hands back
what the call returned or threw. Whatever a hook evaluates, and wherever that fails, each
object that the hook found has the kind, the own properties in order and the prototype
that it had. -/
theorem transparent (g : Getters) (s : Settings) (clock : Clock) (stack : Option String)
    (k₁ k₂ : Option Sink) (as : List Action) :
    let w₁ : World τ := (World.begin s clock k₁ stack).run g as
    let w₂ : World τ := (World.begin s clock k₂ stack).run g as
    (w₁.engine.calls = w₂.engine.calls ∧ w₁.engine.registry = w₂.engine.registry ∧
      w₁.engine.budget = w₂.engine.budget ∧ w₁.getterCalls = w₂.getterCalls) ∧
    (∃ reports, (∀ k ∈ k₁, w₁.reports = k.offered ++ reports) ∧
      ∀ k ∈ k₂, w₂.reports = k.offered ++ reports) ∧
    (∀ c : CallStop, passedOn g w₁ c = c.how.value ∧ passedOn g w₂ c = c.how.value) ∧
    ∀ (a : Action) (h h' : Heap), a.heap? = some h → Eval.Leaves (hookEvaluations w₁ a) h h' →
      ∀ id : ObjectId, id.index < h.objects.size → h'.object id = h.object id := by
  intro w₁ w₂
  let w₀ : World τ := World.begin s clock none stack
  have h₁ : w₁ = (w₀.withSink k₁).run g as := rfl
  have h₂ : w₂ = (w₀.withSink k₂).run g as := rfl
  refine ⟨?_, ⟨World.made g w₀ as, ?_, ?_⟩, ?_, ?_⟩
  · rw [h₁, h₂, World.run_withSink, World.run_withSink]
    exact ⟨rfl, rfl, rfl, rfl⟩
  · intro k hk
    rw [h₁, hk]
    exact World.reports_withSink_run g w₀ k as
  · intro k hk
    rw [h₂, hk]
    exact World.reports_withSink_run g w₀ k as
  · exact fun c => ⟨passedOn_eq g w₁ c, passedOn_eq g w₂ c⟩
  · intro a h h' _ hleaves id hid
    exact hleaves.extends.object_eq id hid

set_option maxRecDepth 2000 in
/-- A condition that filters an array adds one to the heap. The array that was there stays as
it is, and a sink that is closed makes no difference. -/
theorem transparent_filter :
    let filters : ProbeDefinition :=
      { id := "p"
        template := "hit"
        evaluateAt := .entry
        condition := some ⟨"filter(xs, @it)", .object [("filter",
          .array [.object [("ref", .string "xs")], .object [("ref", .string "@it")]])]⟩ }
    let heap : Heap := { objects := #[{ kind := .array [.bool true, .bool false] }] }
    let args : Bindings := OrderedTable.ofList [("xs", .object ⟨0⟩)]
    let call : CallStart := ⟨heap, "p", .undefined, args⟩
    let stop : CallStop := ⟨heap, "q", .undefined, args, .returned (.object ⟨0⟩) none⟩
    let as : List Action :=
      [.register filters, .register { id := "q", template := "hit" }, .start (plainStart "q"),
        .stop stop]
    let clock : Clock := ⟨Timestamp.ofMillis 0, 0⟩
    let w₁ : World Float :=
      (World.begin {} clock (some Sink.collecting) none).run plainGetters as
    let w₂ : World Float :=
      (World.begin {} clock (some (Sink.failing .closed)) none).run plainGetters as
    (w₁.engine.calls = w₂.engine.calls ∧ w₁.engine.registry = w₂.engine.registry ∧
      w₁.engine.budget = w₂.engine.budget ∧ w₁.getterCalls = w₂.getterCalls) ∧
    (w₁.reports = w₂.reports ∧ w₁.reports.length = 1) ∧
    passedOn plainGetters w₂ stop = .object ⟨0⟩ ∧
    ∃ h', Eval.Leaves (hookEvaluations w₁ (.start call)) heap h' ∧ h'.objects.size = 2 ∧
      h'.object ⟨0⟩ = heap.object ⟨0⟩ := by
  intro filters heap args call stop as clock w₁ w₂
  obtain ⟨hstate, ⟨reports, h₁, h₂⟩, hvalues, hheap⟩ :=
    transparent (τ := Float) plainGetters {} clock none (some Sink.collecting)
      (some (Sink.failing .closed)) as
  have hreports : w₁.reports = w₂.reports := (h₁ _ rfl).trans (h₂ _ rfl).symm
  have hone : w₁.reports.length = 1 := by decide +kernel
  refine ⟨hstate, ⟨hreports, hone⟩, (hvalues stop).2, ?_⟩
  let e : Expr := .filter (.reference (.variable "xs")) (.reference .item)
  let context : Context := callContext .undefined args
  have hhook : hookEvaluations w₁ (.start call) = [e.eval { context := context }] := by
    simp only [w₁, call, context, e, as, filters, stop, clock, heap, args]
    rfl
  let h' : Heap :=
    { objects := #[{ kind := .array [.bool true, .bool false] }, { kind := .array [.bool true] }] }
  have heval : e.eval { context := context } heap = .ok (.object ⟨1⟩, h') := rfl
  have hleaves : Eval.Leaves (hookEvaluations w₁ (.start call)) heap h' := by
    rw [hhook]
    exact .cons (.finish (e.built_eval _) heval) (.nil h')
  exact ⟨h', hleaves, rfl, hheap (.start call) heap h' rfl hleaves ⟨0⟩ (by decide)⟩

end Instrumentation

end ProbeEngine

import ProbeEngine.Proofs.Instrumentation.Evaluation
import ProbeEngine.Proofs.Instrumentation.Registrations

/-!
# When a probe fires

A probe whose registration stays in force during a call decides about it alone
(`reports_of_kept_probe`): the call is reported exactly if it was admitted at its
start and the probe fires, at whichever time it is evaluated, and the report is
what this probe evaluated and captured.
-/

namespace ProbeEngine.Instrumentation

open Host (Value Heap Getters)

variable {τ : Type}

/-! ## Captures -/

theorem isSome_entryCapture (g : Getters) (w : World τ) (p : Probe τ) (c : CallStart) :
    (entryCapture g w p c).isSome ↔
      p.capturesSnapshot ∧ (p.evaluateAt = .entry ∨ p.condition = none) := by
  have hcaptures : (entryCapture g w p c).isSome = capturesEntry p := by
    rw [entryCapture]
    cases capturesEntry p <;> rfl
  rw [hcaptures, capturesEntry, Bool.and_eq_true, Bool.or_eq_true, beq_iff_eq,
    Option.isNone_iff_eq_none]

theorem isSome_exitCapture_returned (g : Getters) (w : World τ) (p : Probe τ) {d : CallStop}
    {value : Value} {locals : Option Bindings} (hd : d.how = .returned value locals) :
    (exitCapture g w p d).isSome ↔ p.capturesSnapshot := by
  simp only [exitCapture, captureExit, hd]
  cases p.capturesSnapshot with
  | false => exact iff_of_false Bool.false_ne_true Bool.false_ne_true
  | true => exact iff_of_true rfl rfl

theorem exitCapture_threw (g : Getters) (w : World τ) (p : Probe τ) {d : CallStop}
    {value : Value} (hd : d.how = .threw value) :
    ∃ s, exitCapture g w p d = some s ∧ s.throwable = some (Throwable.ofValue d.heap value) := by
  simp only [exitCapture, captureExit, hd]
  exact ⟨_, rfl, rfl⟩

theorem report_asRegistered (g : Getters) (x : Call τ) (p q : Probe τ) :
    x.report g p.asRegistered q.asRegistered = x.report g p q := rfl

variable [SamplingTime τ]

/-! ## Kept probes -/

/-- A probe that stays registered during a call is found again at its end, apart from
its firings. -/
theorem exists_kept_probe (g : Getters) {w : World τ} {p : Probe τ} {c : CallStart}
    {during : List Action} (hp : w.engine.registry.get? c.id = some p)
    (hkept : ∀ a ∈ during, a.rewrites τ w.engine.registry.settings c.id = false) :
    ∃ q, (w.run g (.start c :: during)).engine.registry.get? c.id = some q ∧
      q.asRegistered = p.asRegistered := by
  have hall : ∀ a ∈ Action.start c :: during,
      a.rewrites τ w.engine.registry.settings c.id = false :=
    List.forall_mem_cons.2 ⟨Action.rewrites_start _ _ c, hkept⟩
  have hsame := registration?_run_of_kept g w hall
  rw [registration?, registration?, hp, Option.map_some] at hsame
  exact Option.map_eq_some_iff.1 hsame

/-- The end of such a call reports it by this probe alone. -/
theorem stopReport_of_kept (g : Getters) {w : World τ} {p : Probe τ} {c : CallStart}
    {d : CallStop} {during : List Action} (hp : w.engine.registry.get? c.id = some p)
    (hid : d.id = c.id) (hb : Balanced c.id during)
    (hkept : ∀ a ∈ during, a.rewrites τ w.engine.registry.settings c.id = false) :
    let x : Call τ := ⟨w, c, w.run g (.start c :: during), d⟩
    stopReport g x.after d =
      if w.engine.admits p ∧ x.fires p then some (x.reportFrom g p p) else none := by
  intro x
  obtain ⟨q, hq, hqp⟩ := exists_kept_probe g hp hkept
  have hreport : x.report g p q = if x.fires p then some (x.reportFrom g p p) else none := by
    rw [← report_asRegistered, hqp, report_asRegistered, Call.report_eq, Call.judges_self,
      List.all_cons, List.all_nil, Bool.and_true]
  rw [stopReport_of_balanced g w hid hb, hp, Option.bind_some, hq, Option.bind_some, hreport]
  by_cases ha : w.engine.admits p
  · rw [if_pos ha]
    by_cases hf : x.fires p
    · rw [if_pos hf, if_pos ⟨ha, hf⟩]
    · rw [if_neg hf, if_neg fun h => hf h.2]
  · rw [if_neg ha, if_neg fun h => ha h.1]

/-- **A kept probe reports exactly the admitted calls for which it fires.** Let a probe be
registered at the start of a call, and let no action rewrite its id before the matching
end. Then the end hands at most one report to the sink, and one exactly if the start was
admitted and the probe fires for the variables of its time. The report has the message
and the failures of that evaluation, in the order of condition and template. It has
values of the start exactly if the probe takes snapshots and was known to fire then, and
values of the end exactly if it takes snapshots, or always when something was thrown. -/
theorem reports_of_kept_probe (g : Getters) {w : World τ} {p : Probe τ} {c : CallStart}
    {d : CallStop} {during : List Action} (hp : w.engine.registry.get? c.id = some p)
    (hsink : w.engine.sink.isSome) (hid : d.id = c.id) (hb : Balanced c.id during)
    (hkept : ∀ a ∈ during, a.rewrites τ w.engine.registry.settings c.id = false) :
    let v := w.run g (.start c :: during)
    let x : Call τ := ⟨w, c, v, d⟩
    let context := x.context p.evaluateAt
    let h := x.heap p.evaluateAt
    ∃ made : Option Report, (v.step g (.stop d)).reports = v.reports ++ made.toList ∧
      (made.isSome ↔ w.engine.admits p ∧ p.fires context h) ∧
      ∀ r ∈ made,
        r.message = (p.message context h w.engine.maxMessageLength).text ∧
        r.snapshot.failures = (p.conditionFailure? context h).toList ++
          p.template.parts.filterMap (TemplatePart.failure? context h) ∧
        (r.snapshot.captures.entry.isSome ↔
          p.capturesSnapshot ∧ (p.evaluateAt = .entry ∨ p.condition = none)) ∧
        match d.how with
        | .returned _ _ => r.snapshot.captures.exit.isSome ↔ p.capturesSnapshot
        | .threw value => ∃ s, r.snapshot.captures.exit = some s ∧
            s.throwable = some (Throwable.ofValue d.heap value) := by
  intro v x context h
  have hlength : (x.world p.evaluateAt).engine.maxMessageLength = w.engine.maxMessageLength := by
    cases p.evaluateAt with
    | entry => rfl
    | exit => exact maxMessageLength_run g w _
  have hdelivered : delivered g v d =
      if w.engine.admits p ∧ p.fires context h then some (x.reportFrom g p p) else none := by
    have hv : v.engine.sink.isSome := (isSome_sink_run g w _).trans hsink
    obtain ⟨k, hk⟩ := Option.isSome_iff_exists.1 hv
    rw [delivered, hk, Option.bind_some]
    exact stopReport_of_kept g hp hid hb hkept
  refine ⟨delivered g v d, reports_step_stop g v d, ?_, ?_⟩
  · rw [hdelivered]
    split
    · exact iff_of_true rfl ‹_›
    · exact iff_of_false Bool.false_ne_true ‹_›
  · intro r hr
    rw [hdelivered] at hr
    split at hr
    · cases hr
      refine ⟨?_, ?_, isSome_entryCapture g w p c, ?_⟩
      · have htext : x.text p = (p.message context h w.engine.maxMessageLength).text := by
          rw [Call.text, hlength]
        simp only [Call.reportFrom, Call.judges_self]
        exact htext
      · simp only [Call.reportFrom, Call.judges_self, List.flatMap_singleton]
        rfl
      · cases hd : d.how with
        | returned value locals => exact isSome_exitCapture_returned g v p hd
        | threw value => exact exitCapture_threw g v p hd
    · cases hr

/-- A call around another call of its id, under a probe that stays registered. -/
theorem reports_of_kept_probe_around_call :
    let w₀ : World Float := World.begin {} ⟨Timestamp.ofMillis 0, 0⟩ (some Sink.collecting) none
    let w := w₀.run plainGetters
      [.register { id := "p", template := "hit", capturesSnapshot := true }]
    let during : List Action :=
      [.start (plainStart "p"), .advance 1000000, .stop (plainStop "p")]
    let v := w.run plainGetters (.start (plainStart "p") :: during)
    ∃ r, (v.step plainGetters (.stop (plainStop "p"))).reports = v.reports ++ [r] ∧
      r.snapshot.captures.exit.isSome := by
  intro w₀ w during v
  have hb : Balanced "p" during := by
    show Balanced "p" (.start _ :: ([.advance 1000000] ++ .stop (plainStop "p") :: []))
    exact .call rfl rfl (.other (by simp [Action.site?]) .nil) .nil
  obtain ⟨p, hp⟩ : ∃ p, w.engine.registry.get? "p" = some p :=
    Option.isSome_iff_exists.1 (by decide +kernel)
  have hfires : ∀ p ∈ w.engine.registry.get? "p", w.engine.admits p ∧ p.capturesSnapshot ∧
      Call.fires ⟨w, plainStart "p", v, plainStop "p"⟩ p := by decide +kernel
  obtain ⟨ha, hs, hf⟩ := hfires p hp
  have hsink : w.engine.sink.isSome := by decide +kernel
  have hkept : ∀ a ∈ during, a.rewrites Float w.engine.registry.settings "p" = false := by
    decide +kernel
  obtain ⟨made, hmade, hiff, hall⟩ := reports_of_kept_probe plainGetters (c := plainStart "p")
    (d := plainStop "p") hp hsink rfl hb hkept
  obtain ⟨r, rfl⟩ := Option.isSome_iff_exists.1 (hiff.2 ⟨ha, hf⟩)
  exact ⟨r, hmade, (hall r rfl).2.2.2.2 hs⟩

end ProbeEngine.Instrumentation

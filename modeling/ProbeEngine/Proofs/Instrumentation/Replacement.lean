import ProbeEngine.Proofs.Instrumentation.Firing

/-!
# Probes that are replaced during calls

A start and an end each look their probe up by its id, so a report may come from
two registrations. Here each part of a report is traced to the registrations it
comes from (`sources`):

* `reports_come_from_registrations` — in every run a report is sampled and its
  start captured by the registration that was in force at the start, and its end
  captured and its version stated by the one that is in force at the end; the
  condition and the message are those of whichever of the two is evaluated at its
  own time. It comes from one registration exactly if no action rewrites the id
  during the call;
* `report_of_replaced_probe` — a report that no condition let through, with a
  message that no template gave and values that were not counted.
-/

namespace ProbeEngine.Instrumentation

open Host (Value Heap Getters)

variable {τ : Type}

/-! ## Parts of reports -/

/-- What a report takes from a registration of its probe. -/
inductive Part
  | sampler
  | condition
  | message
  | entryCaptures
  | exitCaptures
  | version

/-- The registrations that are evaluated for a call, if one is in force at its start and
one at its end. -/
def evaluated (e f : Enrolment τ) : List (Enrolment τ) :=
  (if e.probe.evaluateAt = .entry then [e] else []) ++
    (if f.probe.evaluateAt = .exit then [f] else [])

/-- The registrations that a part of a report comes from. -/
def sources (e f : Enrolment τ) : Part → List (Enrolment τ)
  | .sampler => [e]
  | .condition => evaluated e f
  | .message => (evaluated e f).getLast?.toList
  | .entryCaptures => [e]
  | .exitCaptures => [f]
  | .version => [f]

theorem map_probe_evaluated (e f : Enrolment τ) :
    (evaluated e f).map Enrolment.probe = Call.judges e.probe f.probe := by
  rw [evaluated, Call.judges]
  cases e.probe.evaluateAt <;> cases f.probe.evaluateAt <;> rfl

theorem sources_self (e : Enrolment τ) (part : Part) : sources e e part = [e] := by
  have hself : evaluated e e = [e] := by
    rw [evaluated]
    cases e.probe.evaluateAt <;> rfl
  cases part with
  | condition => exact hself
  | message => rw [sources, hself]; rfl
  | _ => rfl

/-- The parts of a report come from one registration exactly if the same one is in force
at both times. -/
theorem exists_single_source_iff (e f : Enrolment τ) :
    (∃ k, ∀ part, sources e f part = [k]) ↔ e = f := by
  constructor
  · rintro ⟨k, hk⟩
    have he : e = k := List.cons.inj (hk .sampler) |>.1
    have hf : f = k := List.cons.inj (hk .version) |>.1
    rw [he, hf]
  · rintro rfl
    exact ⟨e, sources_self e⟩

/-- The condition of the registration that a report states was evaluated for its call
exactly if this is done at the end, or it was in force all along. -/
theorem mem_sources_condition_iff (e f : Enrolment τ) :
    f ∈ sources e f .condition ↔ e = f ∨ f.probe.evaluateAt = .exit := by
  rw [sources, evaluated]
  cases hf : f.probe.evaluateAt with
  | exit => simp
  | entry =>
    by_cases he : e.probe.evaluateAt = .entry
    · simp [he, eq_comm]
    · have hne : e ≠ f := fun h => he (h ▸ hf)
      simp [he, hne]

/-- So it is with the message. -/
theorem mem_sources_message_iff (e f : Enrolment τ) :
    f ∈ sources e f .message ↔ e = f ∨ f.probe.evaluateAt = .exit := by
  rw [sources, evaluated]
  cases hf : f.probe.evaluateAt with
  | exit => simp
  | entry =>
    by_cases he : e.probe.evaluateAt = .entry
    · simp [he, eq_comm]
    · have hne : e ≠ f := fun h => he (h ▸ hf)
      simp [he, hne]

variable [SamplingTime τ]

/-- A report that comes from registrations, part by part. The sampler is that of the
registration, and it counts the call in the budget if the registration takes snapshots. -/
structure ComesFrom (g : Getters) (x : Call τ) (r : Report) (source : Part → List (Enrolment τ)) :
    Prop where
  sampler : ∀ k ∈ source .sampler, ∃ p, x.before.engine.registry.get? x.start.id = some p ∧
    p.asRegistered = k.probe ∧ x.before.engine.admits p ∧
    (x.before.step g (.start x.start)).engine.budget =
      if k.probe.capturesSnapshot then
        (x.before.engine.budget.opened (SamplingTime.ofNanos x.before.engine.clock.elapsed)).record
      else x.before.engine.budget
  condition : ∀ k ∈ source .condition, x.fires k.probe
  failures : r.snapshot.failures = (source .condition).flatMap fun k => x.failures k.probe
  message : r.message = ((source .message).head?.map fun k => x.text k.probe).getD ""
  entry : ∀ k ∈ source .entryCaptures,
    r.snapshot.captures.entry = entryCapture g x.before k.probe x.start
  exit : ∀ k ∈ source .exitCaptures,
    r.snapshot.captures.exit = exitCapture g x.after k.probe x.stop
  version : ∀ k ∈ source .version, r.snapshot.probe = k.probe.info ∧ r.logger = loggerOf k.probe

/-- A start that is admitted counts in the budget if its probe takes snapshots. -/
theorem budget_step_start (g : Getters) {w : World τ} {c : CallStart} {p : Probe τ}
    (hp : w.engine.registry.get? c.id = some p) (ha : w.engine.admits p) :
    (w.step g (.start c)).engine.budget =
      if p.capturesSnapshot then
        (w.engine.budget.opened (SamplingTime.ofNanos w.engine.clock.elapsed)).record
      else w.engine.budget := by
  have hbudget : (w.step g (.start c)).engine.budget = (w.engine.sampling p).budget := by
    rw [World.engine_step_start, asked, hp]
    rfl
  rw [hbudget, sampling, GlobalBudget.sample_of_sampled ha]

/-- A report that is made under two registrations comes from them. -/
theorem comesFrom_sources {g : Getters} {x : Call τ} {p q : Probe τ} {e f : Enrolment τ}
    {r : Report} (hp : x.before.engine.registry.get? x.start.id = some p)
    (he : p.asRegistered = e.probe) (hf : q.asRegistered = f.probe)
    (ha : x.before.engine.admits p) (hr : x.report g p q = some r) :
    ComesFrom g x r (sources e f) := by
  have hcapture : p.capturesSnapshot = e.probe.capturesSnapshot := by rw [← he]; rfl
  rw [← report_asRegistered, he, hf, Call.report_eq] at hr
  split at hr
  · rename_i hall
    cases hr
    have hlast : ((evaluated e f).getLast?).map Enrolment.probe =
        (Call.judges e.probe f.probe).getLast? := by
      rw [← map_probe_evaluated, List.getLast?_map]
    constructor
    case sampler =>
      intro k hk
      cases List.mem_singleton.1 hk
      exact ⟨p, hp, he, ha, by rw [budget_step_start g hp ha, hcapture]⟩
    case condition =>
      intro k hk
      refine List.all_eq_true.1 hall k.probe ?_
      rw [← map_probe_evaluated]
      exact List.mem_map_of_mem hk
    case failures =>
      simp only [Call.reportFrom, ← map_probe_evaluated, List.flatMap_map]
      rfl
    case message =>
      simp only [Call.reportFrom, ← hlast, Option.map_map, sources]
      cases (evaluated e f).getLast? <;> rfl
    case entry =>
      intro k hk
      cases List.mem_singleton.1 hk
      rfl
    case exit =>
      intro k hk
      cases List.mem_singleton.1 hk
      rfl
    case version =>
      intro k hk
      cases List.mem_singleton.1 hk
      exact ⟨rfl, rfl⟩
  · cases hr

/-- What was found under an id is in force, in a run from a new instrumentation. -/
theorem exists_inForce_of_get? (g : Getters) {s : Settings} {clock : Clock} {sink : Option Sink}
    {stack : Option String} {as : List Action} {id : String} {p : Probe τ}
    (hp : ((World.begin s clock sink stack).run g as).engine.registry.get? id = some p) :
    ∃ e, inForce s id as = some e ∧ p.asRegistered = e.probe := by
  have hnone : (World.begin s clock sink stack : World τ).engine.registration? id = none := rfl
  have hrun := registration?_run g hnone as
  rw [registration?, hp, Option.map_some] at hrun
  obtain ⟨e, he, hprobe⟩ := Option.map_eq_some_iff.1 hrun.symm
  exact ⟨e, he, hprobe.symm⟩

/-- **Where reports come from.** In every run from a new instrumentation an end makes at
most one report, and every report is of a call that started in the run. One registration
was in force at the start of that call and one is in force at its end; the report comes
from these two, part by part. It comes from a single one exactly if no action between the
start and the end registers, removes or clears the id. Otherwise the condition of the
registration that the report states was evaluated exactly if this is done at the end, and
so it is with its message; and on a return the values of the end are captured exactly if
that registration takes snapshots, though the call was counted by the other one. -/
theorem reports_come_from_registrations (g : Getters) (s : Settings) (clock : Clock)
    (sink : Option Sink) (stack : Option String) (as : List Action) (d : CallStop) :
    let w₀ : World τ := World.begin s clock sink stack
    let w := w₀.run g as
    ∃ made : Option Report, (w.step g (.stop d)).reports = w.reports ++ made.toList ∧
      ∀ r ∈ made, ∃ (before : List Action) (c : CallStart) (during : List Action)
          (e f : Enrolment τ),
        as = before ++ .start c :: during ∧ c.id = d.id ∧ Balanced d.id during ∧
        inForce s d.id before = some e ∧ inForce s d.id as = some f ∧
        ComesFrom g ⟨w₀.run g before, c, w, d⟩ r (sources e f) ∧
        ((∃ k, ∀ part, sources e f part = [k]) ↔ ∀ a ∈ during, a.rewrites τ s d.id = false) ∧
        (f ∈ sources e f .condition ↔ e = f ∨ f.probe.evaluateAt = .exit) ∧
        (f ∈ sources e f .message ↔ e = f ∨ f.probe.evaluateAt = .exit) ∧
        ∀ value locals, d.how = .returned value locals →
          (r.snapshot.captures.exit.isSome ↔ f.probe.capturesSnapshot) := by
  intro w₀ w
  refine ⟨delivered g w d, reports_step_stop g w d, ?_⟩
  intro r hr
  obtain ⟨-, -, hr⟩ := Option.bind_eq_some_iff.1 hr
  obtain ⟨before, c, during, p, q, has, hid, hb, hp, ha, hq, hr⟩ :=
    exists_call_of_stopReport rfl hr
  obtain ⟨e, he, hpe⟩ := exists_inForce_of_get? g hp
  obtain ⟨f, hf, hqf⟩ := exists_inForce_of_get? g hq
  have hcomes : ComesFrom g ⟨w₀.run g before, c, w, d⟩ r (sources e f) :=
    comesFrom_sources (hid ▸ hp) hpe hqf ha hr
  -- the start of the call itself rewrites nothing
  have hsame : e = f ↔ ∀ a ∈ during, a.rewrites τ s d.id = false := by
    have hkept : inForce s d.id (before ++ .start c :: during) = some e ↔
        ∀ a ∈ Action.start c :: during, a.rewrites τ s d.id = false := inForce_eq_iff he
    rw [← has, hf, Option.some.injEq, List.forall_mem_cons,
      and_iff_right (Action.rewrites_start s d.id c)] at hkept
    rw [← hkept, eq_comm]
  refine ⟨before, c, during, e, f, has, hid, hb, he, hf, hcomes,
    (exists_single_source_iff e f).trans hsame, mem_sources_condition_iff e f,
    mem_sources_message_iff e f, ?_⟩
  intro value locals hd
  rw [hcomes.exit f (List.mem_singleton_self f)]
  exact isSome_exitCapture_returned g w f.probe hd

/-- A probe is replaced during a call. The report states the new probe, whose condition is
false and was not evaluated; it has no message, though the templates of both probes have
one; and it has values of the end that were not counted in the budget. -/
theorem report_of_replaced_probe :
    let w₀ : World Float := World.begin {} ⟨Timestamp.ofMillis 0, 0⟩ (some Sink.collecting) none
    let w := w₀.run plainGetters
      [.register { id := "p", version := 1, template := "old" }, .start (plainStart "p"),
        .register
          { id := "p", version := 2, template := "new", condition := some ⟨"false", .bool false⟩
            capturesSnapshot := true, evaluateAt := .entry }]
    let v := w.step plainGetters (.stop (plainStop "p"))
    w.engine.budget.count = 0 ∧
      v.reports.map (fun r =>
        (r.message, r.snapshot.probe.version, r.snapshot.captures.exit.isSome)) =
        [("", 2, true)] := by
  decide +kernel

end ProbeEngine.Instrumentation

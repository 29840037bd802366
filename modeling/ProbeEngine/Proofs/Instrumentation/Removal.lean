import ProbeEngine.Proofs.Instrumentation.Replacement

/-!
# Probes that are removed during calls

A removal takes the probe out and leaves its calls under way. At the end of such a
call the hook asks whether a probe of the id is there, so the call is reported by
whatever was registered since:

* `reports_of_revoked_call` — exactly when that happens: nothing is reported
  unless the id was registered again after the removal;
* `report_of_removed_call` — a call that outlives the removal of its probe and is
  reported.
-/

namespace ProbeEngine.Instrumentation

open Host (Value Heap Getters)

variable {τ : Type}

namespace Call

/-- The probes that are evaluated fire exactly if each does that is evaluated at its own
time. -/
theorem all_judges_iff (x : Call τ) (p q : Probe τ) :
    (judges p q).all x.fires ↔
      (p.evaluateAt = .entry → x.fires p) ∧ (q.evaluateAt = .exit → x.fires q) := by
  rw [judges]
  cases p.evaluateAt <;> cases q.evaluateAt <;> simp

end Call

variable [SamplingTime τ]

theorem registers?_of_revokes {s : Settings} {id : String} {a : Action}
    (h : a.revokes id = true) : (a.registers? s id : Option (Probe τ)) = none := by
  cases a with
  | register d => cases h
  | _ => rfl

/-- After a removal nothing is registered. -/
theorem registration?_step_of_revokes (g : Getters) (w : World τ) {id : String} {a : Action}
    (h : a.revokes id = true) : (w.step g a).engine.registration? id = none := by
  rw [registration?_step, registers?_of_revokes h, if_pos h]
  rfl

/-- What is registered at the end of a run with a removal in it is what was put in force
after the removal. -/
theorem registration?_run_of_revokes (g : Getters) (w : World τ) {id : String}
    {before after : List Action} {a : Action} (h : a.revokes id = true) :
    (w.run g (before ++ a :: after)).engine.registration? id =
      (inForce w.engine.registry.settings id after).map Enrolment.probe := by
  have hnone := registration?_step_of_revokes g (w.run g before) h
  rw [World.run_append, World.run_cons, registration?_run g hnone, settings_step, settings_run]

/-- Nothing is in force that was not registered. -/
theorem inForceFrom_none {s : Settings} {id : String} {as : List Action}
    (h : ∀ a ∈ as, (a.registers? s id : Option (Probe τ)) = none) (number : Nat) :
    inForceFrom s id number (none : Option (Enrolment τ)) as = none := by
  induction as generalizing number with
  | nil => rfl
  | cons a as ih =>
    obtain ⟨ha, has⟩ := List.forall_mem_cons.1 h
    have hafter : inForceAfter s id number (none : Option (Enrolment τ)) a = none := by
      rw [inForceAfter, ha]
      cases a.revokes id <;> rfl
    rw [inForceFrom, hafter, ih has]

/-- The report of a call whose probe was removed is made under the probe of its start and
the registration that was put in force after the removal. -/
theorem stopReport_of_revoked_iff {g : Getters} {x : Call τ} {before after : List Action}
    {a : Action} (hx : x.after = x.before.run g (.start x.start :: (before ++ a :: after)))
    (hid : x.stop.id = x.start.id) (ha : a.revokes x.start.id = true)
    (hb : Balanced x.start.id (before ++ a :: after)) (r : Report) :
    stopReport g x.after x.stop = some r ↔
      ∃ p, x.before.engine.registry.get? x.start.id = some p ∧ x.before.engine.admits p ∧
        ∃ f, inForce x.before.engine.registry.settings x.start.id after = some f ∧
          (Call.judges p f.probe).all x.fires ∧ x.reportFrom g p f.probe = r := by
  have hlater : x.after.engine.registration? x.start.id =
      (inForce x.before.engine.registry.settings x.start.id after).map Enrolment.probe := by
    rw [hx, ← List.cons_append]
    exact registration?_run_of_revokes g x.before ha
  have hfound : ∀ p, (x.after.engine.registry.get? x.start.id).bind (x.report g p) =
      (inForce x.before.engine.registry.settings x.start.id after).bind
        fun f => x.report g p f.probe := by
    intro p
    calc (x.after.engine.registry.get? x.start.id).bind (x.report g p)
        = (x.after.engine.registration? x.start.id).bind (x.report g p) := by
          rw [registration?, Option.bind_map]; rfl
      _ = ((inForce x.before.engine.registry.settings x.start.id after).map
            Enrolment.probe).bind (x.report g p) := by rw [hlater]
      _ = (inForce x.before.engine.registry.settings x.start.id after).bind
            fun f => x.report g p f.probe := Option.bind_map
  have hstop : stopReport g x.after x.stop =
      (x.before.engine.registry.get? x.start.id).bind fun p =>
        if x.before.engine.admits p then
          (x.after.engine.registry.get? x.start.id).bind (x.report g p)
        else none := by
    have hbalanced := stopReport_of_balanced g x.before hid hb
    rw [← hx] at hbalanced
    exact hbalanced
  simp only [hfound] at hstop
  rw [hstop]
  simp only [Option.bind_eq_some_iff, Option.ite_none_right_eq_some, Call.report_eq,
    Option.some.injEq]

/-- **What becomes of the calls of a removed probe.** Let the probe of an id be removed, or
all probes cleared, between the start of a call and its end. The end makes at most one
report: none if no action registered the id again after the removal, and otherwise one
exactly if the start was admitted, a registration made after the removal is in force at
the end, and each of the two fires that is evaluated at its own time. It is this later
registration that the report states. -/
theorem reports_of_revoked_call (g : Getters) {w : World τ} {c : CallStart} {d : CallStop}
    {before after : List Action} {a : Action} (hid : d.id = c.id) (ha : a.revokes c.id = true)
    (hb : Balanced c.id (before ++ a :: after)) :
    let s := w.engine.registry.settings
    let v := w.run g (.start c :: (before ++ a :: after))
    let x : Call τ := ⟨w, c, v, d⟩
    ∃ made : Option Report, (v.step g (.stop d)).reports = v.reports ++ made.toList ∧
      ((∀ b ∈ after, (b.registers? s c.id : Option (Probe τ)) = none) → made = none) ∧
      (made.isSome ↔ w.engine.sink.isSome ∧
        ∃ p f, w.engine.registry.get? c.id = some p ∧ w.engine.admits p ∧
          inForce s c.id after = some f ∧
          (p.evaluateAt = .entry → x.fires p) ∧
          (f.probe.evaluateAt = .exit → x.fires f.probe)) ∧
      ∀ r ∈ made, ∃ f : Enrolment τ, inForce s c.id after = some f ∧
        r.snapshot.probe = f.probe.info := by
  intro s v x
  have hmade : ∀ r, delivered g v d = some r ↔ w.engine.sink.isSome ∧
      ∃ p, w.engine.registry.get? c.id = some p ∧ w.engine.admits p ∧
        ∃ f, inForce s c.id after = some f ∧ (Call.judges p f.probe).all x.fires ∧
          x.reportFrom g p f.probe = r := by
    intro r
    have hsink : v.engine.sink.isSome = w.engine.sink.isSome := isSome_sink_run g w _
    rw [← stopReport_of_revoked_iff (x := x) rfl hid ha hb r, delivered, ← hsink]
    cases v.engine.sink <;> simp [x]
  refine ⟨delivered g v d, reports_step_stop g v d, ?_, ?_, ?_⟩
  · intro hnone
    have hforce : inForce s c.id after = (none : Option (Enrolment τ)) := inForceFrom_none hnone 0
    refine Option.eq_none_iff_forall_ne_some.2 fun r hr => ?_
    obtain ⟨-, p, -, -, f, hf, -⟩ := (hmade r).1 hr
    rw [hforce] at hf
    cases hf
  · rw [Option.isSome_iff_exists]
    constructor
    · rintro ⟨r, hr⟩
      obtain ⟨hsink, p, hp, hadm, f, hf, hall, -⟩ := (hmade r).1 hr
      exact ⟨hsink, p, f, hp, hadm, hf, (x.all_judges_iff p f.probe).1 hall⟩
    · rintro ⟨hsink, p, f, hp, hadm, hf, hall⟩
      exact ⟨_, (hmade _).2
        ⟨hsink, p, hp, hadm, f, hf, (x.all_judges_iff p f.probe).2 hall, rfl⟩⟩
  · intro r hr
    obtain ⟨-, p, -, -, f, hf, -, rfl⟩ := (hmade r).1 hr
    exact ⟨f, hf, rfl⟩

/-- The end of a call whose probe was removed, and not registered again. -/
theorem reports_of_revoked_call_not_registered :
    let w₀ : World Float := World.begin {} ⟨Timestamp.ofMillis 0, 0⟩ (some Sink.collecting) none
    let w := w₀.run plainGetters [.register { id := "p", template := "hit" }]
    let v := w.run plainGetters [.start (plainStart "p"), .remove "p", .advance 1000000]
    (v.step plainGetters (.stop (plainStop "p"))).reports = v.reports := by
  intro w₀ w v
  have hb : Balanced "p" ([] ++ .remove "p" :: [.advance 1000000]) :=
    .other (by simp [Action.site?]) (.other (by simp [Action.site?]) .nil)
  obtain ⟨made, hmade, hnone, -⟩ := reports_of_revoked_call plainGetters (w := w)
    (c := plainStart "p") (d := plainStop "p") rfl rfl hb
  have hafter : made = none := hnone fun b hb => by
    cases List.mem_singleton.1 hb
    rfl
  rw [hafter, Option.toList_none, List.append_nil] at hmade
  exact hmade

/-- A probe is removed during a call and registered again before its end: the call is
reported, although it was under way when its probe was removed. -/
theorem report_of_removed_call :
    let w₀ : World Float := World.begin {} ⟨Timestamp.ofMillis 0, 0⟩ (some Sink.collecting) none
    let w := w₀.run plainGetters
      [.register { id := "p", template := "hit" }, .start (plainStart "p"), .remove "p",
        .register { id := "p", template := "hit" }]
    let v := w.step plainGetters (.stop (plainStop "p"))
    w.reports.length = 0 ∧ v.reports.map Report.message = ["hit"] := by
  decide +kernel

end ProbeEngine.Instrumentation

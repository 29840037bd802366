import ProbeEngine.Proofs.Capture.Steady
import ProbeEngine.Proofs.Instrumentation.Replacement

/-!
# Sites do not interfere

All sites work in one instrumentation: their calls and probes are in the same tables,
and they share the budget and the getters. Two worlds are `Alike` for the ids of some
sites if all that these see of them is the same. Then

* `Alike.step` — an action of such a site, or of none, keeps them alike;
* `Alike.skip` — so does an action of another site that only one of them takes;
* `alike_run` — so a run is alike, for these sites, to the one without the actions of
  all others. The budget is the only thing that they share, so it takes that either
  these sites or the others capture no snapshots;
* `sites_do_not_interfere` — leaving out all that one site does changes no report, no
  call and no probe of another one.
-/

namespace ProbeEngine.Instrumentation

open Host (Value Heap Getters Counting)

variable {τ : Type}

/-! ## What hooks read of the getters -/

theorem steady_captureExit {g : Getters} (hg : g.Steady) (h : Heap) (p : Probe τ) (this : Value)
    (args : Bindings) (how : CallEnd) : Counting.Steady (captureExit g h p this args how) := by
  unfold captureExit
  cases how with
  | returned value locals =>
    dsimp only
    split
    · refine .bind (Capture.steady_captureAll hg h _ _) fun arguments => ?_
      exact .bind (Capture.steady_captureAll hg h _ _) fun captured => .pure _
    · exact .pure _
  | threw value => exact .bind (Capture.steady_captureAll hg h _ _) fun arguments => .pure _

theorem exitCapture_eq {g : Getters} (hg : g.Steady) (v w : World τ) (p : Probe τ)
    (c : CallStop) : exitCapture g v p c = exitCapture g w p c :=
  steady_captureExit hg c.heap p c.this c.args c.how _ _

theorem entryCapture_eq {g : Getters} (hg : g.Steady) (v w : World τ) (p : Probe τ)
    (c : CallStart) : entryCapture g v p c = entryCapture g w p c := by
  have harguments : ((captureArguments g c.heap p c.this c.args).run v.getterCalls).1 =
      ((captureArguments g c.heap p c.this c.args).run w.getterCalls).1 :=
    Capture.steady_captureAll hg c.heap _ _ _ _
  unfold entryCapture
  rw [harguments]

/-! ## Surroundings -/

/-- What the hooks of every site find around them. -/
structure Surroundings where
  settings : Settings
  maxMessageLength : Nat
  hasSink : Bool
  clock : Clock
  hostStack : Option String
  trace : TraceContext

/-- The surroundings of a world. -/
def World.surroundings (w : World τ) : Surroundings :=
  { settings := w.engine.registry.settings
    maxMessageLength := w.engine.maxMessageLength
    hasSink := w.engine.sink.isSome
    clock := w.engine.clock
    hostStack := w.engine.hostStack
    trace := w.engine.trace }

/-- What an action changes of the surroundings. -/
def Surroundings.after (x : Surroundings) : Action → Surroundings
  | .advance nanos => { x with clock := x.clock.advance nanos }
  | .stack text => { x with hostStack := text }
  | .trace t => { x with trace := t }
  | _ => x

section

variable {g : Getters} {v w : World τ}

theorem evaluateProbe_eq (h : v.surroundings = w.surroundings) (p : Probe τ) (context : Context)
    (heap : Heap) :
    v.engine.evaluateProbe p context heap = w.engine.evaluateProbe p context heap := by
  have hmax : v.engine.maxMessageLength = w.engine.maxMessageLength :=
    congrArg Surroundings.maxMessageLength h
  simp only [evaluateProbe, hmax]

/-- What a probe records of the start of a call depends on the surroundings alone. -/
theorem startRecord_eq (hg : g.Steady) (h : v.surroundings = w.surroundings) (p : Probe τ)
    (c : CallStart) : startRecord g v p c = startRecord g w p c := by
  have hclock : v.engine.clock = w.engine.clock := congrArg Surroundings.clock h
  have hstack : v.engine.callerStack = w.engine.callerStack := by
    have hhost : v.engine.hostStack = w.engine.hostStack := congrArg Surroundings.hostStack h
    rw [callerStack, callerStack, hhost]
  have hrecord : ∀ m, recordOf g v p c m = recordOf g w p c m := by
    intro m
    rw [recordOf, recordOf, hclock, hstack, entryCapture_eq hg v w]
  simp only [startRecord, hrecord, evaluateProbe_eq h]

/-- So does what it reports of the end, from the record of the start. -/
theorem finishReport_eq (hg : g.Steady) (h : v.surroundings = w.surroundings) (p : Probe τ)
    (r : CallRecord) (c : CallStop) : finishReport g v p r c = finishReport g w p r c := by
  have hclock : v.engine.clock = w.engine.clock := congrArg Surroundings.clock h
  have htrace : v.engine.trace = w.engine.trace := congrArg Surroundings.trace h
  have hrecord : finalRecord v p r c = finalRecord w p r c := by
    have hmessage : v.engine.withMessage r = w.engine.withMessage r := by
      funext m
      rw [withMessage, withMessage, hclock]
    simp only [finalRecord, evaluateProbe_eq h, hclock, hmessage]
  have hreport : v.engine.reportOf p = w.engine.reportOf p := by
    funext x duration captured
    rw [reportOf, reportOf, hclock, htrace]
  rw [finishReport, finishReport, hrecord, hreport, hclock, exitCapture_eq hg v w]

end

/-! ## Actions of sites -/

namespace Action

/-- The id whose site an action belongs to, if it belongs to one. -/
def about? : Action → Option String
  | .start c => some c.id
  | .stop c => some c.id
  | .register d => some d.id
  | .remove id => some id
  | _ => none

/-- Whether an action is one of some sites, or of none. -/
def concerns (sees : String → Bool) (a : Action) : Bool := a.about?.all sees

theorem concerns_of_about? {sees : String → Bool} {a : Action} {id : String}
    (h : a.about? = some id) : a.concerns sees = sees id := by
  rw [concerns, h, Option.all_some]

theorem exists_about?_of_concerns {sees : String → Bool} {a : Action}
    (h : a.concerns sees = false) : ∃ id, a.about? = some id ∧ sees id = false := by
  cases ha : a.about? with
  | none =>
    rw [concerns, ha] at h
    cases h
  | some id => exact ⟨id, rfl, (concerns_of_about? ha).symm.trans h⟩

end Action

/-- The reports of an id that the sink was offered so far. -/
def World.reportsOf (w : World τ) (id : String) : List Report :=
  w.reports.filter fun r => r.snapshot.probe.id == id

/-- A report is about the probe that is found at the end of its call. -/
theorem probe_of_stopReport {g : Getters} {w : World τ} {c : CallStop} {r : Report}
    (h : stopReport g w c = some r) :
    ∃ p, w.engine.registry.get? c.id = some p ∧ r.snapshot.probe = p.info := by
  unfold stopReport at h
  split at h
  · obtain ⟨p, hp, hr⟩ := Option.bind_eq_some_iff.1 h
    obtain ⟨x, -, rfl⟩ := Option.map_eq_some_iff.1 hr
    exact ⟨p, hp, rfl⟩
  · cases h

theorem delivered_eq (g : Getters) (w : World τ) (c : CallStop) :
    delivered g w c = if w.engine.sink.isSome then stopReport g w c else none := by
  unfold delivered
  cases w.engine.sink <;> rfl

/-! ## Worlds that are alike -/

/-- Two worlds that are alike for the sites that are seen: in what surrounds all sites, in
the probes, the calls under way and the reports of these, and in the budget if they share
it. -/
structure Alike (sees : String → Bool) (shared : Prop) (v w : World τ) : Prop where
  surroundings : v.surroundings = w.surroundings
  budget : shared → v.engine.budget = w.engine.budget
  probes : ∀ id, sees id = true → v.engine.registry.get? id = w.engine.registry.get? id
  pending : ∀ id, sees id = true → v.engine.pending id = w.engine.pending id
  reports : ∀ id, sees id = true → v.reportsOf id = w.reportsOf id

namespace Alike

variable {g : Getters} {sees : String → Bool} {shared : Prop} {v w : World τ}

theorem refl (sees : String → Bool) (shared : Prop) (w : World τ) : Alike sees shared w w where
  surroundings := rfl
  budget _ := rfl
  probes _ _ := rfl
  pending _ _ := rfl
  reports _ _ := rfl

/-- An end makes the same report. -/
theorem delivered (hg : g.Steady) (h : Alike sees shared v w) {c : CallStop}
    (hc : sees c.id = true) : delivered g v c = delivered g w c := by
  have hsink : v.engine.sink.isSome = w.engine.sink.isSome :=
    congrArg Surroundings.hasSink h.surroundings
  have hstop : stopReport g v c = stopReport g w c := by
    unfold stopReport
    rw [h.pending c.id hc, h.probes c.id hc]
    simp only [finishReport_eq hg h.surroundings]
  rw [delivered_eq, delivered_eq, hsink, hstop]

end Alike

/-! ## What an action does to them -/

variable [SamplingTime τ]

theorem surroundings_step (g : Getters) (w : World τ) (a : Action) :
    (w.step g a).surroundings = w.surroundings.after a := by
  have hfixed := fixed_step g w a
  have hsettings : (w.step g a).engine.registry.settings = w.engine.registry.settings :=
    congrArg Prod.fst hfixed
  have hmax : (w.step g a).engine.maxMessageLength = w.engine.maxMessageLength :=
    congrArg (fun x => x.2.1) hfixed
  have hsink : (w.step g a).engine.sink.isSome = w.engine.sink.isSome :=
    congrArg (fun x => x.2.2) hfixed
  unfold World.surroundings
  rw [hsettings, hmax, hsink]
  cases a with
  | start c =>
    rw [World.engine_step_start, asked_eq]
    rfl
  | stop c =>
    rw [World.engine_step_stop]
    cases stopReport g w c <;> rfl
  | register d => rfl
  | remove i => rfl
  | clear => rfl
  | advance n => rfl
  | stack t => rfl
  | trace t => rfl

/-- The end of a call adds its report to those of its probe. -/
theorem reportsOf_step_stop (g : Getters) (w : World τ) (c : CallStop) (id : String) :
    (w.step g (.stop c)).reportsOf id =
      w.reportsOf id ++ (delivered g w c).toList.filter fun r => r.snapshot.probe.id == id := by
  rw [World.reportsOf, reports_step_stop, List.filter_append, ← World.reportsOf]

theorem reportsOf_step_of_not_stop (g : Getters) (w : World τ) {a : Action}
    (h : a.isStop = false) (id : String) : (w.step g a).reportsOf id = w.reportsOf id := by
  rw [World.reportsOf, reports_step_of_not_stop g w h, ← World.reportsOf]

namespace Alike

variable {g : Getters} {sees : String → Bool} {shared : Prop} {v w : World τ}

/-- A call is sampled alike if its probe takes no snapshots, or the budget is shared. -/
theorem sampling (h : Alike sees shared v w) {p : Probe τ}
    (hp : p.capturesSnapshot = true → shared) :
    (v.engine.sampling p).decision = (w.engine.sampling p).decision ∧
      (v.engine.sampling p).sampler = (w.engine.sampling p).sampler := by
  have hclock : v.engine.clock = w.engine.clock := congrArg Surroundings.clock h.surroundings
  have hdecision : (v.engine.sampling p).decision = (w.engine.sampling p).decision := by
    rw [Instrumentation.sampling, Instrumentation.sampling, hclock]
    cases hsnap : p.capturesSnapshot with
    | true => rw [h.budget (hp hsnap)]
    | false => exact GlobalBudget.decision_sample_false _ _ _ _
  refine ⟨hdecision, ?_⟩
  have hsampler : ∀ x : World τ, (x.engine.sampling p).sampler =
      if (x.engine.sampling p).decision = .sample then
        p.sampler.record (SamplingTime.ofNanos x.engine.clock.elapsed)
      else p.sampler := fun x => GlobalBudget.sampler_sample ..
  rw [hsampler v, hsampler w, hdecision, hclock]

/-- A start pushes the same call. -/
theorem startedCall (hg : g.Steady) (h : Alike sees shared v w) {c : CallStart}
    (hc : sees c.id = true)
    (hcaptures : ∀ p ∈ w.engine.registry.get? c.id, p.capturesSnapshot = true → shared) :
    startedCall g v c = startedCall g w c := by
  unfold Instrumentation.startedCall
  rw [h.probes c.id hc]
  cases hp : w.engine.registry.get? c.id with
  | none => rfl
  | some p =>
    have hadmits : v.engine.admits p ↔ w.engine.admits p := by
      unfold admits
      rw [(h.sampling (hcaptures p hp)).1]
    simp only [hadmits, startRecord_eq hg h.surroundings]

/-- **An action of a site that is seen keeps worlds alike**, and so does one of no site. The
budget has to be shared if a snapshot asks it. -/
theorem step (hg : g.Steady) (h : Alike sees shared v w) {a : Action}
    (ha : a.concerns sees = true)
    (hcaptures : ∀ c, a = .start c → ∀ p ∈ w.engine.registry.get? c.id,
      p.capturesSnapshot = true → shared) :
    Alike sees shared (v.step g a) (w.step g a) := by
  have hclock : v.engine.clock = w.engine.clock := congrArg Surroundings.clock h.surroundings
  have hsettings : v.engine.registry.settings = w.engine.registry.settings :=
    congrArg Surroundings.settings h.surroundings
  have hseen : ∀ id, a.about? = some id → sees id = true := fun id hid =>
    (Action.concerns_of_about? hid).symm.trans ha
  constructor
  case surroundings => rw [surroundings_step, surroundings_step, h.surroundings]
  case budget =>
    intro hshared
    by_cases hs : ∃ c, a = .start c
    · obtain ⟨c, rfl⟩ := hs
      have hsampling : v.engine.sampling = w.engine.sampling := by
        funext p
        rw [Instrumentation.sampling, Instrumentation.sampling, h.budget hshared, hclock]
      rw [budget_of_start, budget_of_start, h.probes c.id (hseen c.id rfl), h.budget hshared,
        hsampling]
    · rw [budget_step_of_ne_start g v fun c hc => hs ⟨c, hc⟩,
        budget_step_of_ne_start g w fun c hc => hs ⟨c, hc⟩]
      exact h.budget hshared
  case probes =>
    intro id hid
    by_cases hs : ∃ c, a = .start c
    · obtain ⟨c, rfl⟩ := hs
      rw [get?_step_start, get?_step_start, h.probes id hid]
      by_cases hc : c.id = id
      · rw [if_pos hc, if_pos hc]
        refine Option.map_congr fun p hp => ?_
        rw [(h.sampling (hcaptures c rfl p (hc ▸ hp))).2]
      · rw [if_neg hc, if_neg hc]
    · rw [get?_step_of_ne_start g v id fun c hc => hs ⟨c, hc⟩,
        get?_step_of_ne_start g w id fun c hc => hs ⟨c, hc⟩, hsettings, h.probes id hid]
  case pending =>
    intro id hid
    cases a with
    | start c =>
      have hc := hseen c.id rfl
      rw [pending_step_start, pending_step_start, h.startedCall hg hc (hcaptures c rfl),
        h.pending c.id hc, h.pending id hid]
    | stop c =>
      rw [pending_step_stop, pending_step_stop, h.pending c.id (hseen c.id rfl),
        h.pending id hid]
    | _ => exact h.pending id hid
  case reports =>
    intro id hid
    cases hs : a.isStop with
    | true =>
      cases a with
      | stop c =>
        rw [reportsOf_step_stop, reportsOf_step_stop, h.delivered hg (hseen c.id rfl),
          h.reports id hid]
      | _ => cases hs
    | false =>
      rw [reportsOf_step_of_not_stop g v hs, reportsOf_step_of_not_stop g w hs, h.reports id hid]

/-- **An action of a site that is not seen keeps worlds alike, though only one of them takes
it.** If the budget is shared, it has to take no snapshot. -/
theorem skip (h : Alike sees shared v w) {a : Action} (ha : a.concerns sees = false)
    (hcaptures : shared → ∀ c, a = .start c → ∀ p ∈ w.engine.registry.get? c.id,
      p.capturesSnapshot = false)
    (hid : ∀ id p, w.engine.registry.get? id = some p → p.id = id) :
    Alike sees shared v (w.step g a) := by
  obtain ⟨i, hi, hunseen⟩ := Action.exists_about?_of_concerns ha
  have hne : ∀ id, sees id = true → i ≠ id := by
    rintro id hsees rfl
    rw [hunseen] at hsees
    cases hsees
  constructor
  case surroundings =>
    have hafter : w.surroundings.after a = w.surroundings := by
      cases a with
      | advance n => cases hi
      | stack t => cases hi
      | trace t => cases hi
      | _ => rfl
    rw [surroundings_step, hafter, h.surroundings]
  case budget =>
    intro hshared
    rw [h.budget hshared]
    by_cases hs : ∃ c, a = .start c
    · obtain ⟨c, rfl⟩ := hs
      rw [budget_of_start]
      cases hp : w.engine.registry.get? c.id with
      | none => rfl
      | some p =>
        rw [Option.elim_some, Instrumentation.sampling, hcaptures hshared c rfl p hp,
          GlobalBudget.budget_sample]
        rfl
    · rw [budget_step_of_ne_start g w fun c hc => hs ⟨c, hc⟩]
  case probes =>
    intro id hsees
    rw [h.probes id hsees]
    cases a with
    | start c =>
      cases hi
      rw [get?_step_start, if_neg (hne id hsees)]
    | stop c =>
      rw [get?_step_of_ne_start g w id (by simp)]
      rfl
    | register d =>
      cases hi
      rw [get?_step_of_ne_start g w id (by simp), Action.registers?, Registry.compiled?,
        if_neg (hne id hsees)]
      rfl
    | remove j =>
      cases hi
      have hrevokes : (Action.remove i).revokes id = false := beq_false_of_ne (hne id hsees)
      rw [get?_step_of_ne_start g w id (by simp), hrevokes]
      rfl
    | _ => cases hi
  case pending =>
    intro id hsees
    rw [h.pending id hsees, pending_step_of_ne g w]
    cases a with
    | start c => exact fun hc => hne id hsees (Option.some.inj (hi.symm.trans hc))
    | stop c => exact fun hc => hne id hsees (Option.some.inj (hi.symm.trans hc))
    | _ => simp [Action.site?]
  case reports =>
    intro id hsees
    rw [h.reports id hsees]
    cases hs : a.isStop with
    | true =>
      cases a with
      | stop c =>
        cases hi
        have hnone : ((Instrumentation.delivered g w c).toList.filter fun r =>
            r.snapshot.probe.id == id) = [] := by
          refine List.filter_eq_nil_iff.2 fun r hr => ?_
          obtain ⟨-, -, hr⟩ := Option.bind_eq_some_iff.1 (Option.mem_toList.1 hr)
          obtain ⟨p, hp, hinfo⟩ := probe_of_stopReport hr
          have hprobe : r.snapshot.probe.id = c.id := by
            rw [hinfo]
            exact hid c.id p hp
          rw [hprobe, beq_false_of_ne (hne id hsees)]
          exact Bool.false_ne_true
        rw [reportsOf_step_stop, hnone, List.append_nil]
      | _ => cases hs
    | false => rw [reportsOf_step_of_not_stop g w hs]

end Alike

/-! ## Along a run -/

/-- A probe that is found was registered by an action of the run. -/
theorem exists_register_of_get? (g : Getters) {s : Settings} {clock : Clock} {sink : Option Sink}
    {stack : Option String} {as : List Action} {id : String} {p : Probe τ}
    (hp : ((World.begin s clock sink stack).run g as).engine.registry.get? id = some p) :
    ∃ a ∈ as, a.registers? s id = some p.asRegistered := by
  obtain ⟨e, he, hprobe⟩ := exists_inForce_of_get? g hp
  obtain ⟨a, ha, hregisters⟩ := exists_register_of_inForce he
  exact ⟨a, List.mem_of_getElem? ha, hprobe ▸ hregisters⟩

/-- A probe is found under its own id. -/
theorem id_of_get? (g : Getters) {s : Settings} {clock : Clock} {sink : Option Sink}
    {stack : Option String} {as : List Action} {id : String} {p : Probe τ}
    (hp : ((World.begin s clock sink stack).run g as).engine.registry.get? id = some p) :
    p.id = id := by
  obtain ⟨a, -, hregisters⟩ := exists_register_of_get? g hp
  obtain ⟨d, -, hid, hcompile⟩ := Action.registers?_eq_some_iff.1 hregisters
  have hdefinition : p.asRegistered.id = d.id := Probe.id_of_compile hcompile
  exact hdefinition.trans hid

/-- **A run is alike to what the sites that are seen do of it.** Either these take no
snapshots, or they share the budget and no other site takes any. -/
theorem alike_run {g : Getters} (hg : g.Steady) (sees : String → Bool) (shared : Prop)
    {s : Settings} (clock : Clock) (sink : Option Sink) (stack : Option String)
    {as : List Action}
    (h : ∀ a ∈ as, ∀ id (p : Probe τ), a.registers? s id = some p →
      p.capturesSnapshot = true → (sees id = true ↔ shared)) :
    Alike sees shared ((World.begin s clock sink stack : World τ).run g
      (as.filter (Action.concerns sees))) ((World.begin s clock sink stack).run g as) := by
  induction as using List.reverseRecOn with
  | nil => exact .refl sees shared _
  | append_singleton as a ih =>
    have hfirst : ∀ b ∈ as, b ∈ as ++ [a] := fun b hb => List.mem_append_left _ hb
    have halike := ih fun b hb => h b (hfirst b hb)
    have hcaptures : ∀ id, ∀ p ∈ ((World.begin s clock sink stack : World τ).run g
        as).engine.registry.get? id, p.capturesSnapshot = true → (sees id = true ↔ shared) := by
      intro id p hp hsnap
      obtain ⟨b, hb, hregisters⟩ := exists_register_of_get? g hp
      exact h b (hfirst b hb) id p.asRegistered hregisters hsnap
    rw [List.filter_append, World.run_concat]
    cases ha : a.concerns sees with
    | true =>
      rw [List.filter_cons_of_pos ha, List.filter_nil, World.run_concat]
      refine halike.step hg ha fun c hc p hp hsnap => (hcaptures c.id p hp hsnap).1 ?_
      rw [← ha, hc]
      exact (Action.concerns_of_about? rfl).symm
    | false =>
      rw [List.filter_cons_of_neg (by rw [ha]; exact Bool.false_ne_true), List.filter_nil,
        List.append_nil]
      refine halike.skip ha (fun hshared c hc p hp => ?_) fun id p hp => id_of_get? g hp
      rw [← Bool.not_eq_true]
      intro hsnap
      have hsees := (hcaptures c.id p hp hsnap).2 hshared
      have hunseen : sees c.id = false := by
        rw [← ha, hc]
        exact (Action.concerns_of_about? rfl).symm
      rw [hunseen] at hsees
      cases hsees

/-! ## Main result -/

/-- The actions of a run without those of one site. Time passes as before. -/
def without (id : String) (as : List Action) : List Action :=
  as.filter fun a => a.about? ≠ some id

theorem without_eq (id : String) (as : List Action) :
    without id as = as.filter (Action.concerns fun i => i != id) := by
  refine List.filter_congr fun a _ => ?_
  rw [Action.concerns]
  cases a.about? with
  | none => simp
  | some i =>
    rw [Option.all_some, Bool.eq_iff_iff, bne_iff_ne]
    simp

/-- Leaving one site out leaves out nothing that another one does. -/
theorem filter_concerns_without {a b : String} (hab : a ≠ b) (as : List Action) :
    (without b as).filter (Action.concerns (· == a)) = as.filter (Action.concerns (· == a)) := by
  rw [without, List.filter_filter]
  refine List.filter_congr fun x _ => ?_
  cases hx : x.concerns (· == a) with
  | false => rfl
  | true =>
    rw [Bool.true_and, decide_eq_true_eq]
    intro habout
    rw [Action.concerns_of_about? habout, beq_iff_eq] at hx
    exact hab hx.symm

/-- **Sites do not interfere.** Let all that is done to one site be left out of a run: its
calls, its registrations and its removals. Then another site makes the same reports, has
the same calls under way and the same probe with the same sampler, if either of the two
never has a probe that takes snapshots. -/
theorem sites_do_not_interfere {g : Getters} (hg : g.Steady) {s : Settings} (clock : Clock)
    (sink : Option Sink) (stack : Option String) {as : List Action} {a b : String} (hab : a ≠ b)
    (h : (∀ x ∈ as, ∀ p : Probe τ, x.registers? s a = some p → p.capturesSnapshot = false) ∨
      ∀ x ∈ as, ∀ p : Probe τ, x.registers? s b = some p → p.capturesSnapshot = false) :
    let w₀ : World τ := World.begin s clock sink stack
    let w := w₀.run g as
    let v := w₀.run g (without b as)
    v.reportsOf a = w.reportsOf a ∧ v.engine.pending a = w.engine.pending a ∧
      v.engine.registry.get? a = w.engine.registry.get? a := by
  intro w₀ w v
  rcases h with ha | hb
  · -- both runs are alike to what the site does alone
    have halone : ∀ bs : List Action, (∀ x ∈ bs, x ∈ as) →
        Alike (· == a) False (w₀.run g (bs.filter (Action.concerns (· == a)))) (w₀.run g bs) := by
      intro bs hbs
      refine alike_run hg (· == a) False clock sink stack fun x hx id p hp hsnap => ?_
      rw [iff_false, beq_iff_eq]
      rintro rfl
      rw [ha x (hbs x hx) p hp] at hsnap
      cases hsnap
    have hw := halone as fun x hx => hx
    have hv := halone (without b as) fun x hx => (List.mem_filter.1 hx).1
    rw [filter_concerns_without hab] at hv
    have hself : (a == a) = true := beq_self_eq_true a
    exact ⟨(hv.reports a hself).symm.trans (hw.reports a hself),
      (hv.pending a hself).symm.trans (hw.pending a hself),
      (hv.probes a hself).symm.trans (hw.probes a hself)⟩
  · have hw : Alike (fun i => i != b) True v w := by
      have hrun : v = w₀.run g (as.filter (Action.concerns fun i => i != b)) := by
        rw [← without_eq]
      rw [hrun]
      refine alike_run hg (fun i => i != b) True clock sink stack fun x hx id p hp hsnap => ?_
      rw [iff_true, bne_iff_ne]
      rintro rfl
      rw [hb x hx p hp] at hsnap
      cases hsnap
    have hother : (a != b) = true := bne_iff_ne.2 hab
    exact ⟨hw.reports a hother, hw.pending a hother, hw.probes a hother⟩

/-- A probe that takes snapshots is reported as if another one, which only logs, were not
there, although their calls overlap and both share the budget. -/
theorem sites_do_not_interfere_overlapping :
    let snapshot : ProbeDefinition := { id := "a", capturesSnapshot := true, template := "hit" }
    let log : ProbeDefinition := { id := "b", template := "log" }
    let as : List Action :=
      [.register snapshot, .register log, .start (plainStart "a"), .start (plainStart "b"),
        .advance 1000000, .stop (plainStop "b"), .stop (plainStop "a"), .start (plainStart "b"),
        .start (plainStart "a")]
    let w₀ : World Float := World.begin {} ⟨Timestamp.ofMillis 0, 0⟩ (some Sink.collecting) none
    let w := w₀.run plainGetters as
    let v := w₀.run plainGetters (without "b" as)
    plainGetters.Steady ∧
      (∀ x ∈ as, ∀ p : Probe Float, x.registers? {} "b" = some p → p.capturesSnapshot = false) ∧
      (w.reportsOf "a").map Report.message = ["hit"] ∧ w.reports.length = 2 ∧
      v.reportsOf "a" = w.reportsOf "a" ∧ v.engine.pending "a" = w.engine.pending "a" ∧
      v.engine.registry.get? "a" = w.engine.registry.get? "a" := by
  intro snapshot log as w₀ w v
  have hsteady : plainGetters.Steady := fun h getter n m receiver => rfl
  have hlog : ∀ x ∈ as, ∀ p : Probe Float, x.registers? {} "b" = some p →
      p.capturesSnapshot = false := by
    intro x hx p hp
    obtain ⟨d, rfl, hid, hcompile⟩ := Action.registers?_eq_some_iff.1 hp
    obtain ⟨c, t, r, -, -, -, rfl⟩ := Probe.of_compile hcompile
    simp only [as, List.mem_cons, Action.register.injEq, List.not_mem_nil, reduceCtorEq, or_false]
      at hx
    rcases hx with rfl | rfl
    · exact absurd hid (by decide)
    · rfl
  have hsites := sites_do_not_interfere hsteady ⟨Timestamp.ofMillis 0, 0⟩
    (some Sink.collecting) none (a := "a") (by decide) (Or.inr hlog)
  refine ⟨hsteady, hlog, by decide +kernel, by decide +kernel, ?_⟩
  simp only [w₀, w, v]
  exact hsites

end ProbeEngine.Instrumentation

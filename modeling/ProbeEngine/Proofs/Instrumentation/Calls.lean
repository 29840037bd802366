import Mathlib.Algebra.Group.Nat.Defs
import ProbeEngine.Proofs.Instrumentation.Brackets

/-!
# The calls of a run

Every run from a new instrumentation keeps its calls like brackets
(`calls_refine_brackets`): the stack of an id holds its open calls, no stack is
kept empty, and an end takes the innermost open call of its id and reports that
call or none. The duration of a report is the time between the two readings of
the clock, up to the greatest one that sixty-four bits hold
(`duration_of_long_call`).
-/

namespace ProbeEngine.Instrumentation

open Host (Value Heap Getters Counting)

variable {τ : Type}

/-! ## No empty stacks -/

/-- Whether every stack that is kept holds a call. -/
def NoEmptyStack (s : Instrumentation τ) : Prop := ∀ e ∈ s.calls.entries, e.2 ≠ []

theorem noEmptyStack_push {s : Instrumentation τ} (h : NoEmptyStack s) (id : String)
    (c : PendingCall) : NoEmptyStack (s.push id c) := by
  intro e he
  rcases OrderedTable.mem_entries_put he with rfl | he
  · exact List.cons_ne_nil _ _
  · exact h e he

theorem noEmptyStack_popped {s : Instrumentation τ} (h : NoEmptyStack s) (id : String) :
    NoEmptyStack (s.popped id) := by
  intro e he
  rw [popped, callsWithout] at he
  split at he
  · exact h e he
  · exact h e (OrderedTable.mem_entries_erase he)
  · rename_i c cs hne hs
    rcases OrderedTable.mem_entries_put he with rfl | he
    · exact hne
    · exact h e he

theorem noEmptyStack_offering {s : Instrumentation τ} (h : NoEmptyStack s) (r : Option Report) :
    NoEmptyStack (s.offering r) := by
  cases r <;> exact h

variable [SamplingTime τ]

theorem noEmptyStack_step (g : Getters) {w : World τ} (h : NoEmptyStack w.engine) (a : Action) :
    NoEmptyStack (w.step g a).engine := by
  cases a with
  | start c =>
    rw [World.engine_step_start]
    refine noEmptyStack_push ?_ _ _
    rw [asked_eq]
    exact h
  | stop c =>
    rw [World.engine_step_stop]
    exact noEmptyStack_offering (noEmptyStack_popped h _) _
  | register d => exact h
  | remove i => exact h
  | clear => exact h
  | advance n => exact h
  | stack t => exact h
  | trace t => exact h

theorem noEmptyStack_run (g : Getters) {w : World τ} (h : NoEmptyStack w.engine)
    (as : List Action) : NoEmptyStack (w.run g as).engine := by
  induction as generalizing w with
  | nil => exact h
  | cons a as ih => exact ih (noEmptyStack_step g h a)

/-! ## Reports of calls -/

/-- What a report keeps of its call: its duration is the time from start to end, up to
the greatest one, and its stack and entry captures are those that were taken when the
probe sampled the start. -/
structure ReportsCall (g : Getters) (x : Call τ) (r : Report) : Prop where
  duration : r.snapshot.duration = min x.duration (2 ^ 64 - 1)
  stack : r.snapshot.stack = x.before.engine.callerStack
  entry : ∃ p, x.before.engine.registry.get? x.start.id = some p ∧ x.before.engine.admits p ∧
    r.snapshot.captures.entry = entryCapture g x.before p x.start

theorem reportsCall_of_stopReport {g : Getters} {w : World τ} {c : CallStart} {d : CallStop}
    {during : List Action} {r : Report} (hid : d.id = c.id) (hb : Balanced c.id during)
    (hr : stopReport g (w.run g (.start c :: during)) d = some r) :
    ReportsCall g ⟨w, c, w.run g (.start c :: during), d⟩ r := by
  obtain ⟨p, hp, ha, q, -, hr⟩ := (stopReport_of_balanced_iff g w hid hb r).1 hr
  obtain ⟨x, hx, hr⟩ := Option.bind_eq_some_iff.1 hr
  obtain ⟨y, hy, rfl⟩ := Option.map_eq_some_iff.1 hr
  obtain ⟨hstart, hentry, hstack⟩ := of_startRecord hx
  obtain ⟨hentry', hstack'⟩ := of_finalRecord hy
  refine ⟨?_, hstack'.trans hstack, p, hp, ha, hentry'.trans hentry⟩
  rw [Call.duration, ← hstart]
  rfl

/-- **Calls are kept like brackets.** In every run from a new instrumentation the calls
under way of an id are its open calls, and no id keeps an empty stack. An end takes the
innermost open call of its id, if there is one, leaves the other ids alone, and makes at
most one report, which is of that call. Nothing but an end makes a report. -/
theorem calls_refine_brackets (g : Getters) (s : Settings) (clock : Clock) (sink : Option Sink)
    (stack : Option String) (as : List Action) :
    let w₀ : World τ := World.begin s clock sink stack
    let w := w₀.run g as
    (∀ id, w.engine.pending id = (openCalls id as).map (pushedBy g w₀) ∧
      w.engine.pendingCount id = (openCalls id as).length) ∧
    (∀ e ∈ w.engine.calls.entries, e.2 ≠ []) ∧
    (∀ a, a.isStop = false → (w.step g a).reports = w.reports) ∧
    ∀ d : CallStop,
      let v := w.step g (.stop d)
      (∀ id, id ≠ d.id → v.engine.pending id = w.engine.pending id) ∧
      (openCalls d.id as = [] → v.engine = w.engine) ∧
      ∀ o rest, openCalls d.id as = o :: rest →
        (∃ during, as = o.before ++ .start o.call :: during ∧ o.call.id = d.id ∧
          Balanced d.id during ∧ openCalls d.id o.before = rest) ∧
        w.engine.pending d.id = pushedBy g w₀ o :: v.engine.pending d.id ∧
        v.engine.pending d.id = rest.map (pushedBy g w₀) ∧
        ∃ made : Option Report, v.reports = w.reports ++ made.toList ∧
          ∀ r ∈ made, (w₀.run g o.before).engine.clock.elapsed ≤ w.engine.clock.elapsed ∧
            ReportsCall g ⟨w₀.run g o.before, o.call, w, d⟩ r := by
  intro w₀ w
  have hpending : ∀ id, w.engine.pending id = (openCalls id as).map (pushedBy g w₀) :=
    fun id => pending_run rfl as
  refine ⟨fun id => ⟨hpending id, ?_⟩, ?_, fun a ha => reports_step_of_not_stop g w ha, ?_⟩
  · rw [pendingCount, hpending, List.length_map]
  · exact noEmptyStack_run g (fun e he => absurd he List.not_mem_nil) as
  · intro d v
    refine ⟨fun id hid => ?_, fun hopen => ?_, fun o rest hopen => ?_⟩
    · exact (pending_step_stop g w d id).trans (if_neg (Ne.symm hid))
    · have hnil : w.engine.pending d.id = [] := by rw [hpending, hopen, List.map_nil]
      have hnone : stopReport g w d = none := by rw [stopReport, hnil]
      have hpop : w.engine.popped d.id = w.engine := by rw [popped, callsWithout, hnil]
      exact (World.engine_step_stop g w d).trans (by rw [hnone, hpop, offering])
    · have hmatch := exists_balanced_of_openCalls hopen
      have hstack : w.engine.pending d.id = pushedBy g w₀ o :: rest.map (pushedBy g w₀) := by
        rw [hpending, hopen, List.map_cons]
      have hrest : v.engine.pending d.id = rest.map (pushedBy g w₀) := by
        refine (pending_step_stop g w d d.id).trans ?_
        rw [if_pos rfl, hstack, List.tail_cons]
      refine ⟨hmatch, by rw [hstack, hrest], hrest, delivered g w d, reports_step_stop g w d, ?_⟩
      intro r hr
      obtain ⟨during, has, hid, hb, -⟩ := hmatch
      obtain ⟨-, -, hr⟩ := Option.bind_eq_some_iff.1 hr
      have hw : w = (w₀.run g o.before).run g (.start o.call :: during) := by
        rw [← World.run_append, ← has]
      rw [hw] at hr ⊢
      exact ⟨elapsed_le_run g _ _, reportsCall_of_stopReport hid.symm (hid ▸ hb) hr⟩

/-- A call of twenty thousand million seconds is longer than a report can say: its
duration is the greatest one instead of the time between start and end. -/
theorem duration_of_long_call :
    let w₀ : World Float := World.begin {} ⟨Timestamp.ofMillis 0, 0⟩ (some Sink.collecting) none
    let before : List Action := [.register { id := "p", template := "hit" }]
    let during : List Action := [.advance (20000000000 * 10 ^ 9)]
    let w := w₀.run plainGetters (before ++ .start (plainStart "p") :: during)
    let v := w.step plainGetters (.stop (plainStop "p"))
    w.engine.clock.elapsed - (w₀.run plainGetters before).engine.clock.elapsed = 2 * 10 ^ 19 ∧
      v.reports.map (fun r => r.snapshot.duration) = [2 ^ 64 - 1] := by
  decide +kernel

end ProbeEngine.Instrumentation

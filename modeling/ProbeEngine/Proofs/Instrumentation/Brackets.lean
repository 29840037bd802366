import ProbeEngine.Proofs.Instrumentation.Frame

/-!
# Starts and ends as brackets

The actions of a run say by themselves which calls are open: a start of an id
opens one, an end of the id closes the innermost one if there is one. `openCalls`
keeps them as a stack, each with the actions before its start. That is bracket
matching:

* `openCalls_eq_cons_iff` — a call is the innermost open one exactly when the
  actions after its start are `Balanced`;
* `pending_run` — the calls under way are the open ones, each as its own start
  pushed it;
* `pending_run_of_balanced` — balanced actions leave them as they were;
* `stopReport_of_balanced` — so an end reports of the call that its own start
  recorded;
* `exists_call_of_stopReport` — and every report is of such a call.
-/

namespace ProbeEngine.Instrumentation

open Host (Value Heap Getters Counting)

/-! ## Open calls -/

/-- A call that is open after some actions: those before its start, and the start. -/
structure OpenCall where
  before : List Action
  call : CallStart

/-- The open calls of an id after one more action. A start opens a call; an end closes
the innermost one if there is one, and otherwise does nothing. -/
def openAfter (id : String) (before : List Action) (opened : List OpenCall) :
    Action → List OpenCall
  | .start c => if c.id = id then ⟨before, c⟩ :: opened else opened
  | .stop c => if c.id = id then opened.tail else opened
  | _ => opened

/-- The open calls of an id after some more actions. -/
def openFrom (id : String) : List Action → List OpenCall → List Action → List OpenCall
  | _, opened, [] => opened
  | before, opened, a :: as => openFrom id (before ++ [a]) (openAfter id before opened a) as

/-- The calls of an id that are open after some actions, innermost first. -/
def openCalls (id : String) (as : List Action) : List OpenCall := openFrom id [] [] as

theorem openFrom_append (id : String) (before : List Action) (opened : List OpenCall)
    (as bs : List Action) :
    openFrom id before opened (as ++ bs) =
      openFrom id (before ++ as) (openFrom id before opened as) bs := by
  induction as generalizing before opened with
  | nil => rw [List.nil_append, List.append_nil, openFrom]
  | cons a as ih =>
    rw [List.cons_append, openFrom, openFrom, ih, List.append_assoc, List.singleton_append]

theorem openCalls_append (id : String) (as bs : List Action) :
    openCalls id (as ++ bs) = openFrom id as (openCalls id as) bs := by
  rw [openCalls, openFrom_append, List.nil_append, ← openCalls]

theorem openCalls_concat (id : String) (as : List Action) (a : Action) :
    openCalls id (as ++ [a]) = openAfter id as (openCalls id as) a := by
  rw [openCalls_append, openFrom, openFrom]

/-! ## Balanced actions -/

/-- Actions whose starts and ends of an id match: each end of the id closes a start
among them, and no start stays open. -/
inductive Balanced (id : String) : List Action → Prop
  | nil : Balanced id []
  | other {a : Action} {as : List Action} (h : a.site? ≠ some id) :
      Balanced id as → Balanced id (a :: as)
  | call {c : CallStart} {d : CallStop} {during after : List Action} (hc : c.id = id)
      (hd : d.id = id) : Balanced id during → Balanced id after →
      Balanced id (.start c :: (during ++ .stop d :: after))

theorem Balanced.append {id : String} {as bs : List Action} (ha : Balanced id as)
    (hb : Balanced id bs) : Balanced id (as ++ bs) := by
  induction ha with
  | nil => exact hb
  | other h _ ih => exact .other h ih
  | call hc hd hdur _ _ ih =>
    rw [List.cons_append, List.append_assoc, List.cons_append]
    exact .call hc hd hdur ih

theorem openAfter_of_ne {id : String} {a : Action} (h : a.site? ≠ some id) (before : List Action)
    (opened : List OpenCall) : openAfter id before opened a = opened := by
  cases a with
  | start c => exact if_neg fun hc => h (congrArg some hc)
  | stop c => exact if_neg fun hc => h (congrArg some hc)
  | register d => rfl
  | remove i => rfl
  | clear => rfl
  | advance n => rfl
  | stack t => rfl
  | trace t => rfl

/-- Balanced actions leave the open calls as they were. -/
theorem openFrom_of_balanced {id : String} {as : List Action} (h : Balanced id as)
    (before : List Action) (opened : List OpenCall) : openFrom id before opened as = opened := by
  induction h generalizing before opened with
  | nil => rfl
  | other h _ ih => rw [openFrom, openAfter_of_ne h, ih]
  | @call c d during after hc hd _ _ ihd iha =>
    have hstart : openAfter id before opened (.start c) = ⟨before, c⟩ :: opened := if_pos hc
    have hstop : ∀ b, openAfter id b (⟨before, c⟩ :: opened) (.stop d) = opened := fun _ =>
      if_pos hd
    rw [openFrom, openFrom_append, hstart, ihd, openFrom, hstop, iha]

/-- After the start of the innermost open call the actions are balanced, and the calls
that are open around it are those that were open before. -/
theorem exists_balanced_of_openCalls {id : String} {as : List Action} {o : OpenCall}
    {rest : List OpenCall} (h : openCalls id as = o :: rest) :
    ∃ during, as = o.before ++ .start o.call :: during ∧ o.call.id = id ∧
      Balanced id during ∧ openCalls id o.before = rest := by
  -- an end uncovers a call that was opened long before, so the induction is on the length
  induction hn : as.length using Nat.strongRecOn generalizing as o rest with
  | _ n ih =>
    obtain rfl | ⟨as, a, rfl⟩ := as.eq_nil_or_concat
    · exact absurd h (List.cons_ne_nil o rest).symm
    · rw [List.concat_eq_append] at h hn ⊢
      rw [openCalls_concat] at h
      have hlt : as.length < n := by rw [← hn, List.length_append]; exact Nat.lt_succ_self _
      by_cases hs : a.site? = some id
      · cases a with
        | start c =>
          have hc : c.id = id := Option.some.inj hs
          rw [openAfter, if_pos hc] at h
          obtain ⟨rfl, rfl⟩ := List.cons.inj h
          exact ⟨[], rfl, hc, .nil, rfl⟩
        | stop d =>
          have hd : d.id = id := Option.some.inj hs
          rw [openAfter, if_pos hd] at h
          obtain ⟨x, hx⟩ : ∃ x, openCalls id as = x :: o :: rest := by
            cases hopen : openCalls id as with
            | nil => rw [hopen] at h; exact absurd h (List.cons_ne_nil o rest).symm
            | cons x xs => rw [hopen] at h; exact ⟨x, congrArg (x :: ·) h⟩
          obtain ⟨inner, rfl, hxid, hinner, hrest⟩ := ih _ hlt hx rfl
          have hlt' : x.before.length < n := by
            rw [List.length_append] at hlt
            omega
          obtain ⟨during, hb, hid, hdur, hout⟩ := ih _ hlt' hrest rfl
          refine ⟨during ++ .start x.call :: (inner ++ [.stop d]), ?_, hid, ?_, hout⟩
          · rw [hb]
            simp only [List.append_assoc, List.cons_append]
          · exact hdur.append (.call hxid hd hinner .nil)
        | register d => cases hs
        | remove i => cases hs
        | clear => cases hs
        | advance k => cases hs
        | stack t => cases hs
        | trace t => cases hs
      · rw [openAfter_of_ne hs] at h
        obtain ⟨during, rfl, hid, hdur, hrest⟩ := ih _ hlt h rfl
        refine ⟨during ++ [a], ?_, hid, hdur.append (.other hs .nil), hrest⟩
        rw [List.append_assoc, List.cons_append]

/-- **Bracket matching.** A call is the innermost open one of its id exactly when the
actions after its start are balanced, and then the calls around it are those that were
open before. -/
theorem openCalls_eq_cons_iff {id : String} {as : List Action} {o : OpenCall}
    {rest : List OpenCall} :
    openCalls id as = o :: rest ↔
      ∃ during, as = o.before ++ .start o.call :: during ∧ o.call.id = id ∧
        Balanced id during ∧ openCalls id o.before = rest := by
  refine ⟨exists_balanced_of_openCalls, ?_⟩
  rintro ⟨during, rfl, hid, hb, hrest⟩
  have hstart : openAfter id o.before rest (.start o.call) = o :: rest := if_pos hid
  rw [openCalls_append, hrest, openFrom, hstart, openFrom_of_balanced hb]

variable {τ : Type}

section

variable [SamplingTime τ]

/-! ## The calls under way -/

/-- The call that the start of an open call pushed in a run. -/
def pushedBy (g : Getters) (w : World τ) (o : OpenCall) : PendingCall :=
  startedCall g (w.run g o.before) o.call

theorem pending_openAfter {g : Getters} {w : World τ} {id : String} {before : List Action}
    {opened : List OpenCall}
    (h : (w.run g before).engine.pending id = opened.map (pushedBy g w)) (a : Action) :
    ((w.run g before).step g a).engine.pending id =
      (openAfter id before opened a).map (pushedBy g w) := by
  cases a with
  | start c =>
    rw [pending_step_start, openAfter]
    by_cases hc : c.id = id
    · rw [if_pos hc, if_pos hc, hc, h]
      rfl
    · rw [if_neg hc, if_neg hc, h]
  | stop c =>
    rw [pending_step_stop, openAfter]
    by_cases hc : c.id = id
    · rw [if_pos hc, if_pos hc, hc, h, List.map_tail]
    · rw [if_neg hc, if_neg hc, h]
  | register d => exact h
  | remove i => exact h
  | clear => exact h
  | advance k => exact h
  | stack t => exact h
  | trace t => exact h

theorem pending_openFrom {g : Getters} {w : World τ} {id : String} {before : List Action}
    {opened : List OpenCall}
    (h : (w.run g before).engine.pending id = opened.map (pushedBy g w)) (as : List Action) :
    (w.run g (before ++ as)).engine.pending id =
      (openFrom id before opened as).map (pushedBy g w) := by
  induction as generalizing before opened with
  | nil => rw [List.append_nil, openFrom, h]
  | cons a as ih =>
    rw [openFrom, ← List.singleton_append, ← List.append_assoc]
    refine ih ?_
    rw [World.run_concat]
    exact pending_openAfter h a

/-- **The stacks refine bracket matching.** After a run from a world without calls, the
calls under way of an id are its open calls, each as its own start pushed it. -/
theorem pending_run {g : Getters} {w : World τ} {id : String} (h : w.engine.pending id = [])
    (as : List Action) :
    (w.run g as).engine.pending id = (openCalls id as).map (pushedBy g w) := by
  have hnil : (w.run g []).engine.pending id = [].map (pushedBy g w) := h
  rw [openCalls, ← pending_openFrom hnil as, List.nil_append]

/-- Balanced actions leave the calls under way as they were. -/
theorem pending_run_of_balanced {id : String} {as : List Action} (h : Balanced id as)
    (g : Getters) (w : World τ) : (w.run g as).engine.pending id = w.engine.pending id := by
  induction h generalizing w with
  | nil => rfl
  | other h _ ih => rw [World.run_cons, ih, pending_step_of_ne g w h]
  | call hc hd _ _ ihd iha =>
    rw [World.run_cons, World.run_append, World.run_cons, iha, pending_step_stop, if_pos hd, hd,
      ihd, pending_step_start, if_pos hc, hc, List.tail_cons]

end

/-! ## Calls from start to end -/

/-- A call of a run: the worlds in which it starts and ends, and what the hooks are
given there. -/
structure Call (τ : Type) where
  before : World τ
  start : CallStart
  after : World τ
  stop : CallStop

namespace Call

/-- The nanoseconds between the start and the end of a call. -/
def duration (x : Call τ) : Nat := x.after.engine.clock.elapsed - x.before.engine.clock.elapsed

/-- The report of a sampled call under the probe that is found at its start and the one
that is found at its end. -/
def report (g : Getters) (x : Call τ) (p q : Probe τ) : Option Report :=
  (startRecord g x.before p x.start).bind fun r => finishReport g x.after q r x.stop

end Call

variable [SamplingTime τ]

/-- What an end reports is made of the innermost open call of its id, under the probe
that sampled it and the one that is found now. -/
theorem stopReport_of_balanced (g : Getters) (w : World τ) {c : CallStart} {d : CallStop}
    {during : List Action} (hid : d.id = c.id) (hb : Balanced c.id during) :
    stopReport g (w.run g (.start c :: during)) d =
      (w.engine.registry.get? c.id).bind fun p =>
        if w.engine.admits p then
          ((w.run g (.start c :: during)).engine.registry.get? c.id).bind
            (Call.report g ⟨w, c, w.run g (.start c :: during), d⟩ p)
        else none := by
  have hpending : (w.run g (.start c :: during)).engine.pending c.id =
      startedCall g w c :: w.engine.pending c.id := by
    rw [World.run_cons, pending_run_of_balanced hb, pending_step_start, if_pos rfl]
  rw [stopReport, hid, hpending, startedCall]
  cases w.engine.registry.get? c.id with
  | none => rfl
  | some p =>
    by_cases ha : w.engine.admits p
    · simp only [if_pos ha, Option.bind_some]
      cases (w.run g (.start c :: during)).engine.registry.get? c.id with
      | none => cases startRecord g w p c <;> rfl
      | some q =>
        rw [Option.bind_some, Call.report]
        cases startRecord g w p c <;> rfl
    · simp only [if_neg ha, Option.bind_some]

/-- An end makes a report exactly of a call that was admitted, whose probe recorded its
start and is followed by one that reports it. -/
theorem stopReport_of_balanced_iff (g : Getters) (w : World τ) {c : CallStart} {d : CallStop}
    {during : List Action} (hid : d.id = c.id) (hb : Balanced c.id during) (r : Report) :
    stopReport g (w.run g (.start c :: during)) d = some r ↔
      ∃ p, w.engine.registry.get? c.id = some p ∧ w.engine.admits p ∧
        ∃ q, (w.run g (.start c :: during)).engine.registry.get? c.id = some q ∧
          Call.report g ⟨w, c, w.run g (.start c :: during), d⟩ p q = some r := by
  rw [stopReport_of_balanced g w hid hb]
  simp only [Option.bind_eq_some_iff, Option.ite_none_right_eq_some]

/-- Every report of a run is of a call that started in it: one that was admitted then,
under the probe found then and the one that is found at its end. -/
theorem exists_call_of_stopReport {g : Getters} {w₀ : World τ} {as : List Action} {d : CallStop}
    {r : Report} (hw : w₀.engine.pending d.id = [])
    (hr : stopReport g (w₀.run g as) d = some r) :
    ∃ before c during p q, as = before ++ .start c :: during ∧ c.id = d.id ∧
      Balanced d.id during ∧ (w₀.run g before).engine.registry.get? d.id = some p ∧
      (w₀.run g before).engine.admits p ∧ (w₀.run g as).engine.registry.get? d.id = some q ∧
      Call.report g ⟨w₀.run g before, c, w₀.run g as, d⟩ p q = some r := by
  obtain ⟨o, rest, hopen⟩ : ∃ o rest, openCalls d.id as = o :: rest := by
    cases hopen : openCalls d.id as with
    | nil => rw [stopReport, pending_run hw, hopen, List.map_nil] at hr; cases hr
    | cons o rest => exact ⟨o, rest, rfl⟩
  obtain ⟨during, rfl, hid, hb, -⟩ := exists_balanced_of_openCalls hopen
  refine ⟨o.before, o.call, during, ?_⟩
  rw [World.run_append] at hr ⊢
  obtain ⟨p, hp, ha, q, hq, hr⟩ :=
    (stopReport_of_balanced_iff g _ hid.symm (hid ▸ hb) r).1 hr
  exact ⟨p, q, rfl, hid, hb, hid ▸ hp, ha, hid ▸ hq, hr⟩

end ProbeEngine.Instrumentation

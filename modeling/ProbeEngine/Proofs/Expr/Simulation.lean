import ProbeEngine.Proofs.Expr.Additions
import ProbeEngine.Proofs.Expr.Duality
import ProbeEngine.Proofs.Expr.Presence
import ProbeEngine.Proofs.Expr.Renaming

/-!
# Evaluation among other objects

A loop evaluates its predicate for one item after the other, each time in a heap with the
objects that the times before have made. None of them has a say: an expression comes to the
same there, with other places for the objects that it makes itself.

* `Eval.Follows` — a computation follows another one if it does the same in every heap that
  renames the one of the other; what is put together of such steps is such a step again
  (`Follows.bind`, `Follows.search`, `Follows.keep`);
* `Expr.strictEquals_follows`, `Expr.text_follows`, `Expr.member_follows`, `Expr.loop_follows` and
  so on — an operation follows itself if its operands do, said once for each family of them;
* `Expr.eval_follows` — **evaluation follows itself** from a scope to one that renames it;
* `Expr.eval_of_extends` — so what an expression comes to in a heap, it comes to in every heap
  that extends it.
-/

namespace ProbeEngine

open Host (Value Heap Kind ObjectKind Property PropertyKey ObjectId renameEntry)

variable {ρ : ObjectId → ObjectId} {m n : Nat}

/-- A value and the one that it is renamed to, with the object there if it is one. -/
structure Renamed (ρ : ObjectId → ObjectId) (n : Nat) (v w : Value) : Prop where
  below : v.Below n
  eq : w = v.rename ρ

theorem Renamed.mono {v w : Value} (hv : Renamed ρ m v w) (hmn : m ≤ n) : Renamed ρ n v w :=
  ⟨hv.below.mono hmn, hv.eq⟩

theorem renamed_bool (b : Bool) : Renamed ρ n (.bool b) (.bool b) :=
  ⟨Value.below_of_primitive rfl, rfl⟩

theorem renamed_count (i : Nat) :
    Renamed ρ n (Collection.countValue i) (Collection.countValue i) :=
  ⟨Value.below_of_primitive rfl, rfl⟩

namespace Eval

/-! ## Computations that follow each other -/

/-- No difference, wherever places are renamed to. -/
def Same {α : Type} (_ : Nat) (a b : α) : Prop := b = a

/-- Outcomes of one computation in a heap and in one that renames it: the same error, or
related results and again a heap that renames the other one. -/
inductive Outcome {α : Type} (ρ : ObjectId → ObjectId) (n : Nat) (R : Nat → α → α → Prop) :
    Except EvalError (α × Heap) → Except EvalError (α × Heap) → Prop
  | error (e : EvalError) : Outcome ρ n R (.error e) (.error e)
  | ok {a b : α} {h k : Heap} (heaps : h.Renames ρ k) (size_le : n ≤ h.objects.size)
      (results : R h.objects.size a b) : Outcome ρ n R (.ok (a, h)) (.ok (b, k))

/-- What a computation does in heaps with some objects, another one does in those that rename
them. -/
def Follows {α : Type} (ρ : ObjectId → ObjectId) (n : Nat) (R : Nat → α → α → Prop)
    (x y : Eval α) : Prop :=
  ∀ h k : Heap, h.Renames ρ k → n ≤ h.objects.size → Outcome ρ h.objects.size R (x h) (y k)

theorem Outcome.mono {α : Type} {R : Nat → α → α → Prop} {o o' : Except EvalError (α × Heap)}
    (ho : Outcome ρ n R o o') (hmn : m ≤ n) : Outcome ρ m R o o' := by
  cases ho with
  | error e => exact .error e
  | ok heaps size_le results => exact .ok heaps (Nat.le_trans hmn size_le) results

/-- Outcomes of making an object more. -/
theorem Outcome.new {h k h' k' : Heap} (hr : h.Renames ρ k) (hr' : h'.Renames ρ k')
    (hsize : h'.objects.size = h.objects.size + 1) :
    Outcome ρ h.objects.size (Renamed ρ) (.ok (.object ⟨h.objects.size⟩, h'))
      (.ok (.object ⟨k.objects.size⟩, k')) := by
  refine .ok hr' (hsize ▸ Nat.le_succ _) ⟨?_, congrArg Value.object hr.place_rename.symm⟩
  rintro id ⟨⟩
  exact hsize ▸ Nat.lt_succ_self _

namespace Follows

section

variable {α β : Type} {R : Nat → α → α → Prop} {S : Nat → β → β → Prop} {x y : Eval α}

theorem mono (hxy : Follows ρ m R x y) (hmn : m ≤ n) : Follows ρ n R x y :=
  fun h k hr hn => hxy h k hr (Nat.le_trans hmn hn)

theorem pure {a b : α} (hab : ∀ m, n ≤ m → R m a b) :
    Follows ρ n R (Pure.pure a : Eval α) (Pure.pure b : Eval α) :=
  fun _ _ hr hn => .ok hr (Nat.le_refl _) (hab _ hn)

/-- What comes next begins in heaps that may have more objects. -/
theorem bind (hxy : Follows ρ n R x y) {f g : α → Eval β}
    (hfg : ∀ m, n ≤ m → ∀ a b, R m a b → Follows ρ m S (f a) (g b)) :
    Follows ρ n S (x >>= f) (y >>= g) := by
  intro h k hr hn
  have houtcome := hxy h k hr hn
  show Outcome ρ h.objects.size S ((x h).bind fun r => f r.1 r.2) ((y k).bind fun r => g r.1 r.2)
  generalize x h = o, y k = o' at houtcome
  cases houtcome with
  | error e => exact .error e
  | ok heaps size_le results =>
    have hnext := hfg _ (Nat.le_trans hn size_le) _ _ results
    exact (hnext _ _ heaps (Nat.le_refl _)).mono size_le

/-- What comes next from a value, and from the renamed one. -/
theorem value {u w : Eval Value} (hu : Follows ρ n (Renamed ρ) u w) {p q : Value → Eval β}
    (hpq : ∀ m, n ≤ m → ∀ v, Follows ρ m S (p v) (q (v.rename ρ))) :
    Follows ρ n S (u >>= p) (w >>= q) :=
  hu.bind fun m hm v _ hv => hv.eq ▸ hpq m hm v

/-- What comes next from two values, the second of which does not depend on the first. -/
theorem values {u u' w w' : Eval Value} (hu : Follows ρ n (Renamed ρ) u w)
    (hu' : Follows ρ n (Renamed ρ) u' w') {p q : Value → Value → Eval β}
    (hpq : ∀ m v v', Follows ρ m S (p v v') (q (v.rename ρ) (v'.rename ρ))) :
    Follows ρ n S (u >>= fun v => u' >>= p v) (w >>= fun v => w' >>= q v) :=
  hu.value fun _ hm v => (hu'.mono hm).value fun m _ v' => hpq m v v'

/-- An answer that is a truth value. -/
theorem bool (b : Bool) :
    Follows ρ n (Renamed ρ) (Pure.pure (Value.bool b)) (Pure.pure (Value.bool b)) :=
  .pure fun _ _ => renamed_bool b

theorem reading {f g : Heap → Except EvalError α} (r : α → α)
    (hfg : ∀ h k, h.Renames ρ k → n ≤ h.objects.size → g k = (f h).map r)
    (hf : ∀ h a, h.Orderly → n ≤ h.objects.size → f h = .ok a → R h.objects.size a (r a)) :
    Follows ρ n R (Eval.reading f) (Eval.reading g) := by
  intro h k hr hn
  rw [Eval.reading, Eval.reading, hfg h k hr hn]
  cases hfh : f h with
  | error e => exact .error e
  | ok a => exact .ok hr (Nat.le_refl _) (hf h a hr.orderly hn hfh)

/-- A question with the same answer in both heaps. -/
theorem ask {f g : Heap → Except EvalError α} (hfg : ∀ {h k : Heap}, h.Renames ρ k → g k = f h)
    {p q : α → Eval β} (hpq : ∀ a, Follows ρ n S (p a) (q a)) :
    Follows ρ n S (Eval.reading f >>= p) (Eval.reading g >>= q) := by
  have hread : Follows ρ n Same (Eval.reading f) (Eval.reading g) := by
    refine reading id (fun h k hr _ => ?_) fun _ _ _ _ _ => rfl
    rw [hfg hr]
    cases f h <;> rfl
  refine hread.bind fun m hm a b hab => ?_
  cases hab
  exact (hpq a).mono hm

/-- A step that may be preceded by a guard. -/
theorem guarded {f g : Heap → Except EvalError Unit}
    (hfg : ∀ {h k : Heap}, h.Renames ρ k → g k = f h) {needed : Prop} [Decidable needed]
    {p q : Unit → Eval β} (hpq : ∀ u, Follows ρ n S (p u) (q u)) :
    Follows ρ n S (if needed then (do let u ← Eval.reading f; p u) else p ())
      (if needed then (do let u ← Eval.reading g; q u) else q ()) := by
  split
  · exact ask hfg hpq
  · exact hpq ()

theorem succeeds (hxy : Follows ρ n R x y) :
    Follows ρ n Same (Eval.succeeds x) (Eval.succeeds y) := by
  intro h k hr hn
  have houtcome := hxy h k hr hn
  rw [Eval.succeeds, Eval.succeeds]
  generalize x h = r, y k = r' at houtcome
  cases houtcome <;> exact .ok hr (Nat.le_refl _) rfl

end

/-! ## New objects -/

theorem allocate (kind : ObjectKind) (hkind : ∀ v ∈ kind.contents, v.Below n) :
    Follows ρ n (Renamed ρ) (Eval.allocate kind) (Eval.allocate (kind.rename ρ)) :=
  fun _ _ hr hn => .new hr (hr.allocateKind fun v hv => (hkind v hv).mono hn)
    (Heap.size_allocate _ _)

theorem allocateRecord {ps : List (String × Value)} (hps : ∀ p ∈ ps, p.2.Below n) :
    Follows ρ n (Renamed ρ) (Eval.allocateRecord ps)
      (Eval.allocateRecord (ps.map fun p => (p.1, p.2.rename ρ))) :=
  fun _ _ hr hn => .new hr (hr.allocateRecord fun p hp => (hps p hp).mono hn)
    ((Heap.size_setAll _ _ _).trans (Heap.size_allocate _ _))

/-! ## Loops -/

section

variable {α : Type} {test test' : α → Eval Bool} {f : α → α} {xs : List α}

theorem search (stop : Bool) (htest : ∀ x ∈ xs, Follows ρ n Same (test x) (test' (f x))) :
    Follows ρ n Same (Eval.search stop test xs) (Eval.search stop test' (xs.map f)) := by
  induction xs generalizing n with
  | nil => exact .pure fun _ _ => rfl
  | cons x xs ih =>
    rw [List.map_cons, Eval.search, Eval.search]
    refine (htest x List.mem_cons_self).bind fun m hm b b' hb => ?_
    cases hb
    split
    · exact .pure fun _ _ => rfl
    · exact ih fun y hy => (htest y (List.mem_cons_of_mem _ hy)).mono hm

/-- Of renamed elements, the same ones are kept. -/
theorem keep (htest : ∀ x ∈ xs, Follows ρ n Same (test x) (test' (f x))) :
    Follows ρ n (fun _ kept kept' => kept ⊆ xs ∧ kept' = kept.map f) (Eval.keep test xs)
      (Eval.keep test' (xs.map f)) := by
  induction xs generalizing n with
  | nil => exact .pure fun _ _ => ⟨List.Subset.refl _, rfl⟩
  | cons x xs ih =>
    rw [List.map_cons, Eval.keep, Eval.keep]
    refine (htest x List.mem_cons_self).bind fun m hm b b' hb => ?_
    refine (ih fun y hy => (htest y (List.mem_cons_of_mem _ hy)).mono hm).bind ?_
    rintro m' - rest rest' ⟨hrest, rfl⟩
    cases hb
    refine .pure fun _ _ => ?_
    cases b with
    | false => exact ⟨List.subset_cons_of_subset _ hrest, rfl⟩
    | true => exact ⟨List.cons_subset_cons x hrest, rfl⟩

end

section

variable {xs : Items} {test test' : LoopBinding → Eval Bool}
  (hbelow : ∀ b ∈ xs.bindings, ∀ v ∈ b.values, v.Below n)
  (htest : ∀ b ∈ xs.bindings, Follows ρ n Same (test b) (test' (b.rename ρ)))

include hbelow htest

/-- Making something of the items that are kept, which are there. -/
theorem keep_bind {α : Type} {ys : List α} {f : α → LoopBinding} {r : α → α}
    (hr : ∀ y, f (r y) = (f y).rename ρ) (hys : xs.bindings = ys.map f)
    {p q : List α → Eval Value}
    (hpq : ∀ m, ∀ kept, (∀ y ∈ kept, ∀ v ∈ (f y).values, v.Below m) →
      Follows ρ m (Renamed ρ) (p kept) (q (kept.map r))) :
    Follows ρ n (Renamed ρ) (Eval.keep (fun y => test (f y)) ys >>= p)
      (Eval.keep (fun y => test' (f y)) (ys.map r) >>= q) := by
  have hmem : ∀ y ∈ ys, f y ∈ xs.bindings := fun y hy => hys ▸ List.mem_map_of_mem hy
  have hkeep : Follows ρ n (fun _ kept kept' => kept ⊆ ys ∧ kept' = kept.map r)
      (Eval.keep (fun y => test (f y)) ys) (Eval.keep (fun y => test' (f y)) (ys.map r)) := by
    refine keep fun y hy => ?_
    rw [hr]
    exact htest (f y) (hmem y hy)
  refine hkeep.bind ?_
  rintro m hm kept kept' ⟨hkept, rfl⟩
  exact hpq m kept fun y hy v hv => (hbelow (f y) (hmem y (hkept hy)) v hv).mono hm

/-- The collection of the items for which a test holds, where the words for values are the
same. -/
theorem gathered {h k : Heap} (hwords : ∀ v, k.display (v.rename ρ) = h.display v) :
    Follows ρ n (Renamed ρ) (xs.gathered h test) ((xs.rename ρ).gathered k test') := by
  cases xs with
  | elements ys =>
    refine keep_bind hbelow htest (f := .item) (fun _ => rfl) rfl fun m kept hkept => ?_
    exact allocate (.array kept) fun v hv => hkept v hv v List.mem_cons_self
  | typed t ys =>
    refine keep_bind hbelow htest (f := .item) (fun _ => rfl) rfl fun m kept hkept => ?_
    exact allocate (.typedArray t kept) fun v hv => hkept v hv v List.mem_cons_self
  | mapEntries es =>
    refine keep_bind hbelow htest (f := fun e : Value × Value => .entry e.1 e.2) (fun _ => rfl)
      rfl fun m kept hkept => ?_
    refine allocate (.map kept) fun v hv => ?_
    obtain ⟨e, he, hv⟩ := List.mem_flatMap.1 hv
    exact hkept e he v hv
  | properties es =>
    refine keep_bind hbelow htest (f := fun e : Value × Value => .entry e.1 e.2) (fun _ => rfl)
      rfl fun m kept hkept => ?_
    have hsame : (kept.map (renameEntry ρ)).map (fun e => (k.display e.1, e.2)) =
        (kept.map fun e => (h.display e.1, e.2)).map fun p => (p.1, p.2.rename ρ) := by
      simp only [List.map_map, Function.comp_def, renameEntry, hwords]
    rw [hsame]
    refine allocateRecord fun p hp => ?_
    obtain ⟨e, he, rfl⟩ := List.mem_map.1 hp
    exact hkept e he e.2 (List.mem_cons_of_mem _ List.mem_cons_self)

end

end Follows

end Eval

namespace Expr

mutual

/-- The values that are written out in an expression. -/
def literals : Expr → List Value
  | .literal v => [v]
  | .reference _ => []
  | .negation e | .length e | .isEmpty e | .isDefined e | .instanceOf e _
  | .matchesPattern e _ => literals e
  | .equal l r | .notEqual l r | .compare _ l r | .any l r | .all l r | .filter l r
  | .startsWith l r | .endsWith l r | .contains l r | .matchesValue l r
  | .member l r | .index l r => literals l ++ literals r
  | .substring e start finish => literals e ++ literals start ++ literals finish
  | .conjunction es | .disjunction es => literalsOfAll es

/-- The values that are written out in some expressions. -/
def literalsOfAll : List Expr → List Value
  | [] => []
  | e :: es => literals e ++ literalsOfAll es

end

end Expr

/-! ## Scopes -/

/-- A scope binds what another one does, renamed, and the values that are written out in an
expression are no others when they are renamed. -/
structure Scope.Renames (ρ : ObjectId → ObjectId) (n : Nat) (s s' : Scope)
    (literals : List Value) : Prop where
  injective : Function.Injective ρ
  resolve?_eq : ∀ r, s'.resolve? r = (s.resolve? r).map (Value.rename ρ)
  below : ∀ r v, s.resolve? r = some v → v.Below n
  literals : ∀ v ∈ literals, Renamed ρ n v v

namespace Scope.Renames

variable {s s' : Scope} {vs ws : List Value}

theorem mono (hs : s.Renames ρ m s' vs) (hmn : m ≤ n) : s.Renames ρ n s' vs where
  injective := hs.injective
  resolve?_eq := hs.resolve?_eq
  below r v hv := (hs.below r v hv).mono hmn
  literals v hv := (hs.literals v hv).mono hmn

theorem left (hs : s.Renames ρ n s' (vs ++ ws)) : s.Renames ρ n s' vs :=
  { hs with literals := fun v hv => hs.literals v (List.mem_append_left _ hv) }

theorem right (hs : s.Renames ρ n s' (vs ++ ws)) : s.Renames ρ n s' ws :=
  { hs with literals := fun v hv => hs.literals v (List.mem_append_right _ hv) }

theorem bind (hs : s.Renames ρ n s' vs) {b : LoopBinding}
    (hb : ∀ v ∈ b.values, v.Below n) : (s.bind b).Renames ρ n (s'.bind (b.rename ρ)) vs where
  injective := hs.injective
  resolve?_eq r := by
    have hr := hs.resolve?_eq r
    cases b <;> cases r <;> first | exact hr | rfl
  below r v hv := (mem_values_or_resolve? hv).elim (hb v) (hs.below r v)
  literals := hs.literals

end Scope.Renames

namespace Expr

open Eval (Follows Same search)

/-! ## Evaluation -/

/-- The truth value of a predicate follows itself if its value does. -/
theorem truth_follows {e : Expr} {s s' : Scope}
    (he : Follows ρ n (Renamed ρ) (eval e s) (eval e s')) :
    Follows ρ n Same (truth e s) (truth e s') :=
  he.bind fun _ _ _ _ ⟨_, hw⟩ => .pure fun _ _ => by
    rw [Same, hw, Value.isTruthy_rename]

theorem eval_filter (collection predicate : Expr) (s : Scope) :
    eval (.filter collection predicate) s = (do
      let v ← eval collection s
      let xs ← Eval.reading fun h => Collection.items h v
      let h ← get
      xs.gathered h fun b => truth predicate (s.bind b)) := by
  simp only [eval, Items.filtered_eq, truth]

/-- Items of one collection and of the renamed one. -/
theorem items_follows (v : Value) :
    Follows ρ n
      (fun m xs ys => (∀ b ∈ xs.bindings, ∀ w ∈ b.values, w.Below m) ∧ ys = xs.rename ρ)
      (Eval.reading fun h => Collection.items h v)
      (Eval.reading fun h => Collection.items h (v.rename ρ)) :=
  .reading (Items.rename ρ) (fun _ _ hr _ => Collection.items_rename hr v)
    fun _ _ hh _ hxs => ⟨fun _ hb _ hw => Collection.below_of_items hh hxs hb hw, rfl⟩

section

variable {s s' : Scope} {e l r : Expr}

/-! ### Names -/

theorem reference_follows {vs : List Value} (hs : s.Renames ρ n s' vs) (r : Reference) :
    Follows ρ n (Renamed ρ) (eval (.reference r) s) (eval (.reference r) s') := by
  rw [eval, eval]
  refine .reading (Value.rename ρ) (fun h k _ _ => ?_) fun h v _ hn hv => ⟨?_, rfl⟩
  · rw [hs.resolve?_eq]
    cases s.resolve? r <;> rfl
  · cases hr : s.resolve? r with
    | none =>
      rw [hr] at hv
      cases hv
    | some w =>
      rw [hr] at hv
      cases hv
      exact (hs.below r v hr).mono hn

/-! ### Operations on one value -/

section

variable (he : Follows ρ n (Renamed ρ) (eval e s) (eval e s'))

include he

theorem negation_follows :
    Follows ρ n (Renamed ρ) (eval (.negation e) s) (eval (.negation e) s') := by
  rw [eval, eval]
  refine he.value fun m _ v => ?_
  rw [Value.isTruthy_rename]
  exact .bool _

/-- An answer from the length of a value. -/
theorem length_follows {answer : Nat → Value}
    (hanswer : ∀ m i, Renamed ρ m (answer i) (answer i)) :
    Follows ρ n (Renamed ρ)
      (do let v ← eval e s
          let i ← Eval.reading fun h => Collection.length h v
          pure (answer i))
      (do let v ← eval e s'
          let i ← Eval.reading fun h => Collection.length h v
          pure (answer i)) :=
  he.value fun _ _ v => .ask (Collection.length_rename · v) fun i => .pure fun m _ => hanswer m i

theorem isDefined_follows :
    Follows ρ n (Renamed ρ) (eval (.isDefined e) s) (eval (.isDefined e) s') := by
  rw [eval, eval]
  refine he.succeeds.bind fun m _ b b' hb => ?_
  cases hb
  exact .bool b

theorem instanceOf_follows {vs : List Value} (hs : s.Renames ρ n s' vs) (type : TypeName) :
    Follows ρ n (Renamed ρ) (eval (.instanceOf e type) s) (eval (.instanceOf e type) s') := by
  rw [eval, eval]
  have hcontext : ∀ name, s'.context.get? name = (s.context.get? name).map (Value.rename ρ) :=
    fun name => hs.resolve?_eq (.variable name)
  exact he.value fun _ _ v => .ask (Collection.instanceOf_rename · hcontext v type) .bool

theorem matchesPattern_follows (p : Regex.Pattern) :
    Follows ρ n (Renamed ρ) (eval (.matchesPattern e p) s) (eval (.matchesPattern e p) s') := by
  rw [eval, eval]
  exact he.value fun _ _ v => .ask (Coercion.expectText_rename · v) fun text => .bool _

end

/-! ### Operations on two values -/

section

variable (hl : Follows ρ n (Renamed ρ) (eval l s) (eval l s'))
  (hr : Follows ρ n (Renamed ρ) (eval r s) (eval r s'))

include hl hr

/-- An answer from whether two values are equal. -/
theorem strictEquals_follows (hρ : Function.Injective ρ) (answer : Bool → Bool) :
    Follows ρ n (Renamed ρ)
      (do let v ← eval l s
          let w ← eval r s
          pure (.bool (answer (v.strictEquals w))))
      (do let v ← eval l s'
          let w ← eval r s'
          pure (.bool (answer (v.strictEquals w)))) := by
  refine hl.values hr fun m v w => ?_
  rw [Value.strictEquals_rename hρ]
  exact .bool _

theorem compare_follows (order : Comparison) :
    Follows ρ n (Renamed ρ) (eval (.compare order l r) s) (eval (.compare order l r) s') := by
  rw [eval, eval]
  refine hl.value fun m hm v => .guarded (Coercion.guardValue_rename · v) fun _ => ?_
  refine (hr.mono hm).value fun _ _ w => .guarded (Coercion.guardValue_rename · w) fun _ => ?_
  exact .ask (Coercion.compareValues_rename · v w) fun o => .bool _

/-- An answer from a text and another value as a text. -/
theorem text_follows (test : String → String → Bool) :
    Follows ρ n (Renamed ρ)
      (do let v ← eval l s
          let w ← eval r s
          let t ← Eval.reading fun h => Coercion.toText h w
          let text ← Eval.reading fun h => Coercion.expectText h v
          pure (.bool (test text t)))
      (do let v ← eval l s'
          let w ← eval r s'
          let t ← Eval.reading fun h => Coercion.toText h w
          let text ← Eval.reading fun h => Coercion.expectText h v
          pure (.bool (test text t))) :=
  hl.values hr fun _ v w => .ask (Coercion.toText_rename · w) fun _ =>
    .ask (Coercion.expectText_rename · v) fun _ => .bool _

theorem contains_follows :
    Follows ρ n (Renamed ρ) (eval (.contains l r) s) (eval (.contains l r) s') := by
  rw [eval, eval]
  exact hl.values hr fun _ v w => .ask (Collection.contains_rename · v w) .bool

theorem matchesValue_follows :
    Follows ρ n (Renamed ρ) (eval (.matchesValue l r) s) (eval (.matchesValue l r) s') := by
  rw [eval, eval]
  refine hl.value fun m hm v => .ask (Coercion.expectText_rename · v) fun text => ?_
  exact (hr.mono hm).value fun _ _ w => .ask (Collection.matchesValue_rename · text w) .bool

/-- The part of a value under a key. -/
theorem member_follows (ofMap : Bool) :
    Follows ρ n (Renamed ρ)
      (do let v ← eval l s
          let w ← eval r s
          Eval.reading fun h => Collection.member h v w ofMap)
      (do let v ← eval l s'
          let w ← eval r s'
          Eval.reading fun h => Collection.member h v w ofMap) :=
  hl.values hr fun _ v w =>
    .reading (Value.rename ρ) (fun _ _ hr _ => Collection.member_rename hr v w ofMap)
      fun _ _ hh _ hu => ⟨Collection.below_of_member hh hu, rfl⟩

end

theorem substring_follows {start finish : Expr}
    (he : Follows ρ n (Renamed ρ) (eval e s) (eval e s'))
    (hstart : Follows ρ n (Renamed ρ) (eval start s) (eval start s'))
    (hfinish : Follows ρ n (Renamed ρ) (eval finish s) (eval finish s')) :
    Follows ρ n (Renamed ρ) (eval (.substring e start finish) s)
      (eval (.substring e start finish) s') := by
  rw [eval, eval]
  refine he.value fun m hm v => (hstart.mono hm).values (hfinish.mono hm) fun _ i j => ?_
  refine .ask (Coercion.expectText_rename · v) fun text => ?_
  exact .ask (Collection.substring_rename · text i j) fun part =>
    .pure fun _ _ => ⟨Value.below_of_primitive rfl, rfl⟩

/-! ### Loops -/

section

variable {collection predicate : Expr}
  (hcollection : Follows ρ n (Renamed ρ) (eval collection s) (eval collection s'))
  (hpredicate : ∀ m, n ≤ m → ∀ b : LoopBinding, (∀ v ∈ b.values, v.Below m) →
    Follows ρ m (Renamed ρ) (eval predicate (s.bind b)) (eval predicate (s'.bind (b.rename ρ))))

include hcollection hpredicate

theorem loop_follows (stop : Bool) :
    Follows ρ n (Renamed ρ) (loop stop collection predicate s)
      (loop stop collection predicate s') := by
  refine hcollection.value fun m hm v => ?_
  refine (items_follows v).bind fun m' hm' xs xs' ⟨hxs, hxs'⟩ => ?_
  have hsearch : Follows ρ m' Same (search stop (fun b => truth predicate (s.bind b)) xs.bindings)
      (search stop (fun b => truth predicate (s'.bind b))
        (xs.bindings.map (LoopBinding.rename ρ))) :=
    .search stop fun b hb =>
      truth_follows (hpredicate m' (Nat.le_trans hm hm') b (hxs b hb))
  rw [hxs', Items.bindings_rename]
  refine hsearch.bind fun _ _ b b' hb => ?_
  cases hb
  exact .bool b

theorem filter_follows :
    Follows ρ n (Renamed ρ) (eval (.filter collection predicate) s)
      (eval (.filter collection predicate) s') := by
  rw [eval_filter, eval_filter]
  refine hcollection.value fun m hm v => ?_
  refine (items_follows v).bind fun m' hm' xs xs' ⟨hxs, hxs'⟩ h k hr hn => ?_
  cases hxs'
  have hgathered : Follows ρ m' (Renamed ρ) (xs.gathered h fun b => truth predicate (s.bind b))
      ((xs.rename ρ).gathered k fun b => truth predicate (s'.bind b)) :=
    .gathered hxs (fun b hb => truth_follows (hpredicate m' (Nat.le_trans hm hm') b (hxs b hb)))
      hr.display_rename
  exact hgathered h k hr hn

end

end

/-! ### Expressions -/

mutual

/-- **Evaluation follows itself** from a scope to one that renames it. -/
theorem eval_follows : (e : Expr) → {n : Nat} → {s s' : Scope} →
    s.Renames ρ n s' e.literals → Follows ρ n (Renamed ρ) (eval e s) (eval e s')
  | .literal v, n, s, s', hs => by
    rw [eval, eval]
    exact .pure fun m hm => (hs.literals v List.mem_cons_self).mono hm
  | .reference r, n, s, s', hs => reference_follows hs r
  | .negation e, n, s, s', hs => negation_follows (eval_follows e hs)
  | .length e, n, s, s', hs => by
    rw [eval, eval]
    exact length_follows (eval_follows e hs) fun _ => renamed_count
  | .isEmpty e, n, s, s', hs => by
    rw [eval, eval]
    exact length_follows (eval_follows e hs) fun _ i => renamed_bool (i == 0)
  | .isDefined e, n, s, s', hs => isDefined_follows (eval_follows e hs)
  | .instanceOf e type, n, s, s', hs => instanceOf_follows (eval_follows e hs) hs type
  | .equal l r, n, s, s', hs => by
    rw [eval, eval]
    exact strictEquals_follows (eval_follows l hs.left) (eval_follows r hs.right) hs.injective id
  | .notEqual l r, n, s, s', hs => by
    rw [eval, eval]
    exact strictEquals_follows (eval_follows l hs.left) (eval_follows r hs.right) hs.injective not
  | .compare order l r, n, s, s', hs =>
    compare_follows (eval_follows l hs.left) (eval_follows r hs.right) order
  | .any collection predicate, n, s, s', hs => by
    rw [eval_any, eval_any]
    exact loop_follows (eval_follows collection hs.left)
      (fun m hm b hb => eval_follows predicate ((hs.right.mono hm).bind hb)) true
  | .all collection predicate, n, s, s', hs => by
    rw [eval_all, eval_all]
    exact loop_follows (eval_follows collection hs.left)
      (fun m hm b hb => eval_follows predicate ((hs.right.mono hm).bind hb)) false
  | .filter collection predicate, n, s, s', hs =>
    filter_follows (eval_follows collection hs.left) fun m hm b hb =>
      eval_follows predicate ((hs.right.mono hm).bind hb)
  | .conjunction es, n, s, s', hs => by
    rw [eval_conjunction, eval_conjunction]
    exact connect_follows false es hs (renamed_bool true)
  | .disjunction es, n, s, s', hs => by
    rw [eval_disjunction, eval_disjunction]
    exact connect_follows true es hs (renamed_bool false)
  | .startsWith e start, n, s, s', hs => by
    rw [eval, eval]
    exact text_follows (eval_follows e hs.left) (eval_follows start hs.right) Text.startsWith
  | .endsWith e ending, n, s, s', hs => by
    rw [eval, eval]
    exact text_follows (eval_follows e hs.left) (eval_follows ending hs.right) Text.endsWith
  | .substring e start finish, n, s, s', hs =>
    substring_follows (eval_follows e hs.left.left) (eval_follows start hs.left.right)
      (eval_follows finish hs.right)
  | .contains collection item, n, s, s', hs =>
    contains_follows (eval_follows collection hs.left) (eval_follows item hs.right)
  | .matchesPattern e p, n, s, s', hs => matchesPattern_follows (eval_follows e hs) p
  | .matchesValue e pattern, n, s, s', hs =>
    matchesValue_follows (eval_follows e hs.left) (eval_follows pattern hs.right)
  | .member target key, n, s, s', hs => by
    rw [eval, eval]
    exact member_follows (eval_follows target hs.left) (eval_follows key hs.right) false
  | .index target key, n, s, s', hs => by
    rw [eval, eval]
    exact member_follows (eval_follows target hs.left) (eval_follows key hs.right) true

theorem connect_follows (stop : Bool) : (es : List Expr) → {n : Nat} → {s s' : Scope} →
    s.Renames ρ n s' (literalsOfAll es) → {last last' : Value} → Renamed ρ n last last' →
      Follows ρ n (Renamed ρ) (connect stop s es last) (connect stop s' es last')
  | [], n, s, s', hs, last, last', hlast => .pure fun m hm => hlast.mono hm
  | e :: es, n, s, s', hs, last, last', hlast => by
    rw [literalsOfAll] at hs
    rw [connect, connect]
    refine (eval_follows e hs.left).bind fun m hm v w hv => ?_
    rw [hv.eq, Value.isTruthy_rename]
    split
    · exact .pure fun _ hm => ⟨hv.below.mono hm, rfl⟩
    · exact connect_follows stop es (hs.right.mono hm) ⟨hv.below, rfl⟩

end

end Expr

/-! ## Additions -/

namespace Host

/-- Places with room for some objects between those that are there and those still to be
made. -/
def shift (n room : Nat) (id : ObjectId) : ObjectId :=
  if id.index < n then id else ⟨id.index + room⟩

variable {room : Nat}

theorem shift_injective (n room : Nat) : Function.Injective (shift n room) := by
  rintro ⟨i⟩ ⟨j⟩ hij
  simp only [shift] at hij
  split at hij <;> split at hij <;> simp only [ObjectId.mk.injEq] at hij ⊢ <;> omega

theorem Value.Below.rename_shift {v : Value} (hv : v.Below n) : v.rename (shift n room) = v := by
  cases v with
  | object id => exact congrArg Value.object (if_pos (hv id rfl))
  | _ => rfl

theorem ObjectKind.rename_eq_self {kind : ObjectKind}
    (hkind : ∀ v ∈ kind.contents, v.rename ρ = v) : kind.rename ρ = kind := by
  have helements : ∀ xs : List Value, (∀ v ∈ xs, v.rename ρ = v) → xs.map (Value.rename ρ) = xs :=
    fun xs hxs => (List.map_congr_left hxs).trans (List.map_id xs)
  have hentries : ∀ es : List (Value × Value), (∀ v ∈ es.flatMap (fun e => [e.1, e.2]),
      v.rename ρ = v) → es.map (renameEntry ρ) = es := by
    intro es hes
    refine (List.map_congr_left fun e he => Prod.ext ?_ ?_).trans (List.map_id es)
    · exact hes e.1 (List.mem_flatMap.2 ⟨e, he, by simp⟩)
    · exact hes e.2 (List.mem_flatMap.2 ⟨e, he, by simp⟩)
  cases kind with
  | array xs => exact congrArg array (helements xs hkind)
  | set xs => exact congrArg set (helements xs hkind)
  | weakSet xs => exact congrArg weakSet (helements xs hkind)
  | typedArray t xs => exact congrArg (typedArray t) (helements xs hkind)
  | map es => exact congrArg map (hentries es hkind)
  | weakMap es => exact congrArg weakMap (hentries es hkind)
  | _ => rfl

/-- All that an object of an orderly heap refers to is there. -/
theorem Heap.Orderly.rename_shift {h : Heap} (hh : h.Orderly) (id : ObjectId) :
    (h.object id).rename (shift h.objects.size room) = h.object id := by
  have hkind : (h.object id).kind.rename (shift h.objects.size room) = (h.object id).kind := by
    refine ObjectKind.rename_eq_self fun v hv => Value.Below.rename_shift ?_
    exact hh.hasValue_of_mem_contents (v := .object id) (ObjectKind.contents_kind _ ▸ hv)
  have hproperty : ∀ e ∈ (h.object id).properties.entries,
      (e.1, e.2.rename (shift h.objects.size room)) = e := by
    rintro ⟨key, p⟩ he
    cases p with
    | accessor getter => rfl
    | data v =>
      have hv := hh.properties id key v (OrderedTable.get?_of_mem (hh.keys id) he)
      exact congrArg (fun w => (key, Property.data w)) (Value.Below.rename_shift hv)
  have hproperties : (h.object id).properties.entries.map
      (fun e => (e.1, e.2.rename (shift h.objects.size room))) =
        (h.object id).properties.entries :=
    (List.map_congr_left hproperty).trans (List.map_id' _)
  have hprototype : (h.object id).prototype.map (shift h.objects.size room) =
      (h.object id).prototype := by
    cases hp : (h.object id).prototype with
    | none => rfl
    | some p => exact congrArg some (if_pos (hh.prototypes id p hp))
  rw [HostObject.rename, hkind, hproperties, hprototype]

/-- A heap renames one that it extends: what was added comes in between. -/
theorem Heap.Extends.renames {h k : Heap} (he : h.Extends k) (hh : h.Orderly) :
    h.Renames (shift h.objects.size (k.objects.size - h.objects.size)) k where
  orderly := hh
  injective := shift_injective _ _
  size_le := he.size_le
  object_eq id := by
    by_cases hid : id.index < h.objects.size
    · rw [hh.rename_shift, shift, if_pos hid, he.object_eq id hid]
    · have hsize := he.size_le
      have hlarge : ¬ k.Has (shift h.objects.size (k.objects.size - h.objects.size) id) := by
        rw [shift, if_neg hid]
        show ¬ id.index + (k.objects.size - h.objects.size) < k.objects.size
        omega
      rw [Heap.object_of_not_has hid, Heap.object_of_not_has hlarge, HostObject.rename_default]
  fresh i := by
    have hsize := he.size_le
    refine (if_neg (Nat.not_lt.2 (Nat.le_add_right _ _))).trans (congrArg ObjectId.mk ?_)
    show h.objects.size + i + (k.objects.size - h.objects.size) = k.objects.size + i
    omega

end Host

/-- What a scope binds, and what is written out in an expression, is there. -/
structure Scope.Suits (s : Scope) (e : Expr) (h : Heap) : Prop where
  bound : ∀ r v, s.resolve? r = some v → h.HasValue v
  written : ∀ v ∈ e.literals, h.HasValue v

namespace Scope.Suits

variable {s : Scope} {e : Expr} {h k : Heap}

theorem extend (hs : s.Suits e h) (he : h.Extends k) : s.Suits e k where
  bound r v hv := Value.Below.mono (hs.bound r v hv) he.size_le
  written v hv := Value.Below.mono (hs.written v hv) he.size_le

theorem bind (hs : s.Suits e h) {b : LoopBinding} (hb : ∀ v ∈ b.values, h.HasValue v) :
    (s.bind b).Suits e h where
  bound r v hv := (mem_values_or_resolve? hv).elim (hb v) (hs.bound r v)
  written := hs.written

/-- Nothing in a scope that suits is shifted. -/
theorem renames (hs : s.Suits e h) (room : Nat) :
    s.Renames (Host.shift h.objects.size room) h.objects.size s e.literals where
  injective := Host.shift_injective _ _
  resolve?_eq r := by
    cases hr : s.resolve? r with
    | none => rfl
    | some v => exact congrArg some (Value.Below.rename_shift (hs.bound r v hr)).symm
  below := hs.bound
  literals v hv := ⟨hs.written v hv, (Value.Below.rename_shift (hs.written v hv)).symm⟩

end Scope.Suits

namespace Expr

variable {s : Scope} {e : Expr} {h k : Heap}

/-- **What an expression comes to in a heap, it comes to in every heap that extends it**, with
other places for the objects that it makes. -/
theorem eval_of_extends (hh : h.Orderly) (hs : s.Suits e h) (he : h.Extends k) :
    Eval.Outcome (Host.shift h.objects.size (k.objects.size - h.objects.size)) h.objects.size
      (Renamed (Host.shift h.objects.size (k.objects.size - h.objects.size)))
      (eval e s h) (eval e s k) :=
  eval_follows e (hs.renames _) h k (he.renames hh) (Nat.le_refl _)

/-- Evaluation leaves an orderly heap, and its value is there. -/
theorem orderly_of_eval (hh : h.Orderly) (hs : s.Suits e h) {v : Value} {h' : Heap}
    (hv : eval e s h = .ok (v, h')) : h'.Orderly ∧ h'.HasValue v := by
  have houtcome := eval_of_extends hh hs (.refl h)
  rw [hv] at houtcome
  cases houtcome with
  | ok heaps _ results => exact ⟨heaps.orderly, results.below⟩

/-- The truth value of a predicate does not depend on what was added. -/
theorem truth_of_extends (hh : h.Orderly) (hs : s.Suits e h) (he : h.Extends k) {b : Bool}
    {h' : Heap} (hb : truth e s h = .ok (b, h')) :
    ∃ k', truth e s k = .ok (b, k') ∧ k.Extends k' := by
  have houtcome := eval_of_extends hh hs he
  rw [truth_apply] at hb
  cases hv : eval e s h with
  | error err =>
    rw [hv] at hb
    cases hb
  | ok r =>
    rw [hv] at hb houtcome
    cases hw : eval e s k with
    | error err =>
      rw [hw] at houtcome
      cases houtcome
    | ok r' =>
      obtain ⟨w, k'⟩ := r'
      rw [hw] at houtcome
      cases hb
      cases houtcome with
      | ok _ _ results =>
        refine ⟨k', ?_, (built_eval e s).extends hw⟩
        rw [truth_apply, hw, results.eq, Except.map, Value.isTruthy_rename]

end Expr

end ProbeEngine

import ProbeEngine.Proofs.Expr.Built
import ProbeEngine.Proofs.Host.Building

/-!
# Evaluation only adds objects

A filter makes a new collection, so evaluating an expression changes the heap. It only
adds to it: a heap `Extends` another one if all objects of that one are as they were,
with their kinds, their own properties in order and their prototypes.

* `Eval.Built.extends` — what an evaluation leaves behind extends what it found;
* `Eval.Reaches.extends` — so does each heap that it passes through, also if it fails
  later on;
* `Eval.Leaves.extends` — and so does what a row of evaluations leaves behind.
-/

namespace ProbeEngine

open Host (Value Heap ObjectId)

namespace Host.Heap

/-- A heap that has all objects of another one as they were, and perhaps more. -/
structure Extends (h h' : Heap) : Prop where
  size_le : h.objects.size ≤ h'.objects.size
  object_eq : ∀ id : ObjectId, id.index < h.objects.size → h'.object id = h.object id

theorem Extends.refl (h : Heap) : h.Extends h := ⟨Nat.le_refl _, fun _ _ => rfl⟩

theorem Extends.trans {h h₁ h' : Heap} (hfirst : h.Extends h₁) (hnext : h₁.Extends h') :
    h.Extends h' where
  size_le := Nat.le_trans hfirst.size_le hnext.size_le
  object_eq id hid := by
    rw [hnext.object_eq id (Nat.lt_of_lt_of_le hid hfirst.size_le), hfirst.object_eq id hid]

theorem extends_allocate (h : Heap) (o : HostObject) : h.Extends (h.allocate o).2 where
  size_le := by
    rw [size_allocate]
    exact Nat.le_succ _
  object_eq id hid := by rw [object_allocate, if_neg (Nat.ne_of_lt hid)]

theorem extends_allocateKind (h : Heap) (kind : ObjectKind) :
    h.Extends (h.allocateKind kind).2 :=
  h.extends_allocate _

/-- Writing a property of an object that was not there leaves those alone that were. -/
theorem Extends.setData {h h' : Heap} (he : h.Extends h') {id : ObjectId}
    (hnew : h.objects.size ≤ id.index) (key : PropertyKey) (v : Value) :
    h.Extends (h'.setData id key v) where
  size_le := by
    rw [Heap.setData, define, size_modify]
    exact he.size_le
  object_eq i hi := by
    have hne : i ≠ id := fun heq => by
      subst heq
      omega
    rw [Heap.setData, define, object_modify, if_neg fun hwritten => hne hwritten.1,
      he.object_eq i hi]

theorem Extends.setAll {h h' : Heap} (he : h.Extends h') {id : ObjectId}
    (hnew : h.objects.size ≤ id.index) (ps : List (String × Value)) :
    h.Extends (h'.setAll id ps) := by
  induction ps generalizing h' with
  | nil => exact he
  | cons p ps ih => exact ih (he.setData hnew (.string p.1) p.2)

end Host.Heap

namespace Eval

/-! ## One evaluation -/

/-- **What an evaluation leaves behind extends what it found.** -/
theorem Built.extends {α : Type} {x : Eval α} (hx : Built x) {h h' : Heap} {a : α}
    (hr : x h = .ok (a, h')) : h.Extends h' := by
  induction hx generalizing h h' with
  | pure b =>
    cases hr
    exact .refl h
  | bind _ _ ihx ihf =>
    rename_i x f _ _
    have hbind : (x >>= f) h = (x h).bind fun r => f r.1 r.2 := rfl
    rw [hbind] at hr
    cases hxh : x h with
    | error e =>
      rw [hxh] at hr
      cases hr
    | ok r =>
      rw [hxh] at hr
      exact (ihx hxh).trans (ihf r.1 hr)
  | reading hf =>
    rename_i f
    rw [Eval.reading] at hr
    cases hfh : f h with
    | error e =>
      rw [hfh] at hr
      cases hr
    | ok b =>
      rw [hfh] at hr
      cases hr
      exact .refl h
  | allocate kind =>
    cases hr
    exact h.extends_allocateKind kind
  | allocateRecord ps =>
    cases hr
    exact (h.extends_allocateKind .ordinary).setAll (Nat.le_refl _) ps
  | succeeds _ _ =>
    rw [Eval.succeeds] at hr
    split at hr <;> cases hr <;> exact .refl h

/-- The heaps that an evaluation passes through when it starts from one, whether or not it
fails later on. -/
inductive Reaches : {α : Type} → Eval α → Heap → Heap → Prop
  | start {α : Type} (x : Eval α) (h : Heap) : Reaches x h h
  | finish {α : Type} {x : Eval α} {h h' : Heap} {a : α} (hx : Built x)
      (hr : x h = .ok (a, h')) : Reaches x h h'
  | first {α β : Type} {x : Eval α} {f : α → Eval β} {h h' : Heap} (hx : Reaches x h h') :
      Reaches (x >>= f) h h'
  | next {α β : Type} {x : Eval α} {f : α → Eval β} {h h₁ h' : Heap} {a : α} (hx : Built x)
      (hr : x h = .ok (a, h₁)) (hf : Reaches (f a) h₁ h') : Reaches (x >>= f) h h'
  | attempt {α : Type} {x : Eval α} {h h' : Heap} (hx : Reaches x h h') :
      Reaches (succeeds x) h h'

/-- **Every heap that an evaluation passes through extends the one that it found.** -/
theorem Reaches.extends {α : Type} {x : Eval α} {h h' : Heap} (hr : Reaches x h h') :
    h.Extends h' := by
  induction hr with
  | start x h => exact .refl h
  | finish hx hr => exact hx.extends hr
  | first _ ih => exact ih
  | next hx hr _ ih => exact (hx.extends hr).trans ih
  | attempt _ ih => exact ih

/-! ## Evaluations in a row -/

/-- The heaps that some evaluations may leave behind, each beginning with what the one
before it left, and each as far as it came. -/
inductive Leaves : List (Eval Value) → Heap → Heap → Prop
  | nil (h : Heap) : Leaves [] h h
  | cons {x : Eval Value} {xs : List (Eval Value)} {h h₁ h' : Heap} (head : Reaches x h h₁)
      (tail : Leaves xs h₁ h') : Leaves (x :: xs) h h'

theorem Leaves.extends {xs : List (Eval Value)} {h h' : Heap} (hl : Leaves xs h h') :
    h.Extends h' := by
  induction hl with
  | nil h => exact .refl h
  | cons head _ ih => exact head.extends.trans ih

end Eval

end ProbeEngine

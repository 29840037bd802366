import ProbeEngine.Proofs.Expr.Duality
import ProbeEngine.Proofs.Host.Equality

/-!
# Membership

Whether a collection holds a value is asked in three ways: by `contains`, by a loop that
compares each item with it, and of a map by looking up its entry. All three go through what
the collection is searched by, its elements or the keys of its entries, in order. The loop
uses the strict equality of expressions, the others that of collections, and so **they agree but
for NaN** (`membership_agrees`), which a collection may hold and a loop does not find.
-/

namespace ProbeEngine

open Host (Value Heap Kind)

/-- The elements of a collection that has elements. -/
def Host.Kind.elements? : Kind → Option (List Value)
  | .array xs | .typedArray _ xs | .set xs | .weakSet xs => some xs
  | _ => none

/-- The entries of a collection that has keys and values. -/
def Host.Kind.entries? : Kind → Option (List (Value × Value))
  | .map es | .weakMap es => some es
  | _ => none

namespace Eval

/-- A search by a test that makes nothing is one through the list. -/
theorem search_map_of_pure {α β : Type} {test : β → Eval Bool} {f : α → β} {accepts : α → Bool}
    {xs : List α} {h : Heap} (hxs : ∀ x ∈ xs, test (f x) h = .ok (accepts x, h)) :
    search true test (xs.map f) h = .ok (xs.any accepts, h) := by
  induction xs with
  | nil => rfl
  | cons x xs ih =>
    rw [List.map_cons, search_cons_of_ok (hxs x List.mem_cons_self), List.any_cons]
    by_cases hx : accepts x = true
    · rw [if_pos hx, hx, Bool.true_or]
    · rw [if_neg hx, ih fun y hy => hxs y (List.mem_cons_of_mem x hy), Bool.eq_false_iff.2 hx,
        Bool.false_or]

end Eval

namespace Collection

variable {h : Heap} {v w : Value} {xs : List Value} {es : List (Value × Value)}

theorem contains_of_elements (hv : (h.kind v).elements? = some xs) (w : Value) :
    contains h v w = .ok (xs.any fun y => y.sameValueZero w) := by
  unfold contains
  cases hkind : h.kind v <;> rw [hkind] at hv <;> cases hv <;> rfl

theorem contains_of_entries (hv : (h.kind v).entries? = some es) (w : Value) :
    contains h v w = .ok (es.any fun e => e.1.sameValueZero w) := by
  unfold contains
  cases hkind : h.kind v <;> rw [hkind] at hv <;> cases hv <;> rfl

theorem exists_items_of_elements (hv : (h.kind v).elements? = some xs) :
    ∃ items, Collection.items h v = .ok items ∧ items.bindings = xs.map .item := by
  unfold Collection.items
  cases hkind : h.kind v <;> rw [hkind] at hv <;> cases hv <;> exact ⟨_, rfl, rfl⟩

theorem exists_items_of_entries (hv : (h.kind v).entries? = some es) :
    ∃ items, Collection.items h v = .ok items ∧
      items.bindings = es.map fun e => .entry e.1 e.2 := by
  unfold Collection.items
  cases hkind : h.kind v <;> rw [hkind] at hv <;> cases hv <;> exact ⟨_, rfl, rfl⟩

theorem member_of_entries (hv : (h.kind v).entries? = some es) (w : Value) :
    member h v w true = .ok (mapValue es w) := by
  unfold member
  cases hkind : h.kind v <;> rw [hkind] at hv <;> cases hv <;> rfl

/-- An entry is the first one whose key is the same as some value. -/
def FirstEntry (es : List (Value × Value)) (w : Value) (e : Value × Value) : Prop :=
  ∃ before after, es = before ++ e :: after ∧ e.1.sameValueZero w = true ∧
    ∀ e' ∈ before, e'.1.sameValueZero w = false

theorem find?_eq_some_iff_firstEntry {e : Value × Value} :
    (es.find? fun e => e.1.sameValueZero w) = some e ↔ FirstEntry es w e := by
  rw [List.find?_eq_some_iff_append, FirstEntry]
  simp only [Bool.not_eq_true', Bool.eq_false_iff]
  constructor
  · rintro ⟨hw, before, after, hes, hbefore⟩
    exact ⟨before, after, hes, hw, hbefore⟩
  · rintro ⟨before, after, hes, hw, hbefore⟩
    exact ⟨hw, before, after, hes, hbefore⟩

theorem mapValue_of_firstEntry {e : Value × Value} (he : FirstEntry es w e) :
    mapValue es w = e.2 := by
  rw [mapValue, find?_eq_some_iff_firstEntry.2 he]

/-- What a map has for a key is undefined if no entry has the key, or the first one that does
has no value. -/
theorem mapValue_eq_undefined_iff :
    mapValue es w = .undefined ↔
      (∀ e ∈ es, e.1.sameValueZero w = false) ∨ ∃ e, FirstEntry es w e ∧ e.2 = .undefined := by
  rw [mapValue]
  cases hfind : es.find? fun e => e.1.sameValueZero w with
  | none =>
    have hnone : ∀ e ∈ es, e.1.sameValueZero w = false := by
      simpa using hfind
    exact iff_of_true rfl (.inl hnone)
  | some e =>
    have he := find?_eq_some_iff_firstEntry.1 hfind
    constructor
    · exact fun hvalue => .inr ⟨e, he, hvalue⟩
    · rintro (hnone | ⟨e', he', hvalue⟩)
      · obtain ⟨before, after, -, hw, -⟩ := he
        cases (hnone e (List.mem_of_find?_eq_some hfind)).symm.trans hw
      · cases hfind.symm.trans (find?_eq_some_iff_firstEntry.2 he')
        exact hvalue

end Collection

namespace Expr

open Collection (FirstEntry mapValue)

variable {c x : Expr} {s : Scope} {h h₁ : Heap} {v w : Value} {xs : List Value}
  {es : List (Value × Value)}

/-- An expression with one value, outside of a loop and inside for whatever item, that makes no
objects. -/
structure Fixed (x : Expr) (s : Scope) (h : Heap) (w : Value) : Prop where
  outside : eval x s h = .ok (w, h)
  inside : ∀ b, eval x (s.bind b) h = .ok (w, h)

theorem eval_contains_of_ok {b : Bool} (hc : eval c s h = .ok (v, h₁))
    (hx : eval x s h₁ = .ok (w, h₁)) (hb : Collection.contains h₁ v w = .ok b) :
    eval (.contains c x) s h = .ok (.bool b, h₁) := by
  rw [eval, Eval.bind_apply_of_ok hc, Eval.bind_apply_of_ok hx, Eval.reading_bind_apply, hb]
  rfl

theorem eval_index_of_ok {r : Value} (hc : eval c s h = .ok (v, h₁))
    (hx : eval x s h₁ = .ok (w, h₁)) (hr : Collection.member h₁ v w true = .ok r) :
    eval (.index c x) s h = .ok (r, h₁) := by
  rw [eval, Eval.bind_apply_of_ok hc, Eval.bind_apply_of_ok hx, Eval.reading, hr]
  rfl

theorem eval_reference {r : Reference} (hr : s.resolve? r = some v) :
    eval (.reference r) s h = .ok (v, h) := by
  rw [eval, Eval.reading, hr]
  rfl

/-- A loop that compares what it binds with a value. -/
theorem eval_any_equal {α : Type} {items : Items} {f : α → LoopBinding} {part : α → Value}
    {ys : List α} {r : Reference} (hc : eval c s h = .ok (v, h₁)) (hx : x.Fixed s h₁ w)
    (hitems : Collection.items h₁ v = .ok items) (hbindings : items.bindings = ys.map f)
    (hr : ∀ y, (s.bind (f y)).resolve? r = some (part y)) :
    eval (.any c (.equal (.reference r) x)) s h =
      .ok (.bool (ys.any fun y => (part y).strictEquals w), h₁) := by
  have htest : ∀ y ∈ ys, truth (.equal (.reference r) x) (s.bind (f y)) h₁ =
      .ok ((part y).strictEquals w, h₁) := by
    intro y _
    rw [truth_apply, eval, Eval.bind_apply_of_ok (eval_reference (hr y)),
      Eval.bind_apply_of_ok (hx.inside (f y))]
    rfl
  have hsearch : Eval.search true (fun b => truth (.equal (.reference r) x) (s.bind b))
      (ys.map f) h₁ = .ok (ys.any fun y => (part y).strictEquals w, h₁) :=
    Eval.search_map_of_pure htest
  rw [eval_any, loop_apply hc hitems, hbindings, hsearch]
  rfl

/-- **The ways to ask for membership agree.** A collection of elements contains what is the same
as one of them, and a map what is the same as the key of one of its entries. A loop that compares
each element or key with the value answers alike, unless the value is NaN: then the collection
contains it exactly if it holds NaN. Looking up a value in a map gives the value of the first
entry whose key is the same, and undefined exactly if there is no such entry or its value is
undefined. What all this rests on is an equivalence. -/
theorem membership_agrees {c x : Expr} {s : Scope} {h h₁ : Heap} {v w : Value}
    (hc : eval c s h = .ok (v, h₁)) (hx : x.Fixed s h₁ w) :
    (Equivalence fun v w : Value => v.sameValueZero w = true) ∧
    (∀ xs, (h₁.kind v).elements? = some xs →
      eval (.contains c x) s h = .ok (.bool (xs.any fun y => y.sameValueZero w), h₁) ∧
      (¬ w.IsNaN →
        eval (.any c (.equal (.reference .item) x)) s h = eval (.contains c x) s h) ∧
      (w.IsNaN →
        (eval (.contains c x) s h = .ok (.bool true, h₁) ↔ ∃ y ∈ xs, y.IsNaN))) ∧
    ∀ es, (h₁.kind v).entries? = some es →
      eval (.contains c x) s h = .ok (.bool (es.any fun e => e.1.sameValueZero w), h₁) ∧
      (¬ w.IsNaN →
        eval (.any c (.equal (.reference .key) x)) s h = eval (.contains c x) s h) ∧
      (w.IsNaN →
        (eval (.contains c x) s h = .ok (.bool true, h₁) ↔ ∃ e ∈ es, e.1.IsNaN)) ∧
      ∃ r, eval (.index c x) s h = .ok (r, h₁) ∧ (∀ e, FirstEntry es w e → r = e.2) ∧
        (r = .undefined ↔ (∀ e ∈ es, e.1.sameValueZero w = false) ∨
          ∃ e, FirstEntry es w e ∧ e.2 = .undefined) := by
  refine ⟨Value.sameValueZero_equivalence, fun xs hxs => ?_, fun es hes => ?_⟩
  · have hcontains := eval_contains_of_ok hc hx.outside (Collection.contains_of_elements hxs w)
    obtain ⟨items, hitems, hbindings⟩ := Collection.exists_items_of_elements hxs
    refine ⟨hcontains, fun hw => ?_, fun hw => ?_⟩
    · rw [hcontains, eval_any_equal hc hx hitems hbindings fun y => rfl]
      simp only [Value.strictEquals_eq_sameValueZero hw]
    · simp [hcontains, Value.sameValueZero_of_isNaN hw]
  · have hcontains := eval_contains_of_ok hc hx.outside (Collection.contains_of_entries hes w)
    obtain ⟨items, hitems, hbindings⟩ := Collection.exists_items_of_entries hes
    refine ⟨hcontains, fun hw => ?_, fun hw => ?_, mapValue es w,
      eval_index_of_ok hc hx.outside (Collection.member_of_entries hes w),
      fun e he => Collection.mapValue_of_firstEntry he, Collection.mapValue_eq_undefined_iff⟩
    · have hany : eval (.any c (.equal (.reference .key) x)) s h =
          .ok (.bool (es.any fun e => e.1.strictEquals w), h₁) :=
        eval_any_equal hc hx hitems hbindings fun e => rfl
      rw [hcontains, hany]
      simp only [Value.strictEquals_eq_sameValueZero hw]
    · simp [hcontains, Value.sameValueZero_of_isNaN hw]

/-- A map with NaN and zero for keys: it contains a negative zero, and a loop finds it, but its
entry has no value. -/
theorem membership_of_negative_zero :
    let es : List (Value × Value) :=
      [(.number Binary64.nan, .string "a"), (.number (Binary64.ofInt 0), .undefined)]
    let h : Heap := ⟨#[{ kind := .map es }], 0⟩
    let c : Expr := .literal (.object ⟨0⟩)
    let x : Expr := .literal (.number (Binary64.ofMagnitude true 0))
    let s : Scope := { context := OrderedTable.ofList [] }
    eval (.any c (.equal (.reference .key) x)) s h = .ok (.bool true, h) ∧
      eval (.contains c x) s h = .ok (.bool true, h) ∧
      eval (.index c x) s h = .ok (.undefined, h) := by
  intro es h c x s
  have hx : x.Fixed s h (.number (Binary64.ofMagnitude true 0)) := ⟨rfl, fun _ => rfl⟩
  have hzero : ¬ Value.IsNaN (.number (Binary64.ofMagnitude true 0)) := by
    rintro ⟨y, hy, hnan⟩
    cases hy
    exact absurd hnan (by decide +kernel)
  obtain ⟨hcontains, hany, -, r, hindex, hfirst, -⟩ :=
    (membership_agrees (c := c) (v := .object ⟨0⟩) rfl hx).2.2 es rfl
  have hfound : (es.any fun e => e.1.sameValueZero (.number (Binary64.ofMagnitude true 0))) =
      true := by decide +kernel
  rw [hfound] at hcontains
  refine ⟨(hany hzero).trans hcontains, hcontains, ?_⟩
  rw [hindex, hfirst _ ⟨[_], [], rfl, by decide +kernel, by simp; decide +kernel⟩]

end Expr

end ProbeEngine

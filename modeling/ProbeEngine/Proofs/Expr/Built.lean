import ProbeEngine.Expr.Eval

/-!
# What evaluation is made of

Whatever the expression, its evaluation is put together from few things: questions
to the heap (`Eval.Read`), additions of objects, and tests of whether a part of it
succeeds. `Expr.built_eval` says so once, along the expression; a property of
evaluation then needs a look at these things alone.
-/

namespace ProbeEngine

open Host (Value Heap)

namespace Eval

/-- The questions that evaluation asks of the heap. -/
inductive Read : {α : Type} → (Heap → Except EvalError α) → Prop
  | resolve (s : Scope) (r : Reference) :
      Read fun _ =>
        match s.resolve? r with
        | some v => .ok v
        | none => .error (.notDefined r.name)
  | length (v : Value) : Read fun h => Collection.length h v
  | items (v : Value) : Read fun h => Collection.items h v
  | instanceOf (context : Context) (v : Value) (type : TypeName) :
      Read fun h => Collection.instanceOf h context v type
  | guardValue (v : Value) : Read fun h => Coercion.guardValue h v
  | compareValues (v w : Value) : Read fun h => Coercion.compareValues h v w
  | toText (v : Value) : Read fun h => Coercion.toText h v
  | expectText (v : Value) : Read fun h => Coercion.expectText h v
  | substring (s : String) (start finish : Value) :
      Read fun h => Collection.substring h s start finish
  | contains (collection item : Value) : Read fun h => Collection.contains h collection item
  | matchesValue (s : String) (pattern : Value) :
      Read fun h => Collection.matchesValue h s pattern
  | member (target key : Value) (ofMap : Bool) :
      Read fun h => Collection.member h target key ofMap
  /-- The words for any values, as they are now. -/
  | display : Read fun h => .ok h.display

/-- A computation that is put together from questions and additions. -/
inductive Built : {α : Type} → Eval α → Prop
  | pure {α : Type} (a : α) : Built (pure a)
  | bind {α β : Type} {x : Eval α} {f : α → Eval β} (hx : Built x) (hf : ∀ a, Built (f a)) :
      Built (x >>= f)
  | reading {α : Type} {f : Heap → Except EvalError α} (hf : Read f) : Built (reading f)
  | allocate (kind : Host.ObjectKind) : Built (allocate kind)
  | allocateRecord (ps : List (String × Value)) : Built (allocateRecord ps)
  | succeeds {α : Type} {x : Eval α} (hx : Built x) : Built (succeeds x)

/-- A step that may be preceded by a guard. -/
theorem built_guarded {α : Type} {next : Unit → Eval α} {needed : Prop} [Decidable needed]
    (v : Value) (h : ∀ u, Built (next u)) :
    Built (if needed then (do
      let u ← reading fun heap => Coercion.guardValue heap v
      next u) else next ()) := by
  split
  · exact .bind (.reading (.guardValue v)) h
  · exact h ()

/-! ## Loops -/

section

variable {α : Type} {test : α → Eval Bool}

theorem built_anyOf (h : ∀ a, Built (test a)) (xs : List α) : Built (anyOf test xs) := by
  induction xs with
  | nil => exact .pure false
  | cons x xs ih =>
    rw [anyOf]
    refine .bind (h x) fun b => ?_
    cases b
    · exact ih
    · exact .pure true

theorem built_allOf (h : ∀ a, Built (test a)) (xs : List α) : Built (allOf test xs) := by
  induction xs with
  | nil => exact .pure true
  | cons x xs ih =>
    rw [allOf]
    refine .bind (h x) fun b => ?_
    cases b
    · exact .pure false
    · exact ih

theorem built_keep (h : ∀ a, Built (test a)) (xs : List α) : Built (keep test xs) := by
  induction xs with
  | nil => exact .pure []
  | cons x xs ih =>
    rw [keep]
    exact .bind (h x) fun _ => .bind ih fun _ => .pure _

end

end Eval

namespace Items

open Eval (Built)

variable {test : Scope → Eval Bool}

theorem built_anyOf (h : ∀ s, Built (test s)) (s : Scope) (xs : Items) :
    Built (xs.anyOf test s) := by
  cases xs with
  | elements xs => exact Eval.built_anyOf (fun _ => h _) xs
  | typed _ xs => exact Eval.built_anyOf (fun _ => h _) xs
  | mapEntries es => exact Eval.built_anyOf (fun _ => h _) es
  | properties es => exact Eval.built_anyOf (fun _ => h _) es

theorem built_allOf (h : ∀ s, Built (test s)) (s : Scope) (xs : Items) :
    Built (xs.allOf test s) := by
  cases xs with
  | elements xs => exact Eval.built_allOf (fun _ => h _) xs
  | typed _ xs => exact Eval.built_allOf (fun _ => h _) xs
  | mapEntries es => exact Eval.built_allOf (fun _ => h _) es
  | properties es => exact Eval.built_allOf (fun _ => h _) es

/-- Of the heap, a filter reads the words for the keys that it keeps. -/
theorem built_filtered (h : ∀ s, Built (test s)) (s : Scope) (xs : Items) :
    Built (do let heap ← get; xs.filtered heap test s) := by
  cases xs with
  | elements xs =>
    show Built (Eval.keep (fun v => test (s.withItem v)) xs >>= fun ys =>
      Eval.allocate (.array ys))
    exact .bind (Eval.built_keep (fun _ => h _) xs) fun ys => .allocate (.array ys)
  | typed t xs =>
    show Built (Eval.keep (fun v => test (s.withItem v)) xs >>= fun ys =>
      Eval.allocate (.typedArray t ys))
    exact .bind (Eval.built_keep (fun _ => h _) xs) fun ys => .allocate (.typedArray t ys)
  | mapEntries es =>
    show Built (Eval.keep (fun e => test (s.withEntry e.1 e.2)) es >>= fun kept =>
      Eval.allocate (.map kept))
    exact .bind (Eval.built_keep (fun _ => h _) es) fun kept => .allocate (.map kept)
  | properties es =>
    show Built (Eval.reading (fun heap => .ok heap.display) >>= fun words =>
      Eval.keep (fun e => test (s.withEntry e.1 e.2)) es >>= fun kept =>
        Eval.allocateRecord (kept.map fun e => (words e.1, e.2)))
    exact .bind (.reading .display) fun words =>
      .bind (Eval.built_keep (fun _ => h _) es) fun kept => .allocateRecord _

end Items

namespace Expr

open Eval (Built)

/-- The test of a loop: whether the predicate counts as true. -/
theorem built_test {e : Expr} (h : ∀ s, Built (eval e s)) (s : Scope) :
    Built (do return (← eval e s).isTruthy) :=
  .bind (h s) fun v => .pure v.isTruthy

mutual

/-- **Evaluation is built from questions and additions**, whatever the expression. -/
theorem built_eval : (e : Expr) → (s : Scope) → Built (eval e s)
  | .literal v, s => by
    rw [eval]
    exact .pure v
  | .reference r, s => by
    rw [eval]
    exact .reading (.resolve s r)
  | .negation e, s => by
    rw [eval]
    exact .bind (built_eval e s) fun v => .pure _
  | .length e, s => by
    rw [eval]
    exact .bind (built_eval e s) fun v => .bind (.reading (.length v)) fun n => .pure _
  | .isEmpty e, s => by
    rw [eval]
    exact .bind (built_eval e s) fun v => .bind (.reading (.length v)) fun n => .pure _
  | .isDefined e, s => by
    rw [eval]
    exact .bind (.succeeds (built_eval e s)) fun b => .pure _
  | .instanceOf e type, s => by
    rw [eval]
    exact .bind (built_eval e s) fun v =>
      .bind (.reading (.instanceOf s.context v type)) fun b => .pure _
  | .equal l r, s => by
    rw [eval]
    exact .bind (built_eval l s) fun v => .bind (built_eval r s) fun w => .pure _
  | .notEqual l r, s => by
    rw [eval]
    exact .bind (built_eval l s) fun v => .bind (built_eval r s) fun w => .pure _
  | .compare order l r, s => by
    rw [eval]
    exact .bind (built_eval l s) fun v => Eval.built_guarded v fun _ =>
      .bind (built_eval r s) fun w => Eval.built_guarded w fun _ =>
        .bind (.reading (.compareValues v w)) fun o => .pure _
  | .any collection predicate, s => by
    rw [eval]
    exact .bind (built_eval collection s) fun v => .bind (.reading (.items v)) fun xs =>
      .bind (xs.built_anyOf (built_test (built_eval predicate)) s) fun b => .pure _
  | .all collection predicate, s => by
    rw [eval]
    exact .bind (built_eval collection s) fun v => .bind (.reading (.items v)) fun xs =>
      .bind (xs.built_allOf (built_test (built_eval predicate)) s) fun b => .pure _
  | .filter collection predicate, s => by
    rw [eval]
    exact .bind (built_eval collection s) fun v => .bind (.reading (.items v)) fun xs =>
      xs.built_filtered (built_test (built_eval predicate)) s
  | .conjunction es, s => by
    rw [eval]
    exact built_evalConjunction es s (.bool true)
  | .disjunction es, s => by
    rw [eval]
    exact built_evalDisjunction es s (.bool false)
  | .startsWith e start, s => by
    rw [eval]
    exact .bind (built_eval e s) fun v => .bind (built_eval start s) fun w =>
      .bind (.reading (.toText w)) fun t => .bind (.reading (.expectText v)) fun text => .pure _
  | .endsWith e ending, s => by
    rw [eval]
    exact .bind (built_eval e s) fun v => .bind (built_eval ending s) fun w =>
      .bind (.reading (.toText w)) fun t => .bind (.reading (.expectText v)) fun text => .pure _
  | .substring e start finish, s => by
    rw [eval]
    exact .bind (built_eval e s) fun v => .bind (built_eval start s) fun i =>
      .bind (built_eval finish s) fun j => .bind (.reading (.expectText v)) fun text =>
        .bind (.reading (.substring text i j)) fun part => .pure _
  | .contains collection item, s => by
    rw [eval]
    exact .bind (built_eval collection s) fun v => .bind (built_eval item s) fun w =>
      .bind (.reading (.contains v w)) fun b => .pure _
  | .matchesPattern e p, s => by
    rw [eval]
    exact .bind (built_eval e s) fun v => .bind (.reading (.expectText v)) fun text => .pure _
  | .matchesValue e pattern, s => by
    rw [eval]
    exact .bind (built_eval e s) fun v => .bind (.reading (.expectText v)) fun text =>
      .bind (built_eval pattern s) fun w =>
        .bind (.reading (.matchesValue text w)) fun b => .pure _
  | .member target key, s => by
    rw [eval]
    exact .bind (built_eval target s) fun v => .bind (built_eval key s) fun k =>
      .reading (.member v k false)
  | .index target key, s => by
    rw [eval]
    exact .bind (built_eval target s) fun v => .bind (built_eval key s) fun k =>
      .reading (.member v k true)

theorem built_evalConjunction :
    (es : List Expr) → (s : Scope) → (last : Value) → Built (evalConjunction es s last)
  | [], s, last => by
    rw [evalConjunction]
    exact .pure last
  | e :: es, s, last => by
    rw [evalConjunction]
    refine .bind (built_eval e s) fun v => ?_
    split
    · exact built_evalConjunction es s v
    · exact .pure v

theorem built_evalDisjunction :
    (es : List Expr) → (s : Scope) → (last : Value) → Built (evalDisjunction es s last)
  | [], s, last => by
    rw [evalDisjunction]
    exact .pure last
  | e :: es, s, last => by
    rw [evalDisjunction]
    refine .bind (built_eval e s) fun v => ?_
    split
    · exact .pure v
    · exact built_evalDisjunction es s v

end

end Expr

end ProbeEngine

import ProbeEngine.Expr.Collection

/-!
# Evaluating expressions

`Expr.eval` gives the value of an expression in a scope. It reads the heap and
adds the collections that filters make; it changes no object and calls no code
of the host.
-/

namespace ProbeEngine

open Host (Value Heap)

/-- A computation that may add objects to the heap or fail. -/
abbrev Eval := StateT Heap (Except EvalError)

namespace Eval

/-- A computation that only reads the heap. -/
def reading {α : Type} (f : Heap → Except EvalError α) : Eval α := fun h =>
  (f h).map fun a => (a, h)

/-- Adds an object of a kind. -/
def allocate (kind : Host.ObjectKind) : Eval Value := fun h =>
  let (id, h') := h.allocateKind kind
  .ok (.object id, h')

/-- Adds a plain object with some properties. -/
def allocateRecord (ps : List (String × Value)) : Eval Value := fun h =>
  let (id, h') := h.allocateKind .ordinary
  .ok (.object id, h'.setAll id ps)

/-- Whether a computation succeeds. What it adds to the heap is dropped. -/
def succeeds {α : Type} (c : Eval α) : Eval Bool := fun h =>
  match c h with
  | .ok _ => .ok (true, h)
  | .error _ => .ok (false, h)

/-- Whether some element satisfies a test; the first one ends the search. -/
def anyOf {α : Type} (test : α → Eval Bool) : List α → Eval Bool
  | [] => pure false
  | x :: xs => do
    if ← test x then pure true else anyOf test xs

/-- Whether every element satisfies a test; the first that does not ends the
search. -/
def allOf {α : Type} (test : α → Eval Bool) : List α → Eval Bool
  | [] => pure true
  | x :: xs => do
    if ← test x then allOf test xs else pure false

/-- The elements that satisfy a test, in order. -/
def keep {α : Type} (test : α → Eval Bool) : List α → Eval (List α)
  | [] => pure []
  | x :: xs => do
    let kept ← test x
    let rest ← keep test xs
    pure (if kept then x :: rest else rest)

end Eval

/-- Some items with the tests of a predicate on each: elements by themselves,
entries by key and value. -/
def Items.anyOf (test : Scope → Eval Bool) (s : Scope) : Items → Eval Bool
  | .elements xs => Eval.anyOf (fun v => test (s.withItem v)) xs
  | .typed _ xs => Eval.anyOf (fun v => test (s.withItem v)) xs
  | .mapEntries es => Eval.anyOf (fun e => test (s.withEntry e.1 e.2)) es
  | .properties es => Eval.anyOf (fun e => test (s.withEntry e.1 e.2)) es

/-- Whether a predicate holds for all items. -/
def Items.allOf (test : Scope → Eval Bool) (s : Scope) : Items → Eval Bool
  | .elements xs => Eval.allOf (fun v => test (s.withItem v)) xs
  | .typed _ xs => Eval.allOf (fun v => test (s.withItem v)) xs
  | .mapEntries es => Eval.allOf (fun e => test (s.withEntry e.1 e.2)) es
  | .properties es => Eval.allOf (fun e => test (s.withEntry e.1 e.2)) es

/-- The collection of the items for which a predicate holds, of the same sort:
arrays and sets make an array, other objects and texts a plain object. -/
def Items.filtered (h : Heap) (test : Scope → Eval Bool) (s : Scope) : Items → Eval Value
  | .elements xs => do
    Eval.allocate (.array (← Eval.keep (fun v => test (s.withItem v)) xs))
  | .typed t xs => do
    Eval.allocate (.typedArray t (← Eval.keep (fun v => test (s.withItem v)) xs))
  | .mapEntries es => do
    Eval.allocate (.map (← Eval.keep (fun e => test (s.withEntry e.1 e.2)) es))
  | .properties es => do
    let kept ← Eval.keep (fun e => test (s.withEntry e.1 e.2)) es
    Eval.allocateRecord (kept.map fun e => (h.display e.1, e.2))

namespace Expr

mutual

/-- The value of an expression in a scope. Operands are evaluated from left to
right, and each one that has to be of a type is checked where the host would. -/
def eval : Expr → Scope → Eval Value
  | .literal v, _ => pure v
  | .reference r, s =>
    Eval.reading fun _ =>
      match s.resolve? r with
      | some v => .ok v
      | none => .error (.notDefined r.name)
  | .negation e, s => do
    let v ← eval e s
    pure (.bool !v.isTruthy)
  | .length e, s => do
    let v ← eval e s
    let n ← Eval.reading fun h => Collection.length h v
    pure (Collection.countValue n)
  | .isEmpty e, s => do
    let v ← eval e s
    let n ← Eval.reading fun h => Collection.length h v
    pure (.bool (n == 0))
  | .isDefined e, s => do
    let b ← Eval.succeeds (eval e s)
    pure (.bool b)
  | .instanceOf e type, s => do
    let v ← eval e s
    let b ← Eval.reading fun h => Collection.instanceOf h s.context v type
    pure (.bool b)
  | .equal l r, s => do
    let v ← eval l s
    let w ← eval r s
    pure (.bool (v.strictEquals w))
  | .notEqual l r, s => do
    let v ← eval l s
    let w ← eval r s
    pure (.bool !(v.strictEquals w))
  | .compare order l r, s => do
    let v ← eval l s
    if !l.isNumberLiteral then Eval.reading fun h => Coercion.guardValue h v
    let w ← eval r s
    if !r.isNumberLiteral then Eval.reading fun h => Coercion.guardValue h w
    let o ← Eval.reading fun h => Coercion.compareValues h v w
    pure (.bool (order.accepts o))
  | .any collection predicate, s => do
    let v ← eval collection s
    let xs ← Eval.reading fun h => Collection.items h v
    let b ← xs.anyOf (fun s' => do return (← eval predicate s').isTruthy) s
    pure (.bool b)
  | .all collection predicate, s => do
    let v ← eval collection s
    let xs ← Eval.reading fun h => Collection.items h v
    let b ← xs.allOf (fun s' => do return (← eval predicate s').isTruthy) s
    pure (.bool b)
  | .filter collection predicate, s => do
    let v ← eval collection s
    let xs ← Eval.reading fun h => Collection.items h v
    let h ← get
    xs.filtered h (fun s' => do return (← eval predicate s').isTruthy) s
  | .conjunction es, s => evalConjunction es s (.bool true)
  | .disjunction es, s => evalDisjunction es s (.bool false)
  | .startsWith e start, s => do
    let v ← eval e s
    let w ← eval start s
    let t ← Eval.reading fun h => Coercion.toText h w
    let text ← Eval.reading fun h => Coercion.expectText h v
    pure (.bool (Text.startsWith text t))
  | .endsWith e ending, s => do
    let v ← eval e s
    let w ← eval ending s
    let t ← Eval.reading fun h => Coercion.toText h w
    let text ← Eval.reading fun h => Coercion.expectText h v
    pure (.bool (Text.endsWith text t))
  | .substring e start finish, s => do
    let v ← eval e s
    let i ← eval start s
    let j ← eval finish s
    let text ← Eval.reading fun h => Coercion.expectText h v
    let part ← Eval.reading fun h => Collection.substring h text i j
    pure (.string part)
  | .contains collection item, s => do
    let v ← eval collection s
    let w ← eval item s
    let b ← Eval.reading fun h => Collection.contains h v w
    pure (.bool b)
  | .matchesPattern e p, s => do
    let v ← eval e s
    let text ← Eval.reading fun h => Coercion.expectText h v
    pure (.bool (p.occursIn text))
  | .matchesValue e pattern, s => do
    let v ← eval e s
    let text ← Eval.reading fun h => Coercion.expectText h v
    let w ← eval pattern s
    let b ← Eval.reading fun h => Collection.matchesValue h text w
    pure (.bool b)
  | .member target key, s => do
    let v ← eval target s
    let k ← eval key s
    Eval.reading fun h => Collection.member h v k false
  | .index target key, s => do
    let v ← eval target s
    let k ← eval key s
    Eval.reading fun h => Collection.member h v k true

/-- The first operand that is not true, or else the last one. -/
def evalConjunction : List Expr → Scope → Value → Eval Value
  | [], _, last => pure last
  | e :: es, s, _ => do
    let v ← eval e s
    if v.isTruthy then evalConjunction es s v else pure v

/-- The first operand that is true, or else the last one. -/
def evalDisjunction : List Expr → Scope → Value → Eval Value
  | [], _, last => pure last
  | e :: es, s, _ => do
    let v ← eval e s
    if v.isTruthy then pure v else evalDisjunction es s v

end

/-- The value of an expression for the variables of a call, and the heap with
what it added. -/
def evaluate (e : Expr) (context : Context) (h : Heap) : Except EvalError (Value × Heap) :=
  eval e { context := context } h

end Expr

end ProbeEngine

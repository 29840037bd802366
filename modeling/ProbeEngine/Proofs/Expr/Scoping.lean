import ProbeEngine.Expr.Eval
import ProbeEngine.Proofs.Expr.Grammar

/-!
# Scoping

The scope of an expression holds one item, one key and one value, and a loop writes
over some of them. What this means is said here by an evaluation that writes nothing
over: `evalInLoops` carries all loops around an expression, and a loop variable is that
of the innermost one that binds it (`resolveInLoops?`).

* `eval_eq_evalInLoops` — evaluating in a scope is evaluating inside the loops that the
  scope stands for, in any context with the same bindings for the names that the
  expression mentions;
* `evaluation_depends_on_mentions` — **the value of a compiled expression depends only on
  the names in it**, and the variables of loops are none of them.
-/

namespace ProbeEngine

open Host (Value Heap)

/-! ## Loops around an expression -/

/-- What a loop binds for one item of its collection: an element, or an entry. -/
inductive LoopBinding
  | item (v : Value)
  | entry (key value : Value)

namespace LoopBinding

/-- The element of a loop over elements. -/
def item? : LoopBinding → Option Value
  | .item v => some v
  | .entry _ _ => none

/-- The key of a loop over entries. -/
def key? : LoopBinding → Option Value
  | .item _ => none
  | .entry k _ => some k

/-- The value of a loop over entries. -/
def value? : LoopBinding → Option Value
  | .item _ => none
  | .entry _ v => some v

end LoopBinding

/-- What a reference names inside some loops, innermost first: a loop variable that of the
first loop that binds it, a variable of the call what the context binds it to. -/
def resolveInLoops? (context : Context) (loops : List LoopBinding) : Reference → Option Value
  | .item => loops.findSome? LoopBinding.item?
  | .key => loops.findSome? LoopBinding.key?
  | .value => loops.findSome? LoopBinding.value?
  | .variable name => context.get? name

namespace Items

/-- What a loop over some items binds, one after the other. -/
def bindings : Items → List LoopBinding
  | .elements xs | .typed _ xs => xs.map .item
  | .mapEntries es | .properties es => es.map fun e => .entry e.1 e.2

/-- The collection of the items for whose bindings a test holds. -/
def gathered (h : Heap) (test : LoopBinding → Eval Bool) : Items → Eval Value
  | .elements xs => do Eval.allocate (.array (← Eval.keep (fun v => test (.item v)) xs))
  | .typed t xs => do Eval.allocate (.typedArray t (← Eval.keep (fun v => test (.item v)) xs))
  | .mapEntries es => do Eval.allocate (.map (← Eval.keep (fun e => test (.entry e.1 e.2)) es))
  | .properties es => do
    let kept ← Eval.keep (fun e => test (.entry e.1 e.2)) es
    Eval.allocateRecord (kept.map fun e => (h.display e.1, e.2))

end Items

namespace Expr

/-! ## Evaluation inside loops -/

section

variable (context : Context)

/-- An operation on the value of its operand. -/
def apply₁ (f : Expr → Expr) (x : Eval Value) : Eval Value := do
  let v ← x
  eval (f (.literal v)) { context := context }

/-- An operation on the values of its operands, from left to right. -/
def apply₂ (f : Expr → Expr → Expr) (x y : Eval Value) : Eval Value := do
  let v ← x
  let w ← y
  eval (f (.literal v) (.literal w)) { context := context }

/-- An operation on the values of three operands, from left to right. -/
def apply₃ (f : Expr → Expr → Expr → Expr) (x y z : Eval Value) : Eval Value := do
  let u ← x
  let v ← y
  let w ← z
  eval (f (.literal u) (.literal v) (.literal w)) { context := context }

mutual

/-- The value of an expression inside some loops, innermost first. Every operand is
evaluated inside the same loops, but the predicate of a loop inside that one too. -/
def evalInLoops : Expr → List LoopBinding → Eval Value
  | .literal v, _ => pure v
  | .reference r, loops =>
    Eval.reading fun _ =>
      match resolveInLoops? context loops r with
      | some v => .ok v
      | none => .error (.notDefined r.name)
  | .negation e, loops => apply₁ context .negation (evalInLoops e loops)
  | .length e, loops => apply₁ context .length (evalInLoops e loops)
  | .isEmpty e, loops => apply₁ context .isEmpty (evalInLoops e loops)
  | .isDefined e, loops => do
    let b ← Eval.succeeds (evalInLoops e loops)
    pure (.bool b)
  | .instanceOf e type, loops => apply₁ context (.instanceOf · type) (evalInLoops e loops)
  | .equal l r, loops => apply₂ context .equal (evalInLoops l loops) (evalInLoops r loops)
  | .notEqual l r, loops => apply₂ context .notEqual (evalInLoops l loops) (evalInLoops r loops)
  | .compare order l r, loops => do
    let v ← evalInLoops l loops
    if !l.isNumberLiteral then Eval.reading fun h => Coercion.guardValue h v
    let w ← evalInLoops r loops
    if !r.isNumberLiteral then Eval.reading fun h => Coercion.guardValue h w
    let o ← Eval.reading fun h => Coercion.compareValues h v w
    pure (.bool (order.accepts o))
  | .any collection predicate, loops => do
    let v ← evalInLoops collection loops
    let xs ← Eval.reading fun h => Collection.items h v
    let b ← Eval.anyOf
      (fun b => do return (← evalInLoops predicate (b :: loops)).isTruthy) xs.bindings
    pure (.bool b)
  | .all collection predicate, loops => do
    let v ← evalInLoops collection loops
    let xs ← Eval.reading fun h => Collection.items h v
    let b ← Eval.allOf
      (fun b => do return (← evalInLoops predicate (b :: loops)).isTruthy) xs.bindings
    pure (.bool b)
  | .filter collection predicate, loops => do
    let v ← evalInLoops collection loops
    let xs ← Eval.reading fun h => Collection.items h v
    let h ← get
    xs.gathered h fun b => do return (← evalInLoops predicate (b :: loops)).isTruthy
  | .conjunction es, loops => conjunctionInLoops es loops (.bool true)
  | .disjunction es, loops => disjunctionInLoops es loops (.bool false)
  | .startsWith l r, loops =>
    apply₂ context .startsWith (evalInLoops l loops) (evalInLoops r loops)
  | .endsWith l r, loops => apply₂ context .endsWith (evalInLoops l loops) (evalInLoops r loops)
  | .substring e start finish, loops =>
    apply₃ context .substring (evalInLoops e loops) (evalInLoops start loops)
      (evalInLoops finish loops)
  | .contains l r, loops => apply₂ context .contains (evalInLoops l loops) (evalInLoops r loops)
  | .matchesPattern e p, loops => apply₁ context (.matchesPattern · p) (evalInLoops e loops)
  | .matchesValue e pattern, loops => do
    let v ← evalInLoops e loops
    let text ← Eval.reading fun h => Coercion.expectText h v
    let w ← evalInLoops pattern loops
    let b ← Eval.reading fun h => Collection.matchesValue h text w
    pure (.bool b)
  | .member l r, loops => apply₂ context .member (evalInLoops l loops) (evalInLoops r loops)
  | .index l r, loops => apply₂ context .index (evalInLoops l loops) (evalInLoops r loops)

/-- The first operand that is not true inside some loops, or else the last one. -/
def conjunctionInLoops : List Expr → List LoopBinding → Value → Eval Value
  | [], _, last => pure last
  | e :: es, loops, _ => do
    let v ← evalInLoops e loops
    if v.isTruthy then conjunctionInLoops es loops v else pure v

/-- The first operand that is true inside some loops, or else the last one. -/
def disjunctionInLoops : List Expr → List LoopBinding → Value → Eval Value
  | [], _, last => pure last
  | e :: es, loops, _ => do
    let v ← evalInLoops e loops
    if v.isTruthy then pure v else disjunctionInLoops es loops v

end

end

end Expr

/-! ## Scopes and the loops they stand for -/

namespace Scope

/-- The scope inside one more loop. -/
def bind (s : Scope) : LoopBinding → Scope
  | .item v => s.withItem v
  | .entry k v => s.withEntry k v

/-- A scope stands for some loops in a context as far as some names are concerned: its
loop variables are those of the loops, and the names are bound alike. -/
structure StandsFor (s : Scope) (context : Context) (loops : List LoopBinding)
    (names : List Mention) : Prop where
  names : ∀ m ∈ names, s.context.get? m.name = context.get? m.name
  item : s.item = loops.findSome? LoopBinding.item?
  key : s.key = loops.findSome? LoopBinding.key?
  value : s.value = loops.findSome? LoopBinding.value?

namespace StandsFor

variable {s : Scope} {context : Context} {loops : List LoopBinding} {names : List Mention}

theorem mono {names' : List Mention} (hs : s.StandsFor context loops names)
    (h : names' ⊆ names) : s.StandsFor context loops names' :=
  { hs with names := fun m hm => hs.names m (h hm) }

theorem left {names' : List Mention} (hs : s.StandsFor context loops (names ++ names')) :
    s.StandsFor context loops names :=
  hs.mono (List.subset_append_left names names')

theorem right {names' : List Mention} (hs : s.StandsFor context loops (names ++ names')) :
    s.StandsFor context loops names' :=
  hs.mono (List.subset_append_right names names')

/-- A loop over elements leaves the key and value of the loops around it, a loop over
entries leaves the item. -/
theorem bind (hs : s.StandsFor context loops names) (b : LoopBinding) :
    (s.bind b).StandsFor context (b :: loops) names := by
  cases b with
  | item v => exact ⟨hs.names, rfl, hs.key, hs.value⟩
  | entry k v => exact ⟨hs.names, hs.item, rfl, rfl⟩

theorem resolve?_eq {r : Reference} (hs : s.StandsFor context loops (Expr.reference r).mentions) :
    s.resolve? r = resolveInLoops? context loops r := by
  match r with
  | .item => exact hs.item
  | .key => exact hs.key
  | .value => exact hs.value
  | .variable name => exact hs.names (.variable name) (by simp [Expr.mentions])

end StandsFor

end Scope

/-! ## Loops over bindings -/

section

variable {α β : Type} {test : β → Eval Bool} {f : α → β}

theorem Eval.anyOf_map (xs : List α) :
    Eval.anyOf test (xs.map f) = Eval.anyOf (fun x => test (f x)) xs := by
  induction xs with
  | nil => rfl
  | cons x xs ih => rw [List.map_cons, Eval.anyOf, Eval.anyOf, ih]

theorem Eval.allOf_map (xs : List α) :
    Eval.allOf test (xs.map f) = Eval.allOf (fun x => test (f x)) xs := by
  induction xs with
  | nil => rfl
  | cons x xs ih => rw [List.map_cons, Eval.allOf, Eval.allOf, ih]

end

namespace Items

variable (test : Scope → Eval Bool) (s : Scope) (xs : Items)

theorem anyOf_eq : xs.anyOf test s = Eval.anyOf (fun b => test (s.bind b)) xs.bindings := by
  cases xs <;> simp only [anyOf, bindings, Eval.anyOf_map, Scope.bind]

theorem allOf_eq : xs.allOf test s = Eval.allOf (fun b => test (s.bind b)) xs.bindings := by
  cases xs <;> simp only [allOf, bindings, Eval.allOf_map, Scope.bind]

theorem filtered_eq (h : Heap) :
    xs.filtered h test s = xs.gathered h fun b => test (s.bind b) := by
  cases xs <;> rfl

end Items

namespace Expr

theorem instanceOf_eq {s : Scope} {context : Context} {loops : List LoopBinding} {e : Expr}
    {type : TypeName} (hs : s.StandsFor context loops (Expr.instanceOf e type).mentions)
    (h : Heap) (v : Value) :
    Collection.instanceOf h s.context v type = Collection.instanceOf h context v type := by
  cases type with
  | primitive word => rfl
  | constructor name =>
    have hname := hs.names (.constructor name) (by simp [mentions])
    simp only [Mention.name] at hname
    simp only [Collection.instanceOf, hname]

variable {context : Context}

mutual

/-- **Evaluating in a scope is evaluating inside the loops that it stands for.** The
induction is on the expression, with the loops around it left open. -/
theorem eval_eq_evalInLoops : (e : Expr) → {s : Scope} → {loops : List LoopBinding} →
    s.StandsFor context loops e.mentions → eval e s = evalInLoops context e loops
  | .literal v, s, loops, hs => by rw [eval, evalInLoops]
  | .reference r, s, loops, hs => by
    rw [eval, evalInLoops]
    exact congrArg (fun found : Option Value => Eval.reading fun _ =>
      match found with
      | some v => .ok v
      | none => .error (.notDefined r.name)) hs.resolve?_eq
  | .negation e, s, loops, hs => by
    rw [mentions] at hs
    simp only [evalInLoops, apply₁, eval, eval_eq_evalInLoops e hs, pure_bind]
  | .length e, s, loops, hs => by
    rw [mentions] at hs
    simp only [evalInLoops, apply₁, eval, eval_eq_evalInLoops e hs, pure_bind]
  | .isEmpty e, s, loops, hs => by
    rw [mentions] at hs
    simp only [evalInLoops, apply₁, eval, eval_eq_evalInLoops e hs, pure_bind]
  | .isDefined e, s, loops, hs => by
    rw [mentions] at hs
    simp only [evalInLoops, eval, eval_eq_evalInLoops e hs]
  | .instanceOf e type, s, loops, hs => by
    have he : s.StandsFor context loops e.mentions := by
      cases type with
      | primitive word => exact hs
      | constructor name => exact hs.left
    simp only [evalInLoops, apply₁, eval, eval_eq_evalInLoops e he, pure_bind, instanceOf_eq hs]
  | .equal l r, s, loops, hs => by
    rw [mentions] at hs
    simp only [evalInLoops, apply₂, eval, eval_eq_evalInLoops l hs.left,
      eval_eq_evalInLoops r hs.right, pure_bind]
  | .notEqual l r, s, loops, hs => by
    rw [mentions] at hs
    simp only [evalInLoops, apply₂, eval, eval_eq_evalInLoops l hs.left,
      eval_eq_evalInLoops r hs.right, pure_bind]
  | .compare order l r, s, loops, hs => by
    rw [mentions] at hs
    simp only [evalInLoops, eval, eval_eq_evalInLoops l hs.left, eval_eq_evalInLoops r hs.right]
  | .any collection predicate, s, loops, hs => by
    rw [mentions] at hs
    have hp : ∀ b, eval predicate (s.bind b) = evalInLoops context predicate (b :: loops) :=
      fun b => eval_eq_evalInLoops predicate (hs.right.bind b)
    simp only [evalInLoops, eval, eval_eq_evalInLoops collection hs.left, Items.anyOf_eq, hp]
  | .all collection predicate, s, loops, hs => by
    rw [mentions] at hs
    have hp : ∀ b, eval predicate (s.bind b) = evalInLoops context predicate (b :: loops) :=
      fun b => eval_eq_evalInLoops predicate (hs.right.bind b)
    simp only [evalInLoops, eval, eval_eq_evalInLoops collection hs.left, Items.allOf_eq, hp]
  | .filter collection predicate, s, loops, hs => by
    rw [mentions] at hs
    have hp : ∀ b, eval predicate (s.bind b) = evalInLoops context predicate (b :: loops) :=
      fun b => eval_eq_evalInLoops predicate (hs.right.bind b)
    simp only [evalInLoops, eval, eval_eq_evalInLoops collection hs.left, Items.filtered_eq, hp]
  | .conjunction es, s, loops, hs => by
    rw [mentions] at hs
    rw [eval, evalInLoops, evalConjunction_eq es (.bool true) hs]
  | .disjunction es, s, loops, hs => by
    rw [mentions] at hs
    rw [eval, evalInLoops, evalDisjunction_eq es (.bool false) hs]
  | .startsWith l r, s, loops, hs => by
    rw [mentions] at hs
    simp only [evalInLoops, apply₂, eval, eval_eq_evalInLoops l hs.left,
      eval_eq_evalInLoops r hs.right, pure_bind]
  | .endsWith l r, s, loops, hs => by
    rw [mentions] at hs
    simp only [evalInLoops, apply₂, eval, eval_eq_evalInLoops l hs.left,
      eval_eq_evalInLoops r hs.right, pure_bind]
  | .substring e start finish, s, loops, hs => by
    rw [mentions] at hs
    simp only [evalInLoops, apply₃, eval, eval_eq_evalInLoops e hs.left.left,
      eval_eq_evalInLoops start hs.left.right, eval_eq_evalInLoops finish hs.right, pure_bind]
  | .contains l r, s, loops, hs => by
    rw [mentions] at hs
    simp only [evalInLoops, apply₂, eval, eval_eq_evalInLoops l hs.left,
      eval_eq_evalInLoops r hs.right, pure_bind]
  | .matchesPattern e p, s, loops, hs => by
    rw [mentions] at hs
    simp only [evalInLoops, apply₁, eval, eval_eq_evalInLoops e hs, pure_bind]
  | .matchesValue e pattern, s, loops, hs => by
    rw [mentions] at hs
    simp only [evalInLoops, eval, eval_eq_evalInLoops e hs.left,
      eval_eq_evalInLoops pattern hs.right]
  | .member l r, s, loops, hs => by
    rw [mentions] at hs
    simp only [evalInLoops, apply₂, eval, eval_eq_evalInLoops l hs.left,
      eval_eq_evalInLoops r hs.right, pure_bind]
  | .index l r, s, loops, hs => by
    rw [mentions] at hs
    simp only [evalInLoops, apply₂, eval, eval_eq_evalInLoops l hs.left,
      eval_eq_evalInLoops r hs.right, pure_bind]

theorem evalConjunction_eq : (es : List Expr) → (last : Value) → {s : Scope} →
    {loops : List LoopBinding} → s.StandsFor context loops (mentionsOfAll es) →
    evalConjunction es s last = conjunctionInLoops context es loops last
  | [], last, s, loops, hs => by rw [evalConjunction, conjunctionInLoops]
  | e :: es, last, s, loops, hs => by
    rw [mentionsOfAll] at hs
    simp only [evalConjunction, conjunctionInLoops, eval_eq_evalInLoops e hs.left,
      evalConjunction_eq es _ hs.right]

theorem evalDisjunction_eq : (es : List Expr) → (last : Value) → {s : Scope} →
    {loops : List LoopBinding} → s.StandsFor context loops (mentionsOfAll es) →
    evalDisjunction es s last = disjunctionInLoops context es loops last
  | [], last, s, loops, hs => by rw [evalDisjunction, disjunctionInLoops]
  | e :: es, last, s, loops, hs => by
    rw [mentionsOfAll] at hs
    simp only [evalDisjunction, disjunctionInLoops, eval_eq_evalInLoops e hs.left,
      evalDisjunction_eq es _ hs.right]

end

/-- Contexts that bind the names of an expression alike give it the same value. -/
theorem evaluate_congr {e : Expr} {context context' : Context}
    (hnames : ∀ m ∈ e.mentions, context.get? m.name = context'.get? m.name) (h : Heap) :
    e.evaluate context h = e.evaluate context' h := by
  have hs : Scope.StandsFor { context := context } context' [] e.mentions := ⟨hnames, rfl, rfl, rfl⟩
  have hs' : Scope.StandsFor { context := context' } context' [] e.mentions :=
    ⟨fun _ _ => rfl, rfl, rfl, rfl⟩
  rw [evaluate, evaluate, eval_eq_evalInLoops e hs, eval_eq_evalInLoops e hs']

/-- **The value of a compiled expression depends only on the names in it.** In two contexts
that bind these names alike, whatever else they bind and in whatever order, it has the same
value and adds the same objects, or fails with the same error. This is its value inside the
loops of the expression itself, where a loop variable is that of the innermost loop that
binds it; the names of loop variables are none of those in it, so a context that binds them
has no say. -/
theorem evaluation_depends_on_mentions {node : Json} {e : Expr} (hc : compile node = .ok e) :
    (∀ context context' : Context,
      (∀ m ∈ e.mentions, context.get? m.name = context'.get? m.name) →
        ∀ h, e.evaluate context h = e.evaluate context' h) ∧
      (∀ context h, e.evaluate context h = evalInLoops context e [] h) ∧
      ∀ m ∈ e.mentions, m.name ∉ loopVariables := by
  have hvalue : ∀ context context' : Context,
      (∀ m ∈ e.mentions, context.get? m.name = context'.get? m.name) →
        ∀ h, e.evaluate context h = evalInLoops context' e [] h := by
    intro context context' hnames h
    have hs : Scope.StandsFor { context := context } context' [] e.mentions :=
      ⟨hnames, rfl, rfl, rfl⟩
    rw [evaluate, eval_eq_evalInLoops e hs]
  have hself : ∀ context h, e.evaluate context h = evalInLoops context e [] h :=
    fun context h => hvalue context context (fun _ _ => rfl) h
  refine ⟨fun context context' hnames h => ?_, hself, fun m hm => ?_⟩
  · rw [hvalue context context' hnames h, hself context' h]
  · exact not_mem_loopVariables_of_allowed ((of_compile node hc).allowed m hm)

/-- A loop over rows with a loop over the cells of each row in it: the item of the inner
loop is a cell, and a variable of the context with the name of a loop variable has no say. -/
theorem evaluation_of_nested_loops :
    let node : Json := .object [("any", .array [.object [("ref", .string "rows")],
      .object [("any", .array [.object [("ref", .string "@it")],
        .object [("eq", .array [.object [("ref", .string "@it")], .string "b"])]])]])]
    let e : Expr := .any (.reference (.variable "rows"))
      (.any (.reference .item) (.equal (.reference .item) (.literal (.string "b"))))
    let heap : Heap := ⟨#[{ kind := .array [.string "a"] }, { kind := .array [.string "b"] },
      { kind := .array [.object ⟨0⟩, .object ⟨1⟩] }], 0⟩
    let context : Context := OrderedTable.ofList [("rows", .object ⟨2⟩)]
    let context' : Context := OrderedTable.ofList [("@it", .string "c"), ("rows", .object ⟨2⟩)]
    compile node = .ok e ∧ (∀ m ∈ e.mentions, context.get? m.name = context'.get? m.name) ∧
      e.evaluate context heap = .ok (.bool true, heap) ∧
      e.evaluate context' heap = .ok (.bool true, heap) ∧
      evalInLoops context' e [] heap = .ok (.bool true, heap) := by
  intro node e heap context context'
  have hc : compile node = .ok e := rfl
  have hnames : ∀ m ∈ e.mentions, context.get? m.name = context'.get? m.name := by
    intro m hm
    obtain rfl : m = .variable "rows" := by simpa [e, mentions] using hm
    rfl
  have hvalue : e.evaluate context heap = .ok (.bool true, heap) := rfl
  obtain ⟨hagree, hloops, -⟩ := evaluation_depends_on_mentions hc
  have hvalue' : e.evaluate context' heap = .ok (.bool true, heap) := by
    rw [← hagree context context' hnames heap, hvalue]
  exact ⟨hc, hnames, hvalue, hvalue', by rw [← hloops context' heap, hvalue']⟩

end Expr

end ProbeEngine

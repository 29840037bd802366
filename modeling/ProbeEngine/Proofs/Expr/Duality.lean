import ProbeEngine.Proofs.Expr.Conversions
import ProbeEngine.Proofs.Expr.Scoping

/-!
# Dual operators

A conjunction goes through its operands until one is not true, `all` through the items of a
collection until one does not satisfy the predicate; a disjunction and `any` go on until one
is or does. All four are one search (`Eval.search`) for a truth value that ends it, and what
is evaluated on the way is a list (`Eval.runs`): the search fails with the error of the last
one on it (`search_eq_error_iff`), and whatever is not on it has no say (`search_congr`).

Negating what is searched and the truth value that ends the search changes neither, and so
**the laws of De Morgan hold** with errors, with the objects that are made, and with what is
never evaluated (`de_morgan`).
-/

namespace ProbeEngine

open Host (Value Heap)

namespace Eval

/-! ## Searches -/

section

variable {α : Type} {test test' : α → Eval Bool} {stop : Bool} {xs : List α} {h : Heap}

/-- Whether a test answers a truth value on some element; the first on which it does ends the
search. The answer is that truth value, or else the other one. -/
def search (stop : Bool) (test : α → Eval Bool) : List α → Eval Bool
  | [] => pure !stop
  | x :: xs => do
    let b ← test x
    if b = stop then pure b else search stop test xs

/-- The elements on which a search runs its test, each with the heap that the test finds. One
that answers or that fails is the last. -/
def runs (stop : Bool) (test : α → Eval Bool) : List α → Heap → List (α × Heap)
  | [], _ => []
  | x :: xs, h =>
    (x, h) :: match test x h with
      | .ok (b, h') => if b = stop then [] else runs stop test xs h'
      | .error _ => []

theorem anyOf_eq_search (test : α → Eval Bool) (xs : List α) :
    anyOf test xs = search true test xs := by
  induction xs with
  | nil => rfl
  | cons x xs ih =>
    rw [anyOf, search, ih]
    refine bind_congr fun b => ?_
    cases b <;> rfl

theorem allOf_eq_search (test : α → Eval Bool) (xs : List α) :
    allOf test xs = search false test xs := by
  induction xs with
  | nil => rfl
  | cons x xs ih =>
    rw [allOf, search, ih]
    refine bind_congr fun b => ?_
    cases b <;> rfl

/-! ## One step of a search -/

theorem bind_apply_of_error {β γ : Type} {x : Eval β} {e : EvalError} (hx : x h = .error e)
    (f : β → Eval γ) : (x >>= f) h = .error e := by
  show (x h).bind (fun r => f r.1 r.2) = .error e
  rw [hx]
  rfl

theorem search_cons_of_ok {x : α} {b : Bool} {h' : Heap} (hx : test x h = .ok (b, h')) :
    search stop test (x :: xs) h =
      if b = stop then .ok (b, h') else search stop test xs h' := by
  rw [search, bind_apply_of_ok hx]
  split <;> rfl

theorem search_cons_of_error {x : α} {e : EvalError} (hx : test x h = .error e) :
    search stop test (x :: xs) h = .error e := by
  rw [search, bind_apply_of_error hx]

/-! ## What a search evaluates -/

/-- The elements on which the test is run are the first ones. -/
theorem map_runs_prefix (stop : Bool) (test : α → Eval Bool) (xs : List α) (h : Heap) :
    (runs stop test xs h).map (·.1) <+: xs := by
  induction xs generalizing h with
  | nil => exact List.nil_prefix
  | cons x xs ih =>
    rw [runs, List.map_cons, List.prefix_cons_inj]
    cases hx : test x h with
    | error e => exact List.nil_prefix
    | ok r =>
      obtain ⟨b, h'⟩ := r
      by_cases hb : b = stop
      · simp [hb]
      · simpa [hb] using ih h'

/-- A search fails with the error of the last element on which the test is run. -/
theorem search_eq_error_iff {e : EvalError} :
    search stop test xs h = .error e ↔
      ∃ r, (runs stop test xs h).getLast? = some r ∧ test r.1 r.2 = .error e := by
  induction xs generalizing h with
  | nil => exact iff_of_false (fun hs => nomatch hs) (fun ⟨_, hr, _⟩ => nomatch hr)
  | cons x xs ih =>
    cases hx : test x h with
    | error e' => simp [search_cons_of_error hx, runs, hx]
    | ok r =>
      obtain ⟨b, h'⟩ := r
      by_cases hb : b = stop
      · simp [search_cons_of_ok hx, runs, hx, hb]
      · -- the last of the runs is the last of those that follow, if any do
        rw [search_cons_of_ok hx, if_neg hb, ih]
        simp only [runs, hx, if_neg hb]
        cases hrest : runs stop test xs h' with
        | nil => simp [hx]
        | cons r rs => simp

/-- Elements on which the test is not run have no say. -/
theorem search_congr (htest : ∀ r ∈ runs stop test xs h, test' r.1 r.2 = test r.1 r.2) :
    search stop test' xs h = search stop test xs h := by
  induction xs generalizing h with
  | nil => rfl
  | cons x xs ih =>
    have hsame : test' x h = test x h := htest (x, h) List.mem_cons_self
    cases hx : test x h with
    | error e => rw [search_cons_of_error hx, search_cons_of_error (hsame.trans hx)]
    | ok r =>
      obtain ⟨b, h'⟩ := r
      rw [search_cons_of_ok hx, search_cons_of_ok (hsame.trans hx)]
      by_cases hb : b = stop
      · rw [if_pos hb, if_pos hb]
      · rw [if_neg hb, if_neg hb]
        refine ih fun r hr => htest r ?_
        simp [runs, hx, hb, hr]

/-! ## Negated tests -/

/-- The other truth value. -/
def negated (x : Eval Bool) : Eval Bool := do
  let b ← x
  pure !b

theorem negated_apply (x : Eval Bool) (h : Heap) :
    negated x h = (x h).map fun r => (!r.1, r.2) := by
  show (x h).bind (fun r => .ok (!r.1, r.2)) = (x h).map fun r => (!r.1, r.2)
  cases x h <;> rfl

/-- A search for the other truth value with the tests negated comes to the other answer. -/
theorem search_negated (stop : Bool) (test : α → Eval Bool) (xs : List α) :
    search (!stop) (fun x => negated (test x)) xs = negated (search stop test xs) := by
  induction xs with
  | nil => rfl
  | cons x xs ih =>
    rw [search, search, ih]
    simp only [negated, bind_assoc, pure_bind]
    refine bind_congr fun b => ?_
    by_cases hb : b = stop
    · rw [if_pos hb, if_pos (congrArg not hb), pure_bind]
    · rw [if_neg hb, if_neg fun hc => hb (Bool.not_inj hc)]

/-- It evaluates the same. -/
theorem runs_negated (stop : Bool) (test : α → Eval Bool) (xs : List α) (h : Heap) :
    runs (!stop) (fun x => negated (test x)) xs h = runs stop test xs h := by
  induction xs generalizing h with
  | nil => rfl
  | cons x xs ih =>
    have hneg := negated_apply (test x) h
    cases hx : test x h with
    | error e =>
      rw [hx] at hneg
      simp [runs, hx, hneg, Except.map]
    | ok r =>
      obtain ⟨b, h'⟩ := r
      rw [hx] at hneg
      simp [runs, hx, hneg, Except.map, ih]

theorem runs_map {β : Type} (stop : Bool) (test : β → Eval Bool) (f : α → β) (xs : List α)
    (h : Heap) :
    runs stop test (xs.map f) h =
      (runs stop (fun x => test (f x)) xs h).map fun r => (f r.1, r.2) := by
  induction xs generalizing h with
  | nil => rfl
  | cons x xs ih =>
    simp only [List.map_cons, runs]
    cases test (f x) h with
    | error e => rfl
    | ok r =>
      obtain ⟨b, h'⟩ := r
      by_cases hb : b = stop
      · simp [hb]
      · simp [hb, ih]

end

end Eval

namespace Expr

open Eval (search runs negated)

variable {s : Scope} {h : Heap}

/-- The truth value of an expression. -/
def truth (e : Expr) (s : Scope) : Eval Bool := do
  return (← eval e s).isTruthy

theorem truth_apply (e : Expr) (s : Scope) (h : Heap) :
    truth e s h = (eval e s h).map fun r => (r.1.isTruthy, r.2) := by
  show (eval e s h).bind (fun r => .ok (r.1.isTruthy, r.2)) = _
  cases eval e s h <;> rfl

theorem truth_eq_error_iff {e : Expr} {err : EvalError} :
    truth e s h = .error err ↔ eval e s h = .error err := by
  rw [truth_apply, map_eq_error_iff]

theorem isTruthy_bool (b : Bool) : (Value.bool b).isTruthy = b := (rfl)

theorem eval_negation (e : Expr) (s : Scope) :
    eval (.negation e) s = (do return .bool !(← eval e s).isTruthy) := by
  rw [eval]

theorem truth_negation (e : Expr) (s : Scope) : truth (.negation e) s = negated (truth e s) := by
  simp only [truth, negated, eval_negation, bind_assoc, pure_bind, isTruthy_bool]

/-! ## Operands -/

/-- The first operand of a truth value, or else the last one: a conjunction for one that is
not true, a disjunction for one that is. -/
def connect (stop : Bool) (s : Scope) : List Expr → Value → Eval Value
  | [], last => pure last
  | e :: es, _ => do
    let v ← eval e s
    if v.isTruthy = stop then pure v else connect stop s es v

theorem evalConjunction_eq_connect (es : List Expr) (s : Scope) (last : Value) :
    evalConjunction es s last = connect false s es last := by
  induction es generalizing last with
  | nil => rw [evalConjunction, connect]
  | cons e es ih =>
    rw [evalConjunction, connect]
    refine bind_congr fun v => ?_
    rw [ih]
    cases v.isTruthy <;> rfl

theorem evalDisjunction_eq_connect (es : List Expr) (s : Scope) (last : Value) :
    evalDisjunction es s last = connect true s es last := by
  induction es generalizing last with
  | nil => rw [evalDisjunction, connect]
  | cons e es ih =>
    rw [evalDisjunction, connect]
    refine bind_congr fun v => ?_
    rw [ih]

theorem eval_conjunction (es : List Expr) (s : Scope) :
    eval (.conjunction es) s = connect false s es (.bool true) := by
  rw [eval, evalConjunction_eq_connect]

theorem eval_disjunction (es : List Expr) (s : Scope) :
    eval (.disjunction es) s = connect true s es (.bool false) := by
  rw [eval, evalDisjunction_eq_connect]

/-- Whether the outcome is true is the answer of a search. -/
theorem connect_isTruthy (stop : Bool) (s : Scope) (es : List Expr) {last : Value}
    (hlast : last.isTruthy = !stop) :
    (do return (← connect stop s es last).isTruthy) = search stop (truth · s) es := by
  induction es generalizing last with
  | nil => rw [connect, pure_bind, hlast, search]
  | cons e es ih =>
    rw [connect, search, truth, bind_assoc, bind_assoc]
    refine bind_congr fun v => ?_
    rw [pure_bind]
    by_cases hv : v.isTruthy = stop
    · rw [if_pos hv, if_pos hv, pure_bind]
    · rw [if_neg hv, if_neg hv, ih (Bool.eq_not_of_ne hv)]

/-- Negated operands have truth values for values, and the outcome is the answer itself. -/
theorem connect_negation (stop : Bool) (s : Scope) (es : List Expr) :
    connect stop s (es.map .negation) (.bool !stop) =
      (do return .bool (← search stop (fun e => truth (.negation e) s) es)) := by
  induction es with
  | nil => rfl
  | cons e es ih =>
    rw [List.map_cons, connect, search, truth, bind_assoc, bind_assoc]
    simp only [eval_negation, bind_assoc, pure_bind, isTruthy_bool]
    refine bind_congr fun v => ?_
    by_cases hv : (!v.isTruthy) = stop
    · rw [if_pos hv, if_pos hv, pure_bind]
    · rw [if_neg hv, if_neg hv, ← ih, Bool.eq_not_of_ne hv]

/-- The operands that are evaluated on the way to one of a truth value, each with the heap
that it finds. -/
def operandRuns (stop : Bool) (es : List Expr) (s : Scope) (h : Heap) : List (Expr × Heap) :=
  runs stop (truth · s) es h

theorem operandRuns_negation (stop : Bool) (es : List Expr) (s : Scope) (h : Heap) :
    operandRuns (!stop) (es.map .negation) s h =
      (operandRuns stop es s h).map fun r => (.negation r.1, r.2) := by
  rw [operandRuns, Eval.runs_map]
  simp only [truth_negation, Eval.runs_negated, operandRuns]

theorem connect_cons_of_ok {stop : Bool} {e : Expr} {v : Value} {h' : Heap}
    (he : eval e s h = .ok (v, h')) (es : List Expr) (last : Value) :
    connect stop s (e :: es) last h =
      if v.isTruthy = stop then .ok (v, h') else connect stop s es v h' := by
  rw [connect, Eval.bind_apply_of_ok he]
  split <;> rfl

theorem connect_cons_of_error {stop : Bool} {e : Expr} {err : EvalError}
    (he : eval e s h = .error err) (es : List Expr) (last : Value) :
    connect stop s (e :: es) last h = .error err := by
  rw [connect, Eval.bind_apply_of_error he]

/-- Operands that are not evaluated have no say. -/
theorem connect_congr {stop : Bool} {es es' : List Expr} {last : Value}
    (hlength : es'.length = es.length) (hruns : (operandRuns stop es s h).map (·.1) <+: es') :
    connect stop s es' last h = connect stop s es last h := by
  induction es generalizing es' last h with
  | nil => rw [List.length_eq_zero_iff.1 hlength]
  | cons e es ih =>
    rw [operandRuns, runs, List.map_cons] at hruns
    obtain ⟨e', es', rfl⟩ := List.exists_cons_of_length_eq_add_one hlength
    obtain ⟨rfl, hrest⟩ := List.cons_prefix_cons.1 hruns
    cases he : eval e s h with
    | error err => rw [connect_cons_of_error he, connect_cons_of_error he]
    | ok r =>
      obtain ⟨v, h'⟩ := r
      rw [connect_cons_of_ok he, connect_cons_of_ok he]
      by_cases hv : v.isTruthy = stop
      · rw [if_pos hv, if_pos hv]
      · rw [if_neg hv, if_neg hv]
        refine ih (by simpa using hlength) ?_
        simpa [operandRuns, truth_apply, he, Except.map, hv] using hrest

theorem connect_eq_error_iff {stop : Bool} {es : List Expr} {err : EvalError} :
    connect stop s es (.bool !stop) h = .error err ↔
      ∃ r, (operandRuns stop es s h).getLast? = some r ∧ eval r.1 s r.2 = .error err := by
  have htruth : (do return (← connect stop s es (.bool !stop)).isTruthy : Eval Bool) h =
      .error err ↔ connect stop s es (.bool !stop) h = .error err := by
    show ((connect stop s es (.bool !stop)) h).bind (fun r => .ok (r.1.isTruthy, r.2)) = _ ↔ _
    exact bind_eq_error_iff_left fun r => nofun
  rw [← htruth, connect_isTruthy stop s es rfl, Eval.search_eq_error_iff]
  simp only [truth_eq_error_iff, operandRuns]

/-! ## Items -/

/-- Whether some item of a collection has a predicate answer a truth value: `any` looks for
one that satisfies it, `all` for one that does not. -/
def loop (stop : Bool) (collection predicate : Expr) (s : Scope) : Eval Value := do
  let v ← eval collection s
  let xs ← Eval.reading fun h => Collection.items h v
  let b ← search stop (fun b => truth predicate (s.bind b)) xs.bindings
  pure (.bool b)

theorem eval_any (collection predicate : Expr) (s : Scope) :
    eval (.any collection predicate) s = loop true collection predicate s := by
  simp only [eval, loop, Items.anyOf_eq, Eval.anyOf_eq_search, truth]

theorem eval_all (collection predicate : Expr) (s : Scope) :
    eval (.all collection predicate) s = loop false collection predicate s := by
  simp only [eval, loop, Items.allOf_eq, Eval.allOf_eq_search, truth]

/-- A loop for the other truth value with the predicate negated comes to the other answer. -/
theorem loop_negation (stop : Bool) (collection predicate : Expr) (s : Scope) :
    loop stop collection predicate s = (do
      let v ← loop (!stop) collection (.negation predicate) s
      pure (.bool !v.isTruthy)) := by
  simp only [loop, truth_negation, Eval.search_negated]
  simp only [negated, bind_assoc, pure_bind, isTruthy_bool, Bool.not_not]

/-- The items for which the predicate is evaluated on the way to one for which it answers a
truth value, each with the heap that it finds. -/
def itemRuns (stop : Bool) (collection predicate : Expr) (s : Scope) (h : Heap) :
    List (LoopBinding × Heap) :=
  match eval collection s h with
  | .error _ => []
  | .ok (v, h₁) =>
    match Collection.items h₁ v with
    | .error _ => []
    | .ok xs => runs stop (fun b => truth predicate (s.bind b)) xs.bindings h₁

theorem itemRuns_negation (stop : Bool) (collection predicate : Expr) (s : Scope) (h : Heap) :
    itemRuns (!stop) collection (.negation predicate) s h =
      itemRuns stop collection predicate s h := by
  simp only [itemRuns, truth_negation, Eval.runs_negated]

/-- With the items of a collection, a loop is a search through them. -/
theorem loop_apply {stop : Bool} {collection predicate : Expr} {v : Value} {h₁ : Heap}
    {xs : Items} (hc : eval collection s h = .ok (v, h₁)) (hv : Collection.items h₁ v = .ok xs) :
    loop stop collection predicate s h =
      (search stop (fun b => truth predicate (s.bind b)) xs.bindings h₁).map
        fun r => (.bool r.1, r.2) := by
  rw [loop, Eval.bind_apply_of_ok hc, Eval.reading_bind_apply, hv]
  show (search stop (fun b => truth predicate (s.bind b)) xs.bindings h₁).bind
    (fun r => .ok (Value.bool r.1, r.2)) = _
  cases search stop (fun b => truth predicate (s.bind b)) xs.bindings h₁ <;> rfl

/-- Items for which the predicate is not evaluated have no say. -/
theorem loop_congr {stop : Bool} {collection predicate predicate' : Expr}
    (hruns : ∀ r ∈ itemRuns stop collection predicate s h,
      eval predicate' (s.bind r.1) r.2 = eval predicate (s.bind r.1) r.2) :
    loop stop collection predicate' s h = loop stop collection predicate s h := by
  cases hc : eval collection s h with
  | error e => rw [loop, loop, Eval.bind_apply_of_error hc, Eval.bind_apply_of_error hc]
  | ok r =>
    obtain ⟨v, h₁⟩ := r
    cases hv : Collection.items h₁ v with
    | error e =>
      simp only [loop, Eval.bind_apply_of_ok hc, Eval.reading_bind_apply, hv]
      rfl
    | ok xs =>
      rw [loop_apply hc hv, loop_apply hc hv]
      refine congrArg _ (Eval.search_congr fun r hr => ?_)
      rw [truth_apply, truth_apply, hruns r]
      simpa only [itemRuns, hc, hv] using hr

theorem loop_eq_error_iff {stop : Bool} {collection predicate : Expr} {v : Value} {h₁ : Heap}
    {xs : Items} (hc : eval collection s h = .ok (v, h₁)) (hv : Collection.items h₁ v = .ok xs)
    {err : EvalError} :
    loop stop collection predicate s h = .error err ↔
      ∃ r, (itemRuns stop collection predicate s h).getLast? = some r ∧
        eval predicate (s.bind r.1) r.2 = .error err := by
  rw [loop_apply hc hv, map_eq_error_iff, Eval.search_eq_error_iff]
  simp only [truth_eq_error_iff, itemRuns, hc, hv]

/-! ## Main result -/

/-- What evaluating an operator on some operands comes to: the first ones, each with the heap
that it finds. The others have no say, and it fails exactly if the last one does, with its
error. -/
structure EvaluatesOperands (operator : List Expr → Expr) (es : List Expr) (s : Scope) (h : Heap)
    (evaluated : List (Expr × Heap)) : Prop where
  first : evaluated.map (·.1) <+: es
  others : ∀ es', es'.length = es.length → evaluated.map (·.1) <+: es' →
    eval (operator es') s h = eval (operator es) s h
  error : ∀ err, eval (operator es) s h = .error err ↔
    ∃ r, evaluated.getLast? = some r ∧ eval r.1 s r.2 = .error err

/-- What evaluating a loop comes to: its predicate for the first items of the collection, each
with the heap that it finds. What it is for others has no say, and if there are items the loop
fails exactly if it fails for the last one, with its error. -/
structure EvaluatesItems (operator : Expr → Expr → Expr) (collection predicate : Expr) (s : Scope)
    (h : Heap) (evaluated : List (LoopBinding × Heap)) : Prop where
  first : ∀ v h₁ xs, eval collection s h = .ok (v, h₁) → Collection.items h₁ v = .ok xs →
    evaluated.map (·.1) <+: xs.bindings
  others : ∀ predicate', (∀ r ∈ evaluated,
      eval predicate' (s.bind r.1) r.2 = eval predicate (s.bind r.1) r.2) →
    eval (operator collection predicate') s h = eval (operator collection predicate) s h
  error : ∀ v h₁ xs, eval collection s h = .ok (v, h₁) → Collection.items h₁ v = .ok xs →
    ∀ err, eval (operator collection predicate) s h = .error err ↔
      ∃ r, evaluated.getLast? = some r ∧ eval predicate (s.bind r.1) r.2 = .error err

theorem evaluatesOperands_conjunction (es : List Expr) (s : Scope) (h : Heap) :
    EvaluatesOperands .conjunction es s h (operandRuns false es s h) where
  first := Eval.map_runs_prefix _ _ _ _
  others es' hlength hruns := by
    rw [eval_conjunction, eval_conjunction, connect_congr hlength hruns]
  error err := by
    rw [eval_conjunction]
    exact connect_eq_error_iff

theorem evaluatesOperands_disjunction (es : List Expr) (s : Scope) (h : Heap) :
    EvaluatesOperands .disjunction es s h (operandRuns true es s h) where
  first := Eval.map_runs_prefix _ _ _ _
  others es' hlength hruns := by
    rw [eval_disjunction, eval_disjunction, connect_congr hlength hruns]
  error err := by
    rw [eval_disjunction]
    exact connect_eq_error_iff

theorem map_itemRuns_prefix {stop : Bool} {collection predicate : Expr} {v : Value} {h₁ : Heap}
    {xs : Items} (hc : eval collection s h = .ok (v, h₁)) (hv : Collection.items h₁ v = .ok xs) :
    (itemRuns stop collection predicate s h).map (·.1) <+: xs.bindings := by
  simpa only [itemRuns, hc, hv] using Eval.map_runs_prefix _ _ _ _

theorem evaluatesItems_any (collection predicate : Expr) (s : Scope) (h : Heap) :
    EvaluatesItems .any collection predicate s h (itemRuns true collection predicate s h) where
  first _ _ _ hc hv := map_itemRuns_prefix hc hv
  others predicate' hruns := by
    rw [eval_any, eval_any, loop_congr hruns]
  error _ _ _ hc hv err := by
    rw [eval_any]
    exact loop_eq_error_iff hc hv

theorem evaluatesItems_all (collection predicate : Expr) (s : Scope) (h : Heap) :
    EvaluatesItems .all collection predicate s h (itemRuns false collection predicate s h) where
  first _ _ _ hc hv := map_itemRuns_prefix hc hv
  others predicate' hruns := by
    rw [eval_all, eval_all, loop_congr hruns]
  error _ _ _ hc hv err := by
    rw [eval_all]
    exact loop_eq_error_iff hc hv

/-- The negation of what connects some operands is what connects their negations. -/
theorem negation_connect (stop : Bool) (es : List Expr) (s : Scope) :
    (do return .bool !(← connect stop s es (.bool !stop)).isTruthy) =
      connect (!stop) s (es.map .negation) (.bool stop) := by
  have hlast : (Value.bool !stop).isTruthy = !stop := rfl
  have hsearch := connect_isTruthy stop s es hlast
  have hnegation := connect_negation (!stop) s es
  rw [Bool.not_not] at hnegation
  rw [hnegation]
  simp only [truth_negation, Eval.search_negated, ← hsearch]
  simp only [negated, bind_assoc, pure_bind]

/-- **The laws of De Morgan hold.** The negation of a conjunction and the disjunction of the
negations have the same value or the same error, make the same objects, and evaluate the same
operands in the same heaps; so with the two exchanged. A predicate holds for some item exactly
if its negation does not for all, and for all exactly if its negation does not for some, again
with the same error, and the predicate is evaluated for the same items. What is not evaluated
has no say, and the error is that of the last operand or item that is. -/
theorem de_morgan (s : Scope) (h : Heap) :
    (∀ es, eval (.negation (.conjunction es)) s h = eval (.disjunction (es.map .negation)) s h ∧
      EvaluatesOperands .conjunction es s h (operandRuns false es s h) ∧
      EvaluatesOperands .disjunction (es.map .negation) s h
        ((operandRuns false es s h).map fun r => (.negation r.1, r.2))) ∧
    (∀ es, eval (.negation (.disjunction es)) s h = eval (.conjunction (es.map .negation)) s h ∧
      EvaluatesOperands .disjunction es s h (operandRuns true es s h) ∧
      EvaluatesOperands .conjunction (es.map .negation) s h
        ((operandRuns true es s h).map fun r => (.negation r.1, r.2))) ∧
    (∀ c p, eval (.any c p) s h = eval (.negation (.all c (.negation p))) s h ∧
      EvaluatesItems .any c p s h (itemRuns true c p s h) ∧
      EvaluatesItems .all c (.negation p) s h (itemRuns true c p s h)) ∧
    ∀ c p, eval (.all c p) s h = eval (.negation (.any c (.negation p))) s h ∧
      EvaluatesItems .all c p s h (itemRuns false c p s h) ∧
      EvaluatesItems .any c (.negation p) s h (itemRuns false c p s h) := by
  refine ⟨fun es => ⟨?_, evaluatesOperands_conjunction es s h, ?_⟩,
    fun es => ⟨?_, evaluatesOperands_disjunction es s h, ?_⟩,
    fun c p => ⟨?_, evaluatesItems_any c p s h, ?_⟩,
    fun c p => ⟨?_, evaluatesItems_all c p s h, ?_⟩⟩
  · rw [eval_negation, eval_conjunction, eval_disjunction]
    exact congrFun (negation_connect false es s) h
  · rw [← operandRuns_negation]
    exact evaluatesOperands_disjunction (es.map .negation) s h
  · rw [eval_negation, eval_disjunction, eval_conjunction]
    exact congrFun (negation_connect true es s) h
  · rw [← operandRuns_negation]
    exact evaluatesOperands_conjunction (es.map .negation) s h
  · rw [eval_negation, eval_any, eval_all]
    exact congrFun (loop_negation true c p s) h
  · rw [← itemRuns_negation]
    exact evaluatesItems_all c (.negation p) s h
  · rw [eval_negation, eval_all, eval_any]
    exact congrFun (loop_negation false c p s) h
  · rw [← itemRuns_negation]
    exact evaluatesItems_any c (.negation p) s h

end Expr

end ProbeEngine

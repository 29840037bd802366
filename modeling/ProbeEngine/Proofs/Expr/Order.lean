import Mathlib
import ProbeEngine.Proofs.Expr.Conversions

/-!
# Order of values

Two values are compared once both are primitive: texts by their UTF-16 units, bigints
exactly, all others as doubles, of which some have no order. Exchanging the two exchanges
what is less and what is greater on each of the three ways (`compareUnits_swap`,
`compareNumbers_swap`, `compareValues_swap`), and the guard of the operands asks the same of
both. So **comparisons are consistent** (`comparisons_consistent`): those of two values all
fail, with one error, or all succeed, with the answers of one order.
-/

namespace ProbeEngine

open Host (Value Heap)

/-! ## Units -/

namespace Text.Utf16

theorem compareUnits_swap (us vs : List Nat) :
    (compareUnits us vs).swap = compareUnits vs us := by
  induction us generalizing vs with
  | nil => cases vs <;> rfl
  | cons u us ih =>
    cases vs with
    | nil => rfl
    | cons v vs =>
      rw [compareUnits, compareUnits, ← ih]
      rcases Nat.lt_trichotomy u v with huv | rfl | hvu
      · rw [if_pos huv, if_neg (Nat.lt_asymm huv), if_pos huv]
        rfl
      · simp only [Nat.lt_irrefl, if_false]
      · rw [if_neg (Nat.lt_asymm hvu), if_pos hvu, if_pos hvu]
        rfl

/-- The order of unit lists is the lexicographic one. -/
theorem compareUnits_eq_lt_iff {us vs : List Nat} : compareUnits us vs = .lt ↔ us < vs := by
  induction us generalizing vs with
  | nil => cases vs <;> simp [compareUnits]
  | cons u us ih =>
    cases vs with
    | nil => simp [compareUnits]
    | cons v vs =>
      rw [compareUnits, List.cons_lt_cons_iff, ← ih]
      rcases Nat.lt_trichotomy u v with huv | rfl | hvu
      · simp [huv]
      · simp
      · simp [hvu, Nat.lt_asymm hvu, Nat.ne_of_gt hvu]

theorem compareUnits_eq_eq_iff {us vs : List Nat} : compareUnits us vs = .eq ↔ us = vs := by
  induction us generalizing vs with
  | nil => cases vs <;> simp [compareUnits]
  | cons u us ih =>
    cases vs with
    | nil => simp [compareUnits]
    | cons v vs =>
      rw [compareUnits, List.cons.injEq, ← ih]
      rcases Nat.lt_trichotomy u v with huv | rfl | hvu
      · simp [huv, Nat.ne_of_lt huv]
      · simp
      · simp [hvu, Nat.lt_asymm hvu, Nat.ne_of_gt hvu]

theorem units_injective : Function.Injective units :=
  Function.LeftInverse.injective ofUnits_units

theorem compare_swap (s t : String) : (compare s t).swap = compare t s :=
  compareUnits_swap _ _

theorem compare_eq_lt_iff {s t : String} : compare s t = .lt ↔ units s < units t :=
  compareUnits_eq_lt_iff

theorem compare_eq_eq_iff {s t : String} : compare s t = .eq ↔ s = t :=
  compareUnits_eq_eq_iff.trans units_injective.eq_iff

end Text.Utf16

namespace Coercion

/-! ## Doubles -/

/-- The order of doubles that are taken apart, the other way round. -/
theorem unpackedCompare_swap (x y : Float.Model.UnpackedFloat) :
    (x.compare y).map Ordering.swap = y.compare x := by
  rcases x with (_ | _) | _ | _ | ⟨_ | _, m, e, _⟩ <;>
    rcases y with (_ | _) | _ | _ | ⟨_ | _, n, f, _⟩ <;>
    first
      | rfl
      | simp [Float.Model.UnpackedFloat.compare, Ordering.swap_then, Int.compare_swap,
          Nat.compare_swap]

/-- The three tests of doubles find the order that they have. -/
theorem compareNumbers_eq (x y : Float) :
    compareNumbers x y = x.toModel.unpack.compare y.toModel.unpack := by
  have hlt : ∀ a b : Float, a < b ↔ a.toModel.unpack.compare b.toModel.unpack = some .lt :=
    fun a b => decide_eq_true_iff.trans beq_iff_eq
  have heq : (x == y) = (x.toModel.unpack.compare y.toModel.unpack == some .eq) := rfl
  simp only [compareNumbers, hlt, heq, ← unpackedCompare_swap x.toModel.unpack y.toModel.unpack]
  rcases x.toModel.unpack.compare y.toModel.unpack with _ | _ | _ | _ <;> rfl

theorem compareNumbers_swap (x y : Float) :
    (compareNumbers x y).map Ordering.swap = compareNumbers y x := by
  rw [compareNumbers_eq, compareNumbers_eq, unpackedCompare_swap]

/-! ## Values -/

/-- A value that is a symbol. -/
def IsSymbol (v : Value) : Prop := ∃ x, v = .symbol x

section

variable {h : Heap} {v w : Value} {e : EvalError}

theorem isSymbol_toPrimitive_iff : IsSymbol (toPrimitive h v) ↔ IsSymbol v := by
  cases v with
  | object id =>
    refine iff_of_false ?_ (fun ⟨x, hx⟩ => nomatch hx)
    rintro ⟨x, hx⟩
    simp only [toPrimitive] at hx
    split at hx <;> cases hx
  | _ => rfl

/-- Of the values that are not refused, the symbols alone have no number. -/
theorem toNumber_eq_error_iff (hv : ¬ Refused h v) :
    toNumber h v = .error e ↔ IsSymbol v ∧ e = .symbolAsNumber := by
  cases v with
  | symbol x => simp [toNumber, IsSymbol, eq_comm]
  | object id => simp [toNumber, guardValue_eq_ok_iff.2 hv, bind_eq_error_iff, IsSymbol]
  | _ => simp [toNumber, IsSymbol]

/-- Two numbers are compared if there are both. -/
theorem compareAsNumbers_eq_error_iff {x y : Except EvalError Float}
    (hxy : ∀ e e', x = .error e → y = .error e' → e = e') :
    (do
      let a ← x
      let b ← y
      .ok (compareNumbers a b) : Except EvalError (Option Ordering)) = .error e ↔
      x = .error e ∨ y = .error e := by
  cases x with
  | ok a => simp [bind_eq_error_iff]
  | error e₁ =>
    cases y with
    | ok b => simp [bind_eq_error_iff]
    | error e₂ =>
      cases hxy e₁ e₂ rfl rfl
      simp [bind_eq_error_iff]

theorem compareAsNumbers_swap {x y : Except EvalError Float}
    (hxy : ∀ e e', x = .error e → y = .error e' → e = e') :
    (do
      let a ← x
      let b ← y
      .ok (compareNumbers a b) : Except EvalError (Option Ordering)).map
        (Option.map Ordering.swap) = (do
      let b ← y
      let a ← x
      .ok (compareNumbers b a)) := by
  cases x with
  | error e =>
    cases y with
    | error e' => exact congrArg Except.error (hxy e e' rfl rfl)
    | ok b => rfl
  | ok a =>
    cases y with
    | error e' => rfl
    | ok b => exact congrArg Except.ok (compareNumbers_swap a b)

/-- All that keeps a primitive value from being a number is that it is a symbol. -/
theorem toNumber_toPrimitive_agree (e e' : EvalError)
    (he : toNumber h (toPrimitive h v) = .error e)
    (he' : toNumber h (toPrimitive h w) = .error e') : e = e' := by
  rw [((toNumber_eq_error_iff not_refused_toPrimitive).1 he).2,
    ((toNumber_eq_error_iff not_refused_toPrimitive).1 he').2]

theorem compareValues_swap (h : Heap) (v w : Value) :
    (compareValues h v w).map (Option.map Ordering.swap) = compareValues h w v := by
  have hagree := toNumber_toPrimitive_agree (h := h) (v := v) (w := w)
  unfold compareValues
  generalize toPrimitive h v = a at hagree ⊢
  generalize toPrimitive h w = b at hagree ⊢
  split
  · exact congrArg (fun o => Except.ok (some o)) (Text.Utf16.compare_swap _ _)
  · exact congrArg (fun o => Except.ok (some o)) (Int.compare_swap _ _)
  · rename_i hstrings hbigints
    split
    · exact absurd rfl (hstrings _ _ rfl)
    · exact absurd rfl (hbigints _ _ rfl)
    · exact compareAsNumbers_swap hagree

/-- Values are not compared exactly if one of them is a symbol. -/
theorem compareValues_eq_error_iff :
    compareValues h v w = .error e ↔ (IsSymbol v ∨ IsSymbol w) ∧ e = .symbolAsNumber := by
  have hagree := toNumber_toPrimitive_agree (h := h) (v := v) (w := w)
  have hv : ¬ Refused h (toPrimitive h v) := not_refused_toPrimitive
  have hw : ¬ Refused h (toPrimitive h w) := not_refused_toPrimitive
  rw [← isSymbol_toPrimitive_iff (h := h) (v := v), ← isSymbol_toPrimitive_iff (h := h) (v := w)]
  unfold compareValues
  generalize toPrimitive h v = a at hagree hv ⊢
  generalize toPrimitive h w = b at hagree hw ⊢
  split
  · simp [IsSymbol]
  · simp [IsSymbol]
  · rw [compareAsNumbers_eq_error_iff hagree, toNumber_eq_error_iff hv, toNumber_eq_error_iff hw,
      or_and_right]

/-! ## Guarded values -/

/-- The order of the two operands of a comparison, once neither is refused. -/
def compareGuarded (h : Heap) (v w : Value) : Except EvalError (Option Ordering) := do
  guardValue h v
  guardValue h w
  compareValues h v w

/-- Two values of which one is refused or a symbol. -/
def Incomparable (h : Heap) (v w : Value) : Prop :=
  (Refused h v ∨ Refused h w) ∨ IsSymbol v ∨ IsSymbol w

theorem compareGuarded_of_refused (hvw : Refused h v ∨ Refused h w) :
    compareGuarded h v w = .error .coercion := by
  rw [compareGuarded, bind_eq_error_iff, bind_eq_error_iff, guardValue_eq_coercion_iff,
    guardValue_eq_coercion_iff]
  by_cases hv : Refused h v
  · exact .inl hv
  · exact .inr ⟨(), guardValue_eq_ok_iff.2 hv, .inl (hvw.resolve_left hv)⟩

theorem compareGuarded_of_not_refused (hvw : ¬ (Refused h v ∨ Refused h w)) :
    compareGuarded h v w = compareValues h v w := by
  rw [not_or] at hvw
  rw [compareGuarded, guardValue_eq_ok_iff.2 hvw.1, guardValue_eq_ok_iff.2 hvw.2]
  rfl

theorem compareGuarded_swap (h : Heap) (v w : Value) :
    (compareGuarded h v w).map (Option.map Ordering.swap) = compareGuarded h w v := by
  by_cases hvw : Refused h v ∨ Refused h w
  · rw [compareGuarded_of_refused hvw, compareGuarded_of_refused hvw.symm]
    rfl
  · rw [compareGuarded_of_not_refused hvw, compareGuarded_of_not_refused fun h => hvw h.symm,
      compareValues_swap]

theorem exists_compareGuarded_eq_error_iff :
    (∃ e, compareGuarded h v w = .error e) ↔ Incomparable h v w := by
  by_cases hvw : Refused h v ∨ Refused h w
  · simp [compareGuarded_of_refused hvw, Incomparable, hvw]
  · simp [compareGuarded_of_not_refused hvw, compareValues_eq_error_iff, Incomparable, hvw]

/-- Neither texts nor bigints are asked for a number. -/
theorem compareGuarded_strings (h : Heap) (a b : String) :
    compareGuarded h (.string a) (.string b) = .ok (some (Text.Utf16.compare a b)) := (rfl)

theorem compareGuarded_bigints (h : Heap) (m n : Int) :
    compareGuarded h (.bigint m) (.bigint n) = .ok (some (compare m n)) := (rfl)

end

end Coercion

/-! ## Comparisons -/

/-- The order to ask for when the operands are exchanged. -/
def Comparison.flip : Comparison → Comparison
  | .greater => .less
  | .greaterOrEqual => .lessOrEqual
  | .less => .greater
  | .lessOrEqual => .greaterOrEqual

theorem Comparison.accepts_flip (order : Comparison) (o : Option Ordering) :
    order.accepts (o.map Ordering.swap) = order.flip.accepts o := by
  rcases o with _ | _ | _ | _ <;> cases order <;> rfl

/-- Of two values that have an order, one is less, or greater, or they are equal, and only one
of the three. -/
theorem Comparison.accepts_total {o : Ordering} {equal : Bool} {less : Prop}
    (hequal : equal = true ↔ o = .eq) (hless : o = .lt ↔ less) :
    [Comparison.less.accepts (some o), Comparison.greater.accepts (some o), equal].count true = 1 ∧
      (Comparison.less.accepts (some o) = true ↔ less) := by
  have heq : equal = (o == .eq) := Bool.eq_iff_iff.2 (hequal.trans beq_iff_eq.symm)
  rw [heq, ← hless]
  cases o <;> decide

namespace Expr

open Coercion Text.Utf16

variable {l r : Expr} {s : Scope} {h : Heap} {v w : Value}

/-- An operand that is not guarded needs no guard. -/
theorem guarded_apply {next : Unit → Eval Value} (hl : eval l s h = .ok (v, h)) :
    (if (!l.isNumberLiteral) = true then (do
      let u ← Eval.reading fun heap => guardValue heap v
      next u) else next ()) h = (guardValue h v).bind fun _ => next () h := by
  cases hnumber : l.isNumberLiteral with
  | true =>
    rw [guardValue_eq_ok_iff.2 (not_refused_of_isNumberLiteral hnumber hl)]
    rfl
  | false => exact Eval.reading_bind_apply _ _

/-- A comparison of operands that have values asks for the order of these. -/
theorem eval_compare (order : Comparison) (hl : eval l s h = .ok (v, h))
    (hr : eval r s h = .ok (w, h)) :
    eval (.compare order l r) s h =
      (compareGuarded h v w).map fun o => (.bool (order.accepts o), h) := by
  rw [eval, Eval.bind_apply_of_ok hl, guarded_apply hl, Eval.bind_apply_of_ok hr,
    guarded_apply hr, Eval.reading_bind_apply, compareGuarded]
  cases guardValue h v with
  | error e => rfl
  | ok u =>
    cases guardValue h w with
    | error e => rfl
    | ok u => cases compareValues h v w <;> rfl

theorem eval_equal (hl : eval l s h = .ok (v, h)) (hr : eval r s h = .ok (w, h)) :
    eval (.equal l r) s h = .ok (.bool (v.strictEquals w), h) := by
  rw [eval, Eval.bind_apply_of_ok hl, Eval.bind_apply_of_ok hr]
  rfl

/-- Comparisons of two operands, either way round, that all succeed, with the answers to the
four orders that can be asked for. -/
structure Answers (l r : Expr) (s : Scope) (h : Heap) (answer : Comparison → Bool) : Prop where
  forth : ∀ order, eval (.compare order l r) s h = .ok (.bool (answer order), h)
  back : ∀ order, eval (.compare order r l) s h = .ok (.bool (answer order.flip), h)

/-- **Comparisons are consistent.** Those of two values, for any order and either way round,
all fail with one error if one of the values is refused or a symbol, and otherwise all succeed.
Then what is greater one way round is less the other way round. No value is both less and
greater than another one, and it is less or equal if it is less, or both less or equal and
greater or equal. Of two texts or bigints either one is less or greater, or they are strictly
equal, and only one of the three; texts are ordered by their units, lexicographically. -/
theorem comparisons_consistent {l r : Expr} {s : Scope} {h : Heap} {v w : Value}
    (hl : eval l s h = .ok (v, h)) (hr : eval r s h = .ok (w, h)) :
    (Incomparable h v w ∧ ∃ e, ∀ order, eval (.compare order l r) s h = .error e ∧
      eval (.compare order r l) s h = .error e) ∨
    (¬ Incomparable h v w ∧ ∃ answer, Answers l r s h answer ∧
      ¬ (answer .less = true ∧ answer .greater = true) ∧
      (answer .lessOrEqual =
        (answer .less || (answer .lessOrEqual && answer .greaterOrEqual))) ∧
      (∀ a b, v = .string a → w = .string b →
        eval (.equal l r) s h = .ok (.bool (a == b), h) ∧
        [answer .less, answer .greater, a == b].count true = 1 ∧
        (answer .less = true ↔ units a < units b)) ∧
      ∀ m n, v = .bigint m → w = .bigint n →
        eval (.equal l r) s h = .ok (.bool (m == n), h) ∧
        [answer .less, answer .greater, m == n].count true = 1 ∧
        (answer .less = true ↔ m < n)) := by
  have hforth := fun order => eval_compare order hl hr
  have hback := fun order => eval_compare order hr hl
  rw [← compareGuarded_swap] at hback
  rw [← exists_compareGuarded_eq_error_iff]
  cases ho : compareGuarded h v w with
  | error e =>
    rw [ho] at hforth hback
    exact .inl ⟨⟨e, rfl⟩, e, fun order => ⟨hforth order, hback order⟩⟩
  | ok o =>
    rw [ho] at hforth hback
    refine .inr ⟨by simp, fun order => order.accepts o, ⟨hforth, ?_⟩, ?_, ?_, ?_, ?_⟩
    · intro order
      rw [hback order, ← Comparison.accepts_flip]
      rfl
    · rcases o with _ | _ | _ | _ <;> decide
    · rcases o with _ | _ | _ | _ <;> rfl
    · rintro a b rfl rfl
      refine ⟨eval_equal hl hr, ?_⟩
      rw [compareGuarded_strings] at ho
      cases ho
      exact Comparison.accepts_total (beq_iff_eq.trans compare_eq_eq_iff.symm) compare_eq_lt_iff
    · rintro m n rfl rfl
      refine ⟨eval_equal hl hr, ?_⟩
      rw [compareGuarded_bigints] at ho
      cases ho
      exact Comparison.accepts_total (beq_iff_eq.trans Int.compare_eq_eq.symm) Int.compare_eq_lt

/-- A character beyond the basic plane comes after every one in it, and yet a text of it is
less than one of a character in the plane that comes after the surrogates. -/
theorem comparison_of_supplementary_character :
    let l : Expr := .literal (.string "😀")
    let r : Expr := .literal (.string "～")
    let s : Scope := { context := OrderedTable.ofList [] }
    eval (.compare .less l r) s ⟨#[], 0⟩ = .ok (.bool true, ⟨#[], 0⟩) ∧
      eval (.compare .greater r l) s ⟨#[], 0⟩ = .ok (.bool true, ⟨#[], 0⟩) ∧
      "～" < "😀" := by
  intro l r s
  have hl : eval l s ⟨#[], 0⟩ = .ok (.string "😀", ⟨#[], 0⟩) := rfl
  have hr : eval r s ⟨#[], 0⟩ = .ok (.string "～", ⟨#[], 0⟩) := rfl
  have hcomparable : ¬ Incomparable ⟨#[], 0⟩ (.string "😀") (.string "～") := by
    simp [Incomparable, Refused, IsSymbol]
  obtain ⟨hincomparable, -⟩ | ⟨-, answer, hanswer, -, -, hstrings, -⟩ :=
    comparisons_consistent hl hr
  · exact absurd hincomparable hcomparable
  · have hless : answer .less = true := (hstrings _ _ rfl rfl).2.2.2 (by decide +kernel)
    refine ⟨?_, ?_, by decide +kernel⟩
    · rw [hanswer.forth, hless]
    · rw [hanswer.back, Comparison.flip, hless]

end Expr

end ProbeEngine

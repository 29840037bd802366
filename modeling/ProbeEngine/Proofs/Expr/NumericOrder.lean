import ProbeEngine.Proofs.Expr.Order
import ProbeEngine.Proofs.Number.Rounding

/-!
# The order of numbers and bigints

A bigint is compared with a number by way of the double nearest to it, and with another bigint
exactly. No double lies between a bigint and its double, so a mixed comparison is one of the
exact numbers but for one case: a bigint is not told apart from its double
(`exists_compareGuarded_of_reads`). So the order is total, and **it is transitive but where two
bigints round to one double** (`lessOrEqual_of_numbers`).
-/

namespace ProbeEngine

open Host (Value Heap)
open Binary64 (value? intValue ofInt)

/-! ## Numeric values -/

namespace Host.Value

/-- The exact number that a value is, unless it is no number. -/
noncomputable def quantity? : Value → Option EReal
  | .number x => value? x
  | .bigint n => some ((n : ℝ) : EReal)
  | _ => none

/-- A numeric value with the exact number that it is, and that of the double it is used as. -/
inductive Reads : Value → EReal → EReal → Prop
  | number {x : Float} {p : EReal} (hx : value? x = some p) : Reads (.number x) p p
  | bigint (n : Int) : Reads (.bigint n) ((n : ℝ) : EReal) (intValue n)

/-- A number and a bigint, either way round, of which one is the double nearest to the other. -/
inductive SharesDouble : Value → Value → Prop
  | bigint_number {n : Int} {x : Float} (hx : x == ofInt n) : SharesDouble (.bigint n) (.number x)
  | number_bigint {n : Int} {x : Float} (hx : x == ofInt n) : SharesDouble (.number x) (.bigint n)

/-- A number that is the double nearest to a bigint before it, and to a lesser one after it. -/
inductive RoundsTogether : Value → Value → Value → Prop
  | mk {m n : Int} {x : Float} (hnm : n < m) (hm : x == ofInt m) (hn : x == ofInt n) :
    RoundsTogether (.bigint m) (.number x) (.bigint n)

section

variable {u v w : Value} {p q r p' q' r' : EReal}

theorem exists_reads (hv : v.quantity? = some p) : ∃ p', Reads v p p' := by
  cases v with
  | number x => exact ⟨p, .number hv⟩
  | bigint n =>
    cases hv
    exact ⟨_, .bigint n⟩
  | _ => cases hv

theorem beq_ofInt_iff {x : Float} {n : Int} (hx : value? x = some p) :
    x == ofInt n ↔ p = intValue n := by
  rw [Binary64.beq_iff, hx, Binary64.value?_ofInt]
  simp only [Option.some.injEq, exists_eq_left']
  exact eq_comm

/-- Numeric values keep their order when they are used as doubles. -/
theorem Reads.le_of_le (hv : Reads v p p') (hw : Reads w q q')
    (h : p ≤ q ∨ SharesDouble v w) : p' ≤ q' := by
  rcases h with hpq | hshares
  · cases hv with
    | number hx =>
      cases hw with
      | number hy => exact hpq
      | bigint n => exact Binary64.le_intValue hx hpq
    | bigint m =>
      cases hw with
      | number hy => exact Binary64.intValue_le hy hpq
      | bigint n => exact Binary64.intValue_mono (by exact_mod_cast EReal.coe_le_coe_iff.1 hpq)
  · cases hshares with
    | bigint_number hx =>
      cases hv
      cases hw with
      | number hy => exact ((beq_ofInt_iff hy).1 hx).ge
    | number_bigint hx =>
      cases hw
      cases hv with
      | number hy => exact ((beq_ofInt_iff hy).1 hx).le

/-- What a bigint and a number may lose when they are used as doubles is their difference. -/
theorem Reads.le_or_sharesDouble (hv : Reads v p p') (hw : Reads w q q')
    (hmixed : ∀ m n, v = .bigint m → w ≠ .bigint n) (h : p' ≤ q') :
    p ≤ q ∨ SharesDouble v w := by
  cases hv with
  | number hx =>
    cases hw with
    | number hy => exact .inl h
    | bigint n =>
      refine or_iff_not_imp_left.2 fun hpq => .number_bigint ((beq_ofInt_iff hx).2 ?_)
      exact le_antisymm h (Binary64.intValue_le hx (not_le.1 hpq).le)
  | bigint m =>
    cases hw with
    | number hy =>
      refine or_iff_not_imp_left.2 fun hpq => .bigint_number ((beq_ofInt_iff hy).2 ?_)
      exact le_antisymm (Binary64.le_intValue hy (not_le.1 hpq).le) h
    | bigint n => exact absurd rfl (hmixed m n rfl)

/-- The order of values of which no two are told apart that are used as one double is
transitive unless two bigints are used as one double. -/
theorem Reads.trans_iff (hu : Reads u p p') (hv : Reads v q q') (hw : Reads w r r')
    (huv : p ≤ q ∨ SharesDouble u v) (hvw : q ≤ r ∨ SharesDouble v w) :
    (p ≤ r ∨ SharesDouble u w) ↔ ¬ RoundsTogether u v w := by
  have huv' := hu.le_of_le hv huv
  have hvw' := hv.le_of_le hw hvw
  constructor
  · rintro hle ⟨hnm, hm, hn⟩
    cases hu
    cases hw
    rcases hle with hle | hle
    · exact absurd (EReal.coe_le_coe_iff.1 hle) (by exact_mod_cast not_le.2 hnm)
    · cases hle
  · intro htogether
    by_cases hbigints : ∃ m n, u = .bigint m ∧ w = .bigint n
    · obtain ⟨m, n, rfl, rfl⟩ := hbigints
      cases hu
      cases hw
      cases hv with
      | number hx =>
        refine .inl (not_lt.1 fun hlt => htogether (.mk ?_ ?_ ?_))
        · exact_mod_cast EReal.coe_lt_coe_iff.1 hlt
        · refine (beq_ofInt_iff hx).2 (le_antisymm (hvw'.trans ?_) huv')
          exact Binary64.intValue_mono (by exact_mod_cast (EReal.coe_lt_coe_iff.1 hlt).le)
        · refine (beq_ofInt_iff hx).2 (le_antisymm hvw' (le_trans ?_ huv'))
          exact Binary64.intValue_mono (by exact_mod_cast (EReal.coe_lt_coe_iff.1 hlt).le)
      | bigint k =>
        refine .inl (le_trans (huv.resolve_right ?_) (hvw.resolve_right ?_)) <;> rintro ⟨⟩
    · refine hu.le_or_sharesDouble hw (fun m n hm hn => ?_) (huv'.trans hvw')
      exact hbigints ⟨m, n, hm, hn⟩

end

end Host.Value

/-! ## Comparisons -/

open Host.Value (Reads SharesDouble RoundsTogether)

namespace Coercion

variable {h : Heap} {v w : Value} {p q p' q' : EReal}

theorem compareNumbers_eq_cmp {x y : Float} (hx : value? x = some p) (hy : value? y = some q) :
    compareNumbers x y = some (cmp p q) := by
  rw [compareNumbers_eq, Binary64.compare_eq_cmp, hx, hy]
  rfl

theorem compare_eq_cmp_coe (m n : Int) :
    compare m n = cmp (((m : ℝ) : EReal)) (((n : ℝ) : EReal)) := by
  rw [Binary64.cmp_coe, Int.cast_strictMono.cmp_map_eq]
  exact (cmp_eq_compare m n).symm

/-- Numeric values have an order, that of the exact numbers, where one that is used as a double
is not told apart from the double. -/
theorem exists_compareGuarded_of_reads (h : Heap) (hv : Reads v p p') (hw : Reads w q q') :
    ∃ o, compareGuarded h v w = .ok (some o) ∧ (o ≠ .gt ↔ p ≤ q ∨ SharesDouble v w) := by
  have hdoubles : ∀ hmixed : (∀ m n, v = .bigint m → w ≠ .bigint n),
      (cmp p' q' ≠ .gt ↔ p ≤ q ∨ SharesDouble v w) := by
    intro hmixed
    rw [Ne, cmp_eq_gt_iff, not_lt]
    exact ⟨hv.le_or_sharesDouble hw hmixed, hv.le_of_le hw⟩
  cases hv with
  | number hx =>
    refine ⟨_, ?_, hdoubles fun m n hm => nomatch hm⟩
    cases hw with
    | number hy => exact congrArg Except.ok (compareNumbers_eq_cmp hx hy)
    | bigint n => exact congrArg Except.ok (compareNumbers_eq_cmp hx (Binary64.value?_ofInt n))
  | bigint m =>
    cases hw with
    | number hy =>
      refine ⟨_, ?_, hdoubles fun m n hm hn => nomatch hn⟩
      exact congrArg Except.ok (compareNumbers_eq_cmp (Binary64.value?_ofInt m) hy)
    | bigint n =>
      refine ⟨_, compareGuarded_bigints h m n, ?_⟩
      rw [compare_eq_cmp_coe, Ne, cmp_eq_gt_iff, not_lt, iff_self_or]
      rintro ⟨⟩

end Coercion

namespace Expr

open Coercion

variable {a b c : Expr} {s : Scope} {h : Heap} {u v w : Value} {p q r p' q' : EReal}

/-- Two expressions of which one is found to be less than or equal to the other. -/
def AtMost (a b : Expr) (s : Scope) (h : Heap) : Prop :=
  eval (.compare .lessOrEqual a b) s h = .ok (.bool true, h)

/-- A comparison of numeric values has an answer. -/
theorem exists_eval_lessOrEqual (ha : eval a s h = .ok (u, h)) (hb : eval b s h = .ok (v, h))
    (hu : Reads u p p') (hv : Reads v q q') :
    (∃ answer, eval (.compare .lessOrEqual a b) s h = .ok (.bool answer, h)) ∧
      (AtMost a b s h ↔ p ≤ q ∨ SharesDouble u v) := by
  obtain ⟨o, ho, hle⟩ := exists_compareGuarded_of_reads h hu hv
  rw [AtMost, eval_compare .lessOrEqual ha hb, ho, ← hle]
  refine ⟨⟨_, rfl⟩, ?_⟩
  cases o <;> simp [Comparison.accepts, Except.map]

/-- **The order of numbers and bigints.** Of two values that are bigints, or numbers other than
NaN, one is found to be less than or equal to the other. The answer is that of their exact
numbers, except that a bigint and the double nearest to it are each found to be less than or
equal to the other. So the order is transitive but for a bigint, a number and a lesser bigint,
of which the number is the double nearest to both. -/
theorem lessOrEqual_of_numbers {a b c : Expr} {s : Scope} {h : Heap} {u v w : Value}
    {p q r : EReal} (ha : eval a s h = .ok (u, h)) (hb : eval b s h = .ok (v, h))
    (hc : eval c s h = .ok (w, h)) (hp : u.quantity? = some p) (hq : v.quantity? = some q)
    (hr : w.quantity? = some r) :
    (∃ answer, eval (.compare .lessOrEqual a b) s h = .ok (.bool answer, h)) ∧
      (AtMost a b s h ∨ AtMost b a s h) ∧
      (AtMost a b s h ↔ p ≤ q ∨ SharesDouble u v) ∧
      (AtMost a b s h → AtMost b c s h → (AtMost a c s h ↔ ¬ RoundsTogether u v w)) := by
  obtain ⟨p', hu⟩ := Host.Value.exists_reads hp
  obtain ⟨q', hv⟩ := Host.Value.exists_reads hq
  obtain ⟨r', hw⟩ := Host.Value.exists_reads hr
  obtain ⟨hanswer, hab⟩ := exists_eval_lessOrEqual ha hb hu hv
  obtain ⟨-, hba⟩ := exists_eval_lessOrEqual hb ha hv hu
  obtain ⟨-, hbc⟩ := exists_eval_lessOrEqual hb hc hv hw
  obtain ⟨-, hac⟩ := exists_eval_lessOrEqual ha hc hu hw
  refine ⟨hanswer, ?_, hab, ?_⟩
  · rw [hab, hba]
    exact (le_total p q).imp .inl .inl
  · rw [hab, hbc, hac]
    exact hu.trans_iff hv hw

/-- A double between two bigints that it is nearest to is found to be less than or equal to
both, and they to it. -/
theorem lessOrEqual_of_neighbours :
    let a : Expr := .literal (.bigint 9007199254740992)
    let b : Expr := .literal (.number (ofInt 9007199254740992))
    let c : Expr := .literal (.bigint 9007199254740993)
    let s : Scope := { context := OrderedTable.ofList [] }
    AtMost a b s ⟨#[], 0⟩ ∧ AtMost b c s ⟨#[], 0⟩ ∧ AtMost a c s ⟨#[], 0⟩ := by
  intro a b c s
  obtain ⟨-, -, hab, htrans⟩ := lessOrEqual_of_numbers (a := a) (b := b) (c := c) (s := s)
    (h := ⟨#[], 0⟩) rfl rfl rfl rfl (Binary64.value?_ofInt _) rfl
  obtain ⟨-, -, hbc, -⟩ := lessOrEqual_of_numbers (a := b) (b := c) (c := c) (s := s)
    (h := ⟨#[], 0⟩) rfl rfl rfl (Binary64.value?_ofInt _) rfl rfl
  have hleft := hab.2 (.inr (.bigint_number (by decide +kernel)))
  have hright := hbc.2 (.inr (.number_bigint (by decide +kernel)))
  refine ⟨hleft, hright, (htrans hleft hright).2 ?_⟩
  rintro ⟨hlt, -, -⟩
  exact absurd hlt (by decide)

/-- A bigint, the double nearest to it and to the bigint before it, and that bigint: the first
is found to be at most the second and this at most the third, but not the first at most the
third. -/
theorem not_transitive_of_rounded_bigint :
    let a : Expr := .literal (.bigint 9007199254740993)
    let b : Expr := .literal (.number (ofInt 9007199254740992))
    let c : Expr := .literal (.bigint 9007199254740992)
    let s : Scope := { context := OrderedTable.ofList [] }
    AtMost a b s ⟨#[], 0⟩ ∧ AtMost b c s ⟨#[], 0⟩ ∧ ¬ AtMost a c s ⟨#[], 0⟩ := by
  intro a b c s
  have hab := (exists_eval_lessOrEqual (a := a) (b := b) (s := s) (h := ⟨#[], 0⟩) rfl rfl
    (.bigint _) (.number (Binary64.value?_ofInt _))).2
  have hbc := (exists_eval_lessOrEqual (a := b) (b := c) (s := s) (h := ⟨#[], 0⟩) rfl rfl
    (.number (Binary64.value?_ofInt _)) (.bigint _)).2
  refine ⟨hab.2 (.inr (.bigint_number ?_)), hbc.2 (.inr (.number_bigint ?_)), ?_⟩
  · decide +kernel
  · decide +kernel
  · intro hac
    cases hac

end Expr

end ProbeEngine

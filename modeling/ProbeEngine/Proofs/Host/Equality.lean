import ProbeEngine.Proofs.Number.Exact

/-!
# Equalities of values

Expressions compare values by the strict equality, and collections by one of their own. That of
collections looks at one thing of each value (`identity`), the exact number of a double and any
other value as it is, and so it is an equivalence (`sameValueZero_equivalence`). The two
equalities differ only on NaN, which strictly equals nothing, itself included
(`strictEquals_eq_sameValueZero`).
-/

namespace ProbeEngine.Host.Value

open Binary64 (value?)

/-- What the equality of collections looks at: of a double its exact number, if it is one, and
any other value as it is. -/
noncomputable def identity : Value → Option EReal ⊕ Value
  | .number x => .inl (value? x)
  | v => .inr v

/-- A number that is none. -/
def IsNaN (v : Value) : Prop := ∃ x, v = .number x ∧ x.isNaN = true

variable {v w : Value} {x y : Float}

theorem isNaN_number_iff : IsNaN (.number x) ↔ value? x = none := by
  rw [← Binary64.isNaN_iff]
  refine ⟨?_, fun hx => ⟨x, rfl, hx⟩⟩
  rintro ⟨y, hy, hnan⟩
  cases hy
  exact hnan

/-- Doubles are the same if both have one exact number, or both have none. -/
theorem sameValueZero_number_iff :
    sameValueZero (.number x) (.number y) = true ↔ value? x = value? y := by
  rw [sameValueZero]
  by_cases hnan : (x.isNaN && y.isNaN) = true
  · rw [Bool.and_eq_true, Binary64.isNaN_iff, Binary64.isNaN_iff] at hnan
    rw [if_pos (by rwa [Bool.and_eq_true, Binary64.isNaN_iff, Binary64.isNaN_iff]), hnan.1,
      hnan.2]
    simp
  · rw [if_neg hnan, Binary64.beq_iff]
    rw [Bool.and_eq_true, Binary64.isNaN_iff, Binary64.isNaN_iff] at hnan
    constructor
    · rintro ⟨p, hx, hy⟩
      rw [hx, hy]
    · intro hxy
      cases hx : value? x with
      | none => exact absurd ⟨hx, hxy ▸ hx⟩ hnan
      | some p => exact ⟨p, rfl, hxy ▸ hx⟩

theorem sameValueZero_iff : v.sameValueZero w = true ↔ v.identity = w.identity := by
  cases v with
  | number x =>
    cases w with
    | number y => rw [sameValueZero_number_iff, identity, identity, Sum.inl.injEq]
    | _ => exact iff_of_false nofun nofun
  | _ => cases w <;> simp [sameValueZero, strictEquals, identity]

/-- **The equality of collections is an equivalence.** -/
theorem sameValueZero_equivalence :
    Equivalence fun v w : Value => v.sameValueZero w = true := by
  simp only [sameValueZero_iff]
  exact InvImage.equivalence _ identity eq_equivalence

/-- The equality of expressions is that of collections but for NaN. -/
theorem strictEquals_eq_sameValueZero (hw : ¬ IsNaN w) : v.strictEquals w = v.sameValueZero w := by
  unfold sameValueZero
  split
  · rename_i a b
    have hb : b.isNaN = false := Bool.eq_false_iff.2 fun hb => hw ⟨b, rfl, hb⟩
    rw [hb, Bool.and_false, if_neg Bool.false_ne_true]
    rfl
  · rfl

/-- What is the same as NaN is NaN. -/
theorem sameValueZero_of_isNaN (hw : IsNaN w) : v.sameValueZero w = true ↔ IsNaN v := by
  obtain ⟨y, rfl, hy⟩ := hw
  cases v with
  | number x => rw [sameValueZero_number_iff, isNaN_number_iff, Binary64.isNaN_iff.1 hy]
  | _ => exact iff_of_false nofun nofun

end ProbeEngine.Host.Value

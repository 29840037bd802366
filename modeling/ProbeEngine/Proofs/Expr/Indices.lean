import ProbeEngine.Expr.Collection
import ProbeEngine.Proofs.Number.RoundTrip

/-!
# Indices as keys

A member of a sequence is asked for by a key, and a natural is turned into one by the text of
its double. Only the canonical decimal of an index is read as the index
(`arrayIndex?_eq_some_iff`), and the text of a natural is that of no other number which a machine
word holds. So the key of a natural is read as the natural, or not at all if that is beyond a
machine word (`IsNatural.exists_toKey`).
-/

namespace ProbeEngine

open Host (Value Heap PropertyKey)
open Binary64 (integer?)

namespace Collection

/-- The canonical decimal of an index. -/
def indexText (i : Nat) : String := String.ofList (Nat.toDigits 10 i)

section

variable {h : Heap} {v : Value} {k : String} {x : Float} {i j : Nat}

/-- A key is read as an index exactly if it is the canonical decimal of it. -/
theorem arrayIndex?_eq_some_iff :
    arrayIndex? (.string k) = some i ↔ i < UInt64.size ∧ k = indexText i := by
  rw [arrayIndex?]
  dsimp only
  constructor
  · intro hi
    split at hi
    · cases hi
    · split at hi
      · rename_i hword
        cases hi
        rw [Bool.and_eq_true, decide_eq_true_eq, beq_iff_eq] at hword
        exact ⟨hword.1, by rw [indexText, hword.2, String.ofList_toList]⟩
      · cases hi
  · rintro ⟨hword, rfl⟩
    have hdigits : (indexText i).toList = Nat.toDigits 10 i := String.toList_ofList
    have hempty : (Nat.toDigits 10 i).isEmpty = false := by
      rw [List.isEmpty_eq_false_iff]
      exact Nat.toDigits_ne_nil
    have hall : (Nat.toDigits 10 i).all Number.isDigit = true :=
      List.all_eq_true.2 fun _ => Text.isDigit_of_mem_toDigits
    simp only [hdigits, hempty, hall, Number.decimalValue_toDigits, hword, decide_true,
      beq_self_eq_true]
    rfl

theorem indexText_inj : indexText i = indexText j ↔ i = j :=
  ⟨fun h => Text.toDigits_inj.1 (String.ofList_injective h), congrArg indexText⟩

/-- A number or a bigint that is a natural. -/
inductive IsNatural : Value → Nat → Prop
  | number {x : Float} {i : Nat} (hx : integer? x = some (i : Int)) : IsNatural (.number x) i
  | bigint (i : Nat) : IsNatural (.bigint i) i

theorem bigintText_natCast (n : Nat) : Value.bigintText n = indexText n := by
  rw [Value.bigintText, Int.natAbs_natCast, decide_eq_false (by omega)]
  rfl

theorem ne_length_of_mem (hk : ∀ c ∈ k.toList, c.isDigit = true ∨ c = '.') : k ≠ "length" := by
  rintro rfl
  have hl := hk 'l' (by decide)
  revert hl
  decide

/-- The key of a natural is read as the natural, if a machine word holds it. -/
theorem IsNatural.exists_toKey (hv : IsNatural v i) (h : Heap) :
    ∃ k, Coercion.toKey h v = .ok (.string k) ∧ k ≠ "length" ∧
      arrayIndex? (.string k) = if i < UInt64.size then some i else none := by
  have hread : ∀ k, (∀ j < UInt64.size, k = indexText j ↔ i = j) →
      arrayIndex? (.string k) = if i < UInt64.size then some i else none := by
    intro k hk
    split
    · rename_i hword
      exact arrayIndex?_eq_some_iff.2 ⟨hword, (hk i hword).2 rfl⟩
    · rename_i hword
      refine Option.eq_none_iff_forall_ne_some.2 fun j hj => hword ?_
      obtain ⟨hj, hkj⟩ := arrayIndex?_eq_some_iff.1 hj
      rwa [(hk j hj).1 hkj]
  cases hv with
  | number hx =>
    refine ⟨_, rfl, ?_, hread _ fun j hj => Number.format_eq_digits_iff hx hj⟩
    exact ne_length_of_mem fun c hc => Number.of_mem_format hx hc
  | bigint i =>
    have hkey : Coercion.toKey h (.bigint i) = .ok (.string (indexText i)) := by
      rw [← bigintText_natCast]
      rfl
    refine ⟨_, hkey, ?_, hread _ fun j _ => indexText_inj⟩
    refine ne_length_of_mem fun c hc => .inl ?_
    rw [indexText, String.toList_ofList] at hc
    exact Text.isDigit_of_mem_toDigits hc

end

end Collection

end ProbeEngine

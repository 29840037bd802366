import ProbeEngine.Proofs.Expr.Conversions
import ProbeEngine.Proofs.Number.Rounding
import ProbeEngine.Proofs.Text.Units

/-!
# Substrings

The ends of a substring are converted to doubles, and these are cut to offsets into the text. No
double is cut to an offset beyond the text: one that is less than the double nearest to the
length has no whole part above the length (`offsetOf_le`). An integer that is not beyond the
text is cut to itself, or to the length, if the double of that is no greater
(`offsetOf_of_integer?`). So **a substring is safe and cuts exactly** (`substring_cuts`).
-/

namespace ProbeEngine

open Host (Value Heap)
open Binary64 (integer? ofNat value? intValue)
open Coercion (toNumber)
open Text
open Text.Utf16 (between InsidePair)

namespace Collection

/-! ## Offsets -/

/-- The offset that a double is cut to, in a text of so many units. -/
def offsetOf (x : Float) (n : Nat) : Nat :=
  if x.isNaN || x ≤ 0 then 0
  else if ofNat n ≤ x then n
  else ((Binary64.truncate? x).getD 0).toNat

/-- The offset of an end, which is that of the text if it is not given. -/
def endOf (w : Value) (y : Float) (n : Nat) : Nat :=
  match w with
  | .undefined => n
  | _ => offsetOf y n

section

variable {h : Heap} {v w : Value} {x y : Float} {k n : Nat}

theorem clampOffset_of_toNumber (hv : toNumber h v = .ok x) (n : Nat) :
    clampOffset h v n = .ok (offsetOf x n) := by
  rw [clampOffset, hv]
  rfl

theorem clampEnd_of_toNumber (hw : toNumber h w = .ok y) (n : Nat) :
    clampEnd h w n = .ok (endOf w y n) := by
  cases w with
  | undefined => rfl
  | _ => exact clampOffset_of_toNumber hw n

theorem endOf_of_ne (hw : w ≠ .undefined) (y : Float) (n : Nat) : endOf w y n = offsetOf y n := by
  cases w with
  | undefined => exact absurd rfl hw
  | _ => rfl

theorem value?_ofNat (n : Nat) : value? (ofNat n) = some (intValue n) := by
  rw [Binary64.ofNat_eq_ofInt, Binary64.value?_ofInt]

/-- No offset is beyond the text. -/
theorem offsetOf_le (x : Float) (n : Nat) : offsetOf x n ≤ n := by
  unfold offsetOf
  split
  · exact Nat.zero_le n
  · rename_i hx
    rw [Bool.or_eq_true, not_or, decide_eq_true_eq, Bool.not_eq_true] at hx
    split
    · exact le_rfl
    · rename_i hlt
      have hpos : 0 < x := Binary64.lt_of_not_le hx.1 (by decide +kernel) hx.2
      obtain ⟨k, hk, hle⟩ :=
        Binary64.truncate?_le hpos (Binary64.lt_of_not_le (Binary64.isNaN_ofNat n) hx.1 hlt)
      rw [hk]
      exact hle

theorem endOf_le (w : Value) (y : Float) (n : Nat) : endOf w y n ≤ n := by
  unfold endOf
  split
  · exact le_rfl
  · exact offsetOf_le y n

/-- An integer is cut to itself, or to the end of the text if the double of that is no greater. -/
theorem offsetOf_of_integer? (hx : integer? x = some (k : Int)) :
    offsetOf x n = k ∨ offsetOf x n = n ∧ ofNat n ≤ x := by
  unfold offsetOf
  split
  · rename_i hle
    refine .inl ?_
    rw [Bool.or_eq_true, decide_eq_true_eq, Binary64.isNaN_iff, Binary64.le_iff,
      Binary64.value?_of_integer? hx, Binary64.value?_zero] at hle
    obtain hle | ⟨p, q, hp, hq, hle⟩ := hle
    · cases hle
    · cases hp
      cases hq
      have hzero : ((k : Int) : ℝ) ≤ 0 := by exact_mod_cast hle
      exact_mod_cast (le_antisymm hzero (by positivity)).symm
  · split
    · rename_i hle
      exact .inr ⟨rfl, hle⟩
    · rw [Binary64.truncate?_of_integer? hx]
      exact .inl rfl

/-- In a text whose length is a double, every offset that is an integer is cut to itself. -/
theorem offsetOf_of_le (hn : integer? (ofNat n) = some (n : Int)) (hx : integer? x = some (k : Int))
    (hk : k ≤ n) : offsetOf x n = k := by
  obtain hoffset | ⟨hoffset, hle⟩ := offsetOf_of_integer? (n := n) hx
  · exact hoffset
  · rw [Binary64.le_iff, Binary64.value?_of_integer? hn, Binary64.value?_of_integer? hx] at hle
    obtain ⟨p, q, hp, hq, hle⟩ := hle
    cases hp
    cases hq
    have hnk : n ≤ k := by exact_mod_cast EReal.coe_le_coe_iff.1 hle
    rw [hoffset, Nat.le_antisymm hk hnk]

theorem offsetOf_zero (hx : integer? x = some 0) (n : Nat) : offsetOf x n = 0 := by
  refine if_pos ?_
  rw [Bool.or_eq_true, decide_eq_true_eq, Binary64.le_iff, Binary64.value?_of_integer? hx,
    Binary64.value?_zero]
  exact .inr ⟨_, _, rfl, rfl, by simp⟩

/-- The double of the length is cut to the length. -/
theorem offsetOf_ofNat (n : Nat) : offsetOf (ofNat n) n = n := by
  unfold offsetOf
  split
  · rename_i hle
    rw [Binary64.isNaN_ofNat, Bool.false_or, decide_eq_true_eq, Binary64.le_iff, value?_ofNat,
      Binary64.value?_zero] at hle
    obtain ⟨p, q, hp, hq, hle⟩ := hle
    cases hp
    cases hq
    by_contra hn
    have hone : intValue 1 = ((1 : Int) : ℝ) := Binary64.intValue_of_value?
      (Binary64.value?_of_integer? (Binary64.integer?_ofInt (by decide)))
    have hmono : intValue 1 ≤ intValue n := Binary64.intValue_mono (by omega)
    rw [hone] at hmono
    exact absurd (hmono.trans hle) (by norm_num)
  · exact if_pos (Binary64.le_iff.2 ⟨_, _, value?_ofNat n, value?_ofNat n, le_rfl⟩)

/-- An end that converts to an integer is given. -/
theorem endOf_of_integer? (hw : toNumber h w = .ok y) {k : Int} (hy : integer? y = some k) :
    endOf w y n = offsetOf y n := by
  refine endOf_of_ne ?_ y n
  rintro rfl
  cases hw
  have hnan : integer? Binary64.nan = none := by decide +kernel
  cases hnan.symm.trans hy

theorem endOf_ofNat (w : Value) (n : Nat) : endOf w (ofNat n) n = n := by
  unfold endOf
  split
  · rfl
  · exact offsetOf_ofNat n

theorem substring_of_toNumber (t : String) (hv : toNumber h v = .ok x) (hw : toNumber h w = .ok y) :
    substring h t v w =
      .ok (between t (offsetOf x (Utf16.length t)) (endOf w y (Utf16.length t))) := by
  rw [substring, ← Utf16.length, clampOffset_of_toNumber hv, clampEnd_of_toNumber hw]
  rfl

end

end Collection

namespace Expr

open Collection

variable {e a b : Expr} {s : Scope} {h h₁ : Heap} {t : String} {v w : Value} {x y : Float}

/-- An expression whose value converts to a number, with both. -/
structure Offset (a : Expr) (s : Scope) (h : Heap) (v : Value) (x : Float) : Prop where
  eval_eq : eval a s h = .ok (v, h)
  toNumber_eq : toNumber h v = .ok x

theorem eval_substring_of_ok {u : String} (he : eval e s h = .ok (.string t, h₁))
    (ha : eval a s h₁ = .ok (v, h₁)) (hb : eval b s h₁ = .ok (w, h₁))
    (hu : Collection.substring h₁ t v w = .ok u) :
    eval (.substring e a b) s h = .ok (.string u, h₁) := by
  rw [eval, Eval.bind_apply_of_ok he, Eval.bind_apply_of_ok ha, Eval.bind_apply_of_ok hb,
    Eval.reading_bind_apply, Coercion.expectText, Except.bind, Eval.reading_bind_apply, hu]
  rfl

theorem eval_substring (he : eval e s h = .ok (.string t, h₁)) (ha : Offset a s h₁ v x)
    (hb : Offset b s h₁ w y) :
    eval (.substring e a b) s h =
      .ok (.string (between t (offsetOf x (Utf16.length t)) (endOf w y (Utf16.length t))), h₁) :=
  eval_substring_of_ok he ha.eval_eq hb.eval_eq
    (substring_of_toNumber t ha.toNumber_eq hb.toNumber_eq)

/-- **A substring is safe and cuts exactly.** Ends that convert to numbers, whatever numbers,
are cut to offsets that are not beyond the text, and the result has as many units as the offsets
are apart. Ends that are given can be exchanged. From zero and without an end, the result is
the text, and it is cut in two at an integer that is not beyond it, nor inside a surrogate
pair. -/
theorem substring_cuts {e : Expr} {s : Scope} {h h₁ : Heap} {t : String}
    (he : eval e s h = .ok (.string t, h₁)) :
    (∀ {a b v w x y}, Offset a s h₁ v x → Offset b s h₁ w y →
      ∃ i j, clampOffset h₁ v (Utf16.length t) = .ok i ∧
        clampEnd h₁ w (Utf16.length t) = .ok j ∧ max i j ≤ Utf16.length t ∧
        eval (.substring e a b) s h = .ok (.string (between t i j), h₁) ∧
        Utf16.length (between t i j) = max i j - min i j) ∧
    (∀ {a b v w x y}, Offset a s h₁ v x → Offset b s h₁ w y → v ≠ .undefined → w ≠ .undefined →
      eval (.substring e a b) s h = eval (.substring e b a) s h) ∧
    (∀ {a b v x}, Offset a s h₁ v x → integer? x = some 0 → eval b s h₁ = .ok (.undefined, h₁) →
      eval (.substring e a b) s h = .ok (.string t, h₁)) ∧
    ∀ {a b c u v w x y} {k : Nat}, Offset a s h₁ u x → integer? x = some 0 →
      Offset b s h₁ v y → integer? y = some (k : Int) → k ≤ Utf16.length t → ¬ InsidePair t k →
      Offset c s h₁ w (ofNat (Utf16.length t)) →
      ∃ front back, eval (.substring e a b) s h = .ok (.string front, h₁) ∧
        eval (.substring e b c) s h = .ok (.string back, h₁) ∧ front ++ back = t := by
  refine ⟨fun ha hb => ?_, fun ha hb hv hw => ?_, fun {_ b _ _} ha hx hb => ?_,
    fun ha hx hb hy hk hpair hc => ?_⟩
  · refine ⟨_, _, clampOffset_of_toNumber ha.toNumber_eq _, clampEnd_of_toNumber hb.toNumber_eq _,
      max_le (offsetOf_le _ _) (endOf_le _ _ _), eval_substring he ha hb, ?_⟩
    exact Utf16.length_between (offsetOf_le _ _) (endOf_le _ _ _)
  · rw [eval_substring he ha hb, eval_substring he hb ha, endOf_of_ne hv, endOf_of_ne hw,
      Utf16.between_comm]
  · have hend : Offset b s h₁ .undefined Binary64.nan := ⟨hb, rfl⟩
    rw [eval_substring he ha hend, offsetOf_zero hx, endOf, Utf16.between_zero_length]
  · have hfront := eval_substring he ha hb
    have hback := eval_substring he hb hc
    rw [offsetOf_zero hx, endOf_of_integer? hb.toNumber_eq hy] at hfront
    rw [endOf_ofNat] at hback
    refine ⟨_, _, hfront, hback, ?_⟩
    -- the double of the length may be that of the integer, and then the text is the first part
    obtain hoffset | ⟨hoffset, -⟩ := offsetOf_of_integer? (n := Utf16.length t) hy
    · rw [hoffset, Utf16.between_append_between hk hpair]
    · rw [hoffset, Utf16.between_append_between le_rfl Utf16.not_insidePair_length]

/-- A text with a surrogate pair is cut in two at the offset after the pair, and offsets beyond
the text and before it are those of its ends. -/
theorem substring_of_supplementary_character :
    let e : Expr := .literal (.string "😀b")
    let offset : Int → Expr := fun k => .literal (.number (Binary64.ofInt k))
    let s : Scope := { context := OrderedTable.ofList [] }
    (∃ front back,
      eval (.substring e (offset 0) (offset 2)) s ⟨#[], 0⟩ = .ok (.string front, ⟨#[], 0⟩) ∧
      eval (.substring e (offset 2) (offset 3)) s ⟨#[], 0⟩ = .ok (.string back, ⟨#[], 0⟩) ∧
      front ++ back = "😀b") ∧
    eval (.substring e (offset 7) (offset (-1))) s ⟨#[], 0⟩ =
      eval (.substring e (offset (-1)) (offset 7)) s ⟨#[], 0⟩ := by
  intro e offset s
  have hoffset : ∀ k,
      Offset (offset k) s ⟨#[], 0⟩ (.number (Binary64.ofInt k)) (Binary64.ofInt k) :=
    fun k => ⟨rfl, rfl⟩
  obtain ⟨-, hswap, -, hcut⟩ := substring_cuts (e := e) (s := s) (h := ⟨#[], 0⟩) (t := "😀b") rfl
  refine ⟨?_, hswap (hoffset 7) (hoffset (-1)) nofun nofun⟩
  have hend : Offset (offset 3) s ⟨#[], 0⟩ (.number (Binary64.ofInt 3))
      (ofNat (Utf16.length "😀b")) := by
    rw [Binary64.ofNat_eq_ofInt]
    exact hoffset 3
  exact hcut (k := 2) (hoffset 0) (Binary64.integer?_ofInt (by decide)) (hoffset 2)
    (Binary64.integer?_ofInt (by decide)) (by decide +kernel) (by decide +kernel) hend

end Expr

end ProbeEngine

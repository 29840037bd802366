import ProbeEngine.Proofs.Number.Nearest
import ProbeEngine.Number.Numeral

/-!
# Decimals of doubles

The shortest decimal of a double reads as the double, or is its exact decimal
(`shortest_reads`). **What a decimal reads as is nearest to it** (`ofDecimal_eq_nearest`), so that
decimals of one value read alike (`ofDecimal_congr`) and one not above a natural reads as no
double above that of the natural (`value?_ofDecimal_le`).
-/

namespace ProbeEngine

open Binary64 (value? realValue intValue nearest ofDecimal)

namespace Decimal

/-! ## The number that a decimal writes -/

/-- The number that a decimal writes. -/
noncomputable def Scaled.value (d : Scaled) : ℝ := d.digits * (10 : ℝ) ^ d.exponent

section

variable {d : Scaled} {m n num den : Nat} {e : Int}

theorem ten_zpow_natCast (n : Nat) : (10 : ℝ) ^ (n : Int) = (10 ^ n : Nat) := by
  rw [zpow_natCast]
  norm_cast

/-- A zero that is cut off goes into the exponent. -/
theorem value_strip (d : Scaled) (fuel : Nat) : (d.strip fuel).value = d.value := by
  induction fuel generalizing d with
  | zero => rfl
  | succ fuel ih =>
    rw [Scaled.strip]
    split
    · rename_i hzero
      have hdigits : (d.digits : ℝ) = (d.digits / 10 : Nat) * 10 := by
        exact_mod_cast (Nat.div_mul_cancel (Nat.dvd_of_mod_eq_zero hzero.1)).symm
      rw [ih, Scaled.value, Scaled.value, hdigits, zpow_add_one₀ (by norm_num)]
      ring
    · rfl

theorem value_exact (m : Nat) (e : Int) : (exact m e).value = realValue m e := by
  rw [exact, realValue]
  simp only [Nat.pow_eq]
  split
  · rename_i he
    lift e to Nat using he
    rw [Scaled.value, Int.toNat_natCast, zpow_zero, mul_one, zpow_natCast]
    norm_cast
  · obtain ⟨k, rfl⟩ : ∃ k : Nat, e = -(k : Int) := ⟨(-e).toNat, by omega⟩
    have hten : (10 : ℝ) ^ k = 2 ^ k * 5 ^ k := by
      rw [← mul_pow]
      norm_num
    rw [Scaled.value, neg_neg, Int.toNat_natCast, zpow_neg, zpow_neg, zpow_natCast, zpow_natCast,
      hten]
    push_cast
    field_simp

theorem reads_of_neighbour? {reads : Scaled → Bool} {takesBelow : Bool} {below above : Scaled}
    (hd : neighbour? reads takesBelow below above = some d) : reads d = true := by
  rw [neighbour?] at hd
  split at hd
  · rename_i hbelow habove
    rw [Bool.and_eq_true] at hbelow
    cases hd
    split
    · exact hbelow.1
    · exact habove
  · rename_i hbelow habove
    rw [Bool.and_eq_true] at hbelow
    cases hd
    exact hbelow.1
  · rename_i hbelow habove
    cases hd
    exact habove
  · cases hd

theorem readsAs_of_onGrid? {tie : Tie} {bits : UInt64} {num den places : Nat}
    (hd : onGrid? tie bits num den places = some d) : readsAs bits d = true := by
  rw [onGrid?] at hd
  exact reads_of_neighbour? hd

/-- The shortest decimal reads as the double with the bits, or is the exact one. -/
theorem shortest_reads (tie : Tie) (bits : UInt64) (m : Nat) (e : Int) :
    (shortest tie bits m e).value = realValue m e ∨
      ∃ d : Scaled, (shortest tie bits m e).value = d.value ∧ readsAs bits d = true := by
  rw [shortest]
  cases hfound : (List.range 17).findSome? fun n =>
      onGrid? tie bits (fraction m e).1 (fraction m e).2 (n + 1) with
  | none => exact .inl (by rw [Option.getD_none, value_strip, value_exact])
  | some d =>
    obtain ⟨n, -, hd⟩ := List.exists_of_findSome?_eq_some hfound
    exact .inr ⟨d, by rw [Option.getD_some, value_strip], readsAs_of_onGrid? hd⟩

/-! ## What a decimal reads as -/

/-- Four digits hold more than eleven bits. -/
theorem two_pow_le_ten_pow : (2 : ℝ) ^ 1100 ≤ 10 ^ 400 :=
  calc (2 : ℝ) ^ 1100 = (2 ^ 11) ^ 100 := by rw [← pow_mul]
    _ ≤ (10 ^ 4) ^ 100 := pow_le_pow_left₀ (by norm_num) (by norm_num) 100
    _ = 10 ^ 400 := by rw [← pow_mul]

theorem overflow_le_value (hdigits : d.digits ≠ 0) (he : 400 < d.exponent) :
    Binary64.overflow ≤ d.value := by
  have hone : (1 : ℝ) ≤ d.digits := by exact_mod_cast Nat.one_le_iff_ne_zero.2 hdigits
  calc Binary64.overflow = 2 ^ 52 * (2 : ℝ) ^ ((972 : Nat) : Int) :=
        Binary64.realValue_two_pow 52 _
    _ = 2 ^ 1024 := by rw [zpow_natCast, ← pow_add]
    _ ≤ 2 ^ 1100 := pow_le_pow_right₀ (by norm_num) (by norm_num)
    _ ≤ 10 ^ 400 := two_pow_le_ten_pow
    _ = 10 ^ ((400 : Nat) : Int) := (zpow_natCast _ _).symm
    _ ≤ 10 ^ d.exponent := zpow_le_zpow_right₀ (by norm_num) he.le
    _ ≤ d.value := le_mul_of_one_le_left (zpow_nonneg (by norm_num) _) hone

/-- The digits are fewer than four for each bit, so that a decimal is small if its exponent is far
below the number of bits. -/
theorem value_lt_underflow (he : d.exponent < -(400 + (d.digits.log2 : Int))) :
    d.value < Binary64.underflow := by
  have hdigits : (d.digits : ℝ) < 2 ^ (d.digits.log2 + 1) := by exact_mod_cast Nat.lt_log2_self
  have hpos : ∀ k : Int, (0 : ℝ) < 10 ^ k := fun k => zpow_pos (by norm_num) k
  have hexponent : (10 : ℝ) ^ d.exponent ≤ 10 ^ (-(401 + (d.digits.log2 : Int))) :=
    zpow_le_zpow_right₀ (by norm_num) (by omega)
  have hten : (2 : ℝ) ^ d.digits.log2 ≤ 10 ^ d.digits.log2 :=
    pow_le_pow_left₀ (by norm_num) (by norm_num) _
  calc d.value < 2 ^ (d.digits.log2 + 1) * (10 : ℝ) ^ d.exponent :=
        mul_lt_mul_of_pos_right hdigits (hpos _)
    _ ≤ (10 ^ d.digits.log2 * 2) * 10 ^ (-(401 + (d.digits.log2 : Int))) := by
        rw [pow_succ]
        exact mul_le_mul (by linarith) hexponent (hpos _).le (by positivity)
    _ = 2 / 10 ^ 401 := by
        have hsum : -(401 + (d.digits.log2 : Int)) = -((401 + d.digits.log2 : Nat) : Int) := by
          push_cast
          ring
        rw [hsum, zpow_neg, zpow_natCast, pow_add]
        field_simp
    _ < (2 ^ 1075)⁻¹ := by
        have hle := two_pow_le_ten_pow
        rw [div_lt_iff₀ (by positivity), inv_mul_eq_div, lt_div_iff₀ (by positivity)]
        calc (2 : ℝ) * 2 ^ 1075 = 2 ^ 1076 := by rw [← pow_succ']
          _ ≤ 2 ^ 1100 := pow_le_pow_right₀ (by norm_num) (by norm_num)
          _ ≤ 10 ^ 400 := hle
          _ < 10 ^ 401 := pow_lt_pow_right₀ (by norm_num) (by norm_num)
    _ = Binary64.underflow := by
        rw [Binary64.underflow_eq, ← zpow_natCast, ← zpow_neg]
        rfl

/-- **A decimal reads as the double nearest to the number that it writes.** -/
theorem ofDecimal_eq_nearest (negative : Bool) (d : Scaled) (hden : 0 < den)
    (h : (num : ℝ) / den = d.value) :
    ofDecimal negative d.digits d.exponent = nearest negative num den := by
  rw [ofDecimal]
  split
  · rename_i hdigits
    refine (Binary64.nearest_of_lt_underflow negative hden ?_).symm
    rw [h, Scaled.value, hdigits, Nat.cast_zero, zero_mul]
    exact Binary64.realValue_pos_iff.2 one_pos
  · rename_i hdigits
    split
    · rename_i hgreat
      refine (Binary64.nearest_of_overflow_le negative hden ?_).symm
      rw [h]
      exact overflow_le_value hdigits hgreat
    · split
      · rename_i hsmall
        refine (Binary64.nearest_of_lt_underflow negative hden ?_).symm
        rw [h]
        exact value_lt_underflow hsmall
      · simp only [Nat.pow_eq]
        split
        · rename_i he
          refine Binary64.nearest_congr negative one_pos hden ?_
          rw [h, Scaled.value]
          obtain ⟨k, hk⟩ := Int.eq_ofNat_of_zero_le he
          rw [hk, Int.toNat_natCast, ten_zpow_natCast, Nat.cast_one, div_one, Nat.cast_mul]
        · obtain ⟨k, hk⟩ : ∃ k : Nat, d.exponent = -(k : Int) := ⟨(-d.exponent).toNat, by omega⟩
          refine Binary64.nearest_congr negative (Nat.pow_pos (by norm_num)) hden ?_
          rw [h, Scaled.value, hk, neg_neg, Int.toNat_natCast, zpow_neg, ten_zpow_natCast,
            div_eq_mul_inv]

/-- The number that a decimal writes is a quotient. -/
theorem exists_quotient (d : Scaled) : ∃ num den : Nat, 0 < den ∧ (num : ℝ) / den = d.value := by
  rw [Scaled.value]
  rcases le_or_gt 0 d.exponent with he | he
  · obtain ⟨k, hk⟩ := Int.eq_ofNat_of_zero_le he
    refine ⟨d.digits * 10 ^ k, 1, one_pos, ?_⟩
    rw [hk, ten_zpow_natCast, Nat.cast_one, div_one, Nat.cast_mul]
  · obtain ⟨k, hk⟩ : ∃ k : Nat, d.exponent = -(k : Int) := ⟨(-d.exponent).toNat, by omega⟩
    refine ⟨d.digits, 10 ^ k, Nat.pow_pos (by norm_num), ?_⟩
    rw [hk, zpow_neg, ten_zpow_natCast, div_eq_mul_inv]

/-- Decimals of one value read as one double. -/
theorem ofDecimal_congr (negative : Bool) {d d' : Scaled} (h : d.value = d'.value) :
    ofDecimal negative d.digits d.exponent = ofDecimal negative d'.digits d'.exponent := by
  obtain ⟨num, den, hden, hquotient⟩ := exists_quotient d
  rw [ofDecimal_eq_nearest negative d hden hquotient,
    ofDecimal_eq_nearest negative d' hden (hquotient.trans h)]

/-- A decimal never reads as what is no number. -/
theorem isNaN_ofDecimal (negative : Bool) (d : Scaled) :
    (ofDecimal negative d.digits d.exponent).isNaN = false := by
  obtain ⟨num, den, hden, hquotient⟩ := exists_quotient d
  rw [ofDecimal_eq_nearest negative d hden hquotient]
  exact Binary64.isNaN_nearest negative num hden

/-- A decimal that is not above a natural reads as no double above that of the natural. -/
theorem value?_ofDecimal_le (hd : d.value ≤ n) :
    ∃ p, value? (ofDecimal false d.digits d.exponent) = some p ∧ p ≤ intValue n := by
  obtain ⟨num, den, hden, hquotient⟩ := exists_quotient d
  rw [ofDecimal_eq_nearest false d hden hquotient]
  refine ⟨_, Binary64.value?_nearest false num hden, ?_⟩
  refine Binary64.nearestValue_mono hden one_pos ?_
  rw [Binary64.signedQuotient_natAbs, Binary64.signedQuotient, if_neg Bool.false_ne_true, hquotient]
  exact_mod_cast hd

end

end Decimal

/-! ## Digits -/

namespace Number

theorem decimalValue_eq (cs : List Char) : decimalValue cs = Nat.ofDigitChars 10 cs 0 := by
  rw [Nat.ofDigitChars_eq_foldl]
  simp only [decimalValue, Nat.mul_comm]

theorem decimalValue_toDigits (n : Nat) : decimalValue (Nat.toDigits 10 n) = n := by
  rw [decimalValue_eq, Nat.ofDigitChars_ten_toDigits]

end Number

end ProbeEngine

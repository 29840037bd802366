import ProbeEngine.Proofs.Number.Exact
import ProbeEngine.Number.Shortest

/-!
# Rounding to a double

The double nearest to a quotient is made of a mantissa, the quotient rounded to a natural at the
exponent that fits it (`fits_exponentOf`), or is an infinity. Rounding to a natural keeps the
order of quotients (`roundDiv_le_roundDiv`), so rounding to a double keeps it
(`roundedValue_mono`); and as it changes no double (`roundedValue_of_canonical`), it passes
none.

For integers this means that **the greater one of two has the greater double, or the same**
(`intValue_mono`), and that no double lies between an integer and the double nearest to it
(`le_intValue`, `intValue_le`).
-/

namespace ProbeEngine.Binary64

/-! ## Rounding to a natural -/

section

variable {a b c d k : Nat}

/-- Rounding goes down to the whole part of a quotient, or up to the next natural. -/
theorem roundDiv_cases (a b : Nat) :
    (roundDiv a b = a / b ∧ 2 * (a % b) ≤ b ∧ (2 * (a % b) = b → roundDiv a b % 2 = 0)) ∨
      (roundDiv a b = a / b + 1 ∧ b ≤ 2 * (a % b) ∧
        (2 * (a % b) = b → roundDiv a b % 2 = 0)) := by
  unfold roundDiv
  dsimp only
  split
  · exact .inl ⟨rfl, by omega, by omega⟩
  · split
    · exact .inr ⟨rfl, by omega, by omega⟩
    · rcases Nat.mod_two_eq_zero_or_one (a / b) with h | h
      · exact .inl ⟨by omega, by omega, by omega⟩
      · exact .inr ⟨by omega, by omega, by omega⟩

/-- A quotient is rounded by one half at most, and by one half to an even natural. -/
theorem roundDiv_spec (hb : 0 < b) :
    (2 * a ≤ 2 * (roundDiv a b * b) + b ∧
        (2 * a = 2 * (roundDiv a b * b) + b → roundDiv a b % 2 = 0)) ∧
      2 * (roundDiv a b * b) ≤ 2 * a + b ∧
        (2 * (roundDiv a b * b) = 2 * a + b → roundDiv a b % 2 = 0) := by
  have hdiv : a / b * b + a % b = a := Nat.div_add_mod' a b
  have hmod := Nat.mod_lt a hb
  obtain ⟨hr, hhalf, heven⟩ | ⟨hr, hhalf, heven⟩ := roundDiv_cases a b
  · have hmul : roundDiv a b * b = a / b * b := by rw [hr]
    exact ⟨⟨by omega, fun _ => heven (by omega)⟩, by omega, fun _ => heven (by omega)⟩
  · have hmul : roundDiv a b * b = a / b * b + b := by rw [hr, Nat.succ_mul]
    exact ⟨⟨by omega, fun _ => heven (by omega)⟩, by omega, fun _ => heven (by omega)⟩

/-- Rounding keeps the order of quotients. -/
theorem roundDiv_le_roundDiv (hb : 0 < b) (hd : 0 < d) (h : a * d ≤ c * b) :
    roundDiv a b ≤ roundDiv c d := by
  obtain ⟨-, hab, habeven⟩ := roundDiv_spec (a := a) hb
  obtain ⟨⟨hcd, hcdeven⟩, -⟩ := roundDiv_spec (a := c) hd
  generalize roundDiv a b = r at hab habeven
  generalize roundDiv c d = s at hcd hcdeven
  by_contra hlt
  have hstep : (s + 1) * (b * d) ≤ r * (b * d) := Nat.mul_le_mul_right _ (by omega)
  have hr : 2 * (r * b) * d ≤ (2 * a + b) * d := Nat.mul_le_mul_right d hab
  have hs : 2 * c * b ≤ (2 * (s * d) + d) * b := Nat.mul_le_mul_right b hcd
  have hbd : 0 < b * d := Nat.mul_pos hb hd
  -- both quotients are then halves that were rounded to even, to two neighbours
  have hreq : 2 * (r * b) = 2 * a + b := Nat.eq_of_mul_eq_mul_right hd (by nlinarith)
  have hseq : 2 * c = 2 * (s * d) + d := Nat.eq_of_mul_eq_mul_right hb (by nlinarith)
  have hnext : r = s + 1 := Nat.eq_of_mul_eq_mul_right hbd (by nlinarith)
  have := habeven hreq
  have := hcdeven hseq
  omega

theorem roundDiv_le (hb : 0 < b) (hk : a ≤ k * b) : roundDiv a b ≤ k := by
  have h := roundDiv_le_roundDiv (a := a) (c := k) (d := 1) hb one_pos (by omega)
  rwa [roundDiv_one] at h

theorem le_roundDiv (hb : 0 < b) (hk : k * b ≤ a) : k ≤ roundDiv a b := by
  have h := roundDiv_le_roundDiv (a := k) (b := 1) (c := a) one_pos hb (by omega)
  rwa [roundDiv_one] at h

end

/-! ## The exponent that fits -/

section

variable {num den num' den' m k : Nat} {e : Int}

/-- Scaling divides by a power of two. -/
theorem scaled_div (num den : Nat) (e : Int) :
    ((scaled num den e).1 : ℝ) / (scaled num den e).2 = num / den / 2 ^ e := by
  rw [scaled]
  simp only [Nat.pow_eq]
  split
  · rename_i he
    lift e to Nat using he
    push_cast
    rw [Int.toNat_natCast, zpow_natCast, div_div]
  · obtain ⟨k, rfl⟩ : ∃ k : Nat, e = -(k : Int) := ⟨(-e).toNat, by omega⟩
    rw [neg_neg, Int.toNat_natCast, zpow_neg, zpow_natCast]
    push_cast
    rw [div_inv_eq_mul, mul_comm, mul_div_assoc, mul_comm]

theorem scaled_snd_pos (hden : 0 < den) (e : Int) : 0 < (scaled num den e).2 := by
  rw [scaled]
  split
  · exact Nat.mul_pos hden (Nat.two_pow_pos _)
  · exact hden

theorem mul_scaled_le_iff (hden : 0 < den) :
    k * (scaled num den e).2 ≤ (scaled num den e).1 ↔ realValue k e ≤ (num : ℝ) / den := by
  have hpos : (0 : ℝ) < (scaled num den e).2 := Nat.cast_pos.2 (scaled_snd_pos hden e)
  rw [realValue, ← le_div_iff₀ (two_zpow_pos e), ← scaled_div, le_div_iff₀ hpos]
  norm_cast

theorem scaled_le_mul_iff (hden : 0 < den) :
    (scaled num den e).1 ≤ k * (scaled num den e).2 ↔ (num : ℝ) / den ≤ realValue k e := by
  have hpos : (0 : ℝ) < (scaled num den e).2 := Nat.cast_pos.2 (scaled_snd_pos hden e)
  rw [realValue, ← div_le_iff₀ (two_zpow_pos e), ← scaled_div, div_le_iff₀ hpos]
  norm_cast

theorem scaled_mul_le_iff (hden : 0 < den) (hden' : 0 < den') :
    (scaled num den e).1 * (scaled num' den' e).2 ≤
        (scaled num' den' e).1 * (scaled num den e).2 ↔
      (num : ℝ) / den ≤ num' / den' := by
  have hpos : (0 : ℝ) < (scaled num den e).2 := Nat.cast_pos.2 (scaled_snd_pos hden e)
  have hpos' : (0 : ℝ) < (scaled num' den' e).2 := Nat.cast_pos.2 (scaled_snd_pos hden' e)
  rw [← div_le_div_iff_of_pos_right (two_zpow_pos e), ← scaled_div, ← scaled_div,
    div_le_div_iff₀ hpos hpos']
  norm_cast

/-- A positive quotient is known up to a factor of four from the lengths of its parts. -/
theorem quotient_bounds (hnum : num ≠ 0) (hden : den ≠ 0) :
    2 ^ 52 * (2 : ℝ) ^ ((num.log2 : Int) - den.log2 - 53) ≤ num / den ∧
      (num : ℝ) / den < 2 ^ 54 * (2 : ℝ) ^ ((num.log2 : Int) - den.log2 - 53) := by
  have hnumlo : (2 : ℝ) ^ num.log2 ≤ num := by exact_mod_cast Nat.log2_self_le hnum
  have hnumhi : (num : ℝ) < 2 ^ (num.log2 + 1) := by exact_mod_cast Nat.lt_log2_self
  have hdenlo : (2 : ℝ) ^ den.log2 ≤ den := by exact_mod_cast Nat.log2_self_le hden
  have hdenhi : (den : ℝ) < 2 ^ (den.log2 + 1) := by exact_mod_cast Nat.lt_log2_self
  have hpos : (0 : ℝ) < den := Nat.cast_pos.2 (Nat.pos_of_ne_zero hden)
  have hpow : (2 : ℝ) ^ ((num.log2 : Int) - den.log2 - 53) =
      2 ^ num.log2 / 2 ^ den.log2 / 2 ^ 53 := by
    rw [zpow_sub₀ (by norm_num), zpow_sub₀ (by norm_num)]
    norm_cast
  rw [hpow, le_div_iff₀ hpos, div_lt_iff₀ hpos]
  have hdenpow : (0 : ℝ) < 2 ^ den.log2 := by positivity
  have hnumpow : (0 : ℝ) < 2 ^ num.log2 := by positivity
  rw [pow_succ] at hnumhi hdenhi
  constructor
  · calc 2 ^ 52 * ((2 : ℝ) ^ num.log2 / 2 ^ den.log2 / 2 ^ 53) * den
        = 2 ^ num.log2 * (den / (2 ^ den.log2 * 2)) := by ring
      _ ≤ 2 ^ num.log2 * 1 := by
          refine mul_le_mul_of_nonneg_left ?_ hnumpow.le
          exact (div_le_one (by positivity)).2 hdenhi.le
      _ ≤ num := by rw [mul_one]; exact hnumlo
  · calc (num : ℝ) < 2 ^ num.log2 * 2 := hnumhi
      _ ≤ 2 ^ num.log2 * 2 * (den / 2 ^ den.log2) := by
          refine le_mul_of_one_le_right (by positivity) ?_
          exact (one_le_div hdenpow).2 hdenlo
      _ = 2 ^ 54 * (2 ^ num.log2 / 2 ^ den.log2 / 2 ^ 53) * den := by ring

theorem fits_exponentOf (hnum : num ≠ 0) (hden : den ≠ 0) :
    Fits ((num : ℝ) / den) (exponentOf num den) := by
  have hpos := Nat.pos_of_ne_zero hden
  obtain ⟨hlo, hhi⟩ := quotient_bounds hnum hden
  rw [exponentOf]
  generalize (num.log2 : Int) - den.log2 - 53 = e at hlo hhi
  have hnext : (2 : ℝ) ^ (e + 1) = 2 ^ e * 2 := zpow_add_one₀ (by norm_num) e
  have htest : (scaled num den e).1 / (scaled num den e).2 < Nat.pow 2 53 ↔
      (num : ℝ) / den < 2 ^ 53 * 2 ^ e := by
    rw [Nat.div_lt_iff_lt_mul (scaled_snd_pos hpos e), ← not_le, mul_scaled_le_iff hpos, not_le,
      realValue, Nat.pow_eq]
    norm_num
  -- before the least exponent comes in, the quotient has fifty-three bits at the exponent
  have hfull : ∃ f : Int, (if (scaled num den e).1 / (scaled num den e).2 < Nat.pow 2 53 then e
      else e + 1) = f ∧ (num : ℝ) / den < 2 ^ 53 * 2 ^ f ∧ 2 ^ 52 * (2 : ℝ) ^ f ≤ num / den := by
    refine ⟨_, rfl, ?_⟩
    split
    · rename_i h
      exact ⟨htest.1 h, hlo⟩
    · rename_i h
      have hle := not_lt.1 (htest.not.1 h)
      rw [hnext]
      constructor <;> linarith
  obtain ⟨f, hf, hlt, hle⟩ := hfull
  rw [hf]
  by_cases hleast : leastExponent ≤ f
  · rw [max_eq_left hleast]
    exact ⟨hlt, hleast, .inr hle⟩
  · have hmono : (2 : ℝ) ^ f ≤ 2 ^ leastExponent :=
      zpow_le_zpow_right₀ (by norm_num) (not_le.1 hleast).le
    rw [max_eq_right (not_le.1 hleast).le]
    exact ⟨by linarith, le_rfl, .inl rfl⟩

end

/-! ## Rounding to a mantissa -/

/-- The mantissa of the double nearest to a quotient. -/
def roundedMantissa (num den : Nat) : Nat :=
  roundDiv (scaled num den (exponentOf num den)).1 (scaled num den (exponentOf num den)).2

/-- The number that a quotient is rounded to, if there were no greatest double. -/
noncomputable def roundedValue (num den : Nat) : ℝ :=
  realValue (roundedMantissa num den) (exponentOf num den)

section

variable {num den num' den' m : Nat} {e : Int}

theorem realValue_two_pow (k : Nat) (e : Int) : realValue (2 ^ k) e = 2 ^ k * 2 ^ e := by
  rw [realValue, Nat.cast_pow, Nat.cast_ofNat]

theorem quotient_nonneg (num den : Nat) : 0 ≤ (num : ℝ) / den :=
  div_nonneg num.cast_nonneg den.cast_nonneg

theorem quotient_pos (hnum : num ≠ 0) (hden : 0 < den) : 0 < (num : ℝ) / den :=
  div_pos (Nat.cast_pos.2 (Nat.pos_of_ne_zero hnum)) (Nat.cast_pos.2 hden)

theorem roundedMantissa_le (hden : 0 < den) {k : Nat}
    (hk : (num : ℝ) / den ≤ realValue k (exponentOf num den)) : roundedMantissa num den ≤ k :=
  roundDiv_le (scaled_snd_pos hden _) ((scaled_le_mul_iff hden).2 hk)

theorem le_roundedMantissa (hden : 0 < den) {k : Nat}
    (hk : realValue k (exponentOf num den) ≤ (num : ℝ) / den) : k ≤ roundedMantissa num den :=
  le_roundDiv (scaled_snd_pos hden _) ((mul_scaled_le_iff hden).2 hk)

/-- A mantissa may be rounded up to one that has a bit more. -/
theorem roundedMantissa_le_full (hnum : num ≠ 0) (hden : 0 < den) :
    roundedMantissa num den ≤ 2 ^ 53 := by
  refine roundedMantissa_le hden ?_
  rw [realValue_two_pow]
  exact (fits_exponentOf hnum hden.ne').lt.le

theorem full_le_roundedMantissa (hnum : num ≠ 0) (hden : 0 < den) :
    exponentOf num den = leastExponent ∨ 2 ^ 52 ≤ roundedMantissa num den := by
  refine (fits_exponentOf hnum hden.ne').full.imp_right fun hfull => le_roundedMantissa hden ?_
  rw [realValue_two_pow]
  exact hfull

theorem roundedValue_zero (hden : 0 < den) : roundedValue 0 den = 0 := by
  have hmantissa : roundedMantissa 0 den = 0 := by
    refine Nat.le_zero.1 (roundedMantissa_le hden ?_)
    rw [realValue_zero, Nat.cast_zero, zero_div]
  rw [roundedValue, hmantissa, realValue_zero]

theorem roundedValue_nonneg (num den : Nat) : 0 ≤ roundedValue num den := realValue_nonneg _ _

/-- **Rounding to a double keeps the order of quotients.** -/
theorem roundedValue_mono (hden : 0 < den) (hden' : 0 < den')
    (h : (num : ℝ) / den ≤ num' / den') : roundedValue num den ≤ roundedValue num' den' := by
  by_cases hnum : num = 0
  · rw [hnum, roundedValue_zero hden]
    exact roundedValue_nonneg _ _
  have hnum' : num' ≠ 0 := by
    rintro rfl
    have hpos := quotient_pos hnum hden
    rw [Nat.cast_zero, zero_div] at h
    linarith
  have hfits := fits_exponentOf hnum hden.ne'
  have hfits' := fits_exponentOf hnum' hden'.ne'
  rcases lt_trichotomy (exponentOf num den) (exponentOf num' den') with he | he | he
  · have hfull' := (full_le_roundedMantissa hnum' hden').resolve_left fun hleast => by
      have := hfits.leastExponent_le
      omega
    calc roundedValue num den
        ≤ realValue (2 ^ 53) (exponentOf num den) :=
          realValue_le_iff.2 (roundedMantissa_le_full hnum hden)
      _ ≤ realValue (2 ^ 52) (exponentOf num' den') := by
          rw [realValue_two_pow, realValue_two_pow]
          exact full_le he
      _ ≤ roundedValue num' den' := realValue_le_iff.2 hfull'
  · rw [roundedValue, roundedValue, roundedMantissa, roundedMantissa, ← he, realValue_le_iff]
    exact roundDiv_le_roundDiv (scaled_snd_pos hden _) (scaled_snd_pos hden' _)
      ((scaled_mul_le_iff hden hden').2 h)
  · have hlt := hfits'.lt_of_lt hfits he
    linarith

theorem Fits.unique {a : ℝ} {f : Int} (he : Fits a e) (hf : Fits a f) : e = f := by
  rcases lt_trichotomy e f with h | h | h
  · exact absurd (he.lt_of_lt hf h) (lt_irrefl a)
  · exact h
  · exact absurd (hf.lt_of_lt he h) (lt_irrefl a)

theorem exponentOf_of_canonical (hnum : num ≠ 0) (hden : 0 < den) (hm : Canonical m e)
    (h : (num : ℝ) / den = realValue m e) : exponentOf num den = e := by
  have hfits := fits_exponentOf hnum hden.ne'
  rw [h] at hfits
  exact hfits.unique hm.fits

/-- A double is rounded to its own mantissa. -/
theorem roundedMantissa_of_canonical (hnum : num ≠ 0) (hden : 0 < den) (hm : Canonical m e)
    (h : (num : ℝ) / den = realValue m e) : roundedMantissa num den = m := by
  have he := exponentOf_of_canonical hnum hden hm h
  refine Nat.le_antisymm (roundedMantissa_le hden ?_) (le_roundedMantissa hden ?_)
  · rw [h, he]
  · rw [h, he]

/-- **Rounding changes no double.** -/
theorem roundedValue_of_canonical (hden : 0 < den) (hm : Canonical m e)
    (h : (num : ℝ) / den = realValue m e) : roundedValue num den = realValue m e := by
  by_cases hnum : num = 0
  · rw [hnum, roundedValue_zero hden, ← h, hnum, Nat.cast_zero, zero_div]
  · rw [roundedValue, roundedMantissa_of_canonical hnum hden hm h,
      exponentOf_of_canonical hnum hden hm h]

/-- Numerator and denominator of a double. -/
theorem fraction_div (m : Nat) (e : Int) :
    ((Decimal.fraction m e).1 : ℝ) / (Decimal.fraction m e).2 = realValue m e := by
  rw [Decimal.fraction, realValue]
  simp only [Nat.pow_eq]
  split
  · rename_i he
    lift e to Nat using he
    push_cast
    rw [Int.toNat_natCast, zpow_natCast, div_one]
  · obtain ⟨k, rfl⟩ : ∃ k : Nat, e = -(k : Int) := ⟨(-e).toNat, by omega⟩
    rw [neg_neg, Int.toNat_natCast, zpow_neg, zpow_natCast]
    push_cast
    rw [div_eq_mul_inv]

theorem fraction_snd_pos (m : Nat) (e : Int) : 0 < (Decimal.fraction m e).2 := by
  rw [Decimal.fraction]
  split
  · exact one_pos
  · exact Nat.two_pow_pos _

end

/-! ## Rounding to a double -/

/-- The exponent of the infinities, one above that of the greatest doubles. -/
def infinityExponent : Int := 972

/-- The least number that is too great for a double. -/
noncomputable def overflow : ℝ := realValue (2 ^ 52) infinityExponent

/-- A number, or infinity if it is too great for a double. -/
noncomputable def capped (a : ℝ) : EReal := if a < overflow then a else ⊤

/-- The bits, without the sign, of the double with a mantissa and an exponent. -/
def place (m : Nat) (e : Int) : Nat := (e - leastExponent).toNat * 2 ^ 52 + m

section

variable {num den num' den' m : Nat} {e : Int} {a b : ℝ}

theorem fits_overflow : Fits overflow infinityExponent :=
  Canonical.fits ⟨by norm_num, by decide, .inr le_rfl⟩

theorem capped_mono (hab : a ≤ b) : capped a ≤ capped b := by
  rw [capped, capped]
  split
  · split
    · exact EReal.coe_le_coe_iff.2 hab
    · exact le_top
  · rename_i h
    rw [if_neg fun hb => h (hab.trans_lt hb)]

theorem capped_zero : capped 0 = 0 := by
  exact if_pos (realValue_pos_iff.2 (by norm_num))

theorem capped_nonneg (ha : 0 ≤ a) : 0 ≤ capped a := capped_zero ▸ capped_mono ha

theorem Canonical.realValue_lt_overflow_iff (hm : Canonical m e) :
    realValue m e < overflow ↔ e < infinityExponent := by
  refine ⟨fun h => ?_, hm.fits.lt_of_lt fits_overflow⟩
  by_contra he
  rcases (not_lt.1 he).lt_or_eq with he | rfl
  · exact absurd (fits_overflow.lt_of_lt hm.fits he) h.not_gt
  · exact absurd (realValue_le_iff.2 (hm.full.resolve_left (by decide))) h.not_ge

theorem decode_ofMagnitude_subnormal (negative : Bool) (hm : m < 2 ^ 52) :
    decode (ofMagnitude negative m) = .finite negative m leastExponent := by
  rw [decode_ofMagnitude negative (by rw [infinityMagnitude, Nat.pow_eq]; omega), decodeBits]
  simp only [Nat.pow_eq]
  have hsign : decide (2 ^ 63 ≤ if negative = true then 2 ^ 63 + m else m) = negative := by
    cases negative
    · exact decide_eq_false (by rw [if_neg Bool.false_ne_true]; omega)
    · exact decide_eq_true (by rw [if_pos rfl]; omega)
  have hfield : (if negative = true then 2 ^ 63 + m else m) / 2 ^ 52 % 2 ^ 11 = 0 := by
    split <;> omega
  have hfraction : (if negative = true then 2 ^ 63 + m else m) % 2 ^ 52 = m := by
    split <;> omega
  rw [hsign, hfield, hfraction, if_neg (by omega), if_pos rfl]

theorem decode_ofMagnitude_place (negative : Bool) (hm : Canonical m e)
    (he : e < infinityExponent) :
    decode (ofMagnitude negative (place m e)) = .finite negative m e := by
  have hlt := hm.lt
  have hle := hm.leastExponent_le
  rw [leastExponent] at hle
  rw [infinityExponent] at he
  by_cases hfull : 2 ^ 52 ≤ m
  · have hplace : place m e = (e + 1075).toNat * 2 ^ 52 + (m - 2 ^ 52) := by
      rw [place, leastExponent]
      omega
    have hmantissa : 2 ^ 52 + (m - 2 ^ 52) = m := by omega
    have hexponent : ((e + 1075).toNat : Int) - 1075 = e := by omega
    rw [hplace, decode_ofMagnitude_normal negative _ _ (by omega) (by omega) (by omega),
      hmantissa, hexponent]
  · obtain rfl : e = leastExponent := hm.full.resolve_right hfull
    have hplace : place m leastExponent = m := by
      rw [place, sub_self]
      simp
    rw [hplace, decode_ofMagnitude_subnormal negative (not_le.1 hfull)]

theorem value?_infinity (negative : Bool) :
    value? (ofMagnitude negative infinityMagnitude) = some (withSign negative ⊤) := by
  rw [value?, decode_ofMagnitude negative le_rfl]
  cases negative <;> rfl

/-- The bits of infinity come after those of all doubles. -/
theorem value?_ofMagnitude_min (negative : Bool) (hm : Canonical m e) :
    value? (ofMagnitude negative (min (place m e) infinityMagnitude)) =
      some (withSign negative (capped (realValue m e))) := by
  have hlt := hm.lt
  have hle := hm.leastExponent_le
  have hinfinity : infinityMagnitude = 2047 * 2 ^ 52 := by rw [infinityMagnitude, Nat.pow_eq]
  by_cases he : e < infinityExponent
  · have hplace : place m e ≤ infinityMagnitude := by
      rw [hinfinity, place]
      rw [leastExponent] at hle ⊢
      rw [infinityExponent] at he
      omega
    rw [min_eq_left hplace, value?_of_finite (decode_ofMagnitude_place negative hm he), capped,
      if_pos (hm.realValue_lt_overflow_iff.2 he)]
  · have hfull := hm.full.resolve_left fun hleast => he (hleast ▸ by decide)
    have hplace : infinityMagnitude ≤ place m e := by
      rw [hinfinity, place]
      rw [leastExponent] at hle ⊢
      rw [infinityExponent] at he
      omega
    rw [min_eq_right hplace, value?_infinity, capped,
      if_neg (hm.realValue_lt_overflow_iff.not.2 he)]

/-- A mantissa that was rounded up to one more bit is the first one of the next exponent. -/
theorem exists_canonical_rounded (hnum : num ≠ 0) (hden : 0 < den) :
    ∃ m e, Canonical m e ∧ realValue m e = roundedValue num den ∧
      place m e = place (roundedMantissa num den) (exponentOf num den) := by
  have hle := (fits_exponentOf hnum hden.ne').leastExponent_le
  rcases (roundedMantissa_le_full hnum hden).lt_or_eq with hlt | heq
  · exact ⟨_, _, ⟨hlt, hle, full_le_roundedMantissa hnum hden⟩, rfl, rfl⟩
  · refine ⟨2 ^ 52, exponentOf num den + 1, ⟨by norm_num, by omega, .inr le_rfl⟩, ?_, ?_⟩
    · rw [roundedValue, heq, realValue_two_pow, realValue_two_pow, zpow_add_one₀ (by norm_num)]
      ring
    · rw [heq, place, place]
      omega

/-- The exact value of the double nearest to a quotient. -/
theorem value?_nearest (negative : Bool) (num : Nat) (hden : 0 < den) :
    value? (nearest negative num den) =
      some (withSign negative (capped (roundedValue num den))) := by
  by_cases hnum : num = 0
  · rw [hnum, nearest, nearestMagnitude, if_pos rfl, roundedValue_zero hden,
      value?_of_finite (decode_ofMagnitude_subnormal negative (by norm_num)), realValue_zero,
      capped_zero, EReal.coe_zero]
  · obtain ⟨m, e, hm, hvalue, hplace⟩ := exists_canonical_rounded hnum hden
    rw [← hvalue, ← value?_ofMagnitude_min negative hm, hplace, nearest, nearestMagnitude,
      if_neg hnum]
    rfl

/-- Rounding never gives what is no number. -/
theorem isNaN_nearest (negative : Bool) (num : Nat) (hden : 0 < den) :
    (nearest negative num den).isNaN = false := by
  rw [Bool.eq_false_iff, Ne, isNaN_iff, value?_nearest negative num hden]
  exact nofun

theorem isNaN_ofNat (n : Nat) : (ofNat n).isNaN = false := isNaN_nearest false n one_pos

/-! ## Signs -/

/-- A quotient with a sign. -/
noncomputable def signedQuotient (negative : Bool) (num den : Nat) : ℝ :=
  if negative then -((num : ℝ) / den) else num / den

/-- The exact value of the double nearest to a quotient with a sign. -/
noncomputable def nearestValue (negative : Bool) (num den : Nat) : EReal :=
  withSign negative (capped (roundedValue num den))

/-- **A quotient that is not less than another one has no lesser double.** -/
theorem nearestValue_mono {negative negative' : Bool} (hden : 0 < den) (hden' : 0 < den')
    (h : signedQuotient negative num den ≤ signedQuotient negative' num' den') :
    nearestValue negative num den ≤ nearestValue negative' num' den' := by
  have hnonneg := quotient_nonneg num den
  have hnonneg' := quotient_nonneg num' den'
  have hcapped := capped_nonneg (roundedValue_nonneg num den)
  have hcapped' := capped_nonneg (roundedValue_nonneg num' den')
  cases negative <;> cases negative' <;>
    simp only [signedQuotient, nearestValue, withSign, Bool.false_eq_true, if_true, if_false] at h ⊢
  case false.false => exact capped_mono (roundedValue_mono hden hden' h)
  case false.true =>
    -- both quotients are zero
    have hzero : (num : ℝ) / den ≤ (0 : Nat) / (1 : Nat) := by
      rw [Nat.cast_zero, zero_div]
      linarith
    have hzero' : (num' : ℝ) / den' ≤ (0 : Nat) / (1 : Nat) := by
      rw [Nat.cast_zero, zero_div]
      linarith
    have hvalue := capped_mono (roundedValue_mono hden one_pos hzero)
    have hvalue' := capped_mono (roundedValue_mono hden' one_pos hzero')
    rw [roundedValue_zero one_pos, capped_zero] at hvalue hvalue'
    rw [le_antisymm hvalue hcapped, le_antisymm hvalue' hcapped', neg_zero]
  case true.false => exact (EReal.neg_le_neg_iff.2 hcapped).trans (neg_zero.le.trans hcapped')
  case true.true =>
    exact EReal.neg_le_neg_iff.2 (capped_mono (roundedValue_mono hden' hden (by linarith)))

theorem exponent_lt_of_decode {negative : Bool} {x : Float} (hx : decode x = .finite negative m e) :
    e < infinityExponent := by
  rw [decode, decodeBits] at hx
  simp only [Nat.pow_eq] at hx
  rw [infinityExponent]
  split at hx
  · split at hx <;> cases hx
  · split at hx
    · cases hx
      decide
    · cases hx
      omega

/-- A finite double is the one nearest to itself. -/
theorem nearestValue_fraction {negative : Bool} {x : Float} (hx : decode x = .finite negative m e) :
    nearestValue negative (Decimal.fraction m e).1 (Decimal.fraction m e).2 =
      withSign negative (realValue m e) := by
  have hm := canonical_of_decode hx
  rw [nearestValue, roundedValue_of_canonical (fraction_snd_pos m e) hm (fraction_div m e), capped,
    if_pos (hm.realValue_lt_overflow_iff.2 (exponent_lt_of_decode hx))]

/-- The exact value of a double is infinite, or a quotient that it is nearest to. -/
theorem cases_value? {x : Float} {p : EReal} (hx : value? x = some p) :
    p = ⊥ ∨ p = ⊤ ∨ ∃ negative num den, 0 < den ∧
      p = (signedQuotient negative num den : ℝ) ∧ p = nearestValue negative num den := by
  rw [value?] at hx
  cases hd : decode x with
  | nan =>
    rw [hd] at hx
    cases hx
  | infinite negative =>
    rw [hd] at hx
    cases hx
    cases negative with
    | true => exact .inl rfl
    | false => exact .inr (.inl rfl)
  | finite negative m e =>
    rw [hd] at hx
    cases hx
    refine .inr (.inr ⟨negative, _, _, fraction_snd_pos m e, ?_, (nearestValue_fraction hd).symm⟩)
    rw [signedQuotient, fraction_div]
    cases negative <;> rfl

end

/-! ## Integers -/

/-- The exact value of the double nearest to an integer. -/
noncomputable def intValue (n : Int) : EReal := nearestValue (decide (n < 0)) n.natAbs 1

section

variable {m n : Int} {x : Float} {p : EReal}

theorem value?_ofInt (n : Int) : value? (ofInt n) = some (intValue n) :=
  value?_nearest _ _ one_pos

/-- An integer of sixty-four bits is far from being too great for a double. -/
theorem exists_decode_ofInt (hn : n.natAbs ≤ 2 ^ 64) :
    ∃ negative m e, decode (ofInt n) = .finite negative m e := by
  have hm : Canonical (2 ^ 52) 12 := ⟨by norm_num, by decide, .inr le_rfl⟩
  have hpow : ((2 ^ 64 : Nat) : ℝ) / (1 : Nat) = realValue (2 ^ 52) 12 := by
    rw [realValue_two_pow]
    norm_num
  have hle : roundedValue n.natAbs 1 ≤ realValue (2 ^ 52) 12 := by
    rw [← roundedValue_of_canonical one_pos hm hpow]
    exact roundedValue_mono one_pos one_pos
      (div_le_div_of_nonneg_right (Nat.cast_le.2 hn) (Nat.cast_nonneg 1))
  have hlt := hle.trans_lt (hm.realValue_lt_overflow_iff.2 (by decide))
  have hvalue := value?_ofInt n
  rw [intValue, nearestValue, capped, if_pos hlt, value?] at hvalue
  cases hd : decode (ofInt n) with
  | finite negative m e => exact ⟨negative, m, e, rfl⟩
  | nan =>
    rw [hd] at hvalue
    cases hvalue
  | infinite negative =>
    rw [hd] at hvalue
    generalize decide (n < 0) = sign at hvalue
    cases negative <;> cases sign <;> cases hvalue

theorem ofNat_eq_ofInt (n : Nat) : ofNat n = ofInt n := by
  rw [ofNat, ofInt, Int.natAbs_natCast, decide_eq_false (by omega)]

theorem signedQuotient_natAbs (n : Int) : signedQuotient (decide (n < 0)) n.natAbs 1 = n := by
  rw [signedQuotient, Nat.cast_one, div_one, Nat.cast_natAbs]
  by_cases hn : n < 0
  · rw [if_pos (decide_eq_true hn), abs_of_neg hn]
    push_cast
    ring
  · rw [if_neg (by simpa using hn), abs_of_nonneg (not_lt.1 hn)]

/-- The greater one of two integers has the greater double, or the same. -/
theorem intValue_mono (hmn : m ≤ n) : intValue m ≤ intValue n := by
  refine nearestValue_mono one_pos one_pos ?_
  rw [signedQuotient_natAbs, signedQuotient_natAbs]
  exact_mod_cast hmn

/-- A double that is not above an integer is not above the double nearest to it. -/
theorem le_intValue (hx : value? x = some p) (hp : p ≤ ((n : ℝ) : EReal)) : p ≤ intValue n := by
  obtain rfl | rfl | ⟨negative, num, den, hden, hquotient, hnearest⟩ := cases_value? hx
  · exact bot_le
  · exact absurd hp (EReal.coe_lt_top _).not_ge
  · rw [hnearest]
    refine nearestValue_mono hden one_pos ?_
    rw [signedQuotient_natAbs]
    exact EReal.coe_le_coe_iff.1 (hquotient ▸ hp)

/-- A double that is not below an integer is not below the double nearest to it. -/
theorem intValue_le (hx : value? x = some p) (hp : ((n : ℝ) : EReal) ≤ p) : intValue n ≤ p := by
  obtain rfl | rfl | ⟨negative, num, den, hden, hquotient, hnearest⟩ := cases_value? hx
  · exact absurd hp (EReal.bot_lt_coe _).not_ge
  · exact le_top
  · rw [hnearest]
    refine nearestValue_mono one_pos hden ?_
    rw [signedQuotient_natAbs]
    exact EReal.coe_le_coe_iff.1 (hquotient ▸ hp)

/-- An integer that is a double is the double nearest to it. -/
theorem intValue_of_value? (hx : value? x = some ((n : ℝ) : EReal)) :
    intValue n = ((n : ℝ) : EReal) :=
  le_antisymm (intValue_le hx le_rfl) (le_intValue hx le_rfl)

end

/-- A positive double that is less than the double of a natural has no greater whole part than
the natural. -/
theorem truncate?_le {x : Float} {n : Nat} (hpos : 0 < x) (hlt : x < ofNat n) :
    ∃ k : Nat, truncate? x = some k ∧ k ≤ n := by
  rw [lt_iff, value?_zero] at hpos
  rw [lt_iff, ofNat_eq_ofInt, value?_ofInt] at hlt
  obtain ⟨z, p, hz, hx, hpos⟩ := hpos
  obtain ⟨p', q, hx', hq, hlt⟩ := hlt
  cases hz
  cases hq
  cases hx.symm.trans hx'
  obtain ⟨m, e, hdecode, rfl⟩ := exists_decode_of_pos hx hpos hlt.ne_top
  obtain ⟨k, hk, hle, -⟩ := truncate?_of_finite hdecode
  refine ⟨k, hk, ?_⟩
  by_contra hnk
  have hn : (((n : Int) : ℝ) : EReal) ≤ (realValue m e : ℝ) := by
    refine EReal.coe_le_coe_iff.2 (le_trans ?_ hle)
    exact_mod_cast (not_le.1 hnk).le
  exact absurd (intValue_le hx hn) hlt.not_ge

end ProbeEngine.Binary64

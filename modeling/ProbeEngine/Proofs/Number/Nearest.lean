import ProbeEngine.Proofs.Number.Rounding

/-!
# The double nearest to a number

Which double is nearest to a quotient depends on the number alone that the quotient is
(`nearest_congr`). Numbers beyond the greatest double give an infinity
(`nearest_of_overflow_le`), those next to zero give zero (`nearest_of_lt_underflow`), and **a
double is the one nearest to its own exact value** (`nearest_of_decode`).
-/

namespace ProbeEngine.Binary64

section

variable {num den num' den' m : Nat} {e : Int} {x : Float}

/-! ## Equal quotients -/

theorem exponentOf_congr (hnum : num ≠ 0) (hden : 0 < den) (hnum' : num' ≠ 0) (hden' : 0 < den')
    (h : (num : ℝ) / den = num' / den') : exponentOf num den = exponentOf num' den' := by
  have hfits := fits_exponentOf hnum hden.ne'
  rw [h] at hfits
  exact hfits.unique (fits_exponentOf hnum' hden'.ne')

theorem roundedMantissa_congr (hden : 0 < den) (hden' : 0 < den')
    (he : exponentOf num den = exponentOf num' den') (h : (num : ℝ) / den = num' / den') :
    roundedMantissa num den = roundedMantissa num' den' := by
  rw [roundedMantissa, roundedMantissa, ← he]
  exact Nat.le_antisymm
    (roundDiv_le_roundDiv (scaled_snd_pos hden _) (scaled_snd_pos hden' _)
      ((scaled_mul_le_iff hden hden').2 h.le))
    (roundDiv_le_roundDiv (scaled_snd_pos hden' _) (scaled_snd_pos hden _)
      ((scaled_mul_le_iff hden' hden).2 h.ge))

theorem nearestMagnitude_eq (hnum : num ≠ 0) :
    nearestMagnitude num den =
      min (place (roundedMantissa num den) (exponentOf num den)) infinityMagnitude := if_neg hnum

theorem nearestMagnitude_le (num den : Nat) : nearestMagnitude num den ≤ infinityMagnitude := by
  rw [nearestMagnitude]
  split
  · exact Nat.zero_le _
  · exact min_le_right _ _

/-- The double nearest to a quotient depends on the number that it is. -/
theorem nearest_congr (negative : Bool) (hden : 0 < den) (hden' : 0 < den')
    (h : (num : ℝ) / den = num' / den') :
    nearest negative num den = nearest negative num' den' := by
  have hzero : num = 0 ↔ num' = 0 := by
    have hpos : (den : ℝ) ≠ 0 := Nat.cast_ne_zero.2 hden.ne'
    have hpos' : (den' : ℝ) ≠ 0 := Nat.cast_ne_zero.2 hden'.ne'
    have hquotient : ((num : ℝ) / den = 0) ↔ (num' : ℝ) / den' = 0 := by rw [h]
    simpa [div_eq_zero_iff, hpos, hpos'] using hquotient
  rw [nearest, nearest]
  by_cases hnum : num = 0
  · rw [nearestMagnitude, nearestMagnitude, if_pos hnum, if_pos (hzero.1 hnum)]
  · have he := exponentOf_congr hnum hden (hzero.not.1 hnum) hden' h
    rw [nearestMagnitude_eq hnum, nearestMagnitude_eq (hzero.not.1 hnum), ← he,
      roundedMantissa_congr hden hden' he h]

/-! ## Numbers out of range -/

/-- A number too great for a double gives an infinity. -/
theorem nearest_of_overflow_le (negative : Bool) (hden : 0 < den)
    (h : overflow ≤ (num : ℝ) / den) : nearest negative num den = infinity negative := by
  have hnum : num ≠ 0 := by
    rintro rfl
    rw [Nat.cast_zero, zero_div] at h
    exact absurd h (realValue_pos_iff.2 (by norm_num)).not_ge
  have he : infinityExponent ≤ exponentOf num den := by
    by_contra hlt
    exact absurd h ((fits_exponentOf hnum hden.ne').lt_of_lt fits_overflow (not_le.1 hlt)).not_ge
  have hfull := (full_le_roundedMantissa hnum hden).resolve_left fun hleast => by
    rw [hleast] at he
    exact absurd he (by decide)
  have hplace : infinityMagnitude ≤ place (roundedMantissa num den) (exponentOf num den) := by
    rw [infinityExponent] at he
    rw [infinityMagnitude, Nat.pow_eq, place, leastExponent]
    omega
  rw [nearest, nearestMagnitude_eq hnum, min_eq_right hplace]
  rfl

/-- Half of the least positive double. -/
noncomputable def underflow : ℝ := realValue 1 (leastExponent - 1)

theorem underflow_eq : underflow = (2 : ℝ) ^ (leastExponent - 1) := by
  rw [underflow, realValue, Nat.cast_one, one_mul]

/-- A number that is less than half of the least positive double gives zero. -/
theorem nearest_of_lt_underflow (negative : Bool) (hden : 0 < den)
    (h : (num : ℝ) / den < underflow) : nearest negative num den = ofMagnitude negative 0 := by
  rw [nearest]
  by_cases hnum : num = 0
  · rw [nearestMagnitude, if_pos hnum]
  have hhalf : (2 : ℝ) ^ leastExponent = underflow * 2 := by
    rw [underflow_eq, ← zpow_add_one₀ (by norm_num), sub_add_cancel]
  have he : exponentOf num den = leastExponent := by
    refine (fits_exponentOf hnum hden.ne').full.resolve_right fun hfull => ?_
    have hmono : (2 : ℝ) ^ leastExponent ≤ 2 ^ exponentOf num den :=
      zpow_le_zpow_right₀ (by norm_num) (fits_exponentOf hnum hden.ne').leastExponent_le
    have hpos : 0 < underflow := realValue_pos_iff.2 one_pos
    linarith
  have hmantissa : roundedMantissa num den = 0 := by
    have hscaled := scaled_div num den leastExponent
    have hpos : 0 < (scaled num den leastExponent).2 := scaled_snd_pos hden leastExponent
    have hlt : 2 * (scaled num den leastExponent).1 < (scaled num den leastExponent).2 := by
      have hreal : ((scaled num den leastExponent).1 : ℝ) / (scaled num den leastExponent).2 <
          1 / 2 := by
        rw [hscaled, div_lt_iff₀ (two_zpow_pos _), hhalf]
        linarith
      rw [div_lt_iff₀ (Nat.cast_pos.2 hpos)] at hreal
      exact_mod_cast (by linarith : 2 * ((scaled num den leastExponent).1 : ℝ) <
        (scaled num den leastExponent).2)
    rw [roundedMantissa, he, roundDiv, Nat.div_eq_of_lt (by omega), Nat.mod_eq_of_lt (by omega),
      if_pos hlt]
  rw [nearestMagnitude_eq hnum, hmantissa, he, place, sub_self]
  rfl

/-! ## Exact values -/

/-- A double is made of its bits. -/
theorem eq_ofMagnitude {negative : Bool} {magnitude : Nat}
    (h : x.toBits.toNat = if negative then 2 ^ 63 + magnitude else magnitude) :
    x = ofMagnitude negative magnitude := by
  rw [ofMagnitude, Nat.pow_eq, ← h, UInt64.ofNat_toNat, Float.ofBits_toBits]

/-- The bits of a finite double. -/
theorem eq_ofMagnitude_place {negative : Bool} (hx : decode x = .finite negative m e) :
    x = ofMagnitude negative (place m e) := by
  have hword := x.toBits.toNat_lt
  apply eq_ofMagnitude
  rw [decode, decodeBits] at hx
  simp only [Nat.pow_eq] at hx
  generalize x.toBits.toNat = bits at hx hword
  have hsign : ∀ r, r = bits % 2 ^ 63 →
      bits = if decide (2 ^ 63 ≤ bits) = true then 2 ^ 63 + r else r := by
    rintro r rfl
    split
    · rename_i hnegative
      have := of_decide_eq_true hnegative
      omega
    · rename_i hpositive
      have := of_decide_eq_false (Bool.eq_false_iff.2 hpositive)
      omega
  split at hx
  · split at hx <;> cases hx
  · split at hx
    · cases hx
      refine hsign _ ?_
      rw [place]
      omega
    · cases hx
      refine hsign _ ?_
      rw [place, leastExponent]
      omega

theorem eq_infinity {negative : Bool} (hx : decode x = .infinite negative) :
    x = infinity negative := by
  have hword := x.toBits.toNat_lt
  apply eq_ofMagnitude
  rw [infinityMagnitude]
  rw [decode, decodeBits] at hx
  simp only [Nat.pow_eq] at hx ⊢
  generalize x.toBits.toNat = bits at hx hword
  split at hx
  · split at hx
    · cases hx
      split
      · rename_i hnegative
        have := of_decide_eq_true hnegative
        omega
      · rename_i hpositive
        have := of_decide_eq_false (Bool.eq_false_iff.2 hpositive)
        omega
    · cases hx
  · split at hx <;> cases hx

/-- There is one double that is no number. -/
theorem eq_nan (hx : decode x = .nan) : x = nan := by
  have hbits : x.toBits.toNat / 2 ^ 52 % 2 ^ 11 = 2047 ∧ x.toBits.toNat % 2 ^ 52 ≠ 0 := by
    rw [decode, decodeBits] at hx
    simp only [Nat.pow_eq] at hx
    split at hx
    · rename_i hfield
      split at hx
      · cases hx
      · rename_i hfraction
        exact ⟨hfield, hfraction⟩
    · split at hx <;> cases hx
  have hexponent : exponentBits x.toBits.toBitVec = -1#11 := by
    apply BitVec.eq_of_toNat_eq
    rw [toNat_exponentBits]
    exact hbits.1
  have hfraction : fractionBits x.toBits.toBitVec ≠ 0#52 := by
    intro hzero
    refine hbits.2 ?_
    have hnat := toNat_fractionBits x.toBits.toBitVec
    rw [hzero] at hnat
    exact hnat.symm
  have hpacked := x.toModel.valid.eq_packedNaN hexponent hfraction
  apply Float.toBits_inj.1
  apply UInt64.toBitVec_inj.1
  exact hpacked.trans (by decide +kernel)

theorem place_le_of_decode {negative : Bool} (hx : decode x = .finite negative m e) :
    place m e ≤ infinityMagnitude := by
  have hlt := (canonical_of_decode hx).lt
  have he := exponent_lt_of_decode hx
  rw [infinityExponent] at he
  rw [infinityMagnitude, Nat.pow_eq, place, leastExponent]
  omega

/-- The bits of a finite double without its sign. -/
theorem toNat_toBits_mod {negative : Bool} (hx : decode x = .finite negative m e) :
    x.toBits.toNat % 2 ^ 63 = place m e := by
  have hle := place_le_of_decode hx
  have hbits := toNat_toBits_ofMagnitude negative hle
  rw [← eq_ofMagnitude_place hx, Nat.pow_eq] at hbits
  rw [infinityMagnitude, Nat.pow_eq] at hle
  rw [hbits]
  split <;> omega

/-- A double is the one nearest to its exact value. -/
theorem nearest_of_decode {negative : Bool} (hx : decode x = .finite negative m e) (hden : 0 < den)
    (h : (num : ℝ) / den = realValue m e) : nearest negative num den = x := by
  have hm := canonical_of_decode hx
  rw [eq_ofMagnitude_place hx, nearest]
  by_cases hnum : num = 0
  · have hzero : m = 0 := by
      rw [hnum, Nat.cast_zero, zero_div] at h
      by_contra hm
      exact (realValue_pos_iff.2 (Nat.pos_of_ne_zero hm)).ne h
    have he := hm.full.resolve_right (by omega)
    rw [nearestMagnitude, if_pos hnum, hzero, he, place, sub_self]
    rfl
  · rw [nearestMagnitude_eq hnum, exponentOf_of_canonical hnum hden hm h,
      roundedMantissa_of_canonical hnum hden hm h, min_eq_left (place_le_of_decode hx)]

end

end ProbeEngine.Binary64

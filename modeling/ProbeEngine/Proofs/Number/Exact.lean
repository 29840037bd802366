import Mathlib
import ProbeEngine.Proofs.Number.Whole

/-!
# Exact values of doubles

A double that is a number stands for an exact one, or for one of the infinities (`value?`). The
mantissa of a finite double has all its bits unless its exponent is the least one
(`Canonical`), so that of two doubles the one with the greater exponent is greater
(`Fits.lt_of_lt`). The comparisons of doubles go by exponents and mantissas; by this they are those
of the exact values (`compare_eq_cmp`, and for each test `lt_iff`, `le_iff`, `beq_iff`).
-/

namespace ProbeEngine.Binary64

open Float.Model (UnpackedFloat)

/-! ## Taking a double apart -/

/-- Whether a sign is that of a negative number. -/
def isNegative : UnpackedFloat.Sign → Bool
  | .negative => true
  | .positive => false

/-- What a double reads as that is taken apart by its format. -/
def decodedOf : UnpackedFloat → Decoded
  | .notANumber => .nan
  | .infinity s => .infinite (isNegative s)
  | .zero s => .finite (isNegative s) 0 leastExponent
  | .finite s m e _ => .finite (isNegative s) m e

section

open Float.Model.UnpackedFloat

variable (b : BitVec 64)

/-- The exponent field of a pattern. -/
def exponentBits : BitVec 11 := @unpackExponent .binary64 b

/-- The fraction of a pattern. -/
def fractionBits : BitVec 52 := @unpackMantissa .binary64 b

theorem toNat_exponentBits : (exponentBits b).toNat = b.toNat / 2 ^ 52 % 2 ^ 11 := by
  rw [exponentBits, unpackExponent_def, BitVec.extractLsb'_toNat, Nat.shiftRight_eq_div_pow]

theorem toNat_fractionBits : (fractionBits b).toNat = b.toNat % 2 ^ 52 := by
  rw [fractionBits, unpackMantissa_def, BitVec.extractLsb'_toNat, Nat.shiftRight_zero]

theorem isNegative_unpackSign :
    isNegative (Sign.ofBitVec (@unpackSign .binary64 b)) = decide (2 ^ 63 ≤ b.toNat) := by
  have hsign : (@unpackSign .binary64 b).toNat = b.toNat / 2 ^ 63 % 2 := by
    rw [unpackSign_def, BitVec.extractLsb'_toNat, Nat.shiftRight_eq_div_pow]
    rfl
  have hlt := b.isLt
  by_cases h : 2 ^ 63 ≤ b.toNat
  · have hone : @unpackSign .binary64 b ≠ 0#1 := by
      intro hzero
      rw [hzero, BitVec.toNat_ofNat] at hsign
      omega
    rw [Sign.ofBitVec, if_neg hone, decide_eq_true h]
    rfl
  · have hzero : @unpackSign .binary64 b = 0#1 := by
      apply BitVec.eq_of_toNat_eq
      rw [hsign, BitVec.toNat_ofNat]
      omega
    rw [Sign.ofBitVec, if_pos hzero, decide_eq_false h]
    rfl

/-- The two ways to take a pattern apart agree. -/
theorem decodeBits_toNat : decodeBits b.toNat = decodedOf (unpack .binary64 b) := by
  have hspecial : (exponentBits b).toNat = 2047 ↔ exponentBits b = -1#11 :=
    BitVec.toNat_inj (y := -1#11)
  have hleast : (exponentBits b).toNat = 0 ↔ exponentBits b = 0#11 :=
    BitVec.toNat_inj (y := 0#11)
  have hnone : (fractionBits b).toNat = 0 ↔ fractionBits b = 0#52 :=
    BitVec.toNat_inj (y := 0#52)
  have hmantissa : (1#1 ++ fractionBits b : BitVec (1 + 52)).toNat =
      2 ^ 52 + (fractionBits b).toNat := by
    rw [BitVec.toNat_append, ← Nat.shiftLeft_add_eq_or_of_lt (fractionBits b).isLt]
    rfl
  rw [decodeBits]
  simp only [Nat.pow_eq]
  rw [← toNat_exponentBits, ← toNat_fractionBits, ← isNegative_unpackSign]
  show _ = decodedOf (if exponentBits b = -1#11 then
      if fractionBits b = 0#52 then _ else _
    else if exponentBits b = 0#11 then
      if h : fractionBits b = 0#52 then _ else .finite _ (fractionBits b).toNat _ _
    else .finite _ (1#1 ++ fractionBits b : BitVec (1 + 52)).toNat _ _)
  simp only [hspecial, hleast]
  split
  · simp only [hnone]
    split <;> rfl
  · split
    · rename_i hfield
      split
      · rename_i hfraction
        rw [hnone.2 hfraction]
        rfl
      · refine congrArg (Decoded.finite _ _) ?_
        show _ = ((exponentBits b).toNat : Int) - _ + 1
        rw [hleast.2 hfield]
        rfl
    · show _ = Decoded.finite _ (1#1 ++ fractionBits b : BitVec (1 + 52)).toNat _
      rw [hmantissa]
      rfl

end

theorem decode_eq (x : Float) : decode x = decodedOf x.toModel.unpack :=
  decodeBits_toNat x.toModel.toBits.toBitVec

/-! ## Mantissas and exponents -/

/-- The number that a mantissa and an exponent make. -/
noncomputable def realValue (m : Nat) (e : Int) : ℝ := m * (2 : ℝ) ^ e

/-- The mantissa has fifty-three bits, or fewer at the least exponent. -/
structure Canonical (m : Nat) (e : Int) : Prop where
  lt : m < 2 ^ 53
  leastExponent_le : leastExponent ≤ e
  full : e = leastExponent ∨ 2 ^ 52 ≤ m

/-- The exponent is that of the doubles next to a number. -/
structure Fits (a : ℝ) (e : Int) : Prop where
  lt : a < 2 ^ 53 * (2 : ℝ) ^ e
  leastExponent_le : leastExponent ≤ e
  full : e = leastExponent ∨ 2 ^ 52 * (2 : ℝ) ^ e ≤ a

theorem canonical_of_decode {x : Float} {negative : Bool} {m : Nat} {e : Int}
    (hx : decode x = .finite negative m e) : Canonical m e := by
  rw [decode, decodeBits] at hx
  simp only [Nat.pow_eq, leastExponent] at hx
  split at hx
  · split at hx <;> cases hx
  · split at hx
    · cases hx
      exact ⟨by omega, le_rfl, .inl rfl⟩
    · cases hx
      exact ⟨by omega, by rw [leastExponent]; omega, .inr (by omega)⟩

section

variable {m n : Nat} {e f : Int} {a b : ℝ}

theorem two_zpow_pos (e : Int) : (0 : ℝ) < 2 ^ e := zpow_pos (by norm_num) e

theorem realValue_zero (e : Int) : realValue 0 e = 0 := by
  rw [realValue, Nat.cast_zero, zero_mul]

theorem realValue_nonneg (m : Nat) (e : Int) : 0 ≤ realValue m e :=
  mul_nonneg m.cast_nonneg (two_zpow_pos e).le

theorem realValue_pos_iff : 0 < realValue m e ↔ 0 < m := by
  rw [realValue, mul_pos_iff_of_pos_right (two_zpow_pos e), Nat.cast_pos]

theorem realValue_lt_iff : realValue m e < realValue n e ↔ m < n := by
  rw [realValue, realValue, mul_lt_mul_iff_left₀ (two_zpow_pos e), Nat.cast_lt]

theorem realValue_le_iff : realValue m e ≤ realValue n e ↔ m ≤ n := by
  rw [realValue, realValue, mul_le_mul_iff_left₀ (two_zpow_pos e), Nat.cast_le]

/-- Twice as many bits at one exponent are as many at the next one. -/
theorem full_le (hef : e < f) : 2 ^ 53 * (2 : ℝ) ^ e ≤ 2 ^ 52 * (2 : ℝ) ^ f := by
  have hnext : (2 : ℝ) ^ (e + 1) = 2 ^ e * 2 := zpow_add_one₀ (by norm_num) e
  have hmono : (2 : ℝ) ^ (e + 1) ≤ 2 ^ f := zpow_le_zpow_right₀ (by norm_num) (by omega)
  linarith

theorem Canonical.fits (hm : Canonical m e) : Fits (realValue m e) e where
  lt := by
    rw [realValue]
    refine mul_lt_mul_of_pos_right ?_ (two_zpow_pos e)
    exact_mod_cast hm.lt
  leastExponent_le := hm.leastExponent_le
  full := by
    refine hm.full.imp_right fun hfull => ?_
    rw [realValue]
    refine mul_le_mul_of_nonneg_right ?_ (two_zpow_pos e).le
    exact_mod_cast hfull

/-- With the greater exponent goes the greater number. -/
theorem Fits.lt_of_lt (ha : Fits a e) (hb : Fits b f) (hef : e < f) : a < b := by
  have hfull := hb.full.resolve_left fun hf => by
    have := ha.leastExponent_le
    omega
  calc a < 2 ^ 53 * (2 : ℝ) ^ e := ha.lt
    _ ≤ 2 ^ 52 * (2 : ℝ) ^ f := full_le hef
    _ ≤ b := hfull

/-- Numbers are ordered by their exponents, and then by their mantissas. -/
theorem Canonical.cmp_realValue (hm : Canonical m e) (hn : Canonical n f) :
    cmp (realValue m e) (realValue n f) = (compare e f).then (compare m n) := by
  rcases lt_trichotomy e f with hef | rfl | hef
  · rw [(cmp_eq_lt_iff _ _).2 (hm.fits.lt_of_lt hn.fits hef), Int.compare_eq_lt.2 hef]
    rfl
  · rw [Int.compare_eq_eq.2 rfl]
    show _ = compare m n
    rcases lt_trichotomy m n with hmn | rfl | hmn
    · rw [Nat.compare_eq_lt.2 hmn, cmp_eq_lt_iff, realValue_lt_iff]
      exact hmn
    · rw [Nat.compare_eq_eq.2 rfl, cmp_eq_eq_iff]
    · rw [Nat.compare_eq_gt.2 hmn, cmp_eq_gt_iff, realValue_lt_iff]
      exact hmn
  · rw [(cmp_eq_gt_iff _ _).2 (hn.fits.lt_of_lt hm.fits hef), Int.compare_eq_gt.2 hef]
    rfl

end

/-! ## Exact values -/

/-- A number with a sign. -/
noncomputable def withSign (negative : Bool) (a : EReal) : EReal := if negative then -a else a

@[simp] theorem withSign_true_coe (a : ℝ) : withSign true a = ((-a : ℝ) : EReal) := rfl

@[simp] theorem withSign_true_top : withSign true ⊤ = ⊥ := rfl

@[simp] theorem withSign_false (a : EReal) : withSign false a = a := rfl

/-- The exact value of a double as it reads. -/
noncomputable def Decoded.value? : Decoded → Option EReal
  | .nan => none
  | .infinite negative => some (withSign negative ⊤)
  | .finite negative m e => some (withSign negative (realValue m e))

/-- The exact value of a double, unless it is no number. -/
noncomputable def value? (x : Float) : Option EReal := (decode x).value?

theorem value?_of_finite {x : Float} {negative : Bool} {m : Nat} {e : Int}
    (hx : decode x = .finite negative m e) :
    value? x = some (withSign negative (realValue m e)) := by
  rw [value?, hx]
  rfl

/-- A mantissa and an exponent that make a whole number make its value. -/
theorem realValue_of_whole? {m k : Nat} {e : Int} (hk : Number.whole? m e = some k) :
    realValue m e = k := by
  rw [Number.whole?] at hk
  rw [realValue]
  simp only [Nat.pow_eq] at hk
  split at hk
  · rename_i he
    cases hk
    lift e to Nat using he
    push_cast
    rw [Int.toNat_natCast, zpow_natCast]
  · obtain ⟨j, rfl⟩ : ∃ j : Nat, e = -(j : Int) := ⟨(-e).toNat, by omega⟩
    rw [neg_neg, Int.toNat_natCast] at hk
    split at hk
    · rename_i hmod
      cases hk
      rw [zpow_neg, zpow_natCast, Nat.cast_div (Nat.dvd_of_mod_eq_zero hmod) (by positivity)]
      push_cast
      rw [div_eq_mul_inv]
    · cases hk

/-- A double that is an integer has its value. -/
theorem value?_of_integer? {x : Float} {n : Int} (hx : integer? x = some n) :
    value? x = some ((n : ℝ) : EReal) := by
  obtain ⟨negative, m, e, k, hdecode, hk, rfl⟩ := exists_decode_of_integer? hx
  rw [value?_of_finite hdecode, realValue_of_whole? hk]
  cases negative with
  | false => rw [withSign_false, if_neg Bool.false_ne_true, Int.cast_natCast]
  | true => rw [withSign_true_coe, if_pos rfl, Int.cast_neg, Int.cast_natCast]

/-- Cutting a double that has no sign to its whole part goes down. -/
theorem truncate?_of_finite {x : Float} {m : Nat} {e : Int} (hx : decode x = .finite false m e) :
    ∃ k : Nat, truncate? x = some k ∧ (k : ℝ) ≤ realValue m e ∧ realValue m e < k + 1 := by
  rw [truncate?, hx, realValue]
  simp only [Nat.pow_eq, Bool.false_eq_true, if_false]
  split
  · rename_i he
    lift e to Nat using he
    refine ⟨_, rfl, ?_, ?_⟩ <;> push_cast <;> rw [Int.toNat_natCast, zpow_natCast]
    exact lt_add_one _
  · obtain ⟨j, rfl⟩ : ∃ j : Nat, e = -(j : Int) := ⟨(-e).toNat, by omega⟩
    have hpow : (0 : ℝ) < 2 ^ j := by positivity
    have hlt : m < (m / 2 ^ j + 1) * 2 ^ j := by
      rw [← Nat.div_lt_iff_lt_mul (Nat.two_pow_pos j)]
      exact Nat.lt_succ_self _
    rw [neg_neg, Int.toNat_natCast, zpow_neg, zpow_natCast, ← div_eq_mul_inv]
    refine ⟨_, rfl, ?_, ?_⟩
    · rw [le_div_iff₀ hpow]
      exact_mod_cast Nat.div_mul_le_self m (2 ^ j)
    · rw [div_lt_iff₀ hpow]
      exact_mod_cast hlt

theorem value?_zero : value? 0 = some 0 := by
  have hzero : decode 0 = .finite false 0 leastExponent := by decide +kernel
  rw [value?_of_finite hzero, realValue_zero, withSign_false, EReal.coe_zero]

/-- A positive number that is not infinite is made of a mantissa and an exponent, with no sign. -/
theorem exists_decode_of_pos {x : Float} {p : EReal} (hx : value? x = some p) (hpos : 0 < p)
    (hp : p ≠ ⊤) : ∃ m e, decode x = .finite false m e ∧ p = (realValue m e : ℝ) := by
  rw [value?] at hx
  cases hd : decode x with
  | nan =>
    rw [hd] at hx
    cases hx
  | infinite negative =>
    rw [hd] at hx
    cases hx
    cases negative with
    | true => exact absurd hpos (not_lt_bot)
    | false => exact absurd rfl hp
  | finite negative m e =>
    rw [hd] at hx
    cases hx
    cases negative with
    | true =>
      rw [withSign_true_coe, EReal.coe_pos] at hpos
      linarith [realValue_nonneg m e]
    | false => exact ⟨m, e, rfl, rfl⟩

theorem truncate?_of_integer? {x : Float} {n : Int} (hx : integer? x = some n) :
    truncate? x = some n := by
  obtain ⟨negative, m, e, k, hdecode, hk, rfl⟩ := exists_decode_of_integer? hx
  rw [truncate?, hdecode]
  rw [Number.whole?] at hk
  split at hk
  · rename_i he
    cases hk
    simp only [if_pos he]
  · rename_i he
    split at hk
    · cases hk
      simp only [if_neg he]
    · cases hk

/-! ## The order of doubles -/

section

variable {a b : ℝ}

theorem cmp_coe (a b : ℝ) : cmp (a : EReal) (b : EReal) = cmp a b :=
  EReal.coe_strictMono.cmp_map_eq a b

theorem cmp_bot_coe (a : ℝ) : cmp (⊥ : EReal) a = .lt := (cmp_eq_lt_iff _ _).2 (EReal.bot_lt_coe a)

theorem cmp_coe_bot (a : ℝ) : cmp (a : EReal) ⊥ = .gt := (cmp_eq_gt_iff _ _).2 (EReal.bot_lt_coe a)

theorem cmp_top_coe (a : ℝ) : cmp (⊤ : EReal) a = .gt := (cmp_eq_gt_iff _ _).2 (EReal.coe_lt_top a)

theorem cmp_coe_top (a : ℝ) : cmp (a : EReal) ⊤ = .lt := (cmp_eq_lt_iff _ _).2 (EReal.coe_lt_top a)

theorem cmp_bot_top : cmp (⊥ : EReal) ⊤ = .lt := (cmp_eq_lt_iff _ _).2 bot_lt_top

theorem cmp_top_bot : cmp (⊤ : EReal) ⊥ = .gt := (cmp_eq_gt_iff _ _).2 bot_lt_top

theorem cmp_neg_neg (a b : ℝ) : cmp (-a) (-b) = cmp b a := by
  rcases lt_trichotomy a b with h | rfl | h
  · rw [(cmp_eq_gt_iff _ _).2 h, (cmp_eq_gt_iff _ _).2 (neg_lt_neg h)]
  · rw [cmp_self_eq_eq, cmp_self_eq_eq]
  · rw [(cmp_eq_lt_iff _ _).2 h, (cmp_eq_lt_iff _ _).2 (neg_lt_neg h)]

theorem cmp_zero_of_pos (ha : 0 < a) : cmp a 0 = .gt := (cmp_eq_gt_iff _ _).2 ha

theorem cmp_zero_left_of_pos (ha : 0 < a) : cmp 0 a = .lt := (cmp_eq_lt_iff _ _).2 ha

theorem cmp_neg_of_pos (ha : 0 ≤ a) (hb : 0 < b) : cmp a (-b) = .gt :=
  (cmp_eq_gt_iff _ _).2 (by linarith)

theorem cmp_neg_left_of_pos (ha : 0 < a) (hb : 0 ≤ b) : cmp (-a) b = .lt :=
  (cmp_eq_lt_iff _ _).2 (by linarith)

end

/-- The order of doubles that are taken apart is that of their exact values. -/
theorem unpackedCompare_eq {x y : UnpackedFloat}
    (hx : ∀ s m e hm, x = .finite s m e hm → Canonical m e)
    (hy : ∀ s m e hm, y = .finite s m e hm → Canonical m e) :
    x.compare y = (decodedOf x).value?.bind fun p => (decodedOf y).value?.map fun q => cmp p q := by
  -- infinities and different signs decide at once; what is left are the exponents and mantissas
  rcases x with (_ | _) | _ | (_ | _) | ⟨_ | _, m, e, hm⟩ <;>
    rcases y with (_ | _) | _ | (_ | _) | ⟨_ | _, n, f, hn⟩ <;>
    simp [UnpackedFloat.compare, decodedOf, isNegative, Decoded.value?, cmp_coe, cmp_bot_coe,
      cmp_coe_bot, cmp_top_coe, cmp_coe_top, cmp_bot_top, cmp_top_bot, cmp_neg_neg,
      cmp_zero_of_pos, cmp_zero_left_of_pos, cmp_neg_of_pos, cmp_neg_left_of_pos, realValue_zero,
      realValue_pos_iff, realValue_nonneg, -EReal.coe_neg, -EReal.coe_zero, *]
  case infinity.negative.infinity.negative => rfl
  case infinity.negative.infinity.positive => rfl
  case infinity.positive.infinity.negative => rfl
  case infinity.positive.infinity.positive => rfl
  case finite.negative.finite.negative =>
    rw [← (hx _ m e hm rfl).cmp_realValue (hy _ n f hn rfl), cmp_swap]
  case finite.positive.finite.positive =>
    exact ((hx _ m e hm rfl).cmp_realValue (hy _ n f hn rfl)).symm

theorem canonical_of_unpack {x : Float} {s : UnpackedFloat.Sign} {m : Nat} {e : Int} {hm : 0 < m}
    (hx : x.toModel.unpack = .finite s m e hm) : Canonical m e := by
  have hdecode : decode x = .finite (isNegative s) m e := by
    rw [decode_eq, hx]
    rfl
  exact canonical_of_decode hdecode

variable {x y : Float}

/-- **Doubles are compared by their exact values.** -/
theorem compare_eq_cmp (x y : Float) :
    x.toModel.unpack.compare y.toModel.unpack =
      (value? x).bind fun p => (value? y).map fun q => cmp p q := by
  rw [value?, value?, decode_eq, decode_eq]
  exact unpackedCompare_eq (fun _ _ _ _ => canonical_of_unpack) fun _ _ _ _ => canonical_of_unpack

theorem compare_eq_some_iff {o : Ordering} :
    x.toModel.unpack.compare y.toModel.unpack = some o ↔
      ∃ p q, value? x = some p ∧ value? y = some q ∧ cmp p q = o := by
  rw [compare_eq_cmp]
  cases value? x <;> cases value? y <;> simp

theorem lt_iff : x < y ↔ ∃ p q, value? x = some p ∧ value? y = some q ∧ p < q := by
  have hlt : x < y ↔ x.toModel.unpack.compare y.toModel.unpack = some .lt :=
    decide_eq_true_iff.trans beq_iff_eq
  rw [hlt, compare_eq_some_iff]
  simp only [cmp_eq_lt_iff]

theorem beq_iff : x == y ↔ ∃ p, value? x = some p ∧ value? y = some p := by
  have hbeq : (x == y) = (x.toModel.unpack.compare y.toModel.unpack == some .eq) := rfl
  rw [hbeq, beq_iff_eq, compare_eq_some_iff]
  simp only [cmp_eq_eq_iff]
  constructor
  · rintro ⟨p, q, hp, hq, rfl⟩
    exact ⟨p, hp, hq⟩
  · rintro ⟨p, hp, hq⟩
    exact ⟨p, p, hp, hq, rfl⟩

theorem le_iff : x ≤ y ↔ ∃ p q, value? x = some p ∧ value? y = some q ∧ p ≤ q := by
  have hle : x ≤ y ↔ (x.toModel.unpack.compare y.toModel.unpack).any (·.isLE) = true :=
    decide_eq_true_iff
  rw [hle, compare_eq_cmp]
  cases value? x with
  | none => simp
  | some p =>
    cases value? y with
    | none => simp
    | some q =>
      have hcmp : (cmp p q).isLE = true ↔ p ≤ q := by
        rw [Ordering.isLE_iff_ne_gt, cmp_eq_gt_iff, not_lt]
      simp [hcmp]

theorem isNaN_iff : x.isNaN = true ↔ value? x = none := by
  have hnan : x.isNaN = x.toModel.unpack.isNaN := rfl
  rw [hnan, value?, decode_eq]
  cases x.toModel.unpack <;> simp [UnpackedFloat.isNaN, decodedOf, Decoded.value?]

/-- A number that is not less than or equal to another one is greater. -/
theorem lt_of_not_le (hx : x.isNaN = false) (hy : y.isNaN = false) (h : ¬ x ≤ y) : y < x := by
  obtain ⟨p, hp⟩ := Option.ne_none_iff_exists'.1 (isNaN_iff.not.1 (Bool.eq_false_iff.1 hx))
  obtain ⟨q, hq⟩ := Option.ne_none_iff_exists'.1 (isNaN_iff.not.1 (Bool.eq_false_iff.1 hy))
  refine lt_iff.2 ⟨q, p, hq, hp, not_le.1 fun hle => h ?_⟩
  exact le_iff.2 ⟨p, q, hp, hq, hle⟩

end ProbeEngine.Binary64

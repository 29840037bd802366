import Mathlib
import ProbeEngine.Host.Conversion
import ProbeEngine.Proofs.Json.Compact

/-!
# Whole numbers as doubles

A double that is a whole number is known from its text as long as the host writes its exact
digits (`format_eq_bigintText`), and below `2 ^ 53` every integer is a double
(`integer?_ofInt`): its mantissa is shifted until it has all its bits, nothing is rounded,
and the pattern that is made of it reads as what it was made of.
-/

namespace ProbeEngine

theorem Number.whole?_zero (e : Int) : Number.whole? 0 e = some 0 := by
  rw [whole?]
  split <;> simp

namespace Binary64

/-! ## Patterns -/

/-- A pattern of bits is that of its double, unless it is one of those that are no number. -/
theorem toBits_ofBits {b : UInt64}
    (hb : ¬ (b.toNat / 2 ^ 52 % 2 ^ 11 = 2047 ∧ b.toNat % 2 ^ 52 ≠ 0)) :
    (Float.ofBits b).toBits = b := by
  have hnan : @Float.Model.UnpackedFloat.isNaNBits .binary64 b.toBitVec = false := by
    rw [Float.Model.UnpackedFloat.isNaNBits, decide_eq_false_iff_not,
      Float.Model.UnpackedFloat.unpackExponent_def, Float.Model.UnpackedFloat.unpackMantissa_def]
    refine fun h => hb ⟨?_, fun hzero => h.2 ?_⟩
    · have hexponent := congrArg BitVec.toNat h.1
      rw [BitVec.extractLsb'_toNat, Nat.shiftRight_eq_div_pow] at hexponent
      exact hexponent
    · apply BitVec.eq_of_toNat_eq
      rw [BitVec.extractLsb'_toNat]
      exact hzero
  have hpack := @Float.Model.UnpackedFloat.pack_unpack .binary64 b.toBitVec (by decide)
  rw [hnan] at hpack
  exact UInt64.toBitVec_inj.1 hpack

/-- The bits of a double with a sign and a magnitude. -/
theorem toNat_toBits_ofMagnitude (negative : Bool) {m : Nat} (hm : m ≤ infinityMagnitude) :
    (ofMagnitude negative m).toBits.toNat = if negative then Nat.pow 2 63 + m else m := by
  rw [infinityMagnitude, Nat.pow_eq] at hm
  rw [ofMagnitude, toBits_ofBits]
  · rw [UInt64.toNat_ofNat_of_lt']
    rw [Nat.pow_eq, UInt64.size]
    split <;> omega
  · rw [UInt64.toNat_ofNat_of_lt']
    · rw [Nat.pow_eq]
      split <;> omega
    · rw [Nat.pow_eq, UInt64.size]
      split <;> omega

theorem decode_ofMagnitude (negative : Bool) {m : Nat} (hm : m ≤ infinityMagnitude) :
    decode (ofMagnitude negative m) =
      decodeBits (if negative then Nat.pow 2 63 + m else m) := by
  rw [decode, toNat_toBits_ofMagnitude negative hm]

/-- The pattern with an exponent field and a fraction reads as a number with these. -/
theorem decode_ofMagnitude_normal (negative : Bool) (field fraction : Nat) (hpos : 0 < field)
    (hfield : field < 2047) (hfraction : fraction < 2 ^ 52) :
    decode (ofMagnitude negative (field * 2 ^ 52 + fraction)) =
      .finite negative (2 ^ 52 + fraction) (field - 1075) := by
  rw [decode_ofMagnitude negative (by rw [infinityMagnitude, Nat.pow_eq]; omega), decodeBits]
  simp only [Nat.pow_eq]
  have hsign : decide (2 ^ 63 ≤ if negative = true then 2 ^ 63 + (field * 2 ^ 52 + fraction)
      else field * 2 ^ 52 + fraction) = negative := by
    cases negative
    · simp
      omega
    · simp
  have hexponent : (if negative = true then 2 ^ 63 + (field * 2 ^ 52 + fraction)
      else field * 2 ^ 52 + fraction) / 2 ^ 52 % 2 ^ 11 = field := by
    split <;> omega
  have hrest : (if negative = true then 2 ^ 63 + (field * 2 ^ 52 + fraction)
      else field * 2 ^ 52 + fraction) % 2 ^ 52 = fraction := by
    split <;> omega
  rw [hsign, hexponent, hrest, if_neg (by omega), if_neg (by omega)]

/-! ## Integers -/

/-- The integer that a double is, if it is one. -/
def integer? (x : Float) : Option Int :=
  match decode x with
  | .finite negative m e =>
    (Number.whole? m e).map fun (n : Nat) => if negative then -(n : Int) else (n : Int)
  | _ => none

/-- A double that is an integer is finite, and its magnitude is whole. -/
theorem exists_decode_of_integer? {x : Float} {n : Int} (hx : integer? x = some n) :
    ∃ negative m e k, decode x = .finite negative m e ∧ Number.whole? m e = some k ∧
      n = if negative then -(k : Int) else k := by
  unfold integer? at hx
  split at hx
  · rename_i negative m e hdecode
    obtain ⟨k, hk, rfl⟩ := Option.map_eq_some_iff.1 hx
    exact ⟨negative, m, e, k, hdecode, hk, rfl⟩
  · cases hx

section

variable {n : Nat}

theorem log2_lt (hn : n < 2 ^ 53) (hpos : n ≠ 0) : n.log2 < 53 := (Nat.log2_lt hpos).2 hn

/-- With all the bits that a mantissa has. -/
theorem mantissa_bounds (hn : n < 2 ^ 53) (hpos : n ≠ 0) :
    2 ^ 52 ≤ n * 2 ^ (52 - n.log2) ∧ n * 2 ^ (52 - n.log2) < 2 ^ 53 := by
  have hlog := log2_lt hn hpos
  have hsum : n.log2 + (52 - n.log2) = 52 := by omega
  constructor
  · calc 2 ^ 52 = 2 ^ n.log2 * 2 ^ (52 - n.log2) := by rw [← Nat.pow_add, hsum]
      _ ≤ n * 2 ^ (52 - n.log2) := Nat.mul_le_mul_right _ (Nat.log2_self_le hpos)
  · calc n * 2 ^ (52 - n.log2) < 2 ^ (n.log2 + 1) * 2 ^ (52 - n.log2) :=
          Nat.mul_lt_mul_of_pos_right Nat.lt_log2_self (Nat.two_pow_pos _)
      _ = 2 ^ 53 := by rw [← Nat.pow_add]; congr 1; omega

/-- A quotient by one times a power of two that is not above one. -/
theorem scaled_one {k : Nat} : scaled n 1 (-(k : Int)) = (n * 2 ^ k, 1) := by
  rw [scaled]
  cases k with
  | zero => simp
  | succ k =>
    rw [if_neg (by omega)]
    simp

theorem exponentOf_one (hn : n < 2 ^ 53) (hpos : n ≠ 0) :
    exponentOf n 1 = -((52 - n.log2 : Nat) : Int) := by
  have hlog := log2_lt hn hpos
  have hstart : ((n.log2 : Int) - Nat.log2 1 - 53) = -((53 - n.log2 : Nat) : Int) := by
    have hone : Nat.log2 1 = 0 := by decide
    omega
  have hlarge : 2 ^ 53 ≤ n * 2 ^ (53 - n.log2) := by
    have hsplit : 53 - n.log2 = (52 - n.log2) + 1 := by omega
    have hbound := (mantissa_bounds hn hpos).1
    have hdouble : n * 2 ^ (53 - n.log2) = n * 2 ^ (52 - n.log2) * 2 := by
      rw [hsplit, Nat.pow_succ, Nat.mul_assoc]
    omega
  rw [exponentOf, hstart, scaled_one]
  simp only [Nat.div_one, Nat.pow_eq, if_neg (Nat.not_lt.2 hlarge), leastExponent]
  omega

theorem roundDiv_one (m : Nat) : roundDiv m 1 = m := by
  simp [roundDiv, Nat.mod_one]

/-- Nothing is rounded. -/
theorem nearestMagnitude_one (hn : n < 2 ^ 53) (hpos : n ≠ 0) :
    nearestMagnitude n 1 =
      (n.log2 + 1023) * 2 ^ 52 + (n * 2 ^ (52 - n.log2) - 2 ^ 52) := by
  have hlog := log2_lt hn hpos
  obtain ⟨hle, hlt⟩ := mantissa_bounds hn hpos
  rw [nearestMagnitude, if_neg hpos]
  simp only [exponentOf_one hn hpos, scaled_one, roundDiv_one, leastExponent, infinityMagnitude,
    Nat.pow_eq]
  omega

end

theorem integer?_ofInt_zero : integer? (ofInt 0) = some 0 := by
  have hzero : ofInt 0 = ofMagnitude false 0 := by
    rw [ofInt, nearest, Int.natAbs_zero, nearestMagnitude, if_pos rfl, decide_eq_false (by omega)]
  have hdecode : decode (ofInt 0) = .finite false 0 leastExponent := by
    rw [hzero, decode_ofMagnitude false (Nat.zero_le _)]
    decide
  rw [integer?, hdecode]
  simp only [Number.whole?_zero]
  rfl

/-- **Every integer below `2 ^ 53` is a double.** -/
theorem integer?_ofInt {n : Int} (hn : n.natAbs < 2 ^ 53) : integer? (ofInt n) = some n := by
  by_cases hpos : n.natAbs = 0
  · rw [Int.natAbs_eq_zero.1 hpos, integer?_ofInt_zero]
  · have hlog := log2_lt hn hpos
    obtain ⟨hle, hlt⟩ := mantissa_bounds hn hpos
    have hdecode := decode_ofMagnitude_normal (decide (n < 0)) (n.natAbs.log2 + 1023)
      (n.natAbs * 2 ^ (52 - n.natAbs.log2) - 2 ^ 52) (by omega) (by omega) (by omega)
    rw [← nearestMagnitude_one hn hpos, ← nearest, ← ofInt, Nat.add_sub_cancel' hle] at hdecode
    have hexponent : ((n.natAbs.log2 + 1023 : Nat) : Int) - 1075 =
        -((52 - n.natAbs.log2 : Nat) : Int) := by omega
    have hwhole : Number.whole? (n.natAbs * 2 ^ (52 - n.natAbs.log2))
        (-((52 - n.natAbs.log2 : Nat) : Int)) = some n.natAbs := by
      rw [Number.whole?]
      cases 52 - n.natAbs.log2 with
      | zero => simp
      | succ k =>
        rw [if_neg (by omega)]
        simp
    rw [integer?, hdecode, hexponent]
    simp only [hwhole, Option.map_some, Option.some.injEq, decide_eq_true_eq]
    split <;> omega

end Binary64

/-! ## Texts -/

namespace Number

open Binary64 (integer? decode)

theorem whole?_ne_zero {m k : Nat} {e : Int} (hm : m ≠ 0) (hk : whole? m e = some k) :
    k ≠ 0 := by
  have hpow := Nat.two_pow_pos
  unfold whole? at hk
  split at hk
  · cases hk
    exact Nat.mul_ne_zero hm (hpow _).ne'
  · split at hk
    · rename_i hmod
      cases hk
      rw [Nat.div_ne_zero_iff]
      exact ⟨(hpow _).ne', Nat.le_of_dvd (Nat.pos_of_ne_zero hm) (Nat.dvd_of_mod_eq_zero hmod)⟩
    · cases hk

/-- The text of a whole number is made of its exact digits. -/
theorem format_eq_bigintText {x : Float} {n : Int} (hx : integer? x = some n)
    (hn : n.natAbs < 10 ^ 21) : format x = Host.Value.bigintText n := by
  obtain ⟨negative, m, e, k, hdecode, hk, rfl⟩ := Binary64.exists_decode_of_integer? hx
  rw [format, textIn, hdecode]
  by_cases hm : m = 0
  · subst hm
    rw [whole?_zero] at hk
    cases hk
    cases negative <;> rfl
  · have hk0 := whole?_ne_zero hm hk
    have hbelow : k < Style.host.exactBelow := by
      cases negative
      · exact hn
      · exact lt_of_eq_of_lt (Int.natAbs_neg k).symm hn
    have htext : positiveText Style.host (magnitudeBits x) m e =
        String.ofList (Nat.toDigits 10 k) := by
      rw [positiveText, hk]
      exact if_pos hbelow
    simp only [if_neg hm, htext, Host.Value.bigintText]
    cases negative
    · have hsign : ¬ (k : Int) < 0 := by omega
      simp [hsign]
    · simp [Nat.pos_of_ne_zero hk0]

end Number

theorem Host.Value.bigintText_injective : Function.Injective Host.Value.bigintText := by
  intro m n h
  have htext : ∀ k, (Host.Value.bigintText k).toList = Json.integerChars k := by
    intro k
    unfold Host.Value.bigintText Json.integerChars Number.signed
    split <;> simp_all
  have hchars := congrArg String.toList h
  rw [htext, htext] at hchars
  have hnil : Json.NoDigit [] := by
    rintro c ⟨⟩
  exact (Json.integerChars_unambiguous hnil hnil (congrArg (· ++ []) hchars)).1

end ProbeEngine

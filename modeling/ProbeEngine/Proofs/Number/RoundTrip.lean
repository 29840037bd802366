import ProbeEngine.Proofs.Number.Decimals
import ProbeEngine.Proofs.Number.Grammar

/-!
# Numbers and their texts

The text that the host writes of a finite double is a decimal literal (`isMantissa_positional`),
and the number that it writes is the double, or a decimal that the double is nearest to
(`ofDecimal_shortest`). So **the text of a number reads as the number** (`format_roundTrips`), and
two doubles have one text exactly if they are equal numbers, or no numbers.

The host writes a natural beyond `10 ^ 21` by its shortest decimal, and this may be another
natural; yet the text of a natural is that of no other number which a machine word holds
(`format_eq_digits_iff`).
-/

namespace ProbeEngine

open Binary64 (decode integer? value? realValue intValue nearest ofDecimal ofMagnitude)

namespace Number

open Decimal (Scaled)

/-! ## Literals are read -/

section

variable {cs sign : List Char} {l : Literal} {c : Char} {negative : Bool} {d : Scaled}

theorem isBlank_of_isDigit (hc : isDigit c = true) : Text.isBlank c = false := by
  obtain ⟨hlow, hhigh⟩ : 48 ≤ c.toNat ∧ c.toNat ≤ 57 := between_iff.1 hc
  simp only [Text.isBlank, Bool.or_eq_false_iff, Bool.and_eq_false_iff, decide_eq_false_iff_not,
    beq_eq_false_iff_ne]
  omega

/-- A mantissa is made of digits and a point. -/
theorem IsMantissa.isDigit_or_point {digits : List Char} {places : Nat}
    (hmantissa : IsMantissa cs digits places) : ∀ c ∈ cs, isDigit c = true ∨ c = '.' := by
  cases hmantissa with
  | whole hfront _ => exact fun c hc => .inl (hfront c hc)
  | pointed hfront hback _ =>
    intro c hc
    obtain hc | hc := List.mem_append.1 hc
    · exact .inl (hfront c hc)
    · obtain rfl | hc := List.mem_cons.1 hc
      · exact .inr rfl
      · exact .inl (hback c hc)

/-- No character of a literal is a blank. -/
theorem IsLiteral.isBlank_eq_false (hl : IsLiteral cs l) : ∀ c ∈ cs, Text.isBlank c = false := by
  have hsigns : ∀ {sign : List Char} {negative : Bool}, IsSign sign negative →
      ∀ c ∈ sign, Text.isBlank c = false := by
    intro sign negative hsign
    cases hsign with
    | absent => exact List.forall_mem_nil _
    | plus => exact List.forall_mem_singleton.2 (by decide)
    | minus => exact List.forall_mem_singleton.2 (by decide)
  obtain ⟨hsign, hmantissa, hpower⟩ := hl
  simp only [List.forall_mem_append]
  refine ⟨hsigns hsign, ?_, ?_⟩
  · intro c hc
    obtain hdigit | rfl := hmantissa.isDigit_or_point c hc
    · exact isBlank_of_isDigit hdigit
    · decide
  · cases hpower with
    | absent => simp
    | written hmark hsign hdigits _ =>
      simp only [List.forall_mem_append, List.forall_mem_cons]
      exact ⟨by rcases hmark with rfl | rfl <;> decide, hsigns hsign,
        fun c hc => isBlank_of_isDigit (hdigits c hc)⟩

/-- A literal is neither nothing at all nor an infinity. -/
theorem IsLiteral.not_isSpecial (hl : IsLiteral cs l) : ¬ IsSpecial cs := by
  have hread := literal?_eq_some_iff.2 hl
  rintro (rfl | ⟨sign, negative, hsign, rfl⟩)
  · cases hread
  · cases hsign <;> cases hread

theorem IsLiteral.radixMark?_eq_none (hl : IsLiteral cs l) : radixMark? cs = none := by
  rw [Option.eq_none_iff_forall_ne_some]
  rintro ⟨radix, rest⟩ hradix
  obtain ⟨mark, hmark, rfl⟩ := radixMark?_eq_some_iff.1 hradix
  exact not_isLiteral_of_isMark hmark hl

/-- A literal is read as the double nearest to the number that it writes. -/
theorem parse_of_isLiteral (hl : IsLiteral cs l) : parse (String.ofList cs) = l.value := by
  rw [parse, String.toList_ofList, Text.trimChars_of_no_blank hl.isBlank_eq_false,
    ofTrimmed_of_not_isSpecial hl.not_isSpecial, hl.radixMark?_eq_none,
    literal?_eq_some_iff.2 hl]
  rfl

/-! ## Positional notation -/

/-- The positional notation of a decimal is a mantissa, and writes its number. -/
theorem isMantissa_positional (d : Scaled) :
    ∃ digits places, IsMantissa d.positional digits places ∧
      (⟨decimalValue digits, -(places : Int)⟩ : Scaled).value = d.value := by
  have hdigits : ∀ c ∈ Nat.toDigits 10 d.digits, isDigit c = true :=
    fun _ => Text.isDigit_of_mem_toDigits
  have hne : Nat.toDigits 10 d.digits ≠ [] := Nat.toDigits_ne_nil
  have hvalue : Nat.ofDigitChars 10 (Nat.toDigits 10 d.digits) 0 = d.digits :=
    Nat.ofDigitChars_ten_toDigits
  have hzeros : ∀ n, ∀ c ∈ List.replicate n '0', isDigit c = true := by
    intro n c hc
    rw [List.eq_of_mem_replicate hc]
    decide
  rw [Scaled.positional]
  dsimp only
  generalize Nat.toDigits 10 d.digits = digits at hdigits hne hvalue
  split
  · rename_i he
    refine ⟨_, 0, .whole (List.forall_mem_append.2 ⟨hdigits, hzeros _⟩) (by simp [hne]), ?_⟩
    obtain ⟨k, hk⟩ := Int.eq_ofNat_of_zero_le he
    rw [Scaled.value, Scaled.value, decimalValue_eq, hk, Int.toNat_natCast,
      Nat.ofDigitChars_append, hvalue, Nat.ofDigitChars_replicate_zero, Decimal.ten_zpow_natCast]
    push_cast
    ring
  · rename_i he
    obtain ⟨k, hk⟩ : ∃ k : Nat, d.exponent = -(k : Int) := ⟨(-d.exponent).toNat, by omega⟩
    rw [Scaled.value, hk, neg_neg, Int.toNat_natCast]
    split
    · rename_i hplaces
      have hmantissa : IsMantissa _ _ _ := .pointed
        (fun c hc => hdigits c (List.mem_of_mem_take (i := digits.length - k) hc))
        (fun c hc => hdigits c (List.mem_of_mem_drop (i := digits.length - k) hc))
        (by rwa [List.take_append_drop])
      refine ⟨_, _, hmantissa, ?_⟩
      rw [Scaled.value, List.take_append_drop, decimalValue_eq, hvalue, List.length_drop,
        Nat.sub_sub_self hplaces.le]
    · rename_i hplaces
      have hmantissa : IsMantissa ('0' :: '.' :: _) _ _ := @IsMantissa.pointed ['0'] _
        (List.forall_mem_singleton.2 (by decide))
        (List.forall_mem_append.2 ⟨hzeros (k - digits.length), hdigits⟩) (by simp)
      refine ⟨_, _, hmantissa, ?_⟩
      have hzero : Nat.ofDigitChars 10 ['0'] 0 = 0 := rfl
      rw [Scaled.value, decimalValue_eq, Nat.ofDigitChars_append, Nat.ofDigitChars_append,
        Nat.ofDigitChars_replicate_zero, hzero, mul_zero, hvalue, List.length_append,
        List.length_replicate, Nat.sub_add_cancel (not_lt.1 hplaces)]

theorem positional_whole (n : Nat) : (⟨n, 0⟩ : Scaled).positional = Nat.toDigits 10 n :=
  List.append_nil _

/-- The positional notation of a decimal, with a sign, is read as the double nearest to it. -/
theorem parse_positional (hsign : IsSign sign negative) (d : Scaled) :
    parse (String.ofList (sign ++ d.positional)) = ofDecimal negative d.digits d.exponent := by
  obtain ⟨digits, places, hmantissa, hvalue⟩ := isMantissa_positional d
  have hliteral := IsLiteral.mk hsign hmantissa .absent
  rw [List.append_nil, zero_sub] at hliteral
  rw [parse_of_isLiteral hliteral, Literal.value]
  exact Decimal.ofDecimal_congr negative hvalue

end

/-! ## The decimal of a double -/

section

variable {x y : Float} {m : Nat} {e : Int} {negative : Bool} {d : Scaled}

/-- A decimal of the value of a double reads as the double. -/
theorem ofDecimal_of_value (hx : decode x = .finite negative m e) (hd : d.value = realValue m e) :
    ofDecimal negative d.digits d.exponent = x := by
  obtain ⟨num, den, hden, hquotient⟩ := Decimal.exists_quotient d
  rw [Decimal.ofDecimal_eq_nearest negative d hden hquotient]
  exact Binary64.nearest_of_decode hx hden (hquotient.trans hd)

theorem toNat_magnitudeBits (x : Float) : (magnitudeBits x).toNat = x.toBits.toNat % 2 ^ 63 := by
  rw [magnitudeBits, UInt64.toNat_and]
  exact Nat.and_two_pow_sub_one_eq_mod _ 63

/-- A decimal that reads as the magnitude of a double reads as the double, with its sign. -/
theorem ofDecimal_of_readsAs (hx : decode x = .finite negative m e)
    (hd : Decimal.readsAs (magnitudeBits x) d = true) :
    ofDecimal negative d.digits d.exponent = x := by
  obtain ⟨num, den, hden, hquotient⟩ := Decimal.exists_quotient d
  have hplace : Binary64.nearestMagnitude num den = Binary64.place m e := by
    rw [Decimal.readsAs, beq_iff_eq, ← UInt64.toNat_inj, toNat_magnitudeBits,
      Binary64.toNat_toBits_mod hx, Decimal.ofDecimal_eq_nearest false d hden hquotient, nearest,
      Binary64.toNat_toBits_ofMagnitude false (Binary64.nearestMagnitude_le num den),
      if_neg Bool.false_ne_true] at hd
    exact hd
  rw [Decimal.ofDecimal_eq_nearest negative d hden hquotient, nearest, hplace,
    ← Binary64.eq_ofMagnitude_place hx]

/-- The shortest decimal of a double reads as the double. -/
theorem ofDecimal_shortest (hx : decode x = .finite negative m e) :
    ofDecimal negative (Decimal.shortest .greater (magnitudeBits x) m e).digits
      (Decimal.shortest .greater (magnitudeBits x) m e).exponent = x := by
  obtain hexact | ⟨d, hd, hreads⟩ := Decimal.shortest_reads .greater (magnitudeBits x) m e
  · exact ofDecimal_of_value hx hexact
  · rw [Decimal.ofDecimal_congr negative hd]
    exact ofDecimal_of_readsAs hx hreads

/-- The text of a positive double is the positional notation of a decimal that reads as it. -/
theorem exists_positional (style : Style) (hx : decode x = .finite negative m e) :
    ∃ d : Scaled, positiveText style (magnitudeBits x) m e = String.ofList d.positional ∧
      ofDecimal negative d.digits d.exponent = x := by
  have hshortest : ∃ d : Scaled,
      String.ofList (Decimal.shortest .greater (magnitudeBits x) m e).positional =
        String.ofList d.positional ∧ ofDecimal negative d.digits d.exponent = x :=
    ⟨_, rfl, ofDecimal_shortest hx⟩
  rw [positiveText]
  cases hwhole : whole? m e with
  | none => exact hshortest
  | some n =>
    dsimp only
    split
    · have hvalue : (⟨n, 0⟩ : Scaled).value = realValue m e := by
        rw [Scaled.value, Binary64.realValue_of_whole? hwhole, zpow_zero, mul_one]
      exact ⟨⟨n, 0⟩, by rw [positional_whole], ofDecimal_of_value hx hvalue⟩
    · exact hshortest

theorem parse_signed (negative : Bool) (d : Scaled) :
    parse (signed negative (String.ofList d.positional)) =
      ofDecimal negative d.digits d.exponent := by
  cases negative with
  | false => exact parse_positional .absent d
  | true =>
    have htext : "-" ++ String.ofList d.positional = String.ofList (['-'] ++ d.positional) :=
      String.ofList_append.symm
    rw [signed, if_pos rfl, htext]
    exact parse_positional .minus d

/-! ## Equal doubles -/

theorem beq_zero_iff : x == 0 ↔ value? x = some 0 := by
  rw [Binary64.beq_iff, Binary64.value?_zero]
  simp

theorem withSign_eq_zero_iff {a : EReal} : Binary64.withSign negative a = 0 ↔ a = 0 := by
  cases negative with
  | false => exact Iff.rfl
  | true => exact EReal.neg_eq_zero_iff

theorem withSign_inj_of_pos {negative' : Bool} {a b : EReal} (ha : 0 < a) (hb : 0 < b)
    (h : Binary64.withSign negative a = Binary64.withSign negative' b) :
    negative = negative' ∧ a = b := by
  have hne : ∀ {a b : EReal}, 0 < a → 0 < b → a ≠ -b := fun ha hb =>
    ((EReal.neg_lt_zero.2 hb).trans ha).ne'
  cases negative <;> cases negative'
  · exact ⟨rfl, h⟩
  · exact absurd h (hne ha hb)
  · exact absurd h.symm (hne hb ha)
  · have hneg : -a = -b := h
    exact ⟨rfl, neg_injective hneg⟩

theorem value?_of_finite_eq_zero_iff (hx : decode x = .finite negative m e) :
    value? x = some 0 ↔ m = 0 := by
  rw [Binary64.value?_of_finite hx, Option.some_inj, withSign_eq_zero_iff, EReal.coe_eq_zero,
    ← not_iff_not, ← ne_eq m, ← Nat.pos_iff_ne_zero, ← Binary64.realValue_pos_iff (e := e)]
  exact (Binary64.realValue_nonneg m e).lt_iff_ne'.symm

theorem eq_nan_of_value? (hx : value? x = none) : x = Binary64.nan := by
  cases hd : decode x with
  | nan => exact Binary64.eq_nan hd
  | infinite negative =>
    rw [value?, hd] at hx
    cases hx
  | finite negative m e =>
    rw [value?, hd] at hx
    cases hx

theorem eq_infinity_of_value? (hx : value? x = some (Binary64.withSign negative ⊤)) :
    x = Binary64.infinity negative := by
  rw [value?] at hx
  cases hd : decode x with
  | nan =>
    rw [hd] at hx
    cases hx
  | infinite negative' =>
    rw [hd] at hx
    obtain ⟨rfl, -⟩ := withSign_inj_of_pos EReal.zero_lt_top EReal.zero_lt_top (Option.some.inj hx)
    exact Binary64.eq_infinity hd
  | finite negative' m e =>
    rw [hd] at hx
    have hvalue := Option.some.inj hx
    cases negative <;> cases negative'
    · exact absurd hvalue (EReal.coe_ne_top _)
    · exact absurd hvalue (EReal.coe_ne_top (-realValue m e))
    · exact absurd hvalue (EReal.coe_ne_bot _)
    · exact absurd hvalue (EReal.coe_ne_bot (-realValue m e))

/-- A double of a value other than zero and the infinities is finite, with the sign of the value. -/
theorem exists_decode_of_value? {a : ℝ} (ha : 0 < a)
    (hx : value? x = some (Binary64.withSign negative a)) :
    ∃ m e, decode x = .finite negative m e ∧ realValue m e = a := by
  have hpos : (0 : EReal) < a := EReal.coe_pos.2 ha
  cases hd : decode x with
  | nan =>
    rw [value?, hd] at hx
    cases hx
  | infinite negative' =>
    rw [value?, hd] at hx
    obtain ⟨-, htop⟩ := withSign_inj_of_pos EReal.zero_lt_top hpos (Option.some.inj hx)
    exact absurd htop.symm (EReal.coe_ne_top a)
  | finite negative' m e =>
    have hm : m ≠ 0 := by
      rw [Ne, ← value?_of_finite_eq_zero_iff hd, hx, Option.some_inj, withSign_eq_zero_iff]
      exact hpos.ne'
    rw [Binary64.value?_of_finite hd, Option.some_inj] at hx
    have hreal := EReal.coe_pos.2 (Binary64.realValue_pos_iff (e := e).2 (Nat.pos_of_ne_zero hm))
    obtain ⟨rfl, hvalue⟩ := withSign_inj_of_pos hreal hpos hx
    exact ⟨m, e, rfl, EReal.coe_eq_coe_iff.1 hvalue⟩

/-- Doubles of one value are the same, unless they are zeros. -/
theorem eq_of_value?_eq (h : value? x = value? y) (hy : value? y ≠ some 0) : x = y := by
  cases hdy : decode y with
  | nan =>
    have hvalue : value? y = none := by
      rw [value?, hdy]
      rfl
    rw [eq_nan_of_value? (h.trans hvalue), Binary64.eq_nan hdy]
  | infinite negative =>
    have hvalue : value? y = some (Binary64.withSign negative ⊤) := by
      rw [value?, hdy]
      rfl
    rw [eq_infinity_of_value? (h.trans hvalue), Binary64.eq_infinity hdy]
  | finite negative n f =>
    have hpos : 0 < realValue n f := Binary64.realValue_pos_iff.2
      (Nat.pos_of_ne_zero ((value?_of_finite_eq_zero_iff hdy).not.1 hy))
    obtain ⟨m, e, hdx, hreal⟩ :=
      exists_decode_of_value? hpos (h.trans (Binary64.value?_of_finite hdy))
    -- the exact decimal of one of them reads as both
    have hexact := Decimal.value_exact n f
    rw [← ofDecimal_of_value hdx (hexact.trans hreal.symm), ofDecimal_of_value hdy hexact]

/-! ## The text of a double -/

theorem format_of_zero (hx : value? x = some 0) : format x = "0" := by
  rw [format, textIn]
  cases hdecode : decode x with
  | nan =>
    rw [value?, hdecode] at hx
    cases hx
  | infinite negative =>
    rw [value?, hdecode] at hx
    exact absurd (withSign_eq_zero_iff.1 (Option.some.inj hx)) EReal.zero_lt_top.ne'
  | finite negative m e =>
    rw [(value?_of_finite_eq_zero_iff hdecode).1 hx]
    cases negative <;> rfl

/-- The text of a finite double other than zero is the positional notation of a decimal that reads
as it, with its sign. -/
theorem format_of_finite (hx : decode x = .finite negative m e) (hm : m ≠ 0) :
    ∃ d : Scaled, format x = signed negative (String.ofList d.positional) ∧
      ofDecimal negative d.digits d.exponent = x := by
  obtain ⟨d, htext, hd⟩ := exists_positional Style.host hx
  refine ⟨d, ?_, hd⟩
  rw [format, textIn, hx]
  dsimp only
  rw [if_neg hm, htext]

/-- The text of a number other than zero is read as the number. -/
theorem parse_format_of_ne_zero (hx : value? x ≠ some 0) : parse (format x) = x := by
  cases hdecode : decode x with
  | nan =>
    rw [format, textIn, hdecode, Binary64.eq_nan hdecode]
    rfl
  | infinite negative =>
    rw [format, textIn, hdecode, Binary64.eq_infinity hdecode]
    cases negative <;> rfl
  | finite negative m e =>
    have hm : m ≠ 0 := (value?_of_finite_eq_zero_iff hdecode).not.1 hx
    obtain ⟨d, hformat, hd⟩ := format_of_finite hdecode hm
    rw [hformat, parse_signed, hd]

/-- The text of a number is read as the number, and of a negative zero as zero. -/
theorem parse_format (x : Float) : parse (format x) = if x == 0 then 0 else x := by
  have hzero : parse "0" = 0 := by
    have hmagnitude : ofMagnitude false 0 = 0 := by decide +kernel
    rw [← hmagnitude]
    rfl
  split
  · rename_i hx
    rw [format_of_zero (beq_zero_iff.1 hx), hzero]
  · rename_i hx
    rw [parse_format_of_ne_zero (beq_zero_iff.not.1 hx)]

theorem value?_parse_format (x : Float) : value? (parse (format x)) = value? x := by
  rw [parse_format]
  split
  · rename_i hx
    rw [beq_zero_iff.1 hx, Binary64.value?_zero]
  · rfl

/-- Two doubles have one text exactly if they have one value. -/
theorem format_eq_iff : format x = format y ↔ value? x = value? y := by
  constructor
  · intro h
    rw [← value?_parse_format x, h, value?_parse_format]
  · intro h
    by_cases hx : value? x = some 0
    · rw [format_of_zero hx, format_of_zero (h ▸ hx)]
    · rw [eq_of_value?_eq h (h ▸ hx)]

theorem value?_eq_iff : value? x = value? y ↔ x == y ∨ (x.isNaN = true ∧ y.isNaN = true) := by
  rw [Binary64.beq_iff, Binary64.isNaN_iff, Binary64.isNaN_iff]
  cases value? x <;> cases value? y <;> simp [eq_comm]

/-- **Numbers are what their texts read as**, a negative zero apart, which reads as zero; and two
doubles have one text exactly if they are equal numbers, or no numbers. -/
theorem format_roundTrips :
    (∀ x : Float, parse (format x) = if x == 0 then 0 else x) ∧
      ∀ x y : Float, format x = format y ↔ x == y ∨ (x.isNaN = true ∧ y.isNaN = true) :=
  ⟨parse_format, fun _ _ => format_eq_iff.trans value?_eq_iff⟩

end

/-! ## The text of a natural -/

section

variable {x : Float} {i j : Nat}

/-- The text of a natural below `10 ^ 21` is its digits. -/
theorem format_eq_digits (hx : integer? x = some (i : Int)) (hi : i < 10 ^ 21) :
    format x = String.ofList (Nat.toDigits 10 i) := by
  rw [format_eq_bigintText hx (by simpa using hi), Host.Value.bigintText, Int.natAbs_natCast,
    decide_eq_false (by omega)]
  rfl

theorem parse_digits (j : Nat) :
    parse (String.ofList (Nat.toDigits 10 j)) = ofDecimal false j 0 := by
  rw [← positional_whole]
  exact parse_positional .absent ⟨j, 0⟩

/-- The text of a natural beyond `10 ^ 21` is that of no number which a machine word holds. -/
theorem format_ne_digits (hx : integer? x = some (i : Int)) (hi : 10 ^ 21 ≤ i)
    (hj : j < UInt64.size) : format x ≠ String.ofList (Nat.toDigits 10 j) := by
  intro htext
  have hvalue := Binary64.value?_of_integer? hx
  have hne : value? x ≠ some 0 := by
    rw [hvalue, Ne, Option.some_inj, EReal.coe_eq_zero]
    exact_mod_cast (by omega : i ≠ 0)
  have hparse := parse_format_of_ne_zero hne
  rw [htext, parse_digits] at hparse
  have hdecimal : (⟨j, 0⟩ : Scaled).value ≤ j := by
    rw [Scaled.value, zpow_zero, mul_one]
  -- what the digits read as is not above the double of the word
  obtain ⟨p, hp, hle⟩ := Decimal.value?_ofDecimal_le hdecimal
  rw [hparse, hvalue] at hp
  cases hp
  have hword : intValue UInt64.size = ((UInt64.size : Int) : ℝ) :=
    Binary64.intValue_of_value? (x := Binary64.ofInt UInt64.size)
      (Binary64.value?_of_integer? (by decide +kernel))
  have hmono : intValue j ≤ intValue UInt64.size := Binary64.intValue_mono (by omega)
  rw [hword] at hmono
  have hbound : i ≤ UInt64.size := by exact_mod_cast EReal.coe_le_coe_iff.1 (hle.trans hmono)
  rw [UInt64.size] at hbound
  omega

/-- **The text of a natural is that of no other number which a machine word holds.** -/
theorem format_eq_digits_iff (hx : integer? x = some (i : Int)) (hj : j < UInt64.size) :
    format x = String.ofList (Nat.toDigits 10 j) ↔ i = j := by
  rcases lt_or_ge i (10 ^ 21) with hi | hi
  · rw [format_eq_digits hx hi]
    exact ⟨fun h => Text.toDigits_inj.1 (String.ofList_injective h), fun h => by rw [h]⟩
  · refine iff_of_false (format_ne_digits hx hi hj) ?_
    rw [UInt64.size] at hj
    omega

/-- The text of a natural has no characters but digits and a point. -/
theorem of_mem_format (hx : integer? x = some (i : Int)) {c : Char} (hc : c ∈ (format x).toList) :
    c.isDigit = true ∨ c = '.' := by
  have hvalue := Binary64.value?_of_integer? hx
  rw [Int.cast_natCast] at hvalue
  obtain rfl | hi := Nat.eq_zero_or_pos i
  · rw [Nat.cast_zero, EReal.coe_zero] at hvalue
    have hzero : "0".toList = ['0'] := rfl
    rw [format_of_zero hvalue, hzero, List.mem_singleton] at hc
    exact .inl (hc ▸ rfl)
  · have hpos : (0 : ℝ) < i := Nat.cast_pos.2 hi
    obtain ⟨m, e, hdecode, hreal⟩ :=
      Binary64.exists_decode_of_pos hvalue (EReal.coe_pos.2 hpos) (EReal.coe_ne_top _)
    have hm : m ≠ 0 := by
      rintro rfl
      rw [Binary64.realValue_zero, EReal.coe_eq_coe_iff] at hreal
      exact hpos.ne' hreal
    obtain ⟨d, hformat, -⟩ := format_of_finite hdecode hm
    obtain ⟨digits, places, hmantissa, -⟩ := isMantissa_positional d
    rw [hformat, signed, if_neg Bool.false_ne_true, String.toList_ofList] at hc
    exact hmantissa.isDigit_or_point c hc

end

end Number

end ProbeEngine

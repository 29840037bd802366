import Mathlib
import ProbeEngine.Text.Utf16

/-!
# Texts cut in UTF-16 units

A list of units has as many units as the text that is read from it (`length_ofUnits`), since a
lone surrogate is replaced by a character of one unit. What is cut apart between two units is
read as the two parts put together, unless the cut goes through a surrogate pair
(`ofUnits_append`). So the part of a text between two offsets (`between`) has as many units as
the offsets are apart, and the parts before and after an offset make the text.
-/

namespace ProbeEngine.Text.Utf16

/-! ## Units of characters -/

theorem charUnits_of_lt {c : Char} (hc : c.toNat < 0x10000) : charUnits c = [c.toNat] := if_pos hc

theorem length_charUnits_of_le {c : Char} (hc : 0x10000 ≤ c.toNat) : (charUnits c).length = 2 := by
  rw [charUnits, if_neg (by omega)]
  rfl

theorem lt_of_mem_charUnits {c : Char} {u : Nat} (hu : u ∈ charUnits c) : u < 0x10000 := by
  have hc := char_range c
  rw [charUnits] at hu
  split at hu
  · rw [List.mem_singleton] at hu
    omega
  · simp only [List.mem_cons, List.not_mem_nil, or_false] at hu
    omega

/-- A unit of a text is a number of sixteen bits. -/
theorem lt_of_mem_units {s : String} {u : Nat} (hu : u ∈ units s) : u < 0x10000 := by
  obtain ⟨c, -, hc⟩ := List.mem_flatMap.1 hu
  exact lt_of_mem_charUnits hc

theorem toNat_ofNat {n : Nat} (hn : n.isValidChar) : (Char.ofNat n).toNat = n := by
  rw [Char.ofNat, dif_pos hn]
  rfl

theorem charUnits_ofNat {u : Nat} (hu : u < 0x10000) (hsurrogate : (isHigh u || isLow u) = false) :
    charUnits (Char.ofNat u) = [u] := by
  have hvalid : u.isValidChar := by
    rw [isHigh, isLow, Bool.or_eq_false_iff] at hsurrogate
    simp only [Bool.and_eq_false_iff, decide_eq_false_iff_not] at hsurrogate
    rw [Nat.isValidChar]
    omega
  rw [charUnits_of_lt (by rwa [toNat_ofNat hvalid]), toNat_ofNat hvalid]

theorem length_charUnits_pairChar {u v : Nat} (huv : (isHigh u && isLow v) = true) :
    (charUnits (pairChar u v)).length = 2 := by
  simp only [isHigh, isLow, Bool.and_eq_true, decide_eq_true_eq] at huv
  have hvalid : (0x10000 + (u - 0xD800) * 0x400 + (v - 0xDC00)).isValidChar := by
    rw [Nat.isValidChar]
    omega
  refine length_charUnits_of_le ?_
  rw [pairChar, toNat_ofNat hvalid]
  omega

/-! ## Reading units -/

theorem length_unitsOfChars_charsOfUnits {us : List Nat} (hus : ∀ u ∈ us, u < 0x10000) :
    (unitsOfChars (charsOfUnits us)).length = us.length := by
  fun_induction charsOfUnits us with
  | case1 => rfl
  | case2 u hu => rfl
  | case3 u hu =>
    rw [unitsOfChars_cons, unitsOfChars_nil, List.append_nil,
      charUnits_ofNat (hus u (by simp)) (by simpa using hu)]
  | case4 u v us huv ih =>
    rw [unitsOfChars_cons, List.length_append, length_charUnits_pairChar huv,
      ih fun w hw => hus w (by simp [hw]), List.length_cons, List.length_cons]
    omega
  | case5 u v us huv hu ih =>
    rw [unitsOfChars_cons, List.length_append, ih fun w hw => hus w (List.mem_cons_of_mem u hw),
      List.length_cons (a := u), Nat.add_comm]
    rfl
  | case6 u v us huv hu ih =>
    rw [unitsOfChars_cons, List.length_append, ih fun w hw => hus w (List.mem_cons_of_mem u hw),
      charUnits_ofNat (hus u (by simp)) (by simpa using hu), List.length_cons (a := u),
      Nat.add_comm]
    rfl

/-- Reading units as a text changes surrogates at most, and not how many units there are. -/
theorem length_ofUnits {us : List Nat} (hus : ∀ u ∈ us, u < 0x10000) :
    length (ofUnits us) = us.length := by
  rw [length, units, ofUnits, String.toList_ofList, length_unitsOfChars_charsOfUnits hus]

/-- A cut through a surrogate pair: the first part ends with the unit that opens it, and the
second part starts with the one that closes it. -/
def CutsPair (us vs : List Nat) : Prop :=
  ∃ u ∈ us.getLast?, ∃ v ∈ vs.head?, isHigh u = true ∧ isLow v = true

instance (us vs : List Nat) : Decidable (CutsPair us vs) :=
  inferInstanceAs (Decidable (∃ u ∈ us.getLast?, ∃ v ∈ vs.head?, isHigh u = true ∧ isLow v = true))

theorem not_pair_of_not_cutsPair {u v : Nat} {vs : List Nat} (hcut : ¬ CutsPair [u] (v :: vs)) :
    ¬ (isHigh u && isLow v) = true := by
  rw [Bool.and_eq_true]
  exact fun huv => hcut ⟨u, rfl, v, rfl, huv⟩

theorem not_cutsPair_of_cons {u v : Nat} {us vs : List Nat} (hcut : ¬ CutsPair (u :: v :: us) vs) :
    ¬ CutsPair (v :: us) vs := by
  rintro ⟨w, hw, hcut'⟩
  exact hcut ⟨w, by simpa using hw, hcut'⟩

theorem charsOfUnits_append {us vs : List Nat} (hcut : ¬ CutsPair us vs) :
    charsOfUnits (us ++ vs) = charsOfUnits us ++ charsOfUnits vs := by
  fun_induction charsOfUnits us with
  | case1 => rfl
  | case2 u hu =>
    cases vs with
    | nil => simp [charsOfUnits, hu]
    | cons v vs =>
      rw [List.singleton_append, charsOfUnits, if_neg (not_pair_of_not_cutsPair hcut), if_pos hu,
        List.singleton_append]
  | case3 u hu =>
    cases vs with
    | nil => simp [charsOfUnits, hu]
    | cons v vs =>
      rw [List.singleton_append, charsOfUnits, if_neg (not_pair_of_not_cutsPair hcut), if_neg hu,
        List.singleton_append]
  | case4 u v us huv ih =>
    rw [List.cons_append, List.cons_append, charsOfUnits, if_pos huv, ih ?_, List.cons_append]
    cases us with
    | nil =>
      rintro ⟨w, hw, -⟩
      cases hw
    | cons x us => exact not_cutsPair_of_cons (not_cutsPair_of_cons hcut)
  | case5 u v us huv hu ih =>
    rw [List.cons_append, List.cons_append, charsOfUnits, if_neg huv, if_pos hu,
      ← List.cons_append, ih (not_cutsPair_of_cons hcut), List.cons_append]
  | case6 u v us huv hu ih =>
    rw [List.cons_append, List.cons_append, charsOfUnits, if_neg huv, if_neg hu,
      ← List.cons_append, ih (not_cutsPair_of_cons hcut), List.cons_append]

/-- Two lists of units are read one after the other, unless a surrogate pair was cut. -/
theorem ofUnits_append {us vs : List Nat} (hcut : ¬ CutsPair us vs) :
    ofUnits (us ++ vs) = ofUnits us ++ ofUnits vs := by
  rw [ofUnits, charsOfUnits_append hcut, String.ofList_append, ofUnits, ofUnits]

/-! ## Parts of a text -/

/-- The part of a text between two offsets, in either order. -/
def between (s : String) (i j : Nat) : String :=
  ofUnits (((units s).take (max i j)).drop (min i j))

section

variable {s : String} {i j k : Nat}

theorem between_comm (s : String) (i j : Nat) : between s i j = between s j i := by
  rw [between, between, max_comm, min_comm]

theorem length_between (hi : i ≤ length s) (hj : j ≤ length s) :
    length (between s i j) = max i j - min i j := by
  have hle : max i j ≤ (units s).length := max_le hi hj
  rw [between, length_ofUnits, List.length_drop, List.length_take, min_eq_left hle]
  intro u hu
  exact lt_of_mem_units (List.mem_of_mem_take (List.mem_of_mem_drop hu))

theorem between_zero (s : String) (k : Nat) : between s 0 k = ofUnits ((units s).take k) := by
  rw [between, Nat.zero_max, Nat.zero_min, List.drop_zero]

theorem between_length (hk : k ≤ length s) :
    between s k (length s) = ofUnits ((units s).drop k) := by
  rw [between, max_eq_right hk, min_eq_left hk, length, List.take_length]

theorem between_zero_length (s : String) : between s 0 (length s) = s := by
  rw [between_length (Nat.zero_le _), List.drop_zero, ofUnits_units]

/-- An offset between the two units of a surrogate pair. -/
def InsidePair (s : String) (k : Nat) : Prop := CutsPair ((units s).take k) ((units s).drop k)

instance (s : String) (k : Nat) : Decidable (InsidePair s k) :=
  inferInstanceAs (Decidable (CutsPair _ _))

theorem not_insidePair_length : ¬ InsidePair s (length s) := by
  rw [InsidePair, length, List.drop_length]
  rintro ⟨u, -, v, hv, -⟩
  cases hv

/-- A text is cut in two at an offset that is not inside a surrogate pair. -/
theorem between_append_between (hk : k ≤ length s) (hpair : ¬ InsidePair s k) :
    between s 0 k ++ between s k (length s) = s := by
  rw [between_zero, between_length hk, ← ofUnits_append hpair, List.take_append_drop,
    ofUnits_units]

/-- The part of a text from one offset to the next one is a unit. -/
theorem between_succ (hi : i < (units s).length) :
    between s i (i + 1) = ofUnits [(units s)[i]] := by
  rw [between, max_eq_right (Nat.le_add_right i 1), min_eq_left (Nat.le_add_right i 1),
    List.drop_take, Nat.add_sub_cancel_left, List.drop_eq_getElem_cons hi]
  rfl

end

end ProbeEngine.Text.Utf16

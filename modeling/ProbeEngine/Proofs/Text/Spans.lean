import Mathlib.Data.List.TakeWhile
import ProbeEngine.Text.Blank

/-!
# Spans of characters

A reader takes characters as long as they have a property. It takes exactly a list of such
characters if what follows does not begin with another one (`span_append`). A text that neither
starts nor ends with a blank is not changed by trimming, and every other text is
(`trimChars_eq_self_iff`). A natural is known from its digits (`toDigits_inj`).
-/

namespace ProbeEngine.Text

section

variable {α : Type} {p : α → Bool} {taken rest : List α}

/-- A list that does not begin with an element of a property. -/
def NotBefore (p : α → Bool) (rest : List α) : Prop := ∀ c ∈ rest.head?, p c = false

theorem notBefore_nil : NotBefore p [] := by
  rintro c ⟨⟩

theorem notBefore_cons_iff {c : α} : NotBefore p (c :: rest) ↔ p c = false := by
  simp [NotBefore]

theorem NotBefore.append {back : List α} (hrest : NotBefore p rest) (hback : NotBefore p back) :
    NotBefore p (rest ++ back) := by
  cases rest with
  | nil => exact hback
  | cons c rest => exact notBefore_cons_iff.2 (notBefore_cons_iff.1 hrest)

theorem notBefore_dropWhile (p : α → Bool) (cs : List α) : NotBefore p (cs.dropWhile p) := by
  intro c hc
  have hhead := List.head?_dropWhile_not p cs
  rwa [Option.mem_def.1 hc] at hhead

theorem NotBefore.takeWhile_eq_nil (hrest : NotBefore p rest) : rest.takeWhile p = [] := by
  cases rest with
  | nil => rfl
  | cons c rest =>
    rw [List.takeWhile_cons_of_neg]
    rw [notBefore_cons_iff.1 hrest]
    exact Bool.false_ne_true

theorem dropWhile_eq_self_iff : taken.dropWhile p = taken ↔ NotBefore p taken := by
  cases taken with
  | nil => simp [NotBefore]
  | cons c cs => simp [List.dropWhile_eq_self_iff, NotBefore]

/-- Elements of a property are taken as far as they go. -/
theorem span_append (htaken : ∀ c ∈ taken, p c = true) (hrest : NotBefore p rest) :
    (taken ++ rest).takeWhile p = taken ∧ (taken ++ rest).dropWhile p = rest := by
  rw [List.takeWhile_append_of_pos htaken, List.dropWhile_append_of_pos htaken,
    hrest.takeWhile_eq_nil, dropWhile_eq_self_iff.2 hrest, List.append_nil]
  exact ⟨rfl, rfl⟩

end

/-! ## Trimming -/

section

variable {cs : List Char}

theorem trimEnd_eq_self_iff : trimEnd cs = cs ↔ ∀ c ∈ cs.getLast?, isBlank c = false := by
  rw [trimEnd, List.reverse_eq_iff, dropWhile_eq_self_iff, NotBefore, List.head?_reverse]

/-- **Trimming changes a text exactly if it starts or ends with a blank.** -/
theorem trimChars_eq_self_iff :
    trimChars cs = cs ↔ NotBefore isBlank cs ∧ ∀ c ∈ cs.getLast?, isBlank c = false := by
  rw [← trimEnd_eq_self_iff, ← dropWhile_eq_self_iff, ← trimStart, trimChars]
  constructor
  · intro h
    -- neither end can be shorter if the whole is not
    have hend : (trimEnd (trimStart cs)).length ≤ (trimStart cs).length := by
      rw [trimEnd, List.length_reverse, ← @List.length_reverse _ (trimStart cs)]
      exact (List.dropWhile_suffix isBlank).length_le
    have hstart : trimStart cs <:+ cs := List.dropWhile_suffix isBlank
    rw [h] at hend
    have heq : trimStart cs = cs := hstart.eq_of_length_le hend
    rw [heq] at h
    exact ⟨heq, h⟩
  · rintro ⟨hstart, hend⟩
    rw [hstart, hend]

theorem trimChars_of_no_blank (h : ∀ c ∈ cs, isBlank c = false) : trimChars cs = cs :=
  trimChars_eq_self_iff.2
    ⟨fun c hc => h c (List.mem_of_mem_head? hc), fun c hc => h c (List.mem_of_getLast? hc)⟩

end

/-! ## Digits -/

section

variable {m n : Nat} {c : Char}

theorem isDigit_of_mem_toDigits (hc : c ∈ Nat.toDigits 10 n) : c.isDigit = true :=
  Nat.isDigit_of_mem_toDigits (by decide) (by decide) hc

theorem toDigits_inj : Nat.toDigits 10 m = Nat.toDigits 10 n ↔ m = n := by
  refine ⟨fun h => ?_, congrArg _⟩
  have hnumber := congrArg (fun ds => Nat.ofDigitChars 10 ds 0) h
  simpa only [Nat.ofDigitChars_ten_toDigits] using hnumber

end

end ProbeEngine.Text

import Mathlib.Data.List.Induction
import ProbeEngine.Inspect
import ProbeEngine.Proofs.Text.Spans

/-!
# Quoted texts and keys

Quoting a text is replacing its backslashes by two and then its quotes by a backslash and a
quote (`replace_replace_eq_escape`). A character is escaped if an odd number of backslashes
stands right before it (`EscapesNext`); in this sense

* `escapesNext_of_escape_eq` — every quote inside of a quoted text is escaped;
* `not_escapesNext_escape` — the closing quote is not.

So a quoted text is known from any text that begins with it (`quote_append_inj`). The key of a
property is quoted or written as it is, and is known as well (`renderKey_append_inj`): what is
written as it is holds no quote and no colon. A text in a message may be cut after it is too
long, and then no more is lost than its end (`renderText_eq_iff`).
-/

namespace ProbeEngine

namespace Text.Quoted

/-- A text with another one in place of each occurrence of a character. -/
def replace (c : Char) (part cs : List Char) : List Char :=
  cs.flatMap fun d => if d = c then part else [d]

/-- What follows a text is escaped by it: an odd number of backslashes stands at its end. -/
def EscapesNext (before : List Char) : Prop :=
  (before.reverse.takeWhile (· = '\\')).length % 2 = 1

instance (before : List Char) : Decidable (EscapesNext before) :=
  inferInstanceAs (Decidable (_ = 1))

variable {c : Char} {cs before after : List Char}

/-! ## Two replacements -/

theorem escape_cons_of_special (hc : c = '\'' ∨ c = '\\') (cs : List Char) :
    escape (c :: cs) = '\\' :: c :: escape cs :=
  if_pos hc

theorem escape_cons_of_plain (hc : ¬ (c = '\'' ∨ c = '\\')) (cs : List Char) :
    escape (c :: cs) = c :: escape cs :=
  if_neg hc

/-- **Backslashes are doubled first, and then quotes get one.** The second replacement neither
meets a quote of the first nor changes a backslash. -/
theorem replace_replace_eq_escape (cs : List Char) :
    replace '\'' ['\\', '\''] (replace '\\' ['\\', '\\'] cs) = escape cs := by
  induction cs with
  | nil => rfl
  | cons c cs ih =>
    have hsplit : replace '\'' ['\\', '\''] (replace '\\' ['\\', '\\'] (c :: cs)) =
        replace '\'' ['\\', '\''] (if c = '\\' then ['\\', '\\'] else [c]) ++ escape cs := by
      rw [← ih]
      simp only [replace, List.flatMap_cons, List.flatMap_append]
    rw [hsplit]
    by_cases hback : c = '\\'
    · rw [if_pos hback, escape_cons_of_special (.inr hback), hback]
      rfl
    · rw [if_neg hback]
      by_cases hquote : c = '\''
      · rw [escape_cons_of_special (.inl hquote), hquote]
        rfl
      · rw [escape_cons_of_plain (by simp [hquote, hback])]
        simp [replace, hquote]

/-- The other way round, the backslash of a quote would be doubled and the quote left bare. -/
example : replace '\\' ['\\', '\\'] (replace '\'' ['\\', '\''] ['\'']) = ['\\', '\\', '\''] :=
  rfl

/-! ## Escaped characters -/

theorem escapesNext_concat_iff : EscapesNext (before ++ [c]) ↔ c = '\\' ∧ ¬ EscapesNext before := by
  simp only [EscapesNext, List.reverse_append, List.reverse_singleton, List.singleton_append,
    List.takeWhile_cons]
  by_cases hc : c = '\\'
  · simp only [hc, decide_true, if_true, List.length_cons, true_and]
    omega
  · simp [hc]

/-- What does not escape the beginning of a text does not change what this text escapes. -/
theorem escapesNext_append_iff (hbefore : ¬ EscapesNext before) :
    EscapesNext (before ++ cs) ↔ EscapesNext cs := by
  induction cs using List.reverseRecOn with
  | nil =>
    rw [List.append_nil]
    exact iff_of_false hbefore (by decide)
  | append_singleton cs c ih => rw [← List.append_assoc, escapesNext_concat_iff,
      escapesNext_concat_iff, ih]

/-- A backslash and the character that it escapes leave nothing escaped. -/
theorem not_escapesNext_pair (c : Char) : ¬ EscapesNext ['\\', c] := by
  have hpair : (['\\', c] : List Char) = ['\\'] ++ [c] := rfl
  rw [hpair, escapesNext_concat_iff]
  exact fun h => h.2 (by decide)

theorem not_escapesNext_singleton (hc : c ≠ '\\') : ¬ EscapesNext [c] := by
  rw [← List.nil_append [c], escapesNext_concat_iff]
  exact fun h => hc h.1

/-- **A quoted text does not escape what follows it.** -/
theorem not_escapesNext_escape (cs : List Char) : ¬ EscapesNext (escape cs) := by
  induction cs with
  | nil => decide
  | cons c cs ih =>
    by_cases hc : c = '\'' ∨ c = '\\'
    · rw [escape_cons_of_special hc]
      exact fun h => ih ((escapesNext_append_iff (not_escapesNext_pair c)).1 h)
    · rw [escape_cons_of_plain hc]
      exact fun h =>
        ih ((escapesNext_append_iff (not_escapesNext_singleton fun heq => hc (.inr heq))).1 h)

/-- **Each quote inside of a quoted text is escaped.** -/
theorem escapesNext_of_escape_eq (h : escape cs = before ++ '\'' :: after) :
    EscapesNext before := by
  induction cs generalizing before with
  | nil => simp [escape] at h
  | cons c cs ih =>
    by_cases hc : c = '\'' ∨ c = '\\'
    · rw [escape_cons_of_special hc] at h
      -- the quote is the character after the backslash, or it is further on
      rcases before with - | ⟨b, before⟩
      · exact absurd (List.cons.inj h).1 (by decide)
      · rw [List.cons_append, List.cons.injEq] at h
        obtain ⟨rfl, h⟩ := h
        rcases before with - | ⟨b, before⟩
        · decide
        · rw [List.cons_append, List.cons.injEq] at h
          obtain ⟨rfl, h⟩ := h
          exact (escapesNext_append_iff (not_escapesNext_pair c)).2 (ih h)
    · rw [escape_cons_of_plain hc] at h
      rcases before with - | ⟨b, before⟩
      · exact absurd (List.cons.inj h).1 fun heq => hc (.inl heq)
      · rw [List.cons_append, List.cons.injEq] at h
        obtain ⟨rfl, h⟩ := h
        exact (escapesNext_append_iff (not_escapesNext_singleton fun heq => hc (.inr heq))).2 (ih h)

/-! ## Reading back -/

@[simp] theorem toList_quote (s : String) : (quote s).toList = encode s.toList := by
  simp [quote]

/-- What begins with a quoted text tells the text, and what follows it. -/
theorem quote_append_inj {s t : String} {a b : List Char} :
    (quote s).toList ++ a = (quote t).toList ++ b ↔ s = t ∧ a = b := by
  constructor
  · intro h
    have hread := congrArg decode h
    rw [toList_quote, toList_quote, decode_encode_append, decode_encode_append] at hread
    obtain ⟨htext, hrest⟩ := Prod.mk.inj (Option.some.inj hread)
    exact ⟨String.toList_inj.1 htext, hrest⟩
  · rintro ⟨rfl, rfl⟩
    rfl

theorem quote_inj {s t : String} : quote s = quote t ↔ s = t := by
  rw [← String.toList_inj, ← List.append_nil (quote s).toList, ← List.append_nil (quote t).toList,
    quote_append_inj]
  exact and_iff_left rfl

end Text.Quoted

namespace Inspect

open Text (charCount firstChars)

/-! ## Keys -/

/-- The characters of keys that need no quotes. -/
def isPlainChar (c : Char) : Bool :=
  Unicode.isAsciiLetter c || c == '_' || c == '$' || Unicode.isAsciiDigit c

theorem isPlainChar_of_isPlainKey {s : String} (hs : isPlainKey s = true) :
    s.toList ≠ [] ∧ ∀ c ∈ s.toList, isPlainChar c = true := by
  unfold isPlainKey at hs
  split at hs
  · cases hs
  · rename_i c cs hcs
    rw [hcs]
    simp only [Bool.and_eq_true, List.all_eq_true] at hs
    refine ⟨List.cons_ne_nil c cs, List.forall_mem_cons.2 ⟨?_, hs.2⟩⟩
    rw [isPlainChar, hs.1, Bool.true_or]

/-- A key that is written as it is does not begin as a quoted one. -/
theorem ne_quote_append_of_isPlainKey {s t : String} (hs : isPlainKey s = true)
    (a b : List Char) : s.toList ++ a ≠ (Text.Quoted.quote t).toList ++ b := by
  obtain ⟨hne, hplain⟩ := isPlainChar_of_isPlainKey hs
  intro h
  obtain ⟨c, cs, hcs⟩ := List.exists_cons_of_ne_nil hne
  rw [hcs, Text.Quoted.toList_quote, Text.Quoted.encode] at h
  obtain rfl : c = '\'' := (List.cons.inj h).1
  have hquote := hplain '\'' (by rw [hcs]; exact List.mem_cons_self)
  exact absurd hquote (by decide)

/-- **What begins with a key and the colon after it tells the key**, whether the key is quoted
or written as it is, and what follows it. -/
theorem renderKey_append_inj {s t : String} {a b : List Char} :
    (renderKey (.string s)).toList ++ ':' :: a = (renderKey (.string t)).toList ++ ':' :: b ↔
      s = t ∧ a = b := by
  refine ⟨fun h => ?_, ?_⟩
  · rw [renderKey, renderKey] at h
    cases hs : isPlainKey s <;> cases ht : isPlainKey t
    · rw [hs, ht, if_neg Bool.false_ne_true, if_neg Bool.false_ne_true,
        Text.Quoted.quote_append_inj] at h
      exact ⟨h.1, (List.cons.inj h.2).2⟩
    · rw [hs, ht, if_neg Bool.false_ne_true, if_pos rfl] at h
      exact absurd h.symm (ne_quote_append_of_isPlainKey ht _ _)
    · rw [hs, ht, if_pos rfl, if_neg Bool.false_ne_true] at h
      exact absurd h (ne_quote_append_of_isPlainKey hs _ _)
    · rw [hs, ht, if_pos rfl, if_pos rfl] at h
      -- a plain key holds no colon, so it is all that comes before one
      have hcolon : ∀ r : List Char, Text.NotBefore isPlainChar (':' :: r) :=
        fun r => Text.notBefore_cons_iff.2 (by decide)
      obtain ⟨hs, hafter⟩ := Text.span_append (isPlainChar_of_isPlainKey hs).2 (hcolon a)
      obtain ⟨ht, hafter'⟩ := Text.span_append (isPlainChar_of_isPlainKey ht).2 (hcolon b)
      rw [h, ht] at hs
      rw [h, hafter'] at hafter
      exact ⟨String.toList_inj.1 hs.symm, (List.cons.inj hafter).2.symm⟩
  · rintro ⟨rfl, rfl⟩
    rfl

theorem renderKey_inj {s t : String} :
    renderKey (.string s) = renderKey (.string t) ↔ s = t := by
  refine ⟨fun h => ?_, fun h => h ▸ rfl⟩
  exact (renderKey_append_inj.1 (congrArg (fun k : String => k.toList ++ [':']) h)).1

/-! ## Texts that are cut -/

theorem renderText_of_le {limits : CaptureLimits} {s : String}
    (hs : charCount s ≤ limits.maxLength) : renderText limits s = Text.Quoted.quote s :=
  if_pos hs

theorem toList_renderText_of_lt {limits : CaptureLimits} {s : String}
    (hs : limits.maxLength < charCount s) :
    (renderText limits s).toList = (Text.Quoted.quote (firstChars limits.maxLength s)).toList ++
      ("... ".toList ++ (Nat.toDigits 10 (charCount s - limits.maxLength) ++
        " more characters".toList)) := by
  have hcut : renderText limits s = Text.Quoted.quote (firstChars limits.maxLength s) ++ "... " ++
      toString (charCount s - limits.maxLength) ++ " more characters" :=
    if_neg (Nat.not_le.2 hs)
  have hdigits : (toString (charCount s - limits.maxLength)).toList =
      Nat.toDigits 10 (charCount s - limits.maxLength) :=
    String.toList_ofList
  rw [hcut, String.toList_append, String.toList_append, String.toList_append, hdigits,
    List.append_assoc, List.append_assoc]

/-- A text that is whole is not shown as one that is cut. -/
theorem renderText_ne_of_le_of_lt {limits : CaptureLimits} {s t : String}
    (hs : charCount s ≤ limits.maxLength) (ht : limits.maxLength < charCount t) :
    renderText limits s ≠ renderText limits t := by
  intro h
  have hlist := congrArg String.toList h
  rw [renderText_of_le hs, toList_renderText_of_lt ht,
    ← List.append_nil (Text.Quoted.quote s).toList, Text.Quoted.quote_append_inj] at hlist
  exact absurd hlist.2 (by simp)

/-- **Two texts are shown alike only if both are cut**, begin alike, and are as long. -/
theorem renderText_eq_iff (limits : CaptureLimits) (s t : String) :
    renderText limits s = renderText limits t ↔
      s = t ∨ limits.maxLength < charCount s ∧ charCount s = charCount t ∧
        firstChars limits.maxLength s = firstChars limits.maxLength t := by
  constructor
  · intro h
    rcases Nat.lt_or_ge limits.maxLength (charCount s) with hs | hs <;>
      rcases Nat.lt_or_ge limits.maxLength (charCount t) with ht | ht
    · have hlist := congrArg String.toList h
      rw [toList_renderText_of_lt hs, toList_renderText_of_lt ht, Text.Quoted.quote_append_inj,
        List.append_cancel_left_eq, List.append_cancel_right_eq, Text.toDigits_inj] at hlist
      exact .inr ⟨hs, by omega, hlist.1⟩
    · exact absurd h.symm (renderText_ne_of_le_of_lt ht hs)
    · exact absurd h (renderText_ne_of_le_of_lt hs ht)
    · rw [renderText_of_le hs, renderText_of_le ht, Text.Quoted.quote_inj] at h
      exact .inl h
  · rintro (rfl | ⟨hs, hcount, hfirst⟩)
    · rfl
    · rw [← String.toList_inj, toList_renderText_of_lt hs, toList_renderText_of_lt (hcount ▸ hs),
        hcount, hfirst]

/-! ## Main result -/

/-- **Quoting is unambiguous.** A quoted text starts and ends with a quote. What stands between
these is the text with its backslashes doubled and then a backslash before each quote; there
every quote is escaped, and the last one is not. Whatever follows, the text is read back, so no
two texts are quoted alike, and no two texts are keys that are written alike, be they quoted or
not, nor does what follows the key make them so. In a message two texts are shown alike only if
both are cut, begin alike and are as long. -/
theorem quoting_is_unambiguous (s : String) :
    (∃ inside, (Text.Quoted.quote s).toList = '\'' :: (inside ++ ['\'']) ∧
      inside = Text.Quoted.replace '\'' ['\\', '\'']
        (Text.Quoted.replace '\\' ['\\', '\\'] s.toList) ∧
      (∀ before after, inside = before ++ '\'' :: after → Text.Quoted.EscapesNext before) ∧
      ¬ Text.Quoted.EscapesNext inside) ∧
    (∀ rest, Text.Quoted.decode ((Text.Quoted.quote s).toList ++ rest) = some (s.toList, rest)) ∧
    (∀ t a b, Text.Quoted.quote s ++ a = Text.Quoted.quote t ++ b ↔ s = t ∧ a = b) ∧
    (∀ t, Text.Quoted.quote s = Text.Quoted.quote t ↔ s = t) ∧
    (∀ t, renderKey (.string s) = renderKey (.string t) ↔ s = t) ∧
    (∀ t a b, renderKey (.string s) ++ ":" ++ a = renderKey (.string t) ++ ":" ++ b ↔
      s = t ∧ a = b) ∧
    ∀ (h : Host.Heap) (limits : CaptureLimits) (t : String),
      inspect h limits (.string s) = inspect h limits (.string t) ↔
        s = t ∨ limits.maxLength < charCount s ∧ charCount s = charCount t ∧
          firstChars limits.maxLength s = firstChars limits.maxLength t := by
  refine ⟨⟨Text.Quoted.escape s.toList, Text.Quoted.toList_quote s,
    (Text.Quoted.replace_replace_eq_escape _).symm, fun before after =>
      Text.Quoted.escapesNext_of_escape_eq, Text.Quoted.not_escapesNext_escape _⟩,
    fun rest => ?_, fun t a b => ?_, fun t => Text.Quoted.quote_inj, fun t => renderKey_inj,
    fun t a b => ?_, fun h limits t => renderText_eq_iff limits s t⟩
  · rw [Text.Quoted.toList_quote, Text.Quoted.decode_encode_append]
  · rw [← String.toList_inj, String.toList_append, String.toList_append,
      Text.Quoted.quote_append_inj, String.toList_inj]
  · have hrest : a = b ↔ a.toList = b.toList := String.toList_inj.symm
    rw [← String.toList_inj, hrest]
    simp only [String.toList_append, List.append_assoc]
    exact renderKey_append_inj

end Inspect

end ProbeEngine

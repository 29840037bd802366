import ProbeEngine.Json.Compact
import ProbeEngine.Json.Outline
import ProbeEngine.Proofs.Text.Spans

/-!
# What compact JSON texts say

A compact text stands for one value only, whatever follows it, as long as the value holds no
double (`IsExact.unambiguous`): doubles that are no finite numbers are all written as null.
The first character tells the sorts of values apart, commas and brackets tell where the parts
end, and inside a string no character is written like another one or like the closing quote
(`IsWritten.unambiguous`). Only an integer does not show its own end, so no digit may follow it.
-/

namespace ProbeEngine.Json

/-! ## Strings -/

/-- How a character is written inside a string: by a letter or by its number after a
backslash, or as it is. -/
inductive IsWritten : Char → List Char → Prop
  | letter {c e : Char} (hu : e ≠ 'u') (he : simpleEscape? e = some c) : IsWritten c ['\\', e]
  | code {c : Char} (hc : c.toNat < 32) :
      IsWritten c ['\\', 'u', '0', '0', hexDigit (c.toNat / 16), hexDigit (c.toNat % 16)]
  | plain {c : Char} (hquote : c ≠ '"') (hback : c ≠ '\\') (hc : ¬ c.toNat < 32) :
      IsWritten c [c]

theorem isWritten_escapeChar (c : Char) : IsWritten c (escapeChar c) := by
  have hnumber : ∀ n, c.toNat = n → Char.ofNat n = c := fun n hn => hn ▸ Char.ofNat_toNat c
  unfold escapeChar
  split
  · rename_i h
    subst h
    exact .letter (by decide) rfl
  split
  · rename_i h
    subst h
    exact .letter (by decide) rfl
  split
  · rename_i h
    exact .letter (by decide) (congrArg some (hnumber 8 h))
  split
  · rename_i h
    exact .letter (by decide) (congrArg some (hnumber 12 h))
  split
  · rename_i h
    subst h
    exact .letter (by decide) rfl
  split
  · rename_i h
    subst h
    exact .letter (by decide) rfl
  split
  · rename_i h
    subst h
    exact .letter (by decide) rfl
  split
  · rename_i h
    exact .code h
  · rename_i hquote hback _ _ _ _ _ h
    exact .plain hquote hback h

theorem hex?_hexDigit {n : Nat} (hn : n < 32) :
    hex? ['0', '0', hexDigit (n / 16), hexDigit (n % 16)] = some n := by
  have hall : ∀ n < 32, hex? ['0', '0', hexDigit (n / 16), hexDigit (n % 16)] = some n := by decide
  exact hall n hn

/-- How a character is written shows its own end, and two characters are written differently. -/
theorem IsWritten.unambiguous {c c' : Char} {w w' r r' : List Char} (hw : IsWritten c w)
    (hw' : IsWritten c' w') (h : w ++ r = w' ++ r') : c = c' ∧ r = r' := by
  cases hw with
  | letter hu he =>
    cases hw' with
    | letter hu' he' =>
      obtain ⟨-, rfl, hrest⟩ := (List.cons.inj h).imp_right List.cons.inj
      exact ⟨Option.some.inj (he.symm.trans he'), hrest⟩
    | code hc' => exact absurd (List.cons.inj (List.cons.inj h).2).1 hu
    | plain _ hback' _ => exact absurd (List.cons.inj h).1.symm hback'
  | code hc =>
    cases hw' with
    | letter hu' _ => exact absurd (List.cons.inj (List.cons.inj h).2).1.symm hu'
    | code hc' =>
      simp only [List.cons_append, List.nil_append, List.cons.injEq, true_and] at h
      obtain ⟨hhigh, hlow, hrest⟩ := h
      have hnumber := hex?_hexDigit hc
      rw [hhigh, hlow, hex?_hexDigit hc'] at hnumber
      exact ⟨Char.toNat_inj.1 (Option.some.inj hnumber).symm, hrest⟩
    | plain _ hback' _ => exact absurd (List.cons.inj h).1.symm hback'
  | plain _ hback _ =>
    cases hw' with
    | letter _ _ => exact absurd (List.cons.inj h).1 hback
    | code _ => exact absurd (List.cons.inj h).1 hback
    | plain _ _ _ => exact List.cons.inj h

/-- No character of a string looks like the closing quote. -/
theorem IsWritten.append_ne_quote {c : Char} {w : List Char} (hw : IsWritten c w)
    (r r' : List Char) : w ++ r ≠ '"' :: r' := by
  intro h
  cases hw with
  | letter _ _ => exact absurd (List.cons.inj h).1 (by decide)
  | code _ => exact absurd (List.cons.inj h).1 (by decide)
  | plain hquote _ _ => exact hquote (List.cons.inj h).1

theorem escape_unambiguous {cs cs' r r' : List Char}
    (h : cs.flatMap escapeChar ++ '"' :: r = cs'.flatMap escapeChar ++ '"' :: r') :
    cs = cs' ∧ r = r' := by
  induction cs generalizing cs' with
  | nil =>
    cases cs' with
    | nil => exact ⟨rfl, (List.cons.inj h).2⟩
    | cons c' cs' =>
      rw [List.flatMap_cons, List.append_assoc] at h
      exact absurd h.symm ((isWritten_escapeChar c').append_ne_quote _ _)
  | cons c cs ih =>
    cases cs' with
    | nil =>
      rw [List.flatMap_cons, List.append_assoc] at h
      exact absurd h ((isWritten_escapeChar c).append_ne_quote _ _)
    | cons c' cs' =>
      rw [List.flatMap_cons, List.flatMap_cons, List.append_assoc, List.append_assoc] at h
      obtain ⟨rfl, hrest⟩ := (isWritten_escapeChar c).unambiguous (isWritten_escapeChar c') h
      obtain ⟨rfl, hr⟩ := ih hrest
      exact ⟨rfl, hr⟩

theorem stringChars_unambiguous {s s' : String} {r r' : List Char}
    (h : stringChars s ++ r = stringChars s' ++ r') : s = s' ∧ r = r' := by
  rw [stringChars, stringChars, List.cons_append, List.cons_append, List.append_assoc,
    List.append_assoc] at h
  obtain ⟨hs, hr⟩ := escape_unambiguous (List.cons.inj h).2
  exact ⟨String.toList_injective hs, hr⟩

/-! ## Integers -/

/-- A text that does not go on with a digit. -/
def NoDigit (r : List Char) : Prop := ∀ c ∈ r.head?, c.isDigit = false

theorem noDigit_cons {c : Char} (hc : c.isDigit = false) (r : List Char) : NoDigit (c :: r) := by
  intro x hx
  cases hx
  exact hc

theorem takeWhile_isDigit_toDigits_append (n : Nat) {r : List Char} (hr : NoDigit r) :
    (Nat.toDigits 10 n ++ r).takeWhile Char.isDigit = Nat.toDigits 10 n :=
  (Text.span_append (fun _ => Text.isDigit_of_mem_toDigits) hr).1

theorem toDigits_unambiguous {m n : Nat} {r r' : List Char} (hr : NoDigit r) (hr' : NoDigit r')
    (h : Nat.toDigits 10 m ++ r = Nat.toDigits 10 n ++ r') : m = n ∧ r = r' := by
  have hdigits : Nat.toDigits 10 m = Nat.toDigits 10 n := by
    rw [← takeWhile_isDigit_toDigits_append m hr, h, takeWhile_isDigit_toDigits_append n hr']
  rw [hdigits] at h
  exact ⟨Text.toDigits_inj.1 hdigits, List.append_cancel_left h⟩

/-- A numeral without sign begins with a digit. -/
theorem exists_cons_toDigits (n : Nat) :
    ∃ c cs, Nat.toDigits 10 n = c :: cs ∧ c.isDigit = true := by
  cases hdigits : Nat.toDigits 10 n with
  | nil => exact absurd hdigits Nat.toDigits_ne_nil
  | cons c cs =>
    exact ⟨c, cs, rfl, Text.isDigit_of_mem_toDigits (hdigits ▸ List.mem_cons_self)⟩

theorem sign_cons_ne_toDigits (n : Nat) (cs r : List Char) :
    '-' :: cs ≠ Nat.toDigits 10 n ++ r := by
  obtain ⟨c, ds, hdigits, hc⟩ := exists_cons_toDigits n
  rw [hdigits]
  rintro heq
  cases heq
  cases hc

theorem integerChars_unambiguous {m n : Int} {r r' : List Char} (hr : NoDigit r)
    (hr' : NoDigit r') (h : integerChars m ++ r = integerChars n ++ r') : m = n ∧ r = r' := by
  unfold integerChars at h
  split at h <;> split at h
  · obtain ⟨habs, hrest⟩ := toDigits_unambiguous hr hr' (List.cons.inj h).2
    exact ⟨by omega, hrest⟩
  · exact absurd h (sign_cons_ne_toDigits _ _ _)
  · exact absurd h.symm (sign_cons_ne_toDigits _ _ _)
  · obtain ⟨habs, hrest⟩ := toDigits_unambiguous hr hr' h
    exact ⟨by omega, hrest⟩

/-! ## Lists -/

/-- The texts of the members of a list with commas between them. -/
def joined {α : Type} (text : α → List Char) : List α → List Char
  | [] => []
  | a :: as => text a ++ as.flatMap fun a => ',' :: text a

/-- Where one of two texts begins another text, the member of the list and what follows are
known. -/
def Unambiguous {α : Type} (text : α → List Char) (a b : α) : Prop :=
  ∀ r r', NoDigit r → NoDigit r' → text a ++ r = text b ++ r' → a = b ∧ r = r'

section

variable {α : Type} {text : α → List Char} {close : Char} {as bs : List α} {r r' : List Char}

theorem noDigit_flatMap_append (hclose : close.isDigit = false) (as : List α) (r : List Char) :
    NoDigit ((as.flatMap fun a => ',' :: text a) ++ close :: r) := by
  cases as with
  | nil => exact noDigit_cons hclose _
  | cons a as => exact noDigit_cons rfl _

theorem flatMap_unambiguous (hclose : close.isDigit = false) (hcomma : close ≠ ',')
    (htexts : ∀ a ∈ as, ∀ b ∈ bs, Unambiguous text a b)
    (h : (as.flatMap fun a => ',' :: text a) ++ close :: r =
      (bs.flatMap fun b => ',' :: text b) ++ close :: r') : as = bs ∧ r = r' := by
  induction as generalizing bs with
  | nil =>
    cases bs with
    | nil => exact ⟨rfl, (List.cons.inj h).2⟩
    | cons b bs => exact absurd (List.cons.inj h).1 hcomma
  | cons a as ih =>
    cases bs with
    | nil => exact absurd (List.cons.inj h).1.symm hcomma
    | cons b bs =>
      rw [List.flatMap_cons, List.flatMap_cons, List.cons_append, List.cons_append,
        List.cons_append, List.cons_append, List.append_assoc, List.append_assoc] at h
      obtain ⟨rfl, hrest⟩ := htexts a List.mem_cons_self b List.mem_cons_self _ _
        (noDigit_flatMap_append hclose as r) (noDigit_flatMap_append hclose bs r')
        (List.cons.inj h).2
      obtain ⟨rfl, hr⟩ := ih (fun x hx y hy =>
        htexts x (List.mem_cons_of_mem _ hx) y (List.mem_cons_of_mem _ hy)) hrest
      exact ⟨rfl, hr⟩

/-- A list between brackets is known from its text if its members are, and none of them looks
like the closing bracket. -/
theorem joined_unambiguous (hclose : close.isDigit = false) (hcomma : close ≠ ',')
    (htexts : ∀ a ∈ as, ∀ b ∈ bs, Unambiguous text a b)
    (hopen : ∀ a, a ∈ as ∨ a ∈ bs → ∀ cs cs', text a ++ cs ≠ close :: cs')
    (h : joined text as ++ close :: r = joined text bs ++ close :: r') : as = bs ∧ r = r' := by
  cases as with
  | nil =>
    cases bs with
    | nil => exact ⟨rfl, (List.cons.inj h).2⟩
    | cons b bs =>
      rw [joined, joined, List.append_assoc] at h
      exact absurd h.symm (hopen b (Or.inr List.mem_cons_self) _ _)
  | cons a as =>
    cases bs with
    | nil =>
      rw [joined, joined, List.append_assoc] at h
      exact absurd h (hopen a (Or.inl List.mem_cons_self) _ _)
    | cons b bs =>
      rw [joined, joined, List.append_assoc, List.append_assoc] at h
      obtain ⟨rfl, hrest⟩ := htexts a List.mem_cons_self b List.mem_cons_self _ _
        (noDigit_flatMap_append hclose as r) (noDigit_flatMap_append hclose bs r') h
      obtain ⟨rfl, hr⟩ := flatMap_unambiguous hclose hcomma (fun x hx y hy =>
        htexts x (List.mem_cons_of_mem _ hx) y (List.mem_cons_of_mem _ hy)) hrest
      exact ⟨rfl, hr⟩

end

/-! ## Values -/

/-- A value that holds no double. -/
inductive IsExact : Json → Prop
  | null : IsExact .null
  | bool (b : Bool) : IsExact (.bool b)
  | integer (n : Int) : IsExact (.integer n)
  | string (s : String) : IsExact (.string s)
  | array {items : List Json} (hitems : ∀ j ∈ items, IsExact j) : IsExact (.array items)
  | object {fields : List (String × Json)} (hfields : ∀ f ∈ fields, IsExact f.2) :
      IsExact (.object fields)

/-- What the first character of a text says: a sign or digit that a number begins, written as a
zero here, the first letter of a truth value that one does, and any other one itself. -/
def opening (c : Char) : Char :=
  if c = '-' ∨ c.isDigit then '0' else if c = 'f' then 't' else c

/-- What the first character of the text of a value says. -/
def sort : Json → Char
  | .null => 'n'
  | .bool _ => 't'
  | .integer _ => '0'
  | .float _ => '0'
  | .string _ => '"'
  | .array _ => '['
  | .object _ => '\x7b'

/-- A field of an object. -/
def fieldText (f : String × Json) : List Char := stringChars f.1 ++ ':' :: chars f.2

theorem itemChars_eq (items : List Json) : itemChars items = joined chars items := by
  have hmore : ∀ js, moreItemChars js = js.flatMap fun j => ',' :: chars j := by
    intro js
    induction js with
    | nil => rfl
    | cons j js ih => rw [moreItemChars, ih, List.flatMap_cons, List.cons_append]
  cases items with
  | nil => rfl
  | cons j js => rw [itemChars, hmore, joined]

theorem fieldChars_eq (fields : List (String × Json)) :
    fieldChars fields = joined fieldText fields := by
  have hmore : ∀ fs, moreFieldChars fs = fs.flatMap fun f => ',' :: fieldText f := by
    intro fs
    induction fs with
    | nil => rfl
    | cons f fs ih =>
      rw [moreFieldChars, ih, List.flatMap_cons, fieldText, List.cons_append, List.append_assoc,
        List.cons_append]
  cases fields with
  | nil => rfl
  | cons f fs =>
    rw [fieldChars, hmore, joined, fieldText, List.append_assoc, List.cons_append]

variable {a b : Json} {r r' : List Char}

theorem exists_cons_chars (ha : IsExact a) : ∃ c cs, chars a = c :: cs ∧ opening c = sort a := by
  cases ha with
  | null => exact ⟨_, _, rfl, rfl⟩
  | bool b => cases b <;> exact ⟨_, _, rfl, rfl⟩
  | integer n =>
    rw [chars, integerChars]
    split
    · exact ⟨_, _, rfl, rfl⟩
    · obtain ⟨c, cs, hdigits, hc⟩ := exists_cons_toDigits n.natAbs
      exact ⟨c, cs, hdigits, if_pos (Or.inr hc)⟩
  | string s => exact ⟨_, _, rfl, rfl⟩
  | array _ => exact ⟨_, _, rfl, rfl⟩
  | object _ => exact ⟨_, _, rfl, rfl⟩

/-- Values whose texts begin alike are of one sort. -/
theorem sort_eq (ha : IsExact a) (hb : IsExact b) (h : chars a ++ r = chars b ++ r') :
    sort a = sort b := by
  obtain ⟨c, cs, hchars, hc⟩ := exists_cons_chars ha
  obtain ⟨c', cs', hchars', hc'⟩ := exists_cons_chars hb
  rw [hchars, hchars', List.cons_append, List.cons_append] at h
  rw [← hc, ← hc', (List.cons.inj h).1]

/-- The text of no value begins with a closing bracket. -/
theorem chars_append_ne_close (ha : IsExact a) (cs cs' : List Char) :
    chars a ++ cs ≠ ']' :: cs' := by
  obtain ⟨c, ds, hchars, hc⟩ := exists_cons_chars ha
  rw [hchars, List.cons_append]
  intro heq
  rw [(List.cons.inj heq).1] at hc
  cases ha <;> cases hc

theorem fieldText_unambiguous {f f' : String × Json} (hf : Unambiguous chars f.2 f'.2) :
    Unambiguous fieldText f f' := by
  intro r r' hr hr' h
  rw [fieldText, fieldText, List.append_assoc, List.append_assoc] at h
  obtain ⟨hname, hrest⟩ := stringChars_unambiguous h
  obtain ⟨hvalue, hrest⟩ := hf r r' hr hr' (List.cons.inj hrest).2
  exact ⟨Prod.ext hname hvalue, hrest⟩

/-- **A compact text stands for one value.** Two values without doubles of which the texts begin
the same text are equal, and so is what follows them, unless a digit does. -/
theorem IsExact.unambiguous (ha : IsExact a) (hb : IsExact b) : Unambiguous chars a b := by
  -- induction on the first value; the second one is of the same sort
  induction ha generalizing b with
  | null =>
    intro r r' _ _ h
    have hsort := sort_eq .null hb h
    cases hb with
    | null => exact ⟨rfl, List.append_cancel_left h⟩
    | _ => cases hsort
  | bool x =>
    intro r r' _ _ h
    have hsort := sort_eq (.bool x) hb h
    cases hb with
    | bool y =>
      cases x <;> cases y
      · exact ⟨rfl, List.append_cancel_left h⟩
      · exact absurd (List.cons.inj h).1 (by decide)
      · exact absurd (List.cons.inj h).1 (by decide)
      · exact ⟨rfl, List.append_cancel_left h⟩
    | _ => cases hsort
  | integer m =>
    intro r r' hr hr' h
    have hsort := sort_eq (.integer m) hb h
    cases hb with
    | integer n =>
      obtain ⟨rfl, hrest⟩ := integerChars_unambiguous hr hr' h
      exact ⟨rfl, hrest⟩
    | _ => cases hsort
  | string s =>
    intro r r' _ _ h
    have hsort := sort_eq (.string s) hb h
    cases hb with
    | string t =>
      obtain ⟨rfl, hrest⟩ := stringChars_unambiguous h
      exact ⟨rfl, hrest⟩
    | _ => cases hsort
  | @array items hitems ih =>
    intro r r' _ _ h
    have hsort := sort_eq (.array hitems) hb h
    cases hb with
    | @array items' hitems' =>
      rw [chars, chars, List.cons_append, List.cons_append, List.append_assoc, List.append_assoc,
        itemChars_eq, itemChars_eq] at h
      obtain ⟨rfl, hrest⟩ := joined_unambiguous (by decide) (by decide)
        (fun j hj j' hj' => ih j hj (hitems' j' hj'))
        (fun j hj => chars_append_ne_close (hj.elim (hitems j) (hitems' j))) (List.cons.inj h).2
      exact ⟨rfl, hrest⟩
    | _ => cases hsort
  | @object fields hfields ih =>
    intro r r' _ _ h
    have hsort := sort_eq (.object hfields) hb h
    cases hb with
    | @object fields' hfields' =>
      rw [chars, chars, List.cons_append, List.cons_append, List.append_assoc, List.append_assoc,
        fieldChars_eq, fieldChars_eq] at h
      obtain ⟨rfl, hrest⟩ := joined_unambiguous (by decide) (by decide)
        (fun f hf f' hf' => fieldText_unambiguous (ih f hf (hfields' f' hf')))
        (fun f _ cs cs' heq => absurd (List.cons.inj heq).1 (by decide)) (List.cons.inj h).2
      exact ⟨rfl, hrest⟩
    | _ => cases hsort

theorem compact_inj (ha : IsExact a) (hb : IsExact b) : compact a = compact b ↔ a = b := by
  refine ⟨fun h => ?_, congrArg compact⟩
  have hchars : chars a ++ [] = chars b ++ [] := by
    rw [List.append_nil, List.append_nil]
    exact String.ofList_injective h
  exact (ha.unambiguous hb [] [] (fun _ hc => nomatch hc) (fun _ hc => nomatch hc) hchars).1

end ProbeEngine.Json

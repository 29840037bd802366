import ProbeEngine.Number.Numeral
import ProbeEngine.Proofs.Number.Decimals
import ProbeEngine.Proofs.Text.Spans

/-!
# The grammar of numerals

Which characters make a decimal literal is said here on the characters alone (`IsLiteral`): a
sign or none, digits with a point somewhere or none, and a power of ten or none. The reader of
literals accepts these and no others, and reads the number that they write
(`literal?_eq_some_iff`). With the infinities, the digits of marked radices and the empty text they
make the numerals of the host (`IsNumeral`), and `isNaN_parse_iff` says how far the reader of
numbers agrees with it on what a numeral is.
-/

namespace ProbeEngine.Number

open Text (NotBefore span_append notBefore_cons_iff notBefore_nil notBefore_dropWhile)

/-! ## Decimal literals -/

/-- What may stand in front of a number, and whether it makes the number negative. -/
inductive IsSign : List Char → Bool → Prop
  | absent : IsSign [] false
  | plus : IsSign ['+'] false
  | minus : IsSign ['-'] true

/-- Digits, one at least, with a point before, between or after them or none; which digits these
are, and how many of them come after the point. -/
inductive IsMantissa : List Char → List Char → Nat → Prop
  | whole {front : List Char} (hfront : ∀ c ∈ front, isDigit c = true) (hne : front ≠ []) :
    IsMantissa front front 0
  | pointed {front back : List Char} (hfront : ∀ c ∈ front, isDigit c = true)
    (hback : ∀ c ∈ back, isDigit c = true) (hne : front ++ back ≠ []) :
    IsMantissa (front ++ '.' :: back) (front ++ back) back.length

/-- A power of ten or none, and which one. -/
inductive IsPower : List Char → Int → Prop
  | absent : IsPower [] 0
  | written {mark : Char} {sign digits : List Char} {negative : Bool}
    (hmark : mark = 'e' ∨ mark = 'E') (hsign : IsSign sign negative)
    (hdigits : ∀ c ∈ digits, isDigit c = true) (hne : digits ≠ []) :
    IsPower (mark :: (sign ++ digits))
      (if negative then -(decimalValue digits : Int) else decimalValue digits)

/-- A decimal literal, and what it writes. -/
inductive IsLiteral : List Char → Literal → Prop
  | mk {sign mantissa digits power : List Char} {negative : Bool} {places : Nat} {e : Int}
    (hsign : IsSign sign negative) (hmantissa : IsMantissa mantissa digits places)
    (hpower : IsPower power e) :
    IsLiteral (sign ++ (mantissa ++ power)) ⟨negative, decimalValue digits, e - places⟩

section

variable {cs sign rest mantissa digits power : List Char} {negative : Bool} {places : Nat} {e : Int}

theorem splitSign_of_ne (h : ∀ c ∈ cs.head?, c ≠ '-' ∧ c ≠ '+') : splitSign cs = (false, cs) := by
  cases cs with
  | nil => rfl
  | cons c cs => simp [splitSign, h c rfl]

/-- A sign is split off if no other sign comes after it. -/
theorem splitSign_append (hsign : IsSign sign negative)
    (hrest : ∀ c ∈ rest.head?, c ≠ '-' ∧ c ≠ '+') :
    splitSign (sign ++ rest) = (negative, rest) := by
  cases hsign with
  | absent => exact splitSign_of_ne hrest
  | plus => rfl
  | minus => rfl

theorem exists_sign (cs : List Char) :
    ∃ sign, IsSign sign (splitSign cs).1 ∧ sign ++ (splitSign cs).2 = cs := by
  by_cases h : ∀ c ∈ cs.head?, c ≠ '-' ∧ c ≠ '+'
  · rw [splitSign_of_ne h]
    exact ⟨[], .absent, rfl⟩
  · cases cs with
    | nil => exact absurd (by simp) h
    | cons c cs =>
      obtain rfl | rfl : c = '-' ∨ c = '+' := by
        by_contra hne
        exact h (by rintro d ⟨⟩; exact not_or.1 hne)
      · exact ⟨['-'], .minus, rfl⟩
      · exact ⟨['+'], .plus, rfl⟩

theorem not_sign_of_isDigit {c : Char} (hc : isDigit c = true) : c ≠ '-' ∧ c ≠ '+' := by
  constructor <;> rintro rfl <;> exact absurd hc (by decide)

theorem IsPower.notBefore (hpower : IsPower power e) : NotBefore isDigit power := by
  cases hpower with
  | absent => exact notBefore_nil
  | written hmark _ _ _ =>
    rw [notBefore_cons_iff]
    rcases hmark with rfl | rfl <;> rfl

theorem IsPower.head_ne_point (hpower : IsPower power e) : ∀ r, power ≠ '.' :: r := by
  rintro r rfl
  cases hpower with
  | written hmark _ _ _ => exact absurd hmark (by decide)

/-- The reader of powers accepts what a power is. -/
theorem exponentPart?_eq_some_iff : exponentPart? cs = some e ↔ IsPower cs e := by
  constructor
  · intro h
    cases cs with
    | nil =>
      cases h
      exact .absent
    | cons mark cs =>
      rw [exponentPart?] at h
      split at h
      · rename_i hmark
        dsimp only at h
        split at h
        · cases h
        · rename_i hdigits
          rw [Bool.or_eq_true, not_or, List.isEmpty_iff, Bool.not_eq_true', Bool.not_eq_false,
            List.all_eq_true] at hdigits
          obtain ⟨sign, hsign, hcs⟩ := exists_sign cs
          cases h
          have hpower : IsPower (mark :: (sign ++ (splitSign cs).2)) _ :=
            .written hmark hsign hdigits.2 hdigits.1
          rwa [hcs] at hpower
      · cases h
  · intro h
    cases h with
    | absent => rfl
    | @written mark sign digits negative hmark hsign hdigits hne =>
      have hhead : ∀ c ∈ digits.head?, c ≠ '-' ∧ c ≠ '+' := fun c hc =>
        not_sign_of_isDigit (hdigits c (List.mem_of_mem_head? hc))
      have hread : (digits.isEmpty || !digits.all isDigit) = false := by
        rw [Bool.or_eq_false_iff, List.isEmpty_eq_false_iff, Bool.not_eq_false', List.all_eq_true]
        exact ⟨hne, hdigits⟩
      rw [exponentPart?, if_pos hmark, splitSign_append hsign hhead]
      simp only [hread, Bool.false_eq_true, if_false]

/-! ## The reader of literals -/

theorem head_digits_append {ds : List Char} (hdigits : ∀ c ∈ ds, isDigit c = true)
    (hrest : ∀ c ∈ rest.head?, c ≠ '-' ∧ c ≠ '+') :
    ∀ c ∈ (ds ++ rest).head?, c ≠ '-' ∧ c ≠ '+' := by
  intro c hc
  cases ds with
  | nil => exact hrest c hc
  | cons d ds =>
    cases hc
    exact not_sign_of_isDigit (hdigits c List.mem_cons_self)

/-- A mantissa does not begin with a sign, whatever follows it. -/
theorem IsMantissa.head_append (hmantissa : IsMantissa mantissa digits places) :
    ∀ c ∈ (mantissa ++ rest).head?, c ≠ '-' ∧ c ≠ '+' := by
  cases hmantissa with
  | whole hfront hne =>
    cases mantissa with
    | nil => exact absurd rfl hne
    | cons c front =>
      rintro d ⟨⟩
      exact not_sign_of_isDigit (hfront c List.mem_cons_self)
  | pointed hfront hback hne =>
    rw [List.append_assoc]
    refine head_digits_append hfront ?_
    rintro c ⟨⟩
    decide

/-- A literal whose digits in front are followed by a point. -/
theorem literal?_of_point {front : List Char}
    (hsplit : splitSign cs = (negative, front ++ '.' :: rest))
    (hfront : ∀ c ∈ front, isDigit c = true) :
    literal? cs =
      if front ++ rest.takeWhile isDigit = [] then none
      else (exponentPart? (rest.dropWhile isDigit)).map fun e =>
        ⟨negative, decimalValue (front ++ rest.takeWhile isDigit),
          e - (rest.takeWhile isDigit).length⟩ := by
  have hpoint : NotBefore isDigit ('.' :: rest) := notBefore_cons_iff.2 rfl
  obtain ⟨htake, hdrop⟩ := span_append hfront hpoint
  rw [literal?, hsplit]
  simp only [htake, hdrop, Bool.and_eq_true, List.isEmpty_iff, List.append_eq_nil_iff]

/-- A literal whose digits in front are followed by no point. -/
theorem literal?_of_no_point {front : List Char} (hsplit : splitSign cs = (negative, front ++ rest))
    (hfront : ∀ c ∈ front, isDigit c = true) (hrest : NotBefore isDigit rest)
    (hpoint : ∀ r, rest ≠ '.' :: r) :
    literal? cs =
      if front = [] then none
      else (exponentPart? rest).map fun e => ⟨negative, decimalValue front, e⟩ := by
  obtain ⟨htake, hdrop⟩ := span_append hfront hrest
  rw [literal?, hsplit]
  simp only [htake, hdrop]
  simp

/-- **The reader of decimal literals accepts the grammar**, and reads what a literal writes. -/
theorem literal?_eq_some_iff {l : Literal} : literal? cs = some l ↔ IsLiteral cs l := by
  constructor
  · intro h
    obtain ⟨sign, hsign, hcs⟩ := exists_sign cs
    generalize hsplit : splitSign cs = split at hsign hcs
    obtain ⟨negative, body⟩ := split
    have hfront : ∀ c ∈ body.takeWhile isDigit, isDigit c = true := fun c => List.mem_takeWhile_imp
    have hrest := notBefore_dropWhile isDigit body
    have hbody : body.takeWhile isDigit ++ body.dropWhile isDigit = body :=
      List.takeWhile_append_dropWhile
    generalize body.takeWhile isDigit = front at hfront hbody
    generalize body.dropWhile isDigit = rest at hrest hbody
    subst hbody hcs
    by_cases hpoint : ∃ r, rest = '.' :: r
    · obtain ⟨r, rfl⟩ := hpoint
      rw [literal?_of_point hsplit hfront] at h
      split at h
      · cases h
      · rename_i hne
        obtain ⟨e, he, rfl⟩ := Option.map_eq_some_iff.1 h
        have hmantissa := IsMantissa.pointed hfront (fun c => List.mem_takeWhile_imp) hne
        have hliteral := IsLiteral.mk hsign hmantissa (exponentPart?_eq_some_iff.1 he)
        rwa [List.append_assoc, List.cons_append, List.takeWhile_append_dropWhile] at hliteral
    · rw [literal?_of_no_point hsplit hfront hrest (not_exists.1 hpoint)] at h
      split at h
      · cases h
      · rename_i hne
        obtain ⟨e, he, rfl⟩ := Option.map_eq_some_iff.1 h
        have hliteral := IsLiteral.mk hsign (.whole hfront hne) (exponentPart?_eq_some_iff.1 he)
        simpa using hliteral
  · rintro @⟨sign, mantissa, digits, power, negative, places, e, hsign, hmantissa, hpower⟩
    have hsplit : splitSign (sign ++ (mantissa ++ power)) = (negative, mantissa ++ power) :=
      splitSign_append hsign hmantissa.head_append
    have he := exponentPart?_eq_some_iff.2 hpower
    cases hmantissa with
    | whole hfront hne =>
      rw [literal?_of_no_point hsplit hfront hpower.notBefore hpower.head_ne_point, if_neg hne, he]
      simp
    | pointed hfront hback hne =>
      obtain ⟨htake, hdrop⟩ := span_append hback hpower.notBefore
      rw [List.append_assoc, List.cons_append] at hsplit
      rw [List.append_assoc, List.cons_append, literal?_of_point hsplit hfront, htake, hdrop,
        if_neg hne, he]
      rfl

end

/-! ## Marked radices -/

/-- The letters that mark a radix after a zero. -/
inductive IsMark : Char → Nat → Prop
  | hexadecimal {c : Char} (h : c = 'x' ∨ c = 'X') : IsMark c 16
  | octal {c : Char} (h : c = 'o' ∨ c = 'O') : IsMark c 8
  | binary {c : Char} (h : c = 'b' ∨ c = 'B') : IsMark c 2

/-- A digit of a radix up to sixteen, as a letter of either case beyond nine, and its value. -/
def IsDigitOf (radix : Nat) (c : Char) (d : Nat) : Prop :=
  d < radix ∧ (c = Nat.digitChar d ∨ c = (Nat.digitChar d).toUpper)

/-- The number that digits of a radix write. -/
def IsWrittenIn (radix : Nat) (digits : List Char) (n : Nat) : Prop :=
  ∃ ds, List.Forall₂ (IsDigitOf radix) digits ds ∧ n = Nat.ofDigits radix ds.reverse

/-- A zero, a letter that marks a radix, a sign, and digits of the radix, one at least. -/
inductive IsMarked (sign : List Char) : List Char → Nat → Prop
  | mk {mark : Char} {radix n : Nat} {digits : List Char} (hmark : IsMark mark radix)
    (hne : digits ≠ []) (hdigits : IsWrittenIn radix digits n) :
    IsMarked sign ('0' :: mark :: (sign ++ digits)) n

section

variable {cs digits : List Char} {c mark : Char} {d n radix acc : Nat}

theorem IsMark.le_sixteen (hmark : IsMark mark radix) : radix ≤ 16 := by
  cases hmark <;> decide

theorem digitValue?_digitChar :
    ∀ d < 16, digitValue? (Nat.digitChar d) = some d ∧
      digitValue? (Nat.digitChar d).toUpper = some d := by
  decide

theorem toNat_digitChar :
    ∀ d < 16, (Nat.digitChar d).toNat = (if d < 10 then 48 + d else 87 + d) ∧
      (Nat.digitChar d).toUpper.toNat = if d < 10 then 48 + d else 55 + d := by
  decide

theorem between_iff {first last : Char} :
    (decide (first ≤ c) && decide (c ≤ last)) = true ↔
      first.toNat ≤ c.toNat ∧ c.toNat ≤ last.toNat := by
  rw [Bool.and_eq_true, decide_eq_true_eq, decide_eq_true_eq]
  exact Iff.rfl

/-- A character of a value below sixteen is the digit of this value. -/
theorem eq_digitChar_of_digitValue? (hd : d < 16) (h : digitValue? c = some d) :
    c = Nat.digitChar d ∨ c = (Nat.digitChar d).toUpper := by
  have hzero : '0'.toNat = 48 := rfl
  have hnine : '9'.toNat = 57 := rfl
  have ha : 'a'.toNat = 97 := rfl
  have hA : 'A'.toNat = 65 := rfl
  obtain ⟨hlower, hupper⟩ := toNat_digitChar d hd
  rw [← Char.toNat_inj, ← Char.toNat_inj, hlower, hupper]
  rw [digitValue?] at h
  split at h
  · rename_i hdigit
    obtain ⟨hle, hge⟩ := between_iff.1 hdigit
    have := Option.some.inj h
    left
    rw [if_pos (by omega)]
    omega
  · split at h
    · rename_i hletter
      obtain ⟨hle, hge⟩ := between_iff.1 hletter
      have := Option.some.inj h
      left
      rw [if_neg (by omega)]
      omega
    · split at h
      · rename_i hletter
        obtain ⟨hle, hge⟩ := between_iff.1 hletter
        have := Option.some.inj h
        right
        rw [if_neg (by omega)]
        omega
      · cases h

/-- The characters of a value are the digits of this value. -/
theorem digitIn?_eq_some_iff (hradix : radix ≤ 16) :
    digitIn? radix c = some d ↔ IsDigitOf radix c d := by
  rw [digitIn?, Option.filter_eq_some_iff, decide_eq_true_eq, IsDigitOf, and_comm]
  refine and_congr_right fun hd => ⟨eq_digitChar_of_digitValue? (by omega), ?_⟩
  obtain ⟨hlower, hupper⟩ := digitValue?_digitChar d (by omega)
  rintro (rfl | rfl)
  · exact hlower
  · exact hupper

theorem digitsFrom?_eq_some_iff (hradix : radix ≤ 16) :
    digitsFrom? radix acc cs = some n ↔
      ∃ ds, List.Forall₂ (IsDigitOf radix) cs ds ∧
        n = Nat.ofDigits radix ds.reverse + acc * radix ^ ds.length := by
  induction cs generalizing acc with
  | nil => simp [digitsFrom?, eq_comm]
  | cons c cs ih =>
    simp only [List.forall₂_cons_left_iff, ← digitIn?_eq_some_iff hradix]
    rw [digitsFrom?]
    cases hc : digitIn? radix c with
    | none => simp
    | some d =>
      have hvalue : ∀ ds : List Nat,
          Nat.ofDigits radix (d :: ds).reverse + acc * radix ^ (d :: ds).length =
            Nat.ofDigits radix ds.reverse + (acc * radix + d) * radix ^ ds.length := by
        intro ds
        rw [List.reverse_cons, Nat.ofDigits_append, Nat.ofDigits_singleton, List.length_reverse,
          List.length_cons]
        ring
      dsimp only
      rw [ih]
      constructor
      · rintro ⟨ds, hds, rfl⟩
        exact ⟨d :: ds, ⟨d, ds, rfl, hds, rfl⟩, (hvalue ds).symm⟩
      · rintro ⟨_, ⟨d', ds, hd, hds, rfl⟩, rfl⟩
        cases hd
        exact ⟨ds, hds, hvalue ds⟩

theorem isWrittenIn_iff (hradix : radix ≤ 16) :
    IsWrittenIn radix cs n ↔ digitsFrom? radix 0 cs = some n := by
  rw [digitsFrom?_eq_some_iff hradix, IsWrittenIn]
  simp

theorem not_isWrittenIn_plus (hradix : radix ≤ 16) : ¬ IsWrittenIn radix ('+' :: cs) n := by
  rw [isWrittenIn_iff hradix]
  exact nofun

/-- The reader of marked numbers accepts a plus in front of the digits, and no number that is
beyond a machine word. -/
theorem marked?_eq_some_iff (hradix : radix ≤ 16) :
    marked? radix cs = some n ↔
      n < UInt64.size ∧ ∃ sign digits, (sign = [] ∨ sign = ['+']) ∧ cs = sign ++ digits ∧
        digits ≠ [] ∧ IsWrittenIn radix digits n := by
  have hread : ∀ digits : List Char,
      (if digits.isEmpty then none
        else (digitsFrom? radix 0 digits).filter (· ≤ greatestMarked)) = some n ↔
      n < UInt64.size ∧ digits ≠ [] ∧ IsWrittenIn radix digits n := by
    intro digits
    have hword : n ≤ greatestMarked ↔ n < UInt64.size := by
      rw [greatestMarked, UInt64.size]
      omega
    rw [isWrittenIn_iff hradix, ← hword]
    cases digits with
    | nil => simp
    | cons c digits => simp [Option.filter_eq_some_iff, and_comm]
  by_cases hplus : ∃ r, cs = '+' :: r
  · obtain ⟨digits, rfl⟩ := hplus
    rw [marked?, hread]
    refine and_congr_right fun _ => ⟨fun h => ⟨['+'], digits, .inr rfl, rfl, h⟩, ?_⟩
    rintro ⟨sign, digits', rfl | rfl, hcs, h⟩
    · rw [List.nil_append] at hcs
      rw [← hcs] at h
      exact absurd h.2 (not_isWrittenIn_plus hradix)
    · cases hcs
      exact h
  · rw [marked?, hread]
    · refine and_congr_right fun _ => ⟨fun h => ⟨[], cs, .inl rfl, rfl, h⟩, ?_⟩
      rintro ⟨sign, digits, rfl | rfl, rfl, h⟩
      · exact h
      · exact absurd ⟨digits, rfl⟩ hplus
    · exact fun r hr => hplus ⟨r, hr⟩

theorem radixMark?_eq_some_iff {rest : List Char} :
    radixMark? cs = some (radix, rest) ↔ ∃ mark, IsMark mark radix ∧ cs = '0' :: mark :: rest := by
  constructor
  · intro h
    unfold radixMark? at h
    split at h
    · rename_i mark cs
      split at h
      · rename_i hmark
        cases h
        exact ⟨mark, .hexadecimal hmark, rfl⟩
      · split at h
        · rename_i hmark
          cases h
          exact ⟨mark, .octal hmark, rfl⟩
        · split at h
          · rename_i hmark
            cases h
            exact ⟨mark, .binary hmark, rfl⟩
          · cases h
    · cases h
  · rintro ⟨mark, hmark, rfl⟩
    cases hmark with
    | hexadecimal h => rw [radixMark?, if_pos h]
    | octal h => rcases h with rfl | rfl <;> rfl
    | binary h => rcases h with rfl | rfl <;> rfl

end

/-! ## Numerals of the host -/

/-- A numeral of the host: nothing at all, an infinity, a decimal literal, or digits of a marked
radix. -/
inductive IsNumeral : List Char → Prop
  | empty : IsNumeral []
  | infinity {sign : List Char} {negative : Bool} (hsign : IsSign sign negative) :
    IsNumeral (sign ++ "Infinity".toList)
  | decimal {cs : List Char} {l : Literal} (h : IsLiteral cs l) : IsNumeral cs
  | marked {cs : List Char} {n : Nat} (h : IsMarked [] cs n) : IsNumeral cs

section

variable {cs sign rest : List Char} {l : Literal} {mark : Char} {m n radix radix' : Nat}

theorem IsMark.unique (h : IsMark mark radix) (h' : IsMark mark radix') : radix = radix' := by
  have hread : radixMark? ['0', mark] = some (radix, []) := radixMark?_eq_some_iff.2 ⟨mark, h, rfl⟩
  rw [radixMark?_eq_some_iff.2 ⟨mark, h', rfl⟩] at hread
  exact (congrArg Prod.fst (Option.some.inj hread)).symm

theorem isMarked_iff (hmark : IsMark mark radix) :
    IsMarked sign ('0' :: mark :: rest) n ↔
      ∃ digits, rest = sign ++ digits ∧ digits ≠ [] ∧ IsWrittenIn radix digits n := by
  constructor
  · generalize hcs : '0' :: mark :: rest = cs
    rintro ⟨hmark', hne, hdigits⟩
    cases hcs
    cases hmark.unique hmark'
    exact ⟨_, rfl, hne, hdigits⟩
  · rintro ⟨digits, rfl, hne, hdigits⟩
    exact .mk hmark hne hdigits

theorem IsMarked.unique (h : IsMarked sign cs m) (h' : IsMarked sign cs n) : m = n := by
  obtain ⟨hmark, hne, hdigits⟩ := h
  obtain ⟨digits', heq, -, hdigits'⟩ := (isMarked_iff hmark).1 h'
  cases List.append_cancel_left heq
  rw [isWrittenIn_iff hmark.le_sixteen] at hdigits hdigits'
  exact Option.some.inj (hdigits.symm.trans hdigits')

/-- A letter that marks a radix stands in no literal. -/
theorem not_isLiteral_of_isMark (hmark : IsMark mark radix) :
    ¬ IsLiteral ('0' :: mark :: rest) l := by
  obtain ⟨hdigit, hpoint, hpower, hsign⟩ : isDigit mark = false ∧ mark ≠ '.' ∧
      ¬ (mark = 'e' ∨ mark = 'E') ∧ mark ≠ '-' ∧ mark ≠ '+' := by
    cases hmark with
    | hexadecimal h => rcases h with rfl | rfl <;> decide
    | octal h => rcases h with rfl | rfl <;> decide
    | binary h => rcases h with rfl | rfl <;> decide
  have hzero : ∀ c ∈ ['0'], isDigit c = true := List.forall_mem_singleton.2 (by decide)
  have hsplit : splitSign (['0'] ++ mark :: rest) = (false, ['0'] ++ mark :: rest) :=
    splitSign_of_ne (head_digits_append hzero (by simp [hsign]))
  have hread : literal? (['0'] ++ mark :: rest) = none := by
    rw [literal?_of_no_point hsplit hzero (notBefore_cons_iff.2 hdigit)
      fun r hr => hpoint (List.cons.inj hr).1, exponentPart?, if_neg hpower]
    simp
  rw [← literal?_eq_some_iff, ← List.singleton_append, hread]
  exact nofun

/-- Nothing at all, or an infinity. -/
def IsSpecial (cs : List Char) : Prop :=
  cs = [] ∨ ∃ sign negative, IsSign sign negative ∧ cs = sign ++ "Infinity".toList

theorem isNumeral_iff :
    IsNumeral cs ↔ IsSpecial cs ∨ (∃ l, IsLiteral cs l) ∨ ∃ n, IsMarked [] cs n := by
  constructor
  · rintro (_ | hsign | hl | hn)
    · exact .inl (.inl rfl)
    · exact .inl (.inr ⟨_, _, hsign, rfl⟩)
    · exact .inr (.inl ⟨_, hl⟩)
    · exact .inr (.inr ⟨_, hn⟩)
  · rintro ((rfl | ⟨sign, negative, hsign, rfl⟩) | ⟨l, hl⟩ | ⟨n, hn⟩)
    · exact .empty
    · exact .infinity hsign
    · exact .decimal hl
    · exact .marked hn

theorem radixMark?_of_isSpecial (h : IsSpecial cs) : radixMark? cs = none := by
  obtain rfl | ⟨sign, negative, hsign, rfl⟩ := h
  · rfl
  · cases hsign <;> rfl

theorem isNaN_ofTrimmed_of_isSpecial (h : IsSpecial cs) : (ofTrimmed cs).isNaN = false := by
  obtain rfl | ⟨sign, negative, hsign, rfl⟩ := h
  · decide +kernel
  · cases hsign <;> decide +kernel

theorem ofTrimmed_of_not_isSpecial (h : ¬ IsSpecial cs) :
    ofTrimmed cs = match radixMark? cs with
      | some (radix, digits) => ((marked? radix digits).map Binary64.ofNat).getD Binary64.nan
      | none => ((literal? cs).map Literal.value).getD Binary64.nan := by
  obtain ⟨hempty, hinfinity⟩ := not_or.1 h
  have hpositive : ¬ (cs = "Infinity".toList ∨ cs = "+Infinity".toList) := by
    rintro (heq | heq)
    · exact hinfinity ⟨_, _, .absent, heq⟩
    · exact hinfinity ⟨_, _, .plus, heq⟩
  have hnegative : cs ≠ "-Infinity".toList := fun heq => hinfinity ⟨_, _, .minus, heq⟩
  calc ofTrimmed cs = _ := if_neg hempty
    _ = _ := if_neg hpositive
    _ = _ := if_neg hnegative

/-- A result that may be missing is a number exactly if it is there and is one. -/
theorem isNaN_getD_nan {x? : Option Float} (h : ∀ x ∈ x?, x.isNaN = false) :
    (x?.getD Binary64.nan).isNaN = false ↔ x?.isSome := by
  cases x? with
  | none =>
    have hnan : Binary64.nan.isNaN = true := by decide +kernel
    rw [Option.getD_none, hnan, Option.isSome_none, eq_comm]
  | some x => rw [Option.getD_some, h x rfl, Option.isSome_some, eq_self, eq_self]

/-- The marked numbers that are read. -/
theorem isNaN_ofTrimmed_of_isMark (hmark : IsMark mark radix) :
    (ofTrimmed ('0' :: mark :: rest)).isNaN = false ↔
      ∃ n < UInt64.size, IsMarked [] ('0' :: mark :: rest) n ∨
        IsMarked ['+'] ('0' :: mark :: rest) n := by
  have hradix : radixMark? ('0' :: mark :: rest) = some (radix, rest) :=
    radixMark?_eq_some_iff.2 ⟨mark, hmark, rfl⟩
  have hspecial : ¬ IsSpecial ('0' :: mark :: rest) := fun h => by
    rw [radixMark?_of_isSpecial h] at hradix
    cases hradix
  rw [ofTrimmed_of_not_isSpecial hspecial, hradix]
  dsimp only
  rw [isNaN_getD_nan, Option.isSome_map, Option.isSome_iff_exists]
  · simp only [marked?_eq_some_iff hmark.le_sixteen, isMarked_iff hmark]
    refine exists_congr fun n => and_congr_right fun _ => ?_
    constructor
    · rintro ⟨sign, digits, rfl | rfl, hrest, hdigits⟩
      · exact .inl ⟨digits, hrest, hdigits⟩
      · exact .inr ⟨digits, hrest, hdigits⟩
    · rintro (⟨digits, hrest, hdigits⟩ | ⟨digits, hrest, hdigits⟩)
      · exact ⟨[], digits, .inl rfl, hrest, hdigits⟩
      · exact ⟨['+'], digits, .inr rfl, hrest, hdigits⟩
  · intro x hx
    obtain ⟨n, -, rfl⟩ := Option.map_eq_some_iff.1 hx
    exact Binary64.isNaN_ofNat n

/-- Where no radix is marked, decimal literals are read. -/
theorem isNaN_ofTrimmed_of_radixMark? (hspecial : ¬ IsSpecial cs) (hradix : radixMark? cs = none) :
    (ofTrimmed cs).isNaN = false ↔ ∃ l, IsLiteral cs l := by
  rw [ofTrimmed_of_not_isSpecial hspecial, hradix]
  dsimp only
  rw [isNaN_getD_nan, Option.isSome_map, Option.isSome_iff_exists]
  · simp only [literal?_eq_some_iff]
  · intro x hx
    obtain ⟨l, -, rfl⟩ := Option.map_eq_some_iff.1 hx
    exact Decimal.isNaN_ofDecimal l.negative ⟨l.digits, l.exponent⟩

/-- What a trimmed text is read as is a number exactly if the text is a numeral, but a marked one
may have a plus in front of its digits and must not be beyond a machine word. -/
theorem isNaN_ofTrimmed_iff :
    (ofTrimmed cs).isNaN = false ↔
      (IsNumeral cs ∧ ¬ ∃ n, IsMarked [] cs n ∧ UInt64.size ≤ n) ∨
        ∃ n, IsMarked ['+'] cs n ∧ n < UInt64.size := by
  cases hradix : radixMark? cs with
  | some marked =>
    obtain ⟨radix, rest⟩ := marked
    obtain ⟨mark, hmark, rfl⟩ := radixMark?_eq_some_iff.1 hradix
    have hspecial : ¬ IsSpecial ('0' :: mark :: rest) := fun h => by
      rw [radixMark?_of_isSpecial h] at hradix
      cases hradix
    have hnumeral : IsNumeral ('0' :: mark :: rest) ↔ ∃ n, IsMarked [] ('0' :: mark :: rest) n := by
      rw [isNumeral_iff, or_iff_right hspecial,
        or_iff_right (not_exists.2 fun l => not_isLiteral_of_isMark hmark)]
    rw [isNaN_ofTrimmed_of_isMark hmark, hnumeral]
    constructor
    · rintro ⟨n, hn, h | h⟩
      · refine .inl ⟨⟨n, h⟩, ?_⟩
        rintro ⟨m, h', hm⟩
        cases h.unique h'
        exact absurd hn (not_lt.2 hm)
      · exact .inr ⟨n, h, hn⟩
    · rintro (⟨⟨n, h⟩, hword⟩ | ⟨n, h, hn⟩)
      · exact ⟨n, not_le.1 fun hn => hword ⟨n, h, hn⟩, .inl h⟩
      · exact ⟨n, hn, .inr h⟩
  | none =>
    have hmarked : ∀ sign n, ¬ IsMarked sign cs n := by
      rintro sign n ⟨hmark, -, -⟩
      rw [radixMark?_eq_some_iff.2 ⟨_, hmark, rfl⟩] at hradix
      cases hradix
    have hword : ¬ ∃ n, IsMarked [] cs n ∧ UInt64.size ≤ n := fun ⟨n, h, _⟩ => hmarked _ n h
    have hplus : ¬ ∃ n, IsMarked ['+'] cs n ∧ n < UInt64.size := fun ⟨n, h, _⟩ => hmarked _ n h
    rw [or_iff_left hplus, and_iff_left hword, isNumeral_iff,
      or_iff_left (not_exists.2 fun n => hmarked [] n)]
    by_cases hspecial : IsSpecial cs
    · exact iff_of_true (isNaN_ofTrimmed_of_isSpecial hspecial) (.inl hspecial)
    · rw [isNaN_ofTrimmed_of_radixMark? hspecial hradix, or_iff_right hspecial]

/-- **The texts that are read as numbers** are the numerals of the host, with two exceptions: a
plus between a radix mark and the digits is accepted, and marked digits that write a number beyond
a machine word are refused. -/
theorem isNaN_parse_iff (s : String) :
    (parse s).isNaN = false ↔
      (IsNumeral (Text.trimChars s.toList) ∧
          ¬ ∃ n, IsMarked [] (Text.trimChars s.toList) n ∧ UInt64.size ≤ n) ∨
        ∃ n, IsMarked ['+'] (Text.trimChars s.toList) n ∧ n < UInt64.size :=
  isNaN_ofTrimmed_iff

/-- A text with a plus after the radix mark is no numeral and is read, and seventeen hexadecimal
digits are a numeral and are not read. -/
theorem parse_of_signed_digits_and_of_long_digits :
    ((parse "0x+10").isNaN = false ∧ ¬ IsNumeral (Text.trimChars "0x+10".toList)) ∧
      (parse "0x10000000000000000").isNaN = true ∧
        IsNumeral (Text.trimChars "0x10000000000000000".toList) := by
  have hmark : IsMark 'x' 16 := .hexadecimal (.inl rfl)
  refine ⟨⟨by decide +kernel, ?_⟩, by decide +kernel, ?_⟩
  · have htrim : Text.trimChars "0x+10".toList = '0' :: 'x' :: ['+', '1', '0'] := by decide
    rw [htrim, isNumeral_iff]
    rintro (hspecial | ⟨l, hl⟩ | ⟨n, hn⟩)
    · cases radixMark?_of_isSpecial hspecial
    · exact not_isLiteral_of_isMark hmark hl
    · obtain ⟨digits, hdigits, -, hwritten⟩ := (isMarked_iff hmark).1 hn
      cases hdigits
      exact not_isWrittenIn_plus hmark.le_sixteen hwritten
  · have htrim : Text.trimChars "0x10000000000000000".toList =
        '0' :: 'x' :: "10000000000000000".toList := by decide
    rw [htrim]
    refine .marked (n := 2 ^ 64) ((isMarked_iff hmark).2 ⟨_, rfl, by decide, ?_⟩)
    rw [isWrittenIn_iff hmark.le_sixteen]
    decide

end

end ProbeEngine.Number

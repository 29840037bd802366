import Mathlib.Data.List.Chain
import Mathlib.Data.List.Count
import ProbeEngine.Proofs.Text.Spans
import ProbeEngine.Snapshot.Frame

/-!
# Lines of the stack dialects

Which lines are of a dialect is said here by their parts. A location is a file, a line and a
column with colons in front, and what closes it; since no colon follows the column, a text is a
location in one way at most, and the search for the shortest file finds it
(`location?_eq_some_iff`). So a line is read as one of a dialect exactly if it is one
(`isSome_atLine?_iff`, `isSome_atSignLine?_iff`), and the function in front of a parenthesis is
found where no blank stands before another one (`functionAfter?_append`).
-/

namespace ProbeEngine.StackFrame

open Text (isBlank NotBefore notBefore_cons_iff notBefore_nil notBefore_dropWhile span_append)
open Unicode (isDecimalDigit)

/-! ## Locations -/

/-- Digits of any script, one at least. -/
def IsDigits (digits : List Char) : Prop :=
  digits ≠ [] ∧ ∀ c ∈ digits, isDecimalDigit c = true

/-- A location in a text: a file of one character at least, a line and a column, and what closes
them. -/
inductive IsLocation (close : List Char → Bool) : List Char → Location → Prop
  | mk {file line column rest : List Char} (hfile : file ≠ []) (hline : IsDigits line)
    (hcolumn : IsDigits column) (hend : NotBefore isDecimalDigit rest)
    (hclose : close rest = true) :
    IsLocation close (file ++ ':' :: (line ++ ':' :: (column ++ rest))) ⟨file, line, column⟩

/-- What may close a location: no colon is in it, and a carriage return may follow it. -/
structure Closes (close : List Char → Bool) : Prop where
  colon_not_mem : ∀ {rest}, close rest = true → ':' ∉ rest
  append_return : ∀ {rest}, close rest = true → close (rest ++ ['\r']) = true

section

variable {close : List Char → Bool} {cs digits line column file acc rest front : List Char}
  {l : Location}

theorem closes_isBlanks : Closes isBlanks where
  colon_not_mem := by
    intro rest h hcolon
    exact absurd (List.all_eq_true.1 h _ hcolon) (by decide)
  append_return := by
    intro rest h
    rw [isBlanks, List.all_append, Bool.and_eq_true]
    exact ⟨h, by decide⟩

theorem isClose_eq_true_iff :
    isClose cs = true ↔ isBlanks cs = true ∨ ∃ rest, cs = ')' :: rest ∧ isBlanks rest = true := by
  by_cases h : ∃ rest, cs = ')' :: rest
  · obtain ⟨rest, rfl⟩ := h
    have hblank : isBlank ')' = false := by decide
    simp [isClose, isBlanks, hblank]
  · rw [isClose]
    · simp only [iff_self_or, forall_exists_index, and_imp]
      exact fun rest hrest => absurd ⟨rest, hrest⟩ h
    · exact fun rest hrest => h ⟨rest, hrest⟩

theorem closes_isClose : Closes isClose where
  colon_not_mem := by
    intro rest h
    obtain h | ⟨rest, rfl, h⟩ := isClose_eq_true_iff.1 h
    · exact closes_isBlanks.colon_not_mem h
    · exact List.not_mem_cons_of_ne_of_not_mem (by decide) (closes_isBlanks.colon_not_mem h)
  append_return := by
    intro rest h
    refine isClose_eq_true_iff.2 ?_
    obtain h | ⟨rest, rfl, h⟩ := isClose_eq_true_iff.1 h
    · exact .inl (closes_isBlanks.append_return h)
    · exact .inr ⟨_, rfl, closes_isBlanks.append_return h⟩

theorem IsDigits.colon_not_mem (h : IsDigits digits) : ':' ∉ digits :=
  fun hcolon => absurd (h.2 _ hcolon) (by decide)

theorem colonDigits?_eq_some_iff :
    colonDigits? cs = some (digits, rest) ↔
      IsDigits digits ∧ NotBefore isDecimalDigit rest ∧ cs = ':' :: (digits ++ rest) := by
  constructor
  · intro h
    unfold colonDigits? at h
    split at h
    · rename_i cs
      dsimp only at h
      split at h
      · cases h
      · rename_i hne
        cases h
        rw [List.isEmpty_iff] at hne
        refine ⟨⟨hne, fun c => List.mem_takeWhile_imp⟩, notBefore_dropWhile _ _, ?_⟩
        rw [List.takeWhile_append_dropWhile]
    · cases h
  · rintro ⟨⟨hne, hdigits⟩, hrest, rfl⟩
    obtain ⟨htake, hdrop⟩ := span_append hdigits hrest
    have hempty : ¬ digits.isEmpty = true := by rwa [List.isEmpty_iff]
    rw [colonDigits?]
    simp only [htake, hdrop, if_neg hempty]

/-- A line and a column are read where they stand. -/
theorem position?_eq_some_iff :
    position? close cs = some (line, column) ↔
      IsDigits line ∧ IsDigits column ∧ ∃ rest, NotBefore isDecimalDigit rest ∧
        close rest = true ∧ cs = ':' :: (line ++ ':' :: (column ++ rest)) := by
  constructor
  · intro h
    rw [position?] at h
    split at h
    · cases h
    · rename_i line' rest hline
      split at h
      · cases h
      · rename_i column' rest' hcolumn
        split at h
        · rename_i hrest
          cases h
          obtain ⟨hl, -, rfl⟩ := colonDigits?_eq_some_iff.1 hline
          obtain ⟨hc, hend, rfl⟩ := colonDigits?_eq_some_iff.1 hcolumn
          exact ⟨hl, hc, rest', hend, hrest, rfl⟩
        · cases h
  · rintro ⟨hl, hc, rest, hend, hrest, rfl⟩
    have hcolon : NotBefore isDecimalDigit (':' :: (column ++ rest)) :=
      notBefore_cons_iff.2 (by decide)
    have hline := colonDigits?_eq_some_iff.2 ⟨hl, hcolon, rfl⟩
    have hcolumn := colonDigits?_eq_some_iff.2 ⟨hc, hend, rfl⟩
    rw [position?, hline]
    simp only [hcolumn, hrest, if_true]

/-- A line and a column have two colons. -/
theorem count_of_position? (hclose : Closes close) {p : List Char × List Char}
    (h : position? close cs = some p) : cs.count ':' = 2 := by
  obtain ⟨hl, hc, rest, -, hrest, rfl⟩ := position?_eq_some_iff.1 h
  simp [List.count_eq_zero_of_not_mem hl.colon_not_mem,
    List.count_eq_zero_of_not_mem hc.colon_not_mem,
    List.count_eq_zero_of_not_mem (hclose.colon_not_mem hrest)]

/-- No line and column stand in front of a colon that a line and a column follow. -/
theorem position?_append (hclose : Closes close) {p : List Char × List Char}
    (hposition : position? close cs = some p) (hfront : front ≠ []) :
    position? close (front ++ cs) = none := by
  rw [Option.eq_none_iff_forall_ne_some]
  rintro ⟨line, column⟩ h
  have hcount := count_of_position? hclose h
  rw [List.count_append, count_of_position? hclose hposition] at hcount
  obtain ⟨-, -, rest, -, -, hcs⟩ := position?_eq_some_iff.1 h
  cases front with
  | nil => exact hfront rfl
  | cons c front =>
    obtain ⟨rfl, -⟩ := List.cons.inj hcs
    rw [List.count_cons_self] at hcount
    omega

theorem locationAfter?_append (hclose : Closes close) {p : List Char × List Char}
    (hposition : position? close cs = some p) (hfile : file ≠ []) :
    locationAfter? close acc (file ++ cs) = some ⟨acc.reverse ++ file, p.1, p.2⟩ := by
  induction file generalizing acc with
  | nil => exact absurd rfl hfile
  | cons c file ih =>
    rw [List.cons_append, locationAfter?]
    by_cases hend : file = []
    · subst hend
      rw [List.nil_append, hposition]
      simp
    · rw [position?_append hclose hposition hend]
      simp [ih hend]

theorem isLocation_of_locationAfter? (h : locationAfter? close acc cs = some l) :
    ∃ file, l.file = acc.reverse ++ file ∧ IsLocation close cs { l with file := file } := by
  induction cs generalizing acc with
  | nil => cases h
  | cons c cs ih =>
    rw [locationAfter?] at h
    split at h
    · rename_i line column hposition
      cases h
      obtain ⟨hl, hc, rest, hend, hrest, rfl⟩ := position?_eq_some_iff.1 hposition
      exact ⟨[c], List.reverse_cons, .mk (List.cons_ne_nil c []) hl hc hend hrest⟩
    · obtain ⟨file, hfile, hlocation⟩ := ih h
      refine ⟨c :: file, by simp [hfile], ?_⟩
      cases hlocation with
      | mk _ hl hc hend hrest => exact .mk (List.cons_ne_nil c _) hl hc hend hrest

/-- **A location is found as it stands in the text**, whatever colons and digits its file has. -/
theorem location?_eq_some_iff (hclose : Closes close) :
    location? close cs = some l ↔ IsLocation close cs l := by
  constructor
  · intro h
    obtain ⟨file, hfile, hlocation⟩ := isLocation_of_locationAfter? h
    rw [List.reverse_nil, List.nil_append] at hfile
    rwa [← hfile] at hlocation
  · rintro @⟨file, line, column, rest, hfile, hl, hc, hend, hrest⟩
    exact locationAfter?_append hclose
      (position?_eq_some_iff.2 ⟨hl, hc, rest, hend, hrest, rfl⟩) hfile

theorem IsLocation.append (h : IsLocation close cs l) (front : List Char) :
    IsLocation close (front ++ cs) { l with file := front ++ l.file } := by
  obtain ⟨hfile, hl, hc, hend, hrest⟩ := h
  rw [← List.append_assoc]
  exact .mk (by simp [hfile]) hl hc hend hrest

theorem IsLocation.append_return (hclose : Closes close) (h : IsLocation close cs l) :
    IsLocation close (cs ++ ['\r']) l := by
  obtain ⟨hfile, hl, hc, hend, hrest⟩ := h
  have hreturn : NotBefore isDecimalDigit ['\r'] := notBefore_cons_iff.2 (by decide)
  have hlocation := IsLocation.mk hfile hl hc (hend.append hreturn) (hclose.append_return hrest)
  simpa using hlocation

end

/-! ## Functions -/

/-- No blank stands directly before an opening parenthesis. -/
def NoBlankBeforeParenthesis (cs : List Char) : Prop :=
  cs.IsChain fun b c => c = '(' → isBlank b = false

instance (cs : List Char) : Decidable (NoBlankBeforeParenthesis cs) :=
  inferInstanceAs (Decidable (List.IsChain _ cs))

section

variable {cs function acc rest : List Char} {l : Location} {w : Written}

theorem afterParenthesis?_eq_some_iff :
    afterParenthesis? cs = some rest ↔
      ∃ blanks, blanks ≠ [] ∧ (∀ c ∈ blanks, isBlank c = true) ∧ cs = blanks ++ '(' :: rest := by
  have hparenthesis : NotBefore isBlank ('(' :: rest) := notBefore_cons_iff.2 (by decide)
  constructor
  · intro h
    rw [afterParenthesis?] at h
    split at h
    · rename_i b blanks rest' htake hdrop
      cases h
      refine ⟨b :: blanks, List.cons_ne_nil _ _, ?_, ?_⟩
      · rw [← htake]
        exact fun c => List.mem_takeWhile_imp
      · rw [← htake, ← hdrop, List.takeWhile_append_dropWhile]
    · cases h
  · rintro ⟨blanks, hne, hblanks, rfl⟩
    obtain ⟨htake, hdrop⟩ := span_append hblanks hparenthesis
    rw [afterParenthesis?, htake, hdrop]
    cases blanks with
    | nil => exact absurd rfl hne
    | cons b blanks => rfl

/-- Where no blank stands before a parenthesis, none is found. -/
theorem afterParenthesis?_of_noBlank (h : NoBlankBeforeParenthesis cs) :
    afterParenthesis? cs = none := by
  rw [Option.eq_none_iff_forall_ne_some]
  intro rest hrest
  obtain ⟨blanks, hne, hblanks, rfl⟩ := afterParenthesis?_eq_some_iff.1 hrest
  obtain ⟨-, -, hlast⟩ := List.isChain_append.1 h
  have hblank := hlast _ (List.getLast?_eq_some_getLast hne) _ rfl rfl
  rw [hblanks _ (List.getLast_mem hne)] at hblank
  cases hblank

/-- The blanks behind a part of a function are no blanks before the parenthesis behind it. -/
theorem afterParenthesis?_append (h : NoBlankBeforeParenthesis function) (hne : function ≠ [])
    (hlast : ∀ c ∈ function.getLast?, isBlank c = false) (rest : List Char) :
    afterParenthesis? (function ++ rest) = none := by
  have hdrop : function.dropWhile isBlank ≠ [] := by
    intro hnil
    have hblank := List.dropWhile_eq_nil_iff.1 hnil _ (List.getLast_mem hne)
    rw [hlast _ (List.getLast?_eq_some_getLast hne)] at hblank
    cases hblank
  have htake : (function.takeWhile isBlank).length ≠ function.length := by
    have hsplit := @List.takeWhile_append_dropWhile _ isBlank function
    have hlength := congrArg List.length hsplit
    have hpos := List.length_pos_of_ne_nil hdrop
    rw [List.length_append] at hlength
    omega
  have hnone := afterParenthesis?_of_noBlank h
  rw [afterParenthesis?] at hnone ⊢
  rw [List.dropWhile_append, if_neg (by rwa [List.isEmpty_iff]), List.takeWhile_append,
    if_neg htake]
  cases hd : function.dropWhile isBlank with
  | nil => exact absurd hd hdrop
  | cons c tail =>
    rw [hd] at hnone
    cases hblanks : function.takeWhile isBlank with
    | nil => rfl
    | cons b blanks =>
      rw [hblanks] at hnone
      by_cases hc : c = '('
      · subst hc
        cases hnone
      · simp [hc]

theorem functionAfter?_of_noBlank (h : NoBlankBeforeParenthesis cs) :
    functionAfter? acc cs = none := by
  induction cs generalizing acc with
  | nil => rfl
  | cons c cs ih =>
    have htail : NoBlankBeforeParenthesis cs := h.tail
    rw [functionAfter?, afterParenthesis?_of_noBlank htail]
    exact ih htail

/-- The function in front of a parenthesis is found if no blank stands before another one in it. -/
theorem functionAfter?_append (h : NoBlankBeforeParenthesis function) (hne : function ≠ [])
    (hlast : ∀ c ∈ function.getLast?, isBlank c = false) (hrest : location? isClose rest = some l) :
    functionAfter? acc (function ++ ' ' :: '(' :: rest) =
      some ⟨some (acc.reverse ++ function), l⟩ := by
  have hparenthesis : afterParenthesis? (' ' :: '(' :: rest) = some rest :=
    afterParenthesis?_eq_some_iff.2 ⟨[' '], List.cons_ne_nil _ _, by simp; decide, rfl⟩
  induction function generalizing acc with
  | nil => exact absurd rfl hne
  | cons c function ih =>
    have htail : NoBlankBeforeParenthesis function := h.tail
    rw [List.cons_append, functionAfter?]
    by_cases hend : function = []
    · subst hend
      rw [List.nil_append, hparenthesis, Option.bind_some, hrest]
      simp
    · have hlast' : ∀ c ∈ function.getLast?, isBlank c = false := by
        rwa [List.getLast?_cons_of_ne_nil hend] at hlast
      rw [afterParenthesis?_append htail hend hlast', Option.bind_none]
      simp [ih htail hend hlast']

/-- A function with a location in parentheses is a location with all before it as its file. -/
theorem isLocation_of_functionAfter? (h : functionAfter? acc cs = some w) :
    ∃ l, IsLocation isClose cs l := by
  induction cs generalizing acc with
  | nil => cases h
  | cons c cs ih =>
    rw [functionAfter?] at h
    split at h
    · rename_i l hl
      obtain ⟨rest, hrest, hlocation⟩ := Option.bind_eq_some_iff.1 hl
      obtain ⟨blanks, -, -, rfl⟩ := afterParenthesis?_eq_some_iff.1 hrest
      have hwhole := ((location?_eq_some_iff closes_isClose).1 hlocation).append
        (c :: blanks ++ ['('])
      exact ⟨_, by simpa using hwhole⟩
    · obtain ⟨l, hl⟩ := ih h
      exact ⟨_, hl.append [c]⟩

theorem atBody?_append (h : NoBlankBeforeParenthesis function) (hne : function ≠ [])
    (hlast : ∀ c ∈ function.getLast?, isBlank c = false) (hrest : location? isClose rest = some l) :
    atBody? (function ++ ' ' :: '(' :: rest) = some ⟨some function, l⟩ := by
  rw [atBody?, functionAfter?_append h hne hlast hrest]
  rfl

theorem atBody?_of_noBlank (h : NoBlankBeforeParenthesis cs) :
    atBody? cs = (location? isClose cs).map fun l => ⟨none, l⟩ := by
  rw [atBody?, functionAfter?_of_noBlank h]

theorem isSome_atBody?_iff : (atBody? cs).isSome = true ↔ ∃ l, IsLocation isClose cs l := by
  rw [atBody?]
  split
  · rename_i w hw
    exact iff_of_true rfl (isLocation_of_functionAfter? hw)
  · rw [Option.isSome_map, Option.isSome_iff_exists]
    simp only [location?_eq_some_iff closes_isClose]

theorem isSome_atBlanks?_iff {n : Nat} :
    (atBlanks? cs n).isSome = true ↔ ∃ k < n, (atBody? (cs.drop (k + 1))).isSome = true := by
  induction n with
  | zero => simp [atBlanks?]
  | succ n ih =>
    rw [atBlanks?]
    split
    · rename_i w hw
      exact iff_of_true rfl ⟨n, n.lt_succ_self, by rw [hw, Option.isSome_some]⟩
    · rename_i hnone
      rw [ih]
      constructor
      · rintro ⟨k, hk, h⟩
        exact ⟨k, hk.trans n.lt_succ_self, h⟩
      · rintro ⟨k, hk, h⟩
        refine ⟨k, lt_of_le_of_ne (Nat.le_of_lt_succ hk) ?_, h⟩
        rintro rfl
        rw [hnone] at h
        cases h

end

/-! ## Lines -/

/-- A line of the dialect with `at`: the word with blanks after it, and maybe before it, and a
location. A function in parentheses before the location may be taken for a part of its file. -/
def IsAtLine (cs : List Char) : Prop :=
  ∃ before after body l, (∀ c ∈ before, isBlank c = true) ∧ (∀ c ∈ after, isBlank c = true) ∧
    after ≠ [] ∧ cs = before ++ 'a' :: 't' :: (after ++ body) ∧ IsLocation isClose body l

/-- A line of the dialect with an at sign: a function without one, the sign, and a location. -/
def IsAtSignLine (cs : List Char) : Prop :=
  ∃ function body l, '@' ∉ function ∧ cs = function ++ '@' :: body ∧ IsLocation isBlanks body l

section

variable {cs : List Char}

theorem atLine?_of_trimStart {rest : List Char} (h : Text.trimStart cs = 'a' :: 't' :: rest) :
    atLine? cs = atBlanks? rest (rest.takeWhile isBlank).length := by
  rw [atLine?, h]
  rfl

/-- **A line is read as one of the dialect with `at` exactly if it is one.** -/
theorem isSome_atLine?_iff : (atLine? cs).isSome = true ↔ IsAtLine cs := by
  constructor
  · intro h
    unfold atLine? at h
    split at h
    · rename_i rest hstart
      obtain ⟨k, hk, hbody⟩ := isSome_atBlanks?_iff.1 h
      obtain ⟨l, hl⟩ := isSome_atBody?_iff.1 hbody
      refine ⟨cs.takeWhile isBlank, rest.take (k + 1), rest.drop (k + 1), l,
        fun c => List.mem_takeWhile_imp, ?_, ?_, ?_, hl⟩
      · have htake : rest.take (k + 1) = (rest.takeWhile isBlank).take (k + 1) :=
          calc rest.take (k + 1)
              = (rest.takeWhile isBlank ++ rest.dropWhile isBlank).take (k + 1) := by
                rw [List.takeWhile_append_dropWhile]
            _ = (rest.takeWhile isBlank).take (k + 1) := List.take_append_of_le_length hk
        rw [htake]
        exact fun c hc => List.mem_takeWhile_imp (List.mem_of_mem_take hc)
      · intro hnil
        obtain rfl : rest = [] := (List.take_eq_nil_iff.1 hnil).resolve_left (Nat.succ_ne_zero k)
        cases hk
      · rw [List.take_append_drop, ← hstart, Text.trimStart, List.takeWhile_append_dropWhile]
    · cases h
  · rintro ⟨before, after, body, l, hbefore, hafter, hne, rfl, hl⟩
    have hstart : Text.trimStart (before ++ 'a' :: 't' :: (after ++ body)) =
        'a' :: 't' :: (after ++ body) :=
      (span_append hbefore (notBefore_cons_iff.2 (by decide))).2
    rw [atLine?_of_trimStart hstart, isSome_atBlanks?_iff]
    have hpos := List.length_pos_of_ne_nil hne
    refine ⟨after.length - 1, ?_, ?_⟩
    · rw [List.takeWhile_append_of_pos hafter, List.length_append]
      omega
    · rw [isSome_atBody?_iff, Nat.sub_add_cancel hpos, List.drop_left]
      exact ⟨l, hl⟩

/-- The function of a line is all before the first at sign. -/
theorem atSignLine?_append {function : List Char} (hfunction : '@' ∉ function) (body : List Char) :
    atSignLine? (function ++ '@' :: body) =
      (location? isBlanks body).map fun l => ⟨some function, l⟩ := by
  have hsign : ∀ c ∈ function, decide (c ≠ '@') = true := by
    rintro c hc
    rw [decide_eq_true_eq]
    rintro rfl
    exact hfunction hc
  have hbody : NotBefore (fun c => decide (c ≠ '@')) ('@' :: body) := notBefore_cons_iff.2 (by simp)
  obtain ⟨htake, hdrop⟩ := span_append hsign hbody
  rw [atSignLine?, htake, hdrop]

/-- **A line is read as one of the dialect with an at sign exactly if it is one.** -/
theorem isSome_atSignLine?_iff : (atSignLine? cs).isSome = true ↔ IsAtSignLine cs := by
  constructor
  · intro h
    rw [atSignLine?] at h
    split at h
    · rename_i c body hdrop
      rw [Option.isSome_map, Option.isSome_iff_exists] at h
      obtain ⟨l, hl⟩ := h
      have hsign := notBefore_dropWhile (· ≠ '@') cs
      rw [hdrop, notBefore_cons_iff, decide_eq_false_iff_not, not_not] at hsign
      refine ⟨cs.takeWhile (· ≠ '@'), body, l, ?_, ?_, (location?_eq_some_iff closes_isBlanks).1 hl⟩
      · intro hmem
        have hne := List.mem_takeWhile_imp hmem
        exact of_decide_eq_true hne rfl
      · rw [← hsign, ← hdrop, hsign, List.takeWhile_append_dropWhile]
    · cases h
  · rintro ⟨function, body, l, hfunction, rfl, hl⟩
    rw [atSignLine?_append hfunction, (location?_eq_some_iff closes_isBlanks).2 hl]
    rfl

theorem IsAtLine.append_return (h : IsAtLine cs) : IsAtLine (cs ++ ['\r']) := by
  obtain ⟨before, after, body, l, hbefore, hafter, hne, rfl, hl⟩ := h
  exact ⟨before, after, body ++ ['\r'], l, hbefore, hafter, hne, by simp,
    hl.append_return closes_isClose⟩

theorem IsAtSignLine.append_return (h : IsAtSignLine cs) : IsAtSignLine (cs ++ ['\r']) := by
  obtain ⟨function, body, l, hfunction, rfl, hl⟩ := h
  exact ⟨function, body ++ ['\r'], l, hfunction, by simp, hl.append_return closes_isBlanks⟩

end

end ProbeEngine.StackFrame

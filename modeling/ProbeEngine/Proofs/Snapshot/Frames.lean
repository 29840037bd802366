import ProbeEngine.Proofs.Number.Decimals
import ProbeEngine.Proofs.Snapshot.Dialects

/-!
# Reading rendered stacks

Hosts write a frame in one of three forms (`IsRendered`), one frame a line after a header, with
other lines between. **A rendered stack is read as the frames that it was made of**, in order
(`ofStack_of_isStack`): a frame of each form is read from its line (`ofLine?_of_isRendered`), a
line of no dialect is read as none, and what ends a line does not matter to it (`ReadsAs`).
-/

namespace ProbeEngine.StackFrame

open Text (isBlank NotBefore notBefore_cons_iff notBefore_nil span_append
  dropWhile_eq_self_iff trimChars_eq_self_iff)
open Unicode (isDecimalDigit)

/-! ## Rendered frames -/

/-- A frame that a stack can name: its file has a character and is on one line, and its line and
column are machine words. -/
structure WellFormed (f : StackFrame) : Prop where
  file_ne : f.file ≠ ""
  newline_not_mem : '\n' ∉ f.file.toList
  line_le : f.line ≤ greatestPosition
  column_le : f.column ≤ greatestPosition

/-- The place of a frame as a stack writes it. -/
def place (f : StackFrame) : String :=
  f.file ++ ":" ++ toString f.line ++ ":" ++ toString f.column

/-- The forms in which hosts write a frame. -/
inductive IsRendered (f : StackFrame) : String → Prop
  | called {function : String} (hfunction : f.function = some function) (hne : function ≠ "")
    (htrim : Text.trim function = function) (hline : '\n' ∉ function.toList)
    (hopen : NoBlankBeforeParenthesis function.toList) :
    IsRendered f ("    at " ++ function ++ " (" ++ f.place ++ ")")
  | bare (hfunction : f.function = none) (hstart : NotBefore isBlank f.file.toList)
    (hopen : NoBlankBeforeParenthesis f.file.toList) :
    IsRendered f ("    at " ++ f.place)
  | signed {function : String} (hfunction : f.function = if function = "" then none else function)
    (htrim : Text.trim function = function) (hline : '\n' ∉ function.toList)
    (hsign : '@' ∉ function.toList)
    (hat : ∀ c rest, function.toList = 'a' :: 't' :: c :: rest → isBlank c = false) :
    IsRendered f (function ++ "@" ++ f.place)

/-- A line that is of no dialect. -/
structure IsOther (line : String) : Prop where
  newline_not_mem : '\n' ∉ line.toList
  not_isAtLine : ¬ IsAtLine line.toList
  not_isAtSignLine : ¬ IsAtSignLine line.toList

/-- The lines of a stack after its header, and the frames that they were made of. -/
inductive IsStack : List String → List StackFrame → Prop
  | nil : IsStack [] []
  | frame {f : StackFrame} {line : String} {lines : List String} {frames : List StackFrame}
    (hf : f.WellFormed) (hline : f.IsRendered line) (h : IsStack lines frames) :
    IsStack (line :: lines) (f :: frames)
  | other {line : String} {lines : List String} {frames : List StackFrame}
    (hline : IsOther line) (h : IsStack lines frames) : IsStack (line :: lines) frames

/-! ## Places -/

section

variable {f : StackFrame} {close : List Char → Bool} {rest : List Char} {line : String}

/-- The place of a frame as it is read. -/
def location (f : StackFrame) : Location :=
  ⟨f.file.toList, Nat.toDigits 10 f.line, Nat.toDigits 10 f.column⟩

theorem toList_place (f : StackFrame) :
    f.place.toList =
      f.file.toList ++ ':' :: (Nat.toDigits 10 f.line ++ ':' :: Nat.toDigits 10 f.column) := by
  simp [place]

theorem not_mem_toDigits {n : Nat} {c : Char} (hc : c.isDigit = false) :
    c ∉ Nat.toDigits 10 n := by
  intro hmem
  rw [Text.isDigit_of_mem_toDigits hmem] at hc
  cases hc

theorem isDigits_toDigits (n : Nat) : IsDigits (Nat.toDigits 10 n) := by
  refine ⟨Nat.toDigits_ne_nil, fun c hc => ?_⟩
  have hdigit : Number.isDigit c = true := Text.isDigit_of_mem_toDigits hc
  have hle : c.toNat ≤ '9'.toNat := by
    rw [Number.isDigit, Bool.and_eq_true, decide_eq_true_eq, decide_eq_true_eq] at hdigit
    exact hdigit.2
  rw [isDecimalDigit, if_pos (hle.trans_lt (by decide))]
  exact hdigit

theorem isLocation_place (hf : f.WellFormed) (hend : NotBefore isDecimalDigit rest)
    (hclose : close rest = true) : IsLocation close (f.place.toList ++ rest) f.location := by
  have hfile : f.file.toList ≠ [] := by simpa using hf.file_ne
  have hlocation := IsLocation.mk hfile (isDigits_toDigits f.line) (isDigits_toDigits f.column) hend
    hclose
  rw [toList_place]
  simpa [location] using hlocation

theorem positionValue?_toDigits {n : Nat} (hn : n ≤ greatestPosition) :
    positionValue? (Nat.toDigits 10 n) = some n := by
  have hdigits : (Nat.toDigits 10 n).all Number.isDigit = true :=
    List.all_eq_true.2 fun _ => Text.isDigit_of_mem_toDigits
  rw [positionValue?, if_pos hdigits]
  simp only [Number.decimalValue_toDigits, if_pos hn]

/-- A frame is read from what is written if its function is. -/
theorem ofWritten?_location (hf : f.WellFormed) {function? : Option (List Char)}
    (hfunction : ((function?.map Text.trimChars).filter fun cs => !cs.isEmpty).map String.ofList =
      f.function) : ofWritten? ⟨function?, f.location⟩ = some f := by
  rw [ofWritten?]
  simp [location, positionValue?_toDigits hf.line_le, positionValue?_toDigits hf.column_le,
    hfunction]

/-- A trimmed function is read as it is, and as none if it is empty. -/
theorem readFunction {function : String} (htrim : Text.trim function = function) :
    (((some function.toList).map Text.trimChars).filter fun cs => !cs.isEmpty).map String.ofList =
      if function = "" then none else some function := by
  rw [Option.map_some, ← Text.toList_trim, htrim]
  by_cases hempty : function = ""
  · subst hempty
    rfl
  · have hcons : function.toList.isEmpty = false := by simpa using hempty
    simp [Option.filter, hcons, hempty]

/-! ## Rendered lines -/

/-- One blank stands between the word and what does not begin with another one. -/
theorem atLine?_of_notBefore {body : List Char} (h : NotBefore isBlank body) :
    atLine? ("    at ".toList ++ body) = atBody? body := by
  have hstart : Text.trimStart ("    at ".toList ++ body) = 'a' :: 't' :: ' ' :: body := rfl
  have hblank : ∀ c ∈ [' '], isBlank c = true := List.forall_mem_singleton.2 (by decide)
  have htake : (' ' :: body).takeWhile isBlank = [' '] := (span_append hblank h).1
  rw [atLine?_of_trimStart hstart, htake, List.length_singleton, atBlanks?, List.drop_one,
    List.tail_cons]
  cases atBody? body <;> rfl

theorem ofLine?_of_atLine? {cs : List Char} {w : Written} (h : atLine? cs = some w) :
    ofLine? cs = ofWritten? w := by
  rw [ofLine?, h]

theorem ofLine?_called {function : String} (hf : f.WellFormed)
    (hfunction : f.function = some function) (hne : function ≠ "")
    (htrim : Text.trim function = function) (hopen : NoBlankBeforeParenthesis function.toList) :
    ofLine? ("    at ".toList ++ (function.toList ++ ' ' :: '(' :: (f.place.toList ++ [')']))) =
      some f := by
  have hchars : Text.trimChars function.toList = function.toList := by
    rw [← Text.toList_trim, htrim]
  obtain ⟨hfirst, hlast⟩ := trimChars_eq_self_iff.1 hchars
  have hcons : function.toList ≠ [] := by simpa using hne
  have hblank : NotBefore isBlank (function.toList ++ ' ' :: '(' :: (f.place.toList ++ [')'])) := by
    obtain ⟨c, cs, hcs⟩ := List.exists_cons_of_ne_nil hcons
    rw [hcs, notBefore_cons_iff] at hfirst
    rw [hcs]
    exact notBefore_cons_iff.2 hfirst
  have hlocation := (location?_eq_some_iff closes_isClose).2
    (isLocation_place hf (notBefore_cons_iff.2 (by decide)) (rfl : isClose [')'] = true))
  rw [ofLine?_of_atLine? (w := ⟨some function.toList, f.location⟩)]
  · exact ofWritten?_location hf (by rw [readFunction htrim, if_neg hne, hfunction])
  · rw [atLine?_of_notBefore hblank, atBody?_append hopen hcons hlast hlocation]

theorem noBlankBeforeParenthesis_place (hopen : NoBlankBeforeParenthesis f.file.toList) :
    NoBlankBeforeParenthesis f.place.toList := by
  have hparenthesis : '(' ∉ ':' :: (Nat.toDigits 10 f.line ++ ':' :: Nat.toDigits 10 f.column) := by
    simp [not_mem_toDigits (c := '(') (by decide)]
  rw [toList_place]
  refine List.isChain_append.2 ⟨hopen, ?_, ?_⟩
  · refine (List.pairwise_of_forall_mem_list fun b _ c hc heq => ?_).isChain
    exact absurd (heq ▸ hc) hparenthesis
  · rintro b - c ⟨⟩ heq
    exact absurd heq (by decide)

theorem ofLine?_bare (hf : f.WellFormed) (hfunction : f.function = none)
    (hstart : NotBefore isBlank f.file.toList) (hopen : NoBlankBeforeParenthesis f.file.toList) :
    ofLine? ("    at ".toList ++ f.place.toList) = some f := by
  have hblank : NotBefore isBlank f.place.toList := by
    rw [toList_place]
    exact hstart.append (notBefore_cons_iff.2 (by decide))
  have hlocation := (location?_eq_some_iff closes_isClose).2
    (isLocation_place hf notBefore_nil rfl)
  rw [List.append_nil] at hlocation
  rw [ofLine?_of_atLine? (w := ⟨none, f.location⟩)]
  · exact ofWritten?_location hf hfunction.symm
  · rw [atLine?_of_notBefore hblank, atBody?_of_noBlank (noBlankBeforeParenthesis_place hopen),
      hlocation, Option.map_some]

/-- A function that an at sign follows is not taken for the word of the other dialect. -/
theorem atLine?_append_at_sign {function : List Char} (hfirst : NotBefore isBlank function)
    (hat : ∀ c rest, function = 'a' :: 't' :: c :: rest → isBlank c = false) (body : List Char) :
    atLine? (function ++ '@' :: body) = none := by
  have hsign : NotBefore isBlank ('@' :: body) := notBefore_cons_iff.2 (by decide)
  have hstart : Text.trimStart (function ++ '@' :: body) = function ++ '@' :: body :=
    dropWhile_eq_self_iff.2 (hfirst.append hsign)
  by_cases hword : ∃ rest, function = 'a' :: 't' :: rest
  · obtain ⟨rest, rfl⟩ := hword
    have hrest : NotBefore isBlank rest := by
      cases rest with
      | nil => exact notBefore_nil
      | cons c rest => exact notBefore_cons_iff.2 (hat c rest rfl)
    simp only [List.cons_append] at hstart ⊢
    rw [atLine?_of_trimStart hstart, (hrest.append hsign).takeWhile_eq_nil]
    rfl
  · unfold atLine?
    rw [hstart]
    split
    · rename_i rest heq
      cases function with
      | nil => cases heq
      | cons a function =>
        cases function with
        | nil => cases heq
        | cons t function =>
          cases heq
          exact absurd ⟨function, rfl⟩ hword
    · rfl

theorem ofLine?_signed {function : String} (hf : f.WellFormed)
    (hfunction : f.function = if function = "" then none else some function)
    (htrim : Text.trim function = function) (hsign : '@' ∉ function.toList)
    (hat : ∀ c rest, function.toList = 'a' :: 't' :: c :: rest → isBlank c = false) :
    ofLine? (function.toList ++ '@' :: f.place.toList) = some f := by
  have hchars : Text.trimChars function.toList = function.toList := by
    rw [← Text.toList_trim, htrim]
  obtain ⟨hfirst, -⟩ := trimChars_eq_self_iff.1 hchars
  have hlocation := (location?_eq_some_iff closes_isBlanks).2
    (isLocation_place hf notBefore_nil rfl)
  rw [List.append_nil] at hlocation
  rw [ofLine?, atLine?_append_at_sign hfirst hat, atSignLine?_append hsign, hlocation,
    Option.map_some, Option.bind_some]
  exact ofWritten?_location hf (by rw [readFunction htrim, hfunction])

/-- A frame is read from each form of its line. -/
theorem ofLine?_of_isRendered (hf : f.WellFormed) (hline : f.IsRendered line) :
    ofLine? line.toList = some f := by
  cases hline with
  | called hfunction hne htrim _ hopen =>
    have h := ofLine?_called hf hfunction hne htrim hopen
    simpa using h
  | bare hfunction hstart hopen =>
    have h := ofLine?_bare hf hfunction hstart hopen
    simpa using h
  | signed hfunction htrim _ hsign hat =>
    have h := ofLine?_signed hf hfunction htrim hsign hat
    simpa using h

end

/-! ## Lines of a text -/

section

variable {cs read rest header line : List Char} {lines : List (List Char)}
  {frame? : Option StackFrame} {frames? : List (Option StackFrame)}

theorem linesAfter_append (h : '\n' ∉ line) :
    linesAfter read (line ++ rest) = linesAfter (line.reverse ++ read) rest := by
  induction line generalizing read with
  | nil => rfl
  | cons c line ih =>
    obtain ⟨hc, hline⟩ := not_or.1 (List.mem_cons.not.1 h)
    have hnext : linesAfter read (c :: (line ++ rest)) = linesAfter (c :: read) (line ++ rest) := by
      rw [linesAfter, if_neg (Ne.symm hc)]
    rw [List.cons_append, hnext, ih hline, List.reverse_cons, List.append_assoc,
      List.singleton_append]

/-- A line that a newline ends is the first one. -/
theorem linesOf_append (h : '\n' ∉ line) :
    linesOf (line ++ '\n' :: rest) = endedLine line.reverse :: linesOf rest := by
  rw [linesOf, linesAfter_append h, List.append_nil, linesAfter, if_pos rfl, linesOf]

theorem linesOf_of_not_mem (h : '\n' ∉ line) : linesOf line = if line = [] then [] else [line] := by
  have hlines : linesAfter [] (line ++ []) = linesAfter (line.reverse ++ []) [] :=
    linesAfter_append h
  rw [List.append_nil, List.append_nil] at hlines
  rw [linesOf, hlines]
  split
  · rename_i hnil
    rw [hnil]
    rfl
  · rename_i hne
    rw [linesAfter, List.reverse_reverse]
    exact fun hreverse => hne (List.reverse_eq_nil_iff.1 hreverse)

theorem eq_endedLine (line : List Char) :
    line = endedLine line.reverse ∨ line = endedLine line.reverse ++ ['\r'] := by
  by_cases h : ∃ cs, line.reverse = '\r' :: cs
  · obtain ⟨cs, hcs⟩ := h
    right
    rw [hcs, endedLine, ← List.reverse_cons, ← hcs, List.reverse_reverse]
  · left
    rw [endedLine, List.reverse_reverse]
    exact fun cs hcs => h ⟨cs, hcs⟩

/-- A line that does not end with a carriage return is ended as it is. -/
theorem endedLine_reverse_append (front : List Char) {back : List Char} (hne : back ≠ [])
    (hback : '\r' ∉ back) : endedLine (front ++ back).reverse = front ++ back := by
  refine ((eq_endedLine (front ++ back)).resolve_right fun h => hback ?_).symm
  have hlast := congrArg List.getLast? h
  rw [List.getLast?_append_of_ne_nil _ hne, List.getLast?_append_of_ne_nil _ (List.cons_ne_nil _ _),
    List.getLast?_singleton] at hlast
  exact List.mem_of_getLast? hlast

/-- A line that is read as some frame, or as none, whether it is ended or not. -/
structure ReadsAs (line : List Char) (frame? : Option StackFrame) : Prop where
  newline_not_mem : '\n' ∉ line
  last : ofLine? line = frame?
  ended : ofLine? (endedLine line.reverse) = frame?

theorem filterMap_linesOf (h : List.Forall₂ ReadsAs (line :: lines) (frame? :: frames?)) :
    (linesOf (['\n'].intercalate (line :: lines))).filterMap ofLine? =
      (frame? :: frames?).filterMap id := by
  obtain ⟨hline, hlines⟩ := List.forall₂_cons.1 h
  clear h
  induction hlines generalizing line frame? with
  | nil =>
    have hempty : ofLine? [] = none := rfl
    rw [List.intercalate_singleton, linesOf_of_not_mem hline.newline_not_mem, ← hline.last]
    split
    · rename_i hnil
      rw [hnil, List.filterMap_cons, hempty]
      rfl
    · rw [List.filterMap_cons, List.filterMap_cons]
      rfl
  | cons hnext _ ih =>
    rw [List.intercalate_cons_cons, List.append_assoc, List.singleton_append,
      linesOf_append hline.newline_not_mem,
      List.filterMap_cons, hline.ended, ih hnext, List.filterMap_cons]
    rfl

theorem ofStack_of_readsAs {header : String} {lines : List String} (hheader : '\n' ∉ header.toList)
    (h : List.Forall₂ ReadsAs (lines.map String.toList) frames?) :
    ofStack ("\n".intercalate (header :: lines)) 0 = frames?.filterMap id := by
  have hnewline : "\n".toList = ['\n'] := rfl
  rw [ofStack, String.toList_intercalate, hnewline, List.map_cons]
  generalize lines.map String.toList = lines at h
  cases h with
  | nil =>
    rw [List.intercalate_singleton, linesOf_of_not_mem hheader]
    split <;> rfl
  | cons hline hlines =>
    rw [List.intercalate_cons_cons, List.append_assoc, List.singleton_append,
      linesOf_append hheader]
    exact filterMap_linesOf (.cons hline hlines)

end

/-! ## Rendered stacks -/

section

variable {f : StackFrame} {line : String} {lines : List String} {frames : List StackFrame}

theorem newline_not_mem_place (hf : f.WellFormed) : '\n' ∉ f.place.toList := by
  rw [toList_place]
  simp [hf.newline_not_mem, not_mem_toDigits (c := '\n') (by decide)]

theorem IsRendered.newline_not_mem (hf : f.WellFormed) (hline : f.IsRendered line) :
    '\n' ∉ line.toList := by
  have hplace := newline_not_mem_place hf
  cases hline with
  | called _ _ _ hfunction _ => simp [hfunction, hplace]
  | bare _ _ _ => simp [hplace]
  | signed _ _ hfunction _ _ => simp [hfunction, hplace]

theorem endedLine_place (front : List Char) :
    endedLine (front ++ f.place.toList).reverse = front ++ f.place.toList := by
  have hreturn : '\r' ∉ ':' :: Nat.toDigits 10 f.column := by
    simp [not_mem_toDigits (c := '\r') (by decide)]
  have hended := endedLine_reverse_append
    (front ++ (f.file.toList ++ ':' :: Nat.toDigits 10 f.line)) (List.cons_ne_nil _ _) hreturn
  rw [toList_place]
  simpa using hended

theorem IsRendered.endedLine_reverse (hline : f.IsRendered line) :
    endedLine line.toList.reverse = line.toList := by
  cases hline with
  | @called function _ _ _ _ _ =>
    have hreturn : '\r' ∉ [')'] := by decide
    have hended := endedLine_reverse_append ("    at " ++ function ++ " (" ++ f.place).toList
      (List.cons_ne_nil _ _) hreturn
    simpa using hended
  | bare _ _ _ =>
    rw [String.toList_append]
    exact endedLine_place _
  | signed _ _ _ _ _ =>
    rw [String.toList_append]
    exact endedLine_place _

theorem IsRendered.readsAs (hf : f.WellFormed) (hline : f.IsRendered line) :
    ReadsAs line.toList (some f) := by
  have hread := ofLine?_of_isRendered hf hline
  refine ⟨hline.newline_not_mem hf, hread, ?_⟩
  rwa [hline.endedLine_reverse]

theorem ofLine?_eq_none {cs : List Char} (hat : ¬ IsAtLine cs) (hsign : ¬ IsAtSignLine cs) :
    ofLine? cs = none := by
  rw [← isSome_atLine?_iff, Option.not_isSome_iff_eq_none] at hat
  rw [← isSome_atSignLine?_iff, Option.not_isSome_iff_eq_none] at hsign
  rw [ofLine?, hat, hsign]
  rfl

theorem IsOther.readsAs (hline : IsOther line) : ReadsAs line.toList none := by
  refine ⟨hline.newline_not_mem, ofLine?_eq_none hline.not_isAtLine hline.not_isAtSignLine, ?_⟩
  have hat := hline.not_isAtLine
  have hsign := hline.not_isAtSignLine
  -- a carriage return at the end would have been a part of the dialect too
  obtain hended | hended := eq_endedLine line.toList
  · rw [← hended]
    exact ofLine?_eq_none hat hsign
  · rw [hended] at hat hsign
    exact ofLine?_eq_none (fun h => hat h.append_return) fun h => hsign h.append_return

theorem IsStack.readsAs (h : IsStack lines frames) :
    ∃ frames?, List.Forall₂ ReadsAs (lines.map String.toList) frames? ∧
      frames?.filterMap id = frames := by
  induction h with
  | nil => exact ⟨[], .nil, rfl⟩
  | @frame f _ _ _ hf hline _ ih =>
    obtain ⟨frames?, hreads, rfl⟩ := ih
    exact ⟨some f :: frames?, .cons (hline.readsAs hf) hreads, rfl⟩
  | other hline _ ih =>
    obtain ⟨frames?, hreads, rfl⟩ := ih
    exact ⟨none :: frames?, .cons hline.readsAs hreads, rfl⟩

/-- **A rendered stack is read as its frames**, in order, whatever its header and the lines of no
dialect between them are. -/
theorem ofStack_of_isStack {header : String} (hheader : '\n' ∉ header.toList)
    (h : IsStack lines frames) : ofStack ("\n".intercalate (header :: lines)) 0 = frames := by
  obtain ⟨frames?, hreads, rfl⟩ := h.readsAs
  exact ofStack_of_readsAs hheader hreads

/-- A stack of all three forms, with a port, a parenthesis and an at sign in the files and a line
between that names no position. -/
theorem ofStack_of_three_forms :
    ofStack ("\n".intercalate ["Error: boom", "    at new Widget (http://x:80/w(1).js:4:2)",
      "    at native code", "    at http://x:80/a.js:1:20", "on Click@a@b.js:30:1",
      "@c:5.js:0:4294967295"]) 0 =
      [⟨some "new Widget", "http://x:80/w(1).js", 4, 2⟩, ⟨none, "http://x:80/a.js", 1, 20⟩,
        ⟨some "on Click", "a@b.js", 30, 1⟩, ⟨none, "c:5.js", 0, 4294967295⟩] := by
  have hcalled : IsRendered ⟨some "new Widget", "http://x:80/w(1).js", 4, 2⟩
      "    at new Widget (http://x:80/w(1).js:4:2)" :=
    @IsRendered.called _ "new Widget" rfl (by decide) (by decide) (by decide) (by decide)
  have hother : IsOther "    at native code" :=
    ⟨by decide, isSome_atLine?_iff.not.1 (by decide), isSome_atSignLine?_iff.not.1 (by decide)⟩
  have hbare : IsRendered ⟨none, "http://x:80/a.js", 1, 20⟩ "    at http://x:80/a.js:1:20" :=
    .bare rfl (notBefore_cons_iff.2 (by decide)) (by decide)
  have hsigned : IsRendered ⟨some "on Click", "a@b.js", 30, 1⟩ "on Click@a@b.js:30:1" :=
    @IsRendered.signed _ "on Click" rfl (by decide) (by decide) (by decide) (by simp)
  have hempty : IsRendered ⟨none, "c:5.js", 0, 4294967295⟩ "@c:5.js:0:4294967295" :=
    @IsRendered.signed _ "" rfl (by decide) (by decide) (by decide) (by simp)
  refine ofStack_of_isStack (by decide) (.frame ?_ hcalled (.other hother (.frame ?_ hbare
    (.frame ?_ hsigned (.frame ?_ hempty .nil)))))
  all_goals exact ⟨by decide, by decide, by decide, by decide⟩

end

end ProbeEngine.StackFrame

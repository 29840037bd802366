import ProbeEngine.Number.Numeral
import ProbeEngine.Yaml.Cursor

/-!
# Scalars

The texts of a document: plain ones, those between quotes, and blocks of lines.
Each is read from its first character on. Lines of plain and quoted scalars are
folded: a single break becomes a space, and of several all but the first are
kept.
-/

namespace ProbeEngine.Yaml

/-- How a scalar is written. -/
inductive ScalarStyle
  | plain
  | quoted
  | literal
  | folded
  deriving DecidableEq, Repr

/-! ## Gaps between words -/

/-- The space between two words: blanks on one line, or the breaks of several. -/
structure Gap where
  blanks : List Char := []
  firstBreak : List Char := []
  furtherBreaks : List Char := []
  isBroken : Bool := false

/-- What a gap counts as: folded if it is broken. -/
def Gap.text (g : Gap) : List Char :=
  if g.isBroken then
    if g.firstBreak == ['\n'] then
      if g.furtherBreaks.isEmpty then [' '] else g.furtherBreaks
    else g.firstBreak ++ g.furtherBreaks
  else g.blanks

/-- The gap with one more blank; those in front of a line are dropped. -/
def Gap.addBlank (g : Gap) (x : Char) : Gap :=
  if g.isBroken then g else { g with blanks := g.blanks ++ [x] }

/-- The gap with one more break; blanks in front of the first one are dropped. -/
def Gap.addBreak (g : Gap) (b : List Char) : Gap :=
  if g.isBroken then { g with furtherBreaks := g.furtherBreaks ++ b }
  else { blanks := [], firstBreak := b, furtherBreaks := [], isBroken := true }

/-- The gap at a place, after what was read of it. A tab must not stand for
indentation, where there is one. -/
def gapFrom? (indent : Nat) : Nat → Gap → Cursor → Option (Gap × Cursor)
  | 0, _, _ => none
  | fuel + 1, g, c =>
    match c.head? with
    | some x =>
      if isBlank x then
        if g.isBroken && x == '\t' && c.column < indent then none
        else gapFrom? indent fuel (g.addBlank x) (c.skip 1)
      else if isBreak x then
        let (b, c') := c.lineBreak
        gapFrom? indent fuel (g.addBreak b) c'
      else some (g, c)
    | none => some (g, c)

/-- The gap at a place. -/
def gap? (indent : Nat) (g : Gap) (c : Cursor) : Option (Gap × Cursor) :=
  gapFrom? indent (c.rest.length + 1) g c

/-! ## Plain scalars -/

/-- A scalar that was read: its text, the place after it, and whether the place
is at the beginning of a line. -/
structure ScalarRead where
  text : String
  cursor : Cursor
  atNewLine : Bool

/-- An indicator of flow collections. -/
def isFlowIndicator (c : Char) : Bool :=
  c == ',' || c == '[' || c == ']' || c == '\x7b' || c == '\x7d'

/-- The word of a plain scalar at a place. In a flow collection, a colon must not
stand right before an indicator. -/
def plainWord? (inFlow : Bool) : List Char → Option (List Char)
  | [] => some []
  | x :: r =>
    if isSpace x then some []
    else if inFlow && x == ':' && r.head?.any fun y => isFlowIndicator y || y == '?' then none
    else if (x == ':' && endsWord r) || (inFlow && isFlowIndicator x) then some []
    else (plainWord? inFlow r).map fun w => x :: w

/-- Reads a plain scalar on from a place, after the text and gap read before. -/
def plainFrom? (inFlow : Bool) (indent : Nat) :
    Nat → List Char → Gap → Cursor → Option ScalarRead
  | 0, _, _, _ => none
  | fuel + 1, text, g, c =>
    let done := some ⟨String.ofList text, c, g.isBroken⟩
    if c.isAtMark || c.head? == some '#' then done
    else
      match plainWord? inFlow c.rest with
      | none => none
      | some [] => done
      | some w =>
        let text' := text ++ g.text ++ w
        let c' := c.skip w.length
        if c'.head?.any isSpace then
          match gap? indent {} c' with
          | none => none
          | some (g', c'') =>
            if !inFlow && c''.column < indent then
              some ⟨String.ofList text', c'', g'.isBroken⟩
            else plainFrom? inFlow indent fuel text' g' c''
        else some ⟨String.ofList text', c', false⟩

/-- Reads a plain scalar, whose further lines are indented so much. -/
def plain? (inFlow : Bool) (indent : Nat) (c : Cursor) : Option ScalarRead :=
  plainFrom? inFlow indent (c.rest.length + 1) [] {} c

/-! ## Quoted scalars -/

/-- The character of a one-letter escape. -/
def escaped? (c : Char) : Option Char :=
  match c with
  | '0' => some (Char.ofNat 0)
  | 'a' => some (Char.ofNat 7)
  | 'b' => some (Char.ofNat 8)
  | 't' => some '\t'
  | '\t' => some '\t'
  | 'n' => some '\n'
  | 'v' => some (Char.ofNat 11)
  | 'f' => some (Char.ofNat 12)
  | 'r' => some '\r'
  | 'e' => some (Char.ofNat 27)
  | ' ' => some ' '
  | '"' => some '"'
  | '/' => some '/'
  | '\\' => some '\\'
  | 'N' => some (Char.ofNat 0x85)
  | '_' => some (Char.ofNat 0xA0)
  | 'L' => some (Char.ofNat 0x2028)
  | 'P' => some (Char.ofNat 0x2029)
  | _ => none

/-- How many hexadecimal digits follow the letter of an escape. -/
def escapeWidth? (c : Char) : Option Nat :=
  if c = 'x' then some 2 else if c = 'u' then some 4 else if c = 'U' then some 8 else none

/-- The character of a number, if it is one. -/
def scalarValue? (n : Nat) : Option Char := if n.isValidChar then some (Char.ofNat n) else none

/-- The character that an escape stands for, and what follows it. -/
def escape? : List Char → Option (Char × List Char)
  | [] => none
  | x :: r =>
    match escapeWidth? x with
    | some n =>
      if r.length < n then none
      else ((Number.digitsFrom? 16 0 (r.take n)).bind scalarValue?).map fun c => (c, r.drop n)
    | none => (escaped? x).map fun c => (c, r)

/-- The word of a quoted scalar at a place, and what follows it: a separator, the
closing quote, or a break that is escaped. -/
def quotedWord? (quote : Char) : Nat → List Char → Option (List Char × List Char)
  | 0, _ => none
  | _ + 1, [] => some ([], [])
  | fuel + 1, x :: r =>
    if isSpace x then some ([], x :: r)
    else if x = quote then
      match quote, r with
      | '\'', '\'' :: r' => (quotedWord? quote fuel r').map fun w => ('\'' :: w.1, w.2)
      | _, _ => some ([], x :: r)
    else if quote = '"' ∧ x = '\\' then
      if r.head?.any isBreak then some ([], x :: r)
      else (escape? r).bind fun e => (quotedWord? quote fuel e.2).map fun w => (e.1 :: w.1, w.2)
    else (quotedWord? quote fuel r).map fun w => (x :: w.1, w.2)

/-- Reads a quoted scalar on from a place, after the text read before. -/
def quotedFrom? (quote : Char) : Nat → List Char → Cursor → Option ScalarRead
  | 0, _, _ => none
  | fuel + 1, text, c =>
    if c.isAtMark then none
    else
      match quotedWord? quote (c.rest.length + 1) c.rest with
      | none => none
      | some (w, r) =>
        let c' := c.skip (c.rest.length - r.length)
        let text' := text ++ w
        match r with
        | [] => none
        | x :: _ =>
          if x = quote then some ⟨String.ofList text', c'.skip 1, false⟩
          else
            let start : Gap × Cursor :=
              if isSpace x then ({}, c') else ({ isBroken := true }, (c'.skip 1).lineBreak.2)
            match gap? 0 start.1 start.2 with
            | none => none
            | some (g, c'') => quotedFrom? quote fuel (text' ++ g.text) c''

/-- Reads a scalar from its opening quote on. -/
def quoted? (quote : Char) (c : Cursor) : Option ScalarRead :=
  quotedFrom? quote (c.rest.length + 1) [] (c.skip 1)

/-! ## Block scalars -/

/-- What becomes of the breaks at the end of a block. -/
inductive Chomping
  | strip
  | clip
  | keep
  deriving DecidableEq, Repr

/-- The header of a block: how it ends, and how much it is indented if it says. -/
structure BlockHeader where
  chomping : Chomping
  increment : Option Nat

/-- The chomping that a character marks. -/
def chomping? (c : Char) : Option Chomping :=
  if c = '+' then some .keep else if c = '-' then some .strip else none

/-- The header of a block, and the place after it. No indentation is of zero. -/
def blockHeader? (c : Cursor) : Option (BlockHeader × Cursor) :=
  let digit := fun (x : Char) => '1' ≤ x && x ≤ '9'
  let value := fun (x : Char) => x.toNat - '0'.toNat
  let header : BlockHeader × Cursor :=
    match c.rest with
    | x :: r =>
      match chomping? x with
      | some m =>
        match r with
        | y :: _ => if digit y then (⟨m, some (value y)⟩, c.skip 2) else (⟨m, none⟩, c.skip 1)
        | [] => (⟨m, none⟩, c.skip 1)
      | none =>
        if digit x then
          match r.head?.bind chomping? with
          | some m => (⟨m, some (value x)⟩, c.skip 2)
          | none => (⟨.clip, some (value x)⟩, c.skip 1)
        else (⟨.clip, none⟩, c)
    | [] => (⟨.clip, none⟩, c)
  let afterBlanks := header.2.dropWhile isBlank
  let afterComment :=
    if afterBlanks.head? == some '#' then afterBlanks.dropWhile fun x => !isBreak x
    else afterBlanks
  if afterComment.rest.isEmpty || afterComment.head?.any isBreak then
    some (header.1, afterComment.lineBreak.2)
  else none

/-- The breaks at a place with the blanks around them, after those read before, and
the greatest column reached. With no indentation given, all blanks count. -/
def blockBreaks? (indent : Option Nat) :
    Nat → List Char → Nat → Cursor → Option (List Char × Nat × Cursor)
  | 0, _, _, _ => none
  | fuel + 1, breaks, reached, c =>
    let room := fun (k : Cursor) => indent.all fun n => k.column < n
    let blanks := (c.rest.takeWhile (· == ' ')).length
    let skipped := match indent with
      | some n => min blanks (n - c.column)
      | none => blanks
    let c' := c.skip skipped
    let reached' := max reached c'.column
    if room c' && c'.head? == some '\t' then none
    else if c'.head?.any isBreak then
      let (b, c'') := c'.lineBreak
      blockBreaks? indent fuel (breaks ++ b) reached' c''
    else some (breaks, reached', c')

/-- The text of a block up to its last line, with the last break and the breaks
after it. -/
structure BlockBody where
  text : List Char
  lastBreak : List Char
  trailingBreaks : List Char
  cursor : Cursor

/-- Reads the lines of a block on from a place, after the text and breaks read
before. In a folded block, a break between two lines that do not start with a
blank is folded. -/
def blockLines? (isLiteral : Bool) (indent : Nat) :
    Nat → BlockBody → Bool → Option BlockBody
  | 0, _, _ => none
  | fuel + 1, b, afterBlank =>
    let c := b.cursor
    if c.column == indent && !c.rest.isEmpty then
      let startsBlank := c.head?.any isBlank
      let break₁ :=
        if !isLiteral && b.lastBreak == ['\n'] && !afterBlank && !startsBlank then
          if b.trailingBreaks.isEmpty then [' '] else []
        else b.lastBreak
      let line := c.span fun x => !isBreak x
      let ended := line.2.lineBreak
      match blockBreaks? (some indent) (ended.2.rest.length + 1) [] 0 ended.2 with
      | none => none
      | some (breaks, _, c') =>
        blockLines? isLiteral indent fuel
          ⟨b.text ++ break₁ ++ b.trailingBreaks ++ line.1, ended.1, breaks, c'⟩ startsBlank
    else some b

/-- Reads a block from its indicator on, inside of so much indentation. -/
def block? (isLiteral : Bool) (parent : Int) (c : Cursor) : Option ScalarRead := do
  let (header, c₁) ← blockHeader? (c.skip 1)
  let given := header.increment.map fun n => (max parent 0).toNat + n
  let (breaks, reached, c₂) ← blockBreaks? given (c₁.rest.length + 1) [] 0 c₁
  let indent := given.getD (max reached (max (parent + 1).toNat 1))
  let b ← blockLines? isLiteral indent (c₂.rest.length + 1) ⟨[], [], breaks, c₂⟩ false
  let text := match header.chomping with
    | .strip => b.text
    | .clip => b.text ++ b.lastBreak
    | .keep => b.text ++ b.lastBreak ++ b.trailingBreaks
  some ⟨String.ofList text, b.cursor, false⟩

end ProbeEngine.Yaml

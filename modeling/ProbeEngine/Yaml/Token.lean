import ProbeEngine.Yaml.Scalar

/-!
# Tokens

A YAML text as a list of tokens. Indentation becomes tokens that open and close
collections, and a key that is recognised only by the colon after it gets its
token in front. Such a key is on one line and at most 1024 bytes long.

A tag may escape bytes. Its text ends before the first zero byte; a tag whose bytes
encode no text is there, but has no text.
-/

namespace ProbeEngine.Yaml

/-- A token. -/
inductive Token
  | version (major minor : Nat)
  | tagHandle (handle : String) (expansion : Option String)
  | documentStart
  | documentEnd
  | sequenceStart
  | mappingStart
  | blockEnd
  | flowSequenceStart
  | flowSequenceEnd
  | flowMappingStart
  | flowMappingEnd
  | item
  | comma
  | key
  | value
  | alias (name : String)
  | anchor (name : String)
  | tag (handle : String) (suffix : Option String)
  | scalar (style : ScalarStyle) (text : String)
  deriving DecidableEq, Repr

/-- What may turn out to be a key: whether it has to, how many tokens are in front
of it, and where it starts. -/
structure KeyCandidate where
  isRequired : Bool
  tokens : Nat
  index : Nat
  line : Nat
  column : Nat

/-- How far a text was read: the tokens so far, the columns of the block collections
around the place, innermost first, the candidate for a key on each level of flow
collections, innermost first, and whether a key may start here. -/
structure Layout where
  cursor : Cursor
  tokens : List Token := []
  columns : List Nat := []
  candidates : List (Option KeyCandidate) := [none]
  keyAllowed : Bool := true

namespace Layout

/-- The column of the innermost block collection, or -1. -/
def indent (l : Layout) : Int :=
  match l.columns with
  | n :: _ => n
  | [] => -1

/-- Whether the place is in a flow collection. -/
def inFlow (l : Layout) : Bool := 1 < l.candidates.length

/-- Adds a token. -/
def add (l : Layout) (t : Token) : Layout := { l with tokens := l.tokens ++ [t] }

/-- Adds a token that so many characters write. -/
def addHere (l : Layout) (t : Token) (n : Nat) : Layout :=
  { l with tokens := l.tokens ++ [t], cursor := l.cursor.skip n }

/-- Adds a token after so many others. -/
def insert (l : Layout) (n : Nat) (t : Token) : Layout :=
  { l with tokens := l.tokens.take n ++ t :: l.tokens.drop n }

/-- Says whether a key may start at the place. -/
def allowKey (l : Layout) (allowed : Bool) : Layout := { l with keyAllowed := allowed }

/-! ## Candidates for keys -/

/-- The candidate on the level of the place. -/
def candidate? (l : Layout) : Option KeyCandidate := l.candidates.head?.join

/-- Replaces the candidate on the level of the place. -/
def setCandidate (l : Layout) (k : Option KeyCandidate) : Layout :=
  { l with candidates := k :: l.candidates.drop 1 }

/-- Drops the candidate on the level of the place, which must not be required. -/
def dropCandidate? (l : Layout) : Option Layout :=
  if l.candidate?.any fun k => k.isRequired then none else some (l.setCandidate none)

/-- Makes the place a candidate if a key may start here. It has to be one where a
line of a block collection starts. -/
def addCandidate? (l : Layout) : Option Layout :=
  if l.keyAllowed then
    let c := l.cursor
    l.dropCandidate?.map fun l' =>
      l'.setCandidate (some ⟨!l.inFlow && l.indent == c.column, l.tokens.length, c.index, c.line,
        c.column⟩)
  else some l

/-- The greatest length of a key in bytes. -/
def longestKey : Nat := 1024

/-- Drops the candidates that the place has gone beyond; none may be required. -/
def dropStale? (l : Layout) : Option Layout :=
  let isStale := fun (k : KeyCandidate) =>
    k.line < l.cursor.line || k.index + longestKey < l.cursor.index
  if l.candidates.any fun k => k.any fun k => k.isRequired && isStale k then none
  else some { l with candidates := l.candidates.map fun k => k.filter fun k => !isStale k }

/-! ## Indentation -/

/-- Opens a block collection at a column if it is further in than the one around
it. Flow collections have no indentation. -/
def openBlock (l : Layout) (column : Nat) (after : Nat) (t : Token) : Layout :=
  if !l.inFlow && l.indent < column then
    { l.insert after t with columns := column :: l.columns }
  else l

/-- Closes the columns that are further in than a given one. -/
def closeColumns (column : Int) : List Nat → List Token × List Nat
  | [] => ([], [])
  | n :: ns =>
    if column < n then
      let r := closeColumns column ns
      (.blockEnd :: r.1, r.2)
    else ([], n :: ns)

/-- Closes the block collections that are further in than a column. -/
def closeBlocks (l : Layout) (column : Int) : Layout :=
  if l.inFlow then l
  else
    let r := closeColumns column l.columns
    { l with tokens := l.tokens ++ r.1, columns := r.2 }

/-! ## Blanks and comments -/

/-- The place after blanks and comments. A tab is a blank only where no key can
start; a new line in a block allows one, and may start with a byte order mark. -/
def skipSpaceFrom (inFlow : Bool) : Nat → Bool → Cursor → Bool × Cursor
  | 0, allowed, c => (allowed, c)
  | fuel + 1, allowed, c =>
    let c₁ := c.skipMark.dropWhile fun x => x == ' ' || ((inFlow || !allowed) && x == '\t')
    let c₂ := if c₁.head? == some '#' then c₁.dropWhile fun x => !isBreak x else c₁
    if c₂.head?.any isBreak then skipSpaceFrom inFlow fuel (allowed || !inFlow) c₂.lineBreak.2
    else (allowed, c₂)

/-- The layout at the place after blanks and comments. -/
def skipSpace (l : Layout) : Layout :=
  let r := skipSpaceFrom l.inFlow (l.cursor.rest.length + 1) l.keyAllowed l.cursor
  { l with keyAllowed := r.1, cursor := r.2 }

/-! ## Tokens of collections -/

/-- A mark at the start or end of a document, which closes all blocks. -/
def documentMark? (l : Layout) (t : Token) : Option Layout :=
  (l.closeBlocks (-1)).dropCandidate?.map fun l' => (l'.allowKey false).addHere t 3

/-- The start of a flow collection. -/
def flowStart? (l : Layout) (t : Token) : Option Layout :=
  l.addCandidate?.map fun l' =>
    ({ l' with candidates := none :: l'.candidates, keyAllowed := true }).addHere t 1

/-- The end of a flow collection. -/
def flowEnd? (l : Layout) (t : Token) : Option Layout :=
  l.dropCandidate?.map fun l' =>
    let outer := if l'.inFlow then l'.candidates.drop 1 else l'.candidates
    ({ l' with candidates := outer, keyAllowed := false }).addHere t 1

/-- A comma between the items of a flow collection. -/
def comma? (l : Layout) : Option Layout :=
  l.dropCandidate?.map fun l' => (l'.allowKey true).addHere .comma 1

/-- A dash in front of an item. -/
def item? (l : Layout) : Option Layout :=
  if !l.inFlow && !l.keyAllowed then none
  else
    (l.openBlock l.cursor.column l.tokens.length .sequenceStart).dropCandidate?.map fun l' =>
      (l'.allowKey true).addHere .item 1

/-- A question mark in front of a key. -/
def key? (l : Layout) : Option Layout :=
  if !l.inFlow && !l.keyAllowed then none
  else
    (l.openBlock l.cursor.column l.tokens.length .mappingStart).dropCandidate?.map fun l' =>
      (l'.allowKey (!l'.inFlow)).addHere .key 1

/-- A colon in front of a value; a candidate becomes the key by it. -/
def value? (l : Layout) : Option Layout :=
  match l.candidate? with
  | some k =>
    let l' := (l.insert k.tokens .key).openBlock k.column k.tokens .mappingStart
    some (((l'.setCandidate none).allowKey false).addHere .value 1)
  | none =>
    if !l.inFlow && !l.keyAllowed then none
    else
      let l' := l.openBlock l.cursor.column l.tokens.length .mappingStart
      some ((l'.allowKey (!l'.inFlow)).addHere .value 1)

/-! ## Tokens of nodes -/

/-- A name after an ampersand or an asterisk. -/
def named? (l : Layout) (t : String → Token) : Option Layout := do
  let l' ← l.addCandidate?
  let (name, c) := (l.cursor.skip 1).span isNameLetter
  let ends := endsWord c.rest ||
    c.head?.any fun x => "?:,]\x7d%@".toList.contains x || x.toNat == 96
  if name.isEmpty || !ends then none
  else some { (l'.allowKey false).add (t (String.ofList name)) with cursor := c }

/-- A character of a tag, besides letters of names. -/
def isTagMark (inBrackets : Bool) (c : Char) : Bool :=
  ";/?:@&=+$.%!~*'()".toList.contains c || (inBrackets && ",[]".toList.contains c)

/-- How many bytes a character takes, as its first one says. -/
def encodedWidth? (byte : Nat) : Option Nat :=
  if byte < 0x80 then some 1
  else if byte / 0x20 = 6 then some 2
  else if byte / 0x10 = 14 then some 3
  else if byte / 8 = 30 then some 4
  else none

/-- The byte that an escape at the beginning of a text writes, and what follows it. -/
def escapedByte? : List Char → Option (Nat × List Char)
  | '%' :: a :: b :: r => (Number.digitsFrom? 16 0 [a, b]).map (·, r)
  | _ => none

/-- Some escaped bytes that go on with a character, and what follows them. -/
def trailingBytes? : Nat → List Char → Option (List Nat × List Char)
  | 0, cs => some ([], cs)
  | n + 1, cs => do
    let (byte, r) ← escapedByte? cs
    if byte / 0x40 ≠ 2 then none
    let (more, r') ← trailingBytes? n r
    some (byte :: more, r')

/-- The bytes of an escaped character at the beginning of a text, and what follows
them: as many as the first one says. -/
def escapedBytes? (cs : List Char) : Option (List Nat × List Char) := do
  let (byte, r) ← escapedByte? cs
  let width ← encodedWidth? byte
  let (more, r') ← trailingBytes? (width - 1) r
  some (byte :: more, r')

/-- The bytes of a tag at a place. -/
def tagBytesFrom? (inBrackets : Bool) : Nat → Cursor → Option (List Nat × Cursor)
  | 0, _ => none
  | fuel + 1, c =>
    match c.rest with
    | [] => some ([], c)
    | x :: _ =>
      if x = '%' then do
        let (bytes, r) ← escapedBytes? c.rest
        let (more, c') ← tagBytesFrom? inBrackets fuel (c.skip (c.rest.length - r.length))
        some (bytes ++ more, c')
      else if isNameLetter x || isTagMark inBrackets x then do
        let (more, c') ← tagBytesFrom? inBrackets fuel (c.skip 1)
        some (x.toNat :: more, c')
      else some ([], c)

/-- The bytes of a tag at a place. -/
def tagBytes? (inBrackets : Bool) (c : Cursor) : Option (List Nat × Cursor) :=
  tagBytesFrom? inBrackets (c.rest.length + 1) c

/-- The text of a tag with some bytes, if it has one. -/
def tagText? (bytes : List Nat) : Option String :=
  String.fromUTF8? ⟨((bytes.takeWhile (· ≠ 0)).map UInt8.ofNat).toArray⟩

/-- The handle of a tag: an exclamation mark, and a name with another one if there
is one. -/
def tagHandle (c : Cursor) : List Char × Cursor :=
  let (name, c') := (c.skip 1).span isNameLetter
  if c'.head? == some '!' then ('!' :: name ++ ['!'], c'.skip 1) else ('!' :: name, c')

/-- A tag: a handle with a suffix, or the whole of it between angle brackets. A lone
exclamation mark is the whole of a tag. -/
def tagToken? (c : Cursor) : Option (Token × Cursor) :=
  match c.rest with
  | '!' :: '<' :: _ => do
    let (bytes, c') ← tagBytes? true (c.skip 2)
    if bytes.isEmpty || c'.head? != some '>' then none
    else some (.tag "" (tagText? bytes), c'.skip 1)
  | _ => do
    let (handle, c') := tagHandle c
    let (bytes, c'') ← tagBytes? false c'
    if 1 < handle.length && handle.getLast? == some '!' then
      if bytes.isEmpty then none
      else some (.tag (String.ofList handle) (tagText? bytes), c'')
    else
      match tagText? ((handle.drop 1).map Char.toNat ++ bytes) with
      | some "" => some (.tag "" (some "!"), c'')
      | suffix => some (.tag "!" suffix, c'')

/-- A tag in front of a node. -/
def tag? (l : Layout) : Option Layout := do
  let l' ← l.addCandidate?
  let (t, c) ← tagToken? l.cursor
  if endsWord c.rest || (l.inFlow && c.head? == some ',') then
    some { (l'.allowKey false).add t with cursor := c }
  else none

/-- The layout after a scalar. -/
def afterScalar (l : Layout) (style : ScalarStyle) (r : ScalarRead) : Layout :=
  { l.add (.scalar style r.text) with cursor := r.cursor }

/-- A block scalar. -/
def blockScalar? (l : Layout) (isLiteral : Bool) : Option Layout := do
  let l' ← l.dropCandidate?
  let r ← block? isLiteral l.indent l.cursor
  some ((l'.allowKey true).afterScalar (if isLiteral then .literal else .folded) r)

/-- A scalar between quotes. -/
def quotedScalar? (l : Layout) (quote : Char) : Option Layout := do
  let l' ← l.addCandidate?
  let r ← quoted? quote l.cursor
  some ((l'.allowKey false).afterScalar .quoted r)

/-- A plain scalar. If it ends at the beginning of a line, a key may follow. -/
def plainScalar? (l : Layout) : Option Layout := do
  let l' ← l.addCandidate?
  let r ← plain? l.inFlow (l.indent + 1).toNat l.cursor
  some ((l'.allowKey r.atNewLine).afterScalar .plain r)

/-! ## Directives -/

/-- A number of at most nine digits, and the place after it. -/
def versionNumber? (c : Cursor) : Option (Nat × Cursor) :=
  let (digits, c') := c.span Number.isDigit
  if digits.isEmpty || 9 < digits.length then none else some (Number.decimalValue digits, c')

/-- What a directive of a version says. -/
def versionToken? (c : Cursor) : Option (Token × Cursor) := do
  let (major, c₁) ← versionNumber? (c.dropWhile isBlank)
  if c₁.head? != some '.' then none
  else
    let (minor, c₂) ← versionNumber? (c₁.skip 1)
    some (.version major minor, c₂)

/-- What a directive of a tag handle says. -/
def handleToken? (c : Cursor) : Option (Token × Cursor) := do
  let c₁ := c.dropWhile isBlank
  if c₁.head? != some '!' then none
  else
    let (handle, c₂) := tagHandle c₁
    if handle.getLast? != some '!' || !c₂.head?.any isBlank then none
    else
      let (expansion, c₃) ← tagBytes? true (c₂.dropWhile isBlank)
      if expansion.isEmpty || !endsWord c₃.rest then none
      else some (.tagHandle (String.ofList handle) (tagText? expansion), c₃)

/-- A directive, with all of its line. -/
def directive? (l : Layout) : Option Layout := do
  let l' ← (l.closeBlocks (-1)).dropCandidate?
  let (name, c) := (l.cursor.skip 1).span isNameLetter
  let (t, c₁) ←
    if !endsWord c.rest then none
    else if name == "YAML".toList then versionToken? c
    else if name == "TAG".toList then handleToken? c
    else none
  let c₂ := c₁.dropWhile isBlank
  let c₃ := if c₂.head? == some '#' then c₂.dropWhile fun x => !isBreak x else c₂
  if c₃.rest.isEmpty || c₃.head?.any isBreak then
    some { (l'.allowKey false).add t with cursor := c₃.lineBreak.2 }
  else none

/-! ## The whole text -/

/-- Whether a plain scalar starts at a place. A dash does before anything but a
space; a question mark and a colon do so outside of flow collections. -/
def startsPlain (inFlow : Bool) : List Char → Bool
  | [] => false
  | x :: r =>
    (!isSpace x && !("-?:,[]\x7b\x7d#&*!|>'\"%@".toList.contains x) && x.toNat != 96) ||
      (x == '-' && !r.head?.any isBlank) ||
      (!inFlow && (x == '?' || x == ':') && !endsWord r)

/-- Reads the next token, at a place that is neither a space nor the end. -/
def token? (l : Layout) : Option Layout :=
  let rest := l.cursor.rest
  let spaceNext := endsWord (rest.drop 1)
  match rest with
  | [] => some l
  | x :: _ =>
    if l.cursor.column == 0 && x == '%' then l.directive?
    else if l.cursor.isAtMark && x == '-' then l.documentMark? .documentStart
    else if l.cursor.isAtMark then l.documentMark? .documentEnd
    else if x = '[' then l.flowStart? .flowSequenceStart
    else if x = '\x7b' then l.flowStart? .flowMappingStart
    else if x = ']' then l.flowEnd? .flowSequenceEnd
    else if x = '\x7d' then l.flowEnd? .flowMappingEnd
    else if x = ',' then l.comma?
    else if x == '-' && spaceNext then l.item?
    else if x == '?' && (l.inFlow || spaceNext) then l.key?
    else if x == ':' && (l.inFlow || spaceNext) then l.value?
    else if x = '*' then l.named? .alias
    else if x = '&' then l.named? .anchor
    else if x = '!' then l.tag?
    else if x == '|' && !l.inFlow then l.blockScalar? true
    else if x == '>' && !l.inFlow then l.blockScalar? false
    else if x = '\'' ∨ x = '"' then l.quotedScalar? x
    else if startsPlain l.inFlow rest then l.plainScalar?
    else none

/-- The end of the text, which closes all blocks. -/
def finish? (l : Layout) : Option (List Token) :=
  (l.closeBlocks (-1)).dropCandidate?.map fun l' => l'.tokens

/-- Reads tokens to the end of the text. -/
def tokensFrom? : Nat → Layout → Option (List Token)
  | 0, _ => none
  | fuel + 1, l => do
    let l₁ ← l.skipSpace.dropStale?
    let l₂ := l₁.closeBlocks l₁.cursor.column
    if l₂.cursor.rest.isEmpty then l₂.finish?
    else
      let l₃ ← l₂.token?
      tokensFrom? fuel l₃

end Layout

/-- The tokens of a text, if it has any meaning. -/
def Token.ofText? (s : String) : Option (List Token) :=
  let cs := s.toList
  if cs.all isPrintable then Layout.tokensFrom? (cs.length + 1) { cursor := Cursor.start cs }
  else none

end ProbeEngine.Yaml

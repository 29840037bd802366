import ProbeEngine.Regex.Automaton
import ProbeEngine.Unicode.Age
import ProbeEngine.Unicode.CaseFold
import ProbeEngine.Unicode.Classes
import ProbeEngine.Unicode.Segmentation
import ProbeEngine.Number.Numeral
import ProbeEngine.Text.Blank

/-!
# Reading patterns

The notation of patterns: Perl's without look-around and back-references, with
classes of Unicode. `Regex.pattern?` answers nothing for a text that is no
pattern, one that nests too deeply, or one whose automaton would be too large.
-/

namespace ProbeEngine.Regex

open Unicode (CharSet)

/-- The flags in force at some place of a pattern. -/
structure Flags where
  ignoreCase : Bool := false
  multiLine : Bool := false
  dotAll : Bool := false
  unicode : Bool := true
  crlf : Bool := false
  verbose : Bool := false

/-- What is left to read, the flags in force, and the group names so far. -/
structure Reading where
  rest : List Char
  flags : Flags
  names : List String

/-- A step of reading a pattern, which may find that it is none. -/
abbrev Reader := StateT Reading Option

/-- A part of a pattern with how deep it nests. -/
structure Part where
  pattern : Pattern
  depth : Nat

/-- A set with how deep its brackets nest. -/
structure SetPart where
  set : CharSet
  depth : Nat

/-! ## Characters -/

/-- The next character, if there is one. -/
def peek : Reader (Option Char) := do return (← get).rest.head?

/-- The character after the next one. -/
def peekSecond : Reader (Option Char) := do return (← get).rest[1]?

/-- Steps over a character. -/
def bump : Reader Unit := modify fun r => { r with rest := r.rest.drop 1 }

/-- The text after blanks and comments. -/
def skipVerbose : Nat → List Char → List Char
  | 0, cs => cs
  | _, [] => []
  | fuel + 1, c :: cs =>
    if Text.isBlank c then skipVerbose fuel cs
    else if c = '#' then skipVerbose fuel ((cs.dropWhile (· ≠ '\n')).drop 1)
    else c :: cs

/-- Steps over blanks and comments where they do not count. -/
def skipBlank : Reader Unit :=
  modify fun r => if r.flags.verbose then { r with rest := skipVerbose r.rest.length r.rest } else r

/-- Steps over a character and what does not count after it; fails at the end. -/
def advance : Reader Unit := do
  bump
  skipBlank
  if (← get).rest.isEmpty then failure

/-- Steps over a character and what does not count after it. -/
def advanceFreely : Reader Unit := do
  bump
  skipBlank

/-- The next character; fails at the end. -/
def current : Reader Char := do
  match ← peek with
  | some c => return c
  | none => failure

/-- The first character that is no blank and not the sign of a comment; `comment` says
whether that sign has come already. -/
def firstMark? : Bool → List Char → Option Char
  | _, [] => none
  | comment, c :: cs =>
    if Text.isBlank c then firstMark? comment cs
    else if !comment && c == '#' then firstMark? true cs
    else some c

/-- The character that decides what a hyphen means, which is the next one: the
character after it, or where blanks do not count the first one that is a mark. -/
def peekPastHyphen : Reader (Option Char) := do
  let r ← get
  let cs := r.rest.drop 1
  return (if r.flags.verbose then firstMark? false cs else none) <|> cs.head?

/-- Steps over a text if it comes next. -/
def bumpText (s : List Char) : Reader Bool := do
  let r ← get
  if s.isPrefixOf r.rest then
    set { r with rest := r.rest.drop s.length }
    return true
  else return false

/-- Takes the characters of a kind, stepping over what does not count between. -/
def takeWhileFree (p : Char → Bool) : Nat → Reader (List Char)
  | 0 => return []
  | fuel + 1 => do
    match ← peek with
    | some c =>
      if p c then
        advanceFreely
        return c :: (← takeWhileFree p fuel)
      else return []
    | none => return []

/-- Takes the characters of a kind. -/
def takeChars (p : Char → Bool) : Reader (List Char) := do
  let r ← get
  set { r with rest := r.rest.dropWhile p }
  return r.rest.takeWhile p

/-- How many characters are left. -/
def remaining : Reader Nat := do return (← get).rest.length

/-! ## Sets -/

/-- The letters and digits that the word classes of ASCII hold. -/
def asciiWordSet : CharSet :=
  (CharSet.range 48 57).union ((CharSet.range 65 90).union
    ((CharSet.single '_').union (CharSet.range 97 122)))

/-- The blanks of ASCII. -/
def asciiSpaceSet : CharSet := (CharSet.range 9 13).union (CharSet.single ' ')

/-- A set closed under case, by the tables of Unicode or by those of ASCII. -/
def closeCase (flags : Flags) (s : CharSet) : CharSet :=
  if flags.unicode then s.caseClosure
  else
    (List.range 26).foldl
      (fun acc i =>
        if s.containsCode (65 + i) || s.containsCode (97 + i) then
          (acc.insertRange (65 + i) (65 + i)).insertRange (97 + i) (97 + i)
        else acc) s

/-- The complement of a set, within the bytes where classes are of bytes. -/
def negateSet (flags : Flags) (s : CharSet) : CharSet :=
  if flags.unicode then s.complement
  else s.complement.intersection (CharSet.range 0 255)

/-- A set as it stands in a pattern: closed under case, then negated. -/
def finishSet (flags : Flags) (negated : Bool) (s : CharSet) : CharSet :=
  let closed := if flags.ignoreCase then closeCase flags s else s
  if negated then negateSet flags closed else closed

/-- Fails for a set of bytes that holds more than ASCII, since it would match parts of
characters. -/
def checkedSet (flags : Flags) (s : CharSet) : Reader CharSet :=
  if flags.unicode || s.ranges.all fun r => r.2 < 128 then return s else failure

/-- The set of a Perl class by its letter. -/
def perlSet (flags : Flags) (letter : Char) : CharSet :=
  let s :=
    if letter = 'd' ∨ letter = 'D' then
      if flags.unicode then Unicode.digitSet else CharSet.range 48 57
    else if letter = 's' ∨ letter = 'S' then
      if flags.unicode then Unicode.spaceSet else asciiSpaceSet
    else if flags.unicode then Unicode.wordSet else asciiWordSet
  if letter.isUpper then negateSet flags s else s

/-- The named classes of ASCII. -/
def asciiClass? (name : String) : Option CharSet :=
  let upper := CharSet.range 65 90
  let lower := CharSet.range 97 122
  let digit := CharSet.range 48 57
  match name with
  | "alnum" => some (digit.union (upper.union lower))
  | "alpha" => some (upper.union lower)
  | "ascii" => some (CharSet.range 0 127)
  | "blank" => some ((CharSet.single '\t').union (CharSet.single ' '))
  | "cntrl" => some ((CharSet.range 0 31).union (CharSet.range 127 127))
  | "digit" => some digit
  | "graph" => some (CharSet.range 33 126)
  | "lower" => some lower
  | "print" => some (CharSet.range 32 126)
  | "punct" =>
    some ((CharSet.range 33 47).union ((CharSet.range 58 64).union
      ((CharSet.range 91 96).union (CharSet.range 123 126))))
  | "space" => some asciiSpaceSet
  | "upper" => some upper
  | "word" => some asciiWordSet
  | "xdigit" => some (digit.union ((CharSet.range 65 70).union (CharSet.range 97 102)))
  | _ => none

/-- A name of Unicode in the loose form: lower case, without blanks, hyphens and
underscores, and without a leading `is`. -/
def looseName (cs : List Char) : String :=
  let lower := fun (xs : List Char) =>
    (xs.filter fun c => c ≠ ' ' ∧ c ≠ '_' ∧ c ≠ '-' ∧ c.toNat < 128).map Char.toLower
  match cs with
  | i :: s :: rest =>
    if (i = 'i' ∨ i = 'I') ∧ (s = 's' ∨ s = 'S') then
      let r := lower rest
      String.ofList (if r = ['c'] then ['i', 's', 'c'] else r)
    else String.ofList (lower cs)
  | _ => String.ofList (lower cs)

/-- The set that a name of a property, category or script stands for. The names
that both a property and a category go by mean the category. -/
def namedSet? (cs : List Char) : Option CharSet :=
  let name := looseName cs
  let property := if name = "cf" ∨ name = "sc" ∨ name = "lc" then none else Unicode.property? name
  property <|> Unicode.category? name <|> Unicode.script? name

/-- The set of the characters whose property has a value. -/
def valueSet? (property value : List Char) : Option CharSet :=
  let v := looseName value
  match looseName property with
  | "gc" | "generalcategory" => Unicode.category? v
  | "sc" | "script" => Unicode.script? v
  | "scx" | "scriptextensions" => Unicode.scriptExtensions? v
  | "age" => Unicode.age? v
  | "gcb" | "graphemeclusterbreak" => Unicode.graphemeBreak? v
  | "wb" | "wordbreak" => Unicode.wordBreak? v
  | "sb" | "sentencebreak" => Unicode.sentenceBreak? v
  | _ => none

/-- Splits a list at the first occurrence of another. -/
def splitAt? (mark : List Char) : List Char → Option (List Char × List Char)
  | [] => none
  | c :: cs =>
    if mark.isPrefixOf (c :: cs) then some ([], (c :: cs).drop mark.length)
    else (splitAt? mark cs).map fun p => (c :: p.1, p.2)

/-- The set that the text between the braces of a class of Unicode names, and
whether it is negated there. -/
def bracedSet? (cs : List Char) : Option (CharSet × Bool) :=
  match splitAt? ['!', '='] cs with
  | some (p, v) => (valueSet? p v).map (·, true)
  | none =>
    match splitAt? [':'] cs with
    | some (p, v) => (valueSet? p v).map (·, false)
    | none =>
      match splitAt? ['='] cs with
      | some (p, v) => (valueSet? p v).map (·, false)
      | none => (namedSet? cs).map (·, false)

/-! ## Escapes -/

/-- What an escape or a plain character means. A `byte` is a character written
with two hexadecimal digits. -/
inductive Atom
  | char (c : Char)
  | byte (c : Char)
  | set (s : CharSet)
  | place (p : Place)

/-- The punctuation that has a meaning in patterns. -/
def isMeta (c : Char) : Bool := "\\.+*?()|[]\x7b\x7d^$#&-~".toList.contains c

/-- A character that a backslash may precede without changing its meaning. -/
def isEscapable (c : Char) : Bool :=
  isMeta c ||
    (c.toNat < 128 && !Unicode.isAsciiLetter c && !Unicode.isAsciiDigit c && c != '<' && c != '>')

/-- The scalar value that hexadecimal digits write. -/
def scalar? (digits : List Char) : Option Char := do
  let n ← Number.digitsFrom? 16 0 digits
  if n < 0xD800 ∨ (0xDFFF < n ∧ n < 0x110000) then some (Char.ofNat n) else none

/-- A hexadecimal digit. -/
def isHexDigit (c : Char) : Bool := (Number.digitIn? 16 c).isSome

/-- Reads so many hexadecimal digits. -/
def hexDigits : Nat → Reader (List Char)
  | 0 => return []
  | n + 1 => do
    let c ← current
    if !isHexDigit c then failure
    if n = 0 then
      advanceFreely
      return [c]
    else
      advance
      return c :: (← hexDigits n)

/-- Reads a hexadecimal escape, after its backslash and at its letter. -/
def hexEscape : Reader Atom := do
  let letter ← current
  advance
  if (← current) = '\x7b' then
    advanceFreely
    let digits ← takeWhileFree (fun c => c ≠ '\x7d') (← remaining)
    let _ ← current
    advanceFreely
    if digits.isEmpty || !digits.all isHexDigit then failure
    match scalar? (digits.dropWhile (· = '0')) with
    | some c => return .char c
    | none => failure
  else
    let digits ← hexDigits (if letter = 'x' then 2 else if letter = 'u' then 4 else 8)
    match scalar? digits with
    | some c => return if letter = 'x' then .byte c else .char c
    | none => failure

/-- Reads a class of Unicode, after its backslash and at its letter. -/
def unicodeClass : Reader Atom := do
  let flags := (← get).flags
  let negated := (← current) = 'P'
  advance
  let c ← current
  let named ←
    if c = '\x7b' then do
      advanceFreely
      let name ← takeWhileFree (fun c => c ≠ '\x7d') (← remaining)
      let _ ← current
      bump
      pure (bracedSet? name)
    else if c = '\\' then failure
    else do
      advanceFreely
      pure ((namedSet? [c]).map (·, false))
  if !flags.unicode then failure
  match named with
  | some (s, n) => return .set (finishSet flags (negated != n) s)
  | none => failure

/-- The characters that words are made of under some flags. -/
def wordSetOf (flags : Flags) : CharSet := if flags.unicode then Unicode.wordSet else asciiWordSet

/-- A character of the name of a place at a word. -/
def isPlaceName (c : Char) : Bool := Unicode.isAsciiLetter c || c == '-'

/-- Reads the name in braces that may follow the escape of a word edge. Braces
that hold no name belong to a repetition. -/
def wordPlace : Reader Place := do
  let start ← get
  let w := wordSetOf start.flags
  if start.rest.head? ≠ some '\x7b' then return .wordEdge w
  advance
  if !isPlaceName (← current) then
    set start
    return .wordEdge w
  let name ← takeWhileFree isPlaceName (← remaining)
  if (← current) ≠ '\x7d' then failure
  bump
  match String.ofList name with
  | "start" => return .wordStart w
  | "end" => return .wordEnd w
  | "start-half" => return .beforeNoWordBehind w
  | "end-half" => return .behindNoWordAhead w
  | _ => failure

/-- Reads an escape, at its backslash. -/
def escape : Reader Atom := do
  bump
  let c ← current
  let flags := (← get).flags
  if Unicode.isAsciiDigit c then failure
  else if c = 'x' ∨ c = 'u' ∨ c = 'U' then hexEscape
  else if c = 'p' ∨ c = 'P' then unicodeClass
  else if "dDsSwW".toList.contains c then
    bump
    return .set (← checkedSet flags (perlSet flags c))
  else
    bump
    if isEscapable c then return .char c
    else if c = 'a' then return .char (Char.ofNat 7)
    else if c = 'f' then return .char (Char.ofNat 12)
    else if c = 't' then return .char '\t'
    else if c = 'n' then return .char '\n'
    else if c = 'r' then return .char '\r'
    else if c = 'v' then return .char (Char.ofNat 11)
    else if c = 'A' then return .place .textStart
    else if c = 'z' then return .place .textEnd
    else if c = 'b' then return .place (← wordPlace)
    else if c = 'B' then return .place (.noWordEdge (wordSetOf flags))
    else if c = '<' then return .place (.wordStart (wordSetOf flags))
    else if c = '>' then return .place (.wordEnd (wordSetOf flags))
    else failure

/-- Reads an escape or a plain character. -/
def atom : Reader Atom := do
  let c ← current
  if c = '\\' then escape
  else
    bump
    return .char c

/-- The character of an atom inside brackets. -/
def Atom.literal (flags : Flags) : Atom → Reader Char
  | .char c => if flags.unicode || c.toNat < 128 then return c else failure
  | .byte c => if flags.unicode || c.toNat < 128 then return c else failure
  | _ => failure

/-- The set of an atom inside brackets. -/
def Atom.inBrackets (flags : Flags) : Atom → Reader CharSet
  | .set s => return s
  | a => do return CharSet.single (← a.literal flags)

/-! ## Brackets -/

/-- The operators between sets. -/
inductive SetOperator
  | intersection
  | difference
  | symmetricDifference

/-- A set from two, each closed under case first. -/
def SetOperator.apply (flags : Flags) (op : SetOperator) (l r : CharSet) : CharSet :=
  let close := fun s => if flags.ignoreCase then closeCase flags s else s
  match op with
  | .intersection => (close l).intersection (close r)
  | .difference => (close l).difference (close r)
  | .symmetricDifference => (close l).symmetricDifference (close r)

/-- What has been read of a bracket: the operands before the last operator, and
the items since it with their number and depth. -/
structure Bracket where
  left : Option (SetPart × SetOperator) := none
  items : CharSet := CharSet.empty
  count : Nat := 0
  depth : Nat := 0

/-- A bracket after one more item. -/
def Bracket.add (b : Bracket) (s : CharSet) (depth : Nat) : Bracket :=
  { b with items := b.items.union s, count := b.count + 1, depth := max b.depth depth }

/-- The items since the last operator; several are a level. -/
def Bracket.last (b : Bracket) : SetPart := ⟨b.items, b.depth + if b.count > 1 then 1 else 0⟩

/-- The items since the last operator, joined with the operands before it; an operator
is a level above both of its operands. -/
def Bracket.operand (flags : Flags) (b : Bracket) : SetPart :=
  match b.left with
  | none => b.last
  | some (l, op) => ⟨op.apply flags l.set b.last.set, max l.depth b.last.depth + 1⟩

/-- A bracket after an operator. -/
def Bracket.operate (flags : Flags) (b : Bracket) (op : SetOperator) : Bracket :=
  { left := some (b.operand flags, op) }

/-- Reads a named class of ASCII at its bracket, if there is one. -/
def asciiClass : Reader (Option CharSet) := do
  let start ← get
  let back : Reader (Option CharSet) := do
    set start
    return none
  if !(← bumpText ['[', ':']) then return none
  let negated ← bumpText ['^']
  let name ← takeChars (· ≠ ':')
  if !(← bumpText [':', ']']) then back
  else
    match asciiClass? (String.ofList name) with
    | none => back
    | some s => return some (← checkedSet start.flags (finishSet start.flags negated s))

/-- Reads the hyphens that start a bracket. -/
def leadingHyphens : Nat → Bracket → Reader Bracket
  | 0, b => return b
  | fuel + 1, b => do
    if (← current) = '-' then
      advance
      leadingHyphens fuel (b.add (CharSet.single '-') 0)
    else return b

/-- Reads an item of a bracket: a range, or one atom. -/
def bracketItem : Reader CharSet := do
  let flags := (← get).flags
  let first ← atom
  skipBlank
  let c ← current
  let next ← peekPastHyphen
  if c ≠ '-' ∨ next = some ']' ∨ next = some '-' then first.inBrackets flags
  else
    advance
    let last ← atom
    let lo ← first.literal flags
    let hi ← last.literal flags
    if lo.toNat ≤ hi.toNat then return CharSet.range lo.toNat hi.toNat else failure

mutual

/-- Reads a bracket at its opening one. -/
def bracket : Nat → Reader SetPart
  | 0 => failure
  | fuel + 1 => do
    advance
    let mut negated := false
    if (← current) = '^' then
      advance
      negated := true
    let flags := (← get).flags
    let mut b ← leadingHyphens (← remaining) {}
    if b.count = 0 then
      if (← current) = ']' then
        advance
        b := b.add (CharSet.single ']') 0
    let body ← bracketBody fuel b
    let s ← checkedSet flags (finishSet flags negated body.set)
    return ⟨s, body.depth + 1⟩

/-- Reads a bracket after its start, up to and with the closing one. -/
def bracketBody : Nat → Bracket → Reader SetPart
  | 0, _ => failure
  | fuel + 1, b => do
    skipBlank
    let c ← current
    let second ← peekSecond
    let flags := (← get).flags
    if c = '[' then
      match ← asciiClass with
      | some s => bracketBody fuel (b.add s 0)
      | none =>
        let inner ← bracket fuel
        bracketBody fuel (b.add inner.set inner.depth)
    else if c = ']' then
      bump
      return b.operand flags
    else if c = '&' ∧ second = some '&' then
      bump
      bump
      bracketBody fuel (b.operate flags .intersection)
    else if c = '-' ∧ second = some '-' then
      bump
      bump
      bracketBody fuel (b.operate flags .difference)
    else if c = '~' ∧ second = some '~' then
      bump
      bump
      bracketBody fuel (b.operate flags .symmetricDifference)
    else
      let s ← bracketItem
      bracketBody fuel (b.add s 0)

end

/-! ## Repetitions -/

/-- Reads a decimal with blanks around it. -/
def count : Reader (Option Nat) := do
  let _ ← takeChars Text.isBlank
  let digits ← takeWhileFree Unicode.isAsciiDigit (← remaining)
  let _ ← takeWhileFree Text.isBlank (← remaining)
  if digits.isEmpty then return none
  let n := Number.decimalValue digits
  if n < UInt32.size then return some n else failure

/-- Reads the bounds of a counted repetition, at its opening brace. -/
def bounds : Reader (Nat × Option Nat) := do
  advance
  let least ← count
  let c ← current
  match least with
  | none => failure
  | some m =>
    if c = ',' then
      advance
      if (← current) = '\x7d' then
        bump
        return (m, none)
      else
        match ← count with
        | none => failure
        | some n =>
          if (← current) ≠ '\x7d' then failure
          bump
          if m ≤ n then return (m, some n) else failure
    else if c = '\x7d' then
      bump
      return (m, some m)
    else failure

/-! ## Groups and branches -/

/-- A part of a branch: a pattern, or a change of flags, which cannot be
repeated. -/
inductive Item
  | part (p : Part)
  | flags

/-- A flag by its letter, set or cleared. Greed does not change what occurs. -/
def Flags.apply (f : Flags) (letter : Char) (on : Bool) : Option Flags :=
  match letter with
  | 'i' => some { f with ignoreCase := on }
  | 'm' => some { f with multiLine := on }
  | 's' => some { f with dotAll := on }
  | 'U' => some f
  | 'u' => some { f with unicode := on }
  | 'R' => some { f with crlf := on }
  | 'x' => some { f with verbose := on }
  | _ => none

/-- Applies the letters of a group in order; after a hyphen they clear. -/
def Flags.applyAll : Flags → Bool → List Char → Option Flags
  | f, _, [] => some f
  | f, on, c :: cs =>
    if c = '-' then f.applyAll false cs
    else
      match f.apply c on with
      | some g => g.applyAll on cs
      | none => none

/-- Whether letters are those of a group: none twice, one hyphen at most and not
at the end. -/
def flagLettersOk (cs : List Char) : Bool :=
  cs.eraseDups.length == cs.length && cs.getLast? != some '-'

/-- Reads the name of a group up to its closing angle bracket. -/
def groupName : Reader Unit := do
  let name ← takeChars (· ≠ '>')
  if !(← bumpText ['>']) then failure
  let isFirst := fun c => c == '_' || Unicode.isAlphabetic c
  let isLater := fun c => c == '_' || c == '.' || c == '[' || c == ']' || Unicode.isAlphanumeric c
  match name with
  | [] => failure
  | c :: cs =>
    if isFirst c && cs.all isLater then
      let s := String.ofList name
      let r ← get
      if r.names.contains s then failure
      set { r with names := s :: r.names }
    else failure

/-- What the start of a parenthesis turns out to be: that of a pattern, which is a
group or not, or a change of flags. -/
inductive Opening
  | pattern (isGroup : Bool) (flags : Flags)
  | flags (flags : Flags)

/-- Reads the start of a parenthesis, after it. -/
def opening : Reader Opening := do
  skipBlank
  let r ← get
  let looks := [['?', '='], ['?', '!'], ['?', '<', '='], ['?', '<', '!']]
  if looks.any fun l => l.isPrefixOf r.rest then failure
  else if ← bumpText ['?', 'P', '<'] then
    groupName
    return .pattern true r.flags
  else if ← bumpText ['?', '<'] then
    groupName
    return .pattern true r.flags
  else if ← bumpText ['?'] then
    let letters ← takeChars fun c => c ≠ ':' ∧ c ≠ ')'
    if !flagLettersOk letters then failure
    let c ← current
    bump
    match r.flags.applyAll true letters with
    | none => failure
    | some f =>
      if c = ':' then return .pattern false f
      else if letters.isEmpty then failure
      else return .flags f
  else return .pattern true r.flags

/-- The pattern of any character but line ends, under some flags. -/
def dotSet (flags : Flags) : Option CharSet :=
  if !flags.unicode then none
  else if flags.dotAll then some CharSet.full
  else if flags.crlf then
    some ((CharSet.single '\n').union (CharSet.single '\r')).complement
  else some (CharSet.single '\n').complement

/-- The pattern of an atom outside of brackets. -/
def Atom.pattern (flags : Flags) : Atom → Reader Pattern
  | .set s => return .ofSet s
  | .place p => return .place p
  | .byte c =>
    if !flags.unicode && c.toNat ≥ 128 then failure
    else return .ofSet (finishSet flags false (CharSet.single c))
  | .char c =>
    if !flags.unicode && c.toNat ≥ 128 then return .ofSet (CharSet.single c)
    else return .ofSet (finishSet flags false (CharSet.single c))

/-- The items of a branch in reverse as one part; several are a level. -/
def branchPart (items : List Item) : Part :=
  let parts := items.reverse.filterMap fun i =>
    match i with
    | .part p => some p
    | .flags => none
  let depth := parts.foldl (fun d p => max d p.depth) 0
  ⟨Pattern.sequenceOf (parts.map (·.pattern)), if items.length > 1 then depth + 1 else depth⟩

/-- Several branches as one part; several are a level. -/
def choicePart (branches : List Part) : Part :=
  let depth := branches.foldl (fun d p => max d p.depth) 0
  ⟨Pattern.choiceOf (branches.map (·.pattern)), if branches.length > 1 then depth + 1 else depth⟩

/-- The items of a branch with the last one repeated. -/
def repeatLast (least : Nat) (most : Option Nat) : List Item → Reader (List Item)
  | .part p :: items => return .part ⟨.repeated p.pattern least most, p.depth + 1⟩ :: items
  | _ => failure

/-- Steps over the question mark that makes a repetition lazy. -/
def skipLazy : Reader Unit := do
  if (← peek) = some '?' then bump

mutual

/-- Reads branches up to a closing parenthesis or the end. -/
def alternatives : Nat → Reader Part
  | 0 => failure
  | fuel + 1 => do
    let first ← branch fuel []
    if (← peek) = some '|' then
      bump
      let rest ← moreAlternatives fuel
      return choicePart (first :: rest)
    else return first

/-- Reads the branches after the first one. -/
def moreAlternatives : Nat → Reader (List Part)
  | 0 => failure
  | fuel + 1 => do
    let next ← branch fuel []
    if (← peek) = some '|' then
      bump
      return next :: (← moreAlternatives fuel)
    else return [next]

/-- Reads a branch, after the items read already. -/
def branch : Nat → List Item → Reader Part
  | 0, _ => failure
  | fuel + 1, items => do
    skipBlank
    let flags := (← get).flags
    match ← peek with
    | none => return branchPart items
    | some '|' => return branchPart items
    | some ')' => return branchPart items
    | some '(' =>
      bump
      match ← opening with
      | .flags f =>
        modify fun r => { r with flags := f }
        branch fuel (.flags :: items)
      | .pattern isGroup f =>
        modify fun r => { r with flags := f }
        let inner ← alternatives fuel
        if (← peek) ≠ some ')' then failure
        bump
        modify fun r => { r with flags := flags }
        let p := if isGroup then .group inner.pattern else inner.pattern
        branch fuel (.part ⟨p, inner.depth + 1⟩ :: items)
    | some '[' =>
      let s ← bracket fuel
      branch fuel (.part ⟨.ofSet s.set, s.depth⟩ :: items)
    | some '?' =>
      bump
      let items ← repeatLast 0 (some 1) items
      skipLazy
      branch fuel items
    | some '*' =>
      bump
      let items ← repeatLast 0 none items
      skipLazy
      branch fuel items
    | some '+' =>
      bump
      let items ← repeatLast 1 none items
      skipLazy
      branch fuel items
    | some '\x7b' =>
      if items.isEmpty then failure
      let (least, most) ← bounds
      skipBlank
      let items ← repeatLast least most items
      skipLazy
      branch fuel items
    | some '.' =>
      bump
      match dotSet flags with
      | some s => branch fuel (.part ⟨.ofSet s, 0⟩ :: items)
      | none => failure
    | some '^' =>
      bump
      let p := if flags.multiLine then Place.lineStart flags.crlf else .textStart
      branch fuel (.part ⟨.place p, 0⟩ :: items)
    | some '$' =>
      bump
      let p := if flags.multiLine then Place.lineEnd flags.crlf else .textEnd
      branch fuel (.part ⟨.place p, 0⟩ :: items)
    | some _ =>
      let p ← (← atom).pattern flags
      branch fuel (.part ⟨p, 0⟩ :: items)

end

/-- How deep a pattern may nest. -/
def depthLimit : Nat := 250

/-- Reads a whole text as a pattern under some flags. -/
def patternWith? (flags : Flags) (s : String) : Option Pattern := do
  let cs := s.toList
  let (p, r) ← (alternatives (4 * cs.length + 8)).run ⟨cs, flags, []⟩
  if r.rest.isEmpty && p.depth ≤ depthLimit && p.pattern.fits then some p.pattern else none

/-- Reads a whole text as a pattern. -/
def pattern? (s : String) : Option Pattern := patternWith? {} s

end ProbeEngine.Regex

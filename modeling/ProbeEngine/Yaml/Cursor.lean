/-!
# Cursors

A place in a YAML text: the characters that follow, and how many bytes, lines and
columns came before. A column is a character; breaks are those of Unicode, a
carriage return with its line feed being one.
-/

namespace ProbeEngine.Yaml

/-- A character that a text may hold. -/
def isPrintable (c : Char) : Bool :=
  let n := c.toNat
  c == '\t' || c == '\n' || c == '\r' || (0x20 ≤ n && n ≤ 0x7E) || n == 0x85 ||
    (0xA0 ≤ n && n ≤ 0xD7FF) || (0xE000 ≤ n && n ≤ 0xFFFD) || 0x10000 ≤ n

/-- A character that separates on a line. -/
def isBlank (c : Char) : Bool := c == ' ' || c == '\t'

/-- A character that ends a line. -/
def isBreak (c : Char) : Bool :=
  c == '\r' || c == '\n' || c.toNat == 0x85 || c.toNat == 0x2028 || c.toNat == 0x2029

/-- A character that separates, or ends a line. -/
def isSpace (c : Char) : Bool := isBlank c || isBreak c

/-- The character that may stand at the beginning of a line to mark a text as
Unicode. -/
def byteOrderMark : Char := Char.ofNat 0xFEFF

/-- How many bytes encode some characters. -/
def byteLength (cs : List Char) : Nat := cs.foldl (fun n c => n + c.utf8Size) 0

/-- Whether a text ends, or goes on with a separator. -/
def endsWord : List Char → Bool
  | [] => true
  | c :: _ => isSpace c

/-- A letter of names: of ASCII, a digit, a dash or an underscore. -/
def isNameLetter (c : Char) : Bool :=
  ('a' ≤ c && c ≤ 'z') || ('A' ≤ c && c ≤ 'Z') || ('0' ≤ c && c ≤ '9') || c == '_' || c == '-'

/-- A place in a text. -/
structure Cursor where
  rest : List Char
  index : Nat := 0
  line : Nat := 0
  column : Nat := 0

namespace Cursor

/-- The start of a text. -/
def start (cs : List Char) : Cursor := { rest := cs }

/-- The character at a place. -/
def head? (c : Cursor) : Option Char := c.rest.head?

/-- The place some characters further on the same line. -/
def skip (c : Cursor) (n : Nat) : Cursor :=
  { c with
    rest := c.rest.drop n, index := c.index + byteLength (c.rest.take n), column := c.column + n }

/-- The characters on the line for which a test holds, and the place after them. -/
def span (c : Cursor) (test : Char → Bool) : List Char × Cursor :=
  let cs := c.rest.takeWhile test
  (cs, c.skip cs.length)

/-- The place after the characters on the line for which a test holds. -/
def dropWhile (c : Cursor) (test : Char → Bool) : Cursor := (c.span test).2

/-- The place at the start of the next line, that many characters on. -/
def nextLine (c : Cursor) (n : Nat) : Cursor :=
  { rest := c.rest.drop n, index := c.index + byteLength (c.rest.take n), line := c.line + 1,
    column := 0 }

/-- The place after a byte order mark at the beginning of the line. -/
def skipMark (c : Cursor) : Cursor :=
  if c.column == 0 && c.head? == some byteOrderMark then c.skip 1 else c

/-- A break as it counts in a scalar, and the place after it; nothing where there
is none. The breaks of ASCII all count as line feeds. -/
def lineBreak (c : Cursor) : List Char × Cursor :=
  match c.rest with
  | '\r' :: '\n' :: _ => (['\n'], c.nextLine 2)
  | x :: _ =>
    if x.toNat == 0x2028 || x.toNat == 0x2029 then ([x], c.nextLine 1)
    else if isBreak x then (['\n'], c.nextLine 1)
    else ([], c)
  | [] => ([], c)

/-- Whether three characters that mark the start or end of a document stand at the
beginning of the line. -/
def isAtMark (c : Cursor) : Bool :=
  c.column == 0 &&
    (match c.rest with
      | '-' :: '-' :: '-' :: r => endsWord r
      | '.' :: '.' :: '.' :: r => endsWord r
      | _ => false)

end Cursor

end ProbeEngine.Yaml

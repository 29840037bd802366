import ProbeEngine.Json.Numeral
import ProbeEngine.Text.Utf16

/-!
# Outlines of JSON texts

What the grammar of JSON says of a text: its values and how they nest, with the
numerals and strings as they are written. What these stand for is a second
question, which arises only where a value is asked for: an outline may nest as
deeply as it likes, its numerals may be beyond every number, and its strings may
escape half a character.
-/

namespace ProbeEngine.Json

/-- A JSON text as its grammar sees it. Strings hold their characters and escapes as
they are between the quotes. -/
inductive Outline
  | null
  | bool (b : Bool)
  | number (n : Numeral)
  | string (inside : List Char)
  | array (items : List Outline)
  | object (fields : List (List Char × Outline))

/-- The blanks of JSON. -/
def isSpace (c : Char) : Bool := c == ' ' || c == '\n' || c == '\t' || c == '\r'

/-- The text after the blanks in front. -/
def skipSpace (cs : List Char) : List Char := cs.dropWhile isSpace

/-! ## Strings -/

/-- The number that hexadecimal digits write. -/
def hex? (digits : List Char) : Option Nat := Number.digitsFrom? 16 0 digits

/-- The character of a one-letter escape. -/
def simpleEscape? (c : Char) : Option Char :=
  if c = '"' ∨ c = '\\' ∨ c = '/' then some c
  else if c = 'b' then some (Char.ofNat 8)
  else if c = 'f' then some (Char.ofNat 12)
  else if c = 'n' then some '\n'
  else if c = 'r' then some '\r'
  else if c = 't' then some '\t'
  else none

/-- The characters and escapes up to the closing quote, after those read already, and
what follows the quote. -/
def stringSpan? (read : List Char) : List Char → Option (List Char × List Char)
  | [] => none
  | '"' :: cs => some (read.reverse, cs)
  | '\\' :: 'u' :: p :: q :: r :: s :: cs =>
    if (hex? [p, q, r, s]).isSome then
      stringSpan? (s :: r :: q :: p :: 'u' :: '\\' :: read) cs
    else none
  | '\\' :: c :: cs =>
    if (simpleEscape? c).isSome then stringSpan? (c :: '\\' :: read) cs else none
  | c :: cs => if c.toNat < 32 ∨ c = '\\' then none else stringSpan? (c :: read) cs

/-- The characters that the inside of a string stands for, after those read already. An
escape may write a unit of UTF-16; a high surrogate needs the low one right after it,
and a low one the high one before it. -/
def textFrom? (read : List Char) : List Char → Option (List Char)
  | [] => some read.reverse
  | '\\' :: 'u' :: p :: q :: r :: s :: cs =>
    let u := (hex? [p, q, r, s]).getD 0
    if Text.Utf16.isLow u then none
    else if Text.Utf16.isHigh u then
      match cs with
      | '\\' :: 'u' :: p' :: q' :: r' :: s' :: cs' =>
        let v := (hex? [p', q', r', s']).getD 0
        if Text.Utf16.isLow v then textFrom? (Text.Utf16.pairChar u v :: read) cs' else none
      | _ => none
    else textFrom? (Char.ofNat u :: read) cs
  | '\\' :: c :: cs => textFrom? ((simpleEscape? c).getD c :: read) cs
  | c :: cs => textFrom? (c :: read) cs

/-- The text that the inside of a string stands for. -/
def text? (inside : List Char) : Option String := (textFrom? [] inside).map String.ofList

/-! ## Reading

A text is read with a stack of the arrays and objects that are still open. -/

namespace Outline

/-- An array or object that is still open: what it holds already, the last first, and
for an object the name of the field that is being read. -/
inductive Frame
  | array (items : List Outline)
  | object (fields : List (List Char × Outline)) (name : List Char)

/-- Where a reading stands: a value comes next, a value has been read, or the whole
text has been read but for what follows. -/
inductive Reading
  | expecting (stack : List Frame) (rest : List Char)
  | after (v : Outline) (stack : List Frame) (rest : List Char)
  | done (v : Outline) (rest : List Char)

/-- The reading at the name of a field. -/
def atField? (stack : List Frame) (fields : List (List Char × Outline)) (cs : List Char) :
    Option Reading :=
  match skipSpace cs with
  | '"' :: r =>
    match stringSpan? [] r with
    | some (name, r') =>
      match skipSpace r' with
      | ':' :: r'' => some (.expecting (.object fields name :: stack) r'')
      | _ => none
    | none => none
  | _ => none

/-- The reading after the start of a value. -/
def atValue? (stack : List Frame) (cs : List Char) : Option Reading :=
  match skipSpace cs with
  | 'n' :: 'u' :: 'l' :: 'l' :: r => some (.after .null stack r)
  | 't' :: 'r' :: 'u' :: 'e' :: r => some (.after (.bool true) stack r)
  | 'f' :: 'a' :: 'l' :: 's' :: 'e' :: r => some (.after (.bool false) stack r)
  | '"' :: r => (stringSpan? [] r).map fun p => .after (.string p.1) stack p.2
  | '[' :: r =>
    match skipSpace r with
    | ']' :: r' => some (.after (.array []) stack r')
    | r' => some (.expecting (.array [] :: stack) r')
  | '\x7b' :: r =>
    match skipSpace r with
    | '\x7d' :: r' => some (.after (.object []) stack r')
    | r' => atField? stack [] r'
  | cs => (Numeral.read? cs).map fun p => .after (.number p.1) stack p.2

/-- The reading after a value: it is added to the array or object around it, which goes
on or ends. -/
def afterValue? (v : Outline) (stack : List Frame) (cs : List Char) : Option Reading :=
  match stack with
  | [] => some (.done v cs)
  | .array items :: outer =>
    match skipSpace cs with
    | ',' :: r => some (.expecting (.array (v :: items) :: outer) r)
    | ']' :: r => some (.after (.array (v :: items).reverse) outer r)
    | _ => none
  | .object fields name :: outer =>
    match skipSpace cs with
    | ',' :: r => atField? outer ((name, v) :: fields) r
    | '\x7d' :: r => some (.after (.object ((name, v) :: fields).reverse) outer r)
    | _ => none

/-- Goes on with a reading to its end. -/
def finish? : Nat → Reading → Option (Outline × List Char)
  | _, .done v rest => some (v, rest)
  | 0, _ => none
  | fuel + 1, .expecting stack cs =>
    match atValue? stack cs with
    | some r => finish? fuel r
    | none => none
  | fuel + 1, .after v stack cs =>
    match afterValue? v stack cs with
    | some r => finish? fuel r
    | none => none

/-- Reads the characters of a whole text. -/
def ofChars? (cs : List Char) : Option Outline :=
  match finish? (2 * cs.length + 3) (.expecting [] cs) with
  | some (v, r) => if (skipSpace r).isEmpty then some v else none
  | none => none

/-- Reads a whole text. -/
def ofText? (s : String) : Option Outline := ofChars? s.toList

end Outline

end ProbeEngine.Json

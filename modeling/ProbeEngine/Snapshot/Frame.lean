import ProbeEngine.Host.Conversion
import ProbeEngine.Json.Record

/-!
# Stack frames

The frames of a stack text. After the header, each line is read by itself as one
of two dialects, `at function (file:line:column)` and `function@file:line:column`;
a line of neither is skipped. A line has many places where a file could end, and
the first one that leaves a line and column is taken.
-/

namespace ProbeEngine

/-- A frame: the function if the line names one, the file, the line, the column. -/
structure StackFrame where
  function : Option String
  file : String
  line : Nat
  column : Nat
  deriving DecidableEq, Repr

namespace StackFrame

/-- The greatest line or column. -/
def greatestPosition : Nat := UInt32.size - 1

/-! ## Lines -/

/-- The characters of a line that were read in reverse, without a carriage return
at its end. -/
def endedLine : List Char → List Char
  | '\r' :: cs => cs.reverse
  | cs => cs.reverse

/-- The lines of a text after the characters of a line read in reverse. -/
def linesAfter : List Char → List Char → List (List Char)
  | [], [] => []
  | read, [] => [read.reverse]
  | read, c :: cs =>
    if c = '\n' then endedLine read :: linesAfter [] cs else linesAfter (c :: read) cs

/-- The lines of a text, without the characters that end them. A last line that
is empty is none. -/
def linesOf (cs : List Char) : List (List Char) := linesAfter [] cs

/-! ## Positions -/

/-- The digits in front of a text that a colon precedes, and what follows them. -/
def colonDigits? : List Char → Option (List Char × List Char)
  | ':' :: cs =>
    let digits := cs.takeWhile Unicode.isDecimalDigit
    if digits.isEmpty then none else some (digits, cs.dropWhile Unicode.isDecimalDigit)
  | _ => none

/-- The line and column that a whole text is, with what may close it. -/
def position? (close : List Char → Bool) (cs : List Char) : Option (List Char × List Char) :=
  match colonDigits? cs with
  | none => none
  | some (line, rest) =>
    match colonDigits? rest with
    | none => none
    | some (column, rest') => if close rest' then some (line, column) else none

/-- A location as it is written: file, line and column. -/
structure Location where
  file : List Char
  line : List Char
  column : List Char

/-- The location that a whole text is: the shortest file, of one character at
least, that leaves a line and column. -/
def locationAfter? (close : List Char → Bool) : List Char → List Char → Option Location
  | _, [] => none
  | file, c :: cs =>
    match position? close cs with
    | some (line, column) => some ⟨(c :: file).reverse, line, column⟩
    | none => locationAfter? close (c :: file) cs

/-- The location that a whole text is. -/
def location? (close : List Char → Bool) (cs : List Char) : Option Location :=
  locationAfter? close [] cs

/-- Only blanks. -/
def isBlanks (cs : List Char) : Bool := cs.all Text.isBlank

/-- Only blanks, after a closing parenthesis or not. -/
def isClose : List Char → Bool
  | ')' :: cs => isBlanks cs
  | cs => isBlanks cs

/-! ## Dialects -/

/-- A frame as it is written: the function if there is one, and the location. -/
structure Written where
  function : Option (List Char)
  location : Location

/-- What follows an opening parenthesis that blanks precede. -/
def afterParenthesis? (cs : List Char) : Option (List Char) :=
  match cs.takeWhile Text.isBlank, cs.dropWhile Text.isBlank with
  | _ :: _, '(' :: rest => some rest
  | _, _ => none

/-- A function and its location in parentheses: the shortest function, of one
character at least, that leaves a location. -/
def functionAfter? : List Char → List Char → Option Written
  | _, [] => none
  | function, c :: cs =>
    match (afterParenthesis? cs).bind (location? isClose) with
    | some l => some ⟨some (c :: function).reverse, l⟩
    | none => functionAfter? (c :: function) cs

/-- What follows the word `at` and blanks: a function with a location in
parentheses, or else a location. -/
def atBody? (cs : List Char) : Option Written :=
  match functionAfter? [] cs with
  | some w => some w
  | none => (location? isClose cs).map fun l => ⟨none, l⟩

/-- The body after a number of blanks, or after fewer of them but one at least. -/
def atBlanks? (cs : List Char) : Nat → Option Written
  | 0 => none
  | n + 1 =>
    match atBody? (cs.drop (n + 1)) with
    | some w => some w
    | none => atBlanks? cs n

/-- A line of the dialect with `at`. -/
def atLine? (cs : List Char) : Option Written :=
  match Text.trimStart cs with
  | 'a' :: 't' :: rest => atBlanks? rest (rest.takeWhile Text.isBlank).length
  | _ => none

/-- A line of the dialect with an at sign: the function is all before the first
one. -/
def atSignLine? (cs : List Char) : Option Written :=
  match cs.dropWhile (· ≠ '@') with
  | _ :: rest =>
    (location? isBlanks rest).map fun l => ⟨some (cs.takeWhile (· ≠ '@')), l⟩
  | [] => none

/-- The number that digits write, if they are of ASCII and it is no more than the
greatest position. -/
def positionValue? (digits : List Char) : Option Nat :=
  if digits.all Number.isDigit then
    let n := Number.decimalValue digits
    if n ≤ greatestPosition then some n else none
  else none

/-- The frame that is written, unless its line or column is no number. A function
of blanks alone is none. -/
def ofWritten? (w : Written) : Option StackFrame := do
  let line ← positionValue? w.location.line
  let column ← positionValue? w.location.column
  let function := (w.function.map Text.trimChars).filter fun f => !f.isEmpty
  some ⟨function.map String.ofList, String.ofList w.location.file, line, column⟩

/-- The frame of a line, if it is one of a dialect. -/
def ofLine? (cs : List Char) : Option StackFrame :=
  match atLine? cs with
  | some w => ofWritten? w
  | none => (atSignLine? cs).bind ofWritten?

/-- The frames of a stack text, without the header and so many further lines. -/
def ofStack (stack : String) (skip : Nat) : List StackFrame :=
  ((linesOf stack.toList).drop (1 + skip)).filterMap ofLine?

/-- The frames of the stack of an error, none if it has no text for it. -/
def ofErrorStack (h : Host.Heap) (v : Host.Value) (skip : Nat) : List StackFrame :=
  match h.dataProperty? v "stack" with
  | some (.string stack) => ofStack stack skip
  | _ => []

/-! ## JSON form -/

/-- The JSON form of a frame. -/
def toJson (f : StackFrame) : Json :=
  .object (Json.optionalField "function" (f.function.map .string) ++
    [("fileName", .string f.file), ("lineNumber", .integer f.line),
     ("columnNumber", .integer f.column)])

/-- The shape of a frame: the function alone may be missing. -/
def shape : Json.RecordShape :=
  { name := "StackFrame"
    fields := ["function", "fileName", "lineNumber", "columnNumber"]
    required := ["fileName", "lineNumber", "columnNumber"] }

/-- Reads a field of a frame. -/
def withField (f : StackFrame) (name : String) (j : Json) : Except DecodeError StackFrame :=
  match name with
  | "function" => do return { f with function := ← Json.readOptional Json.readText j }
  | "fileName" => do return { f with file := ← Json.readText j }
  | "lineNumber" => do return { f with line := ← Json.readNatural32 j }
  | "columnNumber" => do return { f with column := ← Json.readNatural32 j }
  | _ => .ok f

/-- The frame of a JSON value. -/
def ofJson : Json.Decoder StackFrame := shape.decode ⟨none, "", 0, 0⟩ withField

end StackFrame

end ProbeEngine

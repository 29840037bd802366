import ProbeEngine.Number.Binary64
import ProbeEngine.Text.Blank

/-!
# Numerals

Reading a text as a number, the way the host converts strings: blanks around it
are ignored, nothing at all is zero, and what is no numeral is no number.
-/

namespace ProbeEngine.Number

/-- A decimal digit. -/
def isDigit (c : Char) : Bool := '0' ≤ c && c ≤ '9'

/-- The value of a digit in radices up to thirty-six; letters of both cases are
digits. -/
def digitValue? (c : Char) : Option Nat :=
  if isDigit c then some (c.toNat - '0'.toNat)
  else if 'a' ≤ c && c ≤ 'z' then some (c.toNat - 'a'.toNat + 10)
  else if 'A' ≤ c && c ≤ 'Z' then some (c.toNat - 'A'.toNat + 10)
  else none

/-- The value of a digit below the radix. -/
def digitIn? (radix : Nat) (c : Char) : Option Nat :=
  (digitValue? c).filter (· < radix)

/-- The number that a list of digits writes, from the number written before it. -/
def digitsFrom? (radix : Nat) (acc : Nat) : List Char → Option Nat
  | [] => some acc
  | c :: cs =>
    match digitIn? radix c with
    | some d => digitsFrom? radix (acc * radix + d) cs
    | none => none

/-- The value of a list of decimal digits; other characters count as zero. -/
def decimalValue (cs : List Char) : Nat :=
  cs.foldl (fun acc c => acc * 10 + (c.toNat - '0'.toNat)) 0

/-! ## Decimal numerals -/

/-- A decimal numeral: its sign, its digits without the point, and the power of
ten that the point and the exponent make together. -/
structure Literal where
  negative : Bool
  digits : Nat
  exponent : Int
  deriving DecidableEq, Repr

/-- The double nearest to a numeral. -/
def Literal.value (l : Literal) : Float := Binary64.ofDecimal l.negative l.digits l.exponent

/-- Splits a sign off; no sign counts as plus. -/
def splitSign : List Char → Bool × List Char
  | '-' :: cs => (true, cs)
  | '+' :: cs => (false, cs)
  | cs => (false, cs)

/-- The exponent part, to the end of the text: nothing, or `e` and an integer. -/
def exponentPart? : List Char → Option Int
  | [] => some 0
  | c :: cs =>
    if c = 'e' ∨ c = 'E' then
      let s := splitSign cs
      if s.2.isEmpty || !s.2.all isDigit then none
      else
        let n : Int := decimalValue s.2
        some (if s.1 then -n else n)
    else none

/-- A decimal numeral: a sign, digits with a point somewhere, an exponent; of
these only one digit is required. -/
def literal? (cs : List Char) : Option Literal :=
  let s := splitSign cs
  let front := s.2.takeWhile isDigit
  let afterFront := s.2.dropWhile isDigit
  let back := match afterFront with
    | '.' :: r => r.takeWhile isDigit
    | _ => []
  let rest := match afterFront with
    | '.' :: r => r.dropWhile isDigit
    | r => r
  if front.isEmpty && back.isEmpty then none
  else
    (exponentPart? rest).map fun e =>
      ⟨s.1, decimalValue (front ++ back), e - back.length⟩

/-! ## Numerals of the host -/

/-- The greatest integer that a numeral with a radix mark may write. -/
def greatestMarked : Nat := UInt64.size - 1

/-- The digits after a radix mark, which may follow a plus sign. -/
def marked? (radix : Nat) (cs : List Char) : Option Nat :=
  let digits := match cs with
    | '+' :: r => r
    | r => r
  if digits.isEmpty then none
  else (digitsFrom? radix 0 digits).filter (· ≤ greatestMarked)

/-- The radix that the first two characters mark, and what follows them. -/
def radixMark? : List Char → Option (Nat × List Char)
  | '0' :: c :: cs =>
    if c = 'x' ∨ c = 'X' then some (16, cs)
    else if c = 'o' ∨ c = 'O' then some (8, cs)
    else if c = 'b' ∨ c = 'B' then some (2, cs)
    else none
  | _ => none

/-- The number that a trimmed text writes. -/
def ofTrimmed (cs : List Char) : Float :=
  if cs = [] then Binary64.ofMagnitude false 0
  else if cs = "Infinity".toList ∨ cs = "+Infinity".toList then Binary64.infinity false
  else if cs = "-Infinity".toList then Binary64.infinity true
  else
    match radixMark? cs with
    | some (radix, digits) => ((marked? radix digits).map Binary64.ofNat).getD Binary64.nan
    | none => ((literal? cs).map Literal.value).getD Binary64.nan

/-- The number that a text writes, as the host converts strings. -/
def parse (s : String) : Float := ofTrimmed (Text.trimChars s.toList)

end ProbeEngine.Number

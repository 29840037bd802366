import ProbeEngine.Json.Basic
import ProbeEngine.Number.Format

/-!
# Compact JSON text

The text of a JSON value without blanks, fields in the order in which the value
holds them. A string is escaped as little as JSON allows; a double always shows
a fraction or an exponent.
-/

namespace ProbeEngine.Json

/-! ## Strings -/

/-- A hexadecimal digit, in lower case. -/
def hexDigit (n : Nat) : Char := if n < 10 then Char.ofNat (48 + n) else Char.ofNat (87 + n)

/-- A character inside a string: quotes, backslashes and controls are escaped,
those controls with a letter by their letter. -/
def escapeChar (c : Char) : List Char :=
  if c = '"' then ['\\', '"']
  else if c = '\\' then ['\\', '\\']
  else if c.toNat = 8 then ['\\', 'b']
  else if c.toNat = 12 then ['\\', 'f']
  else if c = '\n' then ['\\', 'n']
  else if c = '\r' then ['\\', 'r']
  else if c = '\t' then ['\\', 't']
  else if c.toNat < 32 then ['\\', 'u', '0', '0', hexDigit (c.toNat / 16), hexDigit (c.toNat % 16)]
  else [c]

/-- A string between quotes. -/
def stringChars (s : String) : List Char := '"' :: (s.toList.flatMap escapeChar ++ ['"'])

/-! ## Numbers -/

/-- An integer in decimal digits. -/
def integerChars (n : Int) : List Char :=
  if n < 0 then '-' :: Nat.toDigits 10 n.natAbs else Nat.toDigits 10 n.natAbs

/-- An exponent with its sign. -/
def exponentChars (n : Int) : List Char := if n < 0 then integerChars n else '+' :: integerChars n

/-- A decimal with a fraction, or with an exponent where it is far from one: the
point is written when it falls within sixteen places after the first digit or
five before it. -/
def decimalChars (d : Decimal.Scaled) : List Char :=
  let digits := Nat.toDigits 10 d.digits
  let point := (digits.length : Int) + d.exponent
  if 0 ≤ d.exponent ∧ point ≤ 16 then d.positional ++ ['.', '0']
  else if -5 < point ∧ point ≤ 16 then d.positional
  else
    let tail := match digits.drop 1 with
      | [] => []
      | r => '.' :: r
    digits.take 1 ++ tail ++ 'e' :: exponentChars (point - 1)

/-- A double; one that is no finite number is written as null. -/
def floatChars (x : Float) : List Char :=
  match Binary64.decode x with
  | .finite negative m e =>
    let body :=
      if m = 0 then ['0', '.', '0']
      else decimalChars (Decimal.shortest .even (Number.magnitudeBits x) m e)
    if negative then '-' :: body else body
  | _ => "null".toList

/-! ## Values -/

mutual

/-- The text of a value. -/
def chars : Json → List Char
  | .null => "null".toList
  | .bool true => "true".toList
  | .bool false => "false".toList
  | .integer n => integerChars n
  | .float x => floatChars x
  | .string s => stringChars s
  | .array items => '[' :: (itemChars items ++ [']'])
  | .object fields => '\x7b' :: (fieldChars fields ++ ['\x7d'])

/-- The items of an array with commas between them. -/
def itemChars : List Json → List Char
  | [] => []
  | j :: js => chars j ++ moreItemChars js

/-- The items of an array after the first one, each after a comma. -/
def moreItemChars : List Json → List Char
  | [] => []
  | j :: js => ',' :: (chars j ++ moreItemChars js)

/-- The fields of an object with commas between them. -/
def fieldChars : List (String × Json) → List Char
  | [] => []
  | (name, j) :: fs => stringChars name ++ ':' :: (chars j ++ moreFieldChars fs)

/-- The fields of an object after the first one, each after a comma. -/
def moreFieldChars : List (String × Json) → List Char
  | [] => []
  | (name, j) :: fs => ',' :: (stringChars name ++ ':' :: (chars j ++ moreFieldChars fs))

end

/-- The compact text of a value. -/
def compact (j : Json) : String := String.ofList (chars j)

end ProbeEngine.Json

import ProbeEngine.Unicode.Classes

/-!
# Texts in error messages

A text between double quotes in which everything shows: quotes, backslashes,
breaks and tabs have short escapes, and what is not visible by itself is written
as its code point.
-/

namespace ProbeEngine.Text.Visible

/-- The characters that do not show: those of no category and of the categories of
controls, formats, private use and separators. -/
def unseenSet : Unicode.CharSet :=
  ((Unicode.category? "c").getD Unicode.CharSet.empty).union (Unicode.categorySet "z")

/-- The characters that change the one before them. -/
def extendingSet : Unicode.CharSet :=
  (Unicode.property? "graphemeextend").getD Unicode.CharSet.empty

/-- Whether a character shows by itself. -/
def isVisible (c : Char) : Bool :=
  if c.toNat < 0x7F then 0x20 ≤ c.toNat else !unseenSet.contains c && !extendingSet.contains c

/-- A code point in hexadecimal digits between braces. -/
def codePoint (c : Char) : List Char :=
  ['\\', 'u', '\x7b'] ++ Nat.toDigits 16 c.toNat ++ ['\x7d']

/-- A character between double quotes. -/
def escapeChar (c : Char) : List Char :=
  if c.toNat = 0 then ['\\', '0']
  else if c = '\t' then ['\\', 't']
  else if c = '\r' then ['\\', 'r']
  else if c = '\n' then ['\\', 'n']
  else if c = '\\' ∨ c = '"' then ['\\', c]
  else if isVisible c then [c]
  else codePoint c

/-- A text between double quotes. -/
def quote (s : String) : String :=
  String.ofList ('"' :: (s.toList.flatMap escapeChar ++ ['"']))

end ProbeEngine.Text.Visible

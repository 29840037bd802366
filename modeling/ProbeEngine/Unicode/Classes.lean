import ProbeEngine.Unicode.Category
import ProbeEngine.Unicode.Property

/-!
# Character classes

The classes that patterns, identifiers and source texts speak of. Each predicate
answers for ASCII directly and looks other characters up.
-/

namespace ProbeEngine.Unicode

/-- The decimal digits of all scripts. -/
def digitSet : CharSet := categorySet "nd"

/-- The blanks. -/
def spaceSet : CharSet := (property? "whitespace").getD CharSet.empty

/-- The characters of words: letters, marks, decimal digits, connectors, joiners. -/
def wordSet : CharSet :=
  ((property? "alphabetic").getD CharSet.empty).union
    ((categorySet "m").union (digitSet.union ((categorySet "pc").union
      ((property? "joincontrol").getD CharSet.empty))))

/-- The alphabetic characters. -/
def alphabeticSet : CharSet := (property? "alphabetic").getD CharSet.empty

/-- The characters of some number category. -/
def numericSet : CharSet := categorySet "n"

/-- The characters that may start an identifier. -/
def identifierStartSet : CharSet := (property? "xidstart").getD CharSet.empty

/-- The characters that may continue an identifier. -/
def identifierContinueSet : CharSet := (property? "xidcontinue").getD CharSet.empty

/-- An ASCII letter. -/
def isAsciiLetter (c : Char) : Bool := ('a' ≤ c && c ≤ 'z') || ('A' ≤ c && c ≤ 'Z')

/-- An ASCII digit. -/
def isAsciiDigit (c : Char) : Bool := '0' ≤ c && c ≤ '9'

/-- A decimal digit of any script. -/
def isDecimalDigit (c : Char) : Bool :=
  if c.toNat < 128 then isAsciiDigit c else digitSet.contains c

/-- A character of a word. -/
def isWord (c : Char) : Bool :=
  if c.toNat < 128 then isAsciiLetter c || isAsciiDigit c || c == '_' else wordSet.contains c

/-- An alphabetic character. -/
def isAlphabetic (c : Char) : Bool :=
  if c.toNat < 128 then isAsciiLetter c else alphabeticSet.contains c

/-- An alphabetic or numeric character. -/
def isAlphanumeric (c : Char) : Bool :=
  if c.toNat < 128 then isAsciiLetter c || isAsciiDigit c
  else alphabeticSet.contains c || numericSet.contains c

/-- A character that may start an identifier of Unicode. -/
def isIdentifierStart (c : Char) : Bool :=
  if c.toNat < 128 then isAsciiLetter c else identifierStartSet.contains c

/-- A character that may continue an identifier of Unicode. -/
def isIdentifierContinue (c : Char) : Bool :=
  if c.toNat < 128 then isAsciiLetter c || isAsciiDigit c || c == '_'
  else identifierContinueSet.contains c

end ProbeEngine.Unicode

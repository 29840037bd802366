/-!
# Sets of characters

A set of characters as a list of ranges of code points, in ascending order and
without overlap. The operations are those of a Boolean algebra; membership after
each of them is what the operation says of its operands.
-/

namespace ProbeEngine.Unicode

/-- A set of characters: ascending ranges, both ends included, no two of which
touch. -/
structure CharSet where
  ranges : List (Nat × Nat)
  deriving DecidableEq, Repr

/-- The greatest code point. -/
def lastCode : Nat := 0x10FFFF

namespace CharSet

/-- The set without characters. -/
def empty : CharSet := ⟨[]⟩

/-- The set of all characters. -/
def full : CharSet := ⟨[(0, lastCode)]⟩

/-- The characters between two code points. -/
def range (lo hi : Nat) : CharSet := if lo ≤ hi then ⟨[(lo, hi)]⟩ else empty

/-- The set of one character. -/
def single (c : Char) : CharSet := range c.toNat c.toNat

/-- Whether ascending ranges hold a code point. -/
def rangesContain (n : Nat) : List (Nat × Nat) → Bool
  | [] => false
  | r :: rs => if n < r.1 then false else if n ≤ r.2 then true else rangesContain n rs

/-- Whether a code point is in the set. -/
def containsCode (s : CharSet) (n : Nat) : Bool := rangesContain n s.ranges

/-- Whether a character is in the set. -/
def contains (s : CharSet) (c : Char) : Bool := s.containsCode c.toNat

/-- Ascending ranges after adding one, joined with those it touches. -/
def addRange (lo hi : Nat) : List (Nat × Nat) → List (Nat × Nat)
  | [] => [(lo, hi)]
  | r :: rs =>
    if hi + 1 < r.1 then (lo, hi) :: r :: rs
    else if r.2 + 1 < lo then r :: addRange lo hi rs
    else addRange (min lo r.1) (max hi r.2) rs

/-- The set with the characters between two code points. -/
def insertRange (s : CharSet) (lo hi : Nat) : CharSet := ⟨addRange lo hi s.ranges⟩

/-- Appends ascending ranges to others that are kept in reverse, joining those
that touch. -/
def pushRange (acc : List (Nat × Nat)) (r : Nat × Nat) : List (Nat × Nat) :=
  match acc with
  | [] => [r]
  | p :: ps => if r.1 ≤ p.2 + 1 then (p.1, max p.2 r.2) :: ps else r :: p :: ps

/-- The ranges of two lists in ascending order of their starts. -/
def mergeRanges : List (Nat × Nat) → List (Nat × Nat) → List (Nat × Nat)
  | [], rs => rs
  | r :: rs, [] => r :: rs
  | r :: rs, q :: qs =>
    if r.1 ≤ q.1 then r :: mergeRanges rs (q :: qs) else q :: mergeRanges (r :: rs) qs
  termination_by rs qs => rs.length + qs.length

/-- The characters in either set. -/
def union (s t : CharSet) : CharSet :=
  ⟨((mergeRanges s.ranges t.ranges).foldl pushRange []).reverse⟩

/-- The gaps between ascending ranges, from a code point on. -/
def gapsFrom (n : Nat) : List (Nat × Nat) → List (Nat × Nat)
  | [] => if n ≤ lastCode then [(n, lastCode)] else []
  | r :: rs => if n < r.1 then (n, r.1 - 1) :: gapsFrom (r.2 + 1) rs else gapsFrom (r.2 + 1) rs

/-- The characters that are not in the set. -/
def complement (s : CharSet) : CharSet := ⟨gapsFrom 0 s.ranges⟩

/-- The characters in both sets. -/
def intersection (s t : CharSet) : CharSet := (s.complement.union t.complement).complement

/-- The characters in the first set alone. -/
def difference (s t : CharSet) : CharSet := s.intersection t.complement

/-- The characters in one set but not in both. -/
def symmetricDifference (s t : CharSet) : CharSet := (s.difference t).union (t.difference s)

/-- The parts of a range outside of the surrogates, which are no characters. -/
def scalarParts (r : Nat × Nat) : List (Nat × Nat) :=
  if r.2 < 0xD800 ∨ 0xDFFF < r.1 then [r]
  else
    (if r.1 < 0xD800 then [(r.1, 0xD7FF)] else []) ++
      (if 0xDFFF < r.2 then [(0xE000, r.2)] else [])

/-- The set without surrogates. -/
def scalars (s : CharSet) : CharSet := ⟨s.ranges.flatMap scalarParts⟩

/-! ## Written ranges -/

/-- The value of a hexadecimal digit in upper case. -/
def hexValue (c : Char) : Nat :=
  if c.toNat < 58 then c.toNat - 48 else c.toNat - 55

/-- What separates written ranges or classes. -/
def isSeparator (c : Char) : Bool := c == ' ' || c == '\n'

/-- The number being read, after one more hexadecimal digit. -/
def addDigit (number : Option Nat) (c : Char) : Option Nat :=
  some (number.getD 0 * 16 + hexValue c)

/-- What has been read of a list of written ranges: the finished ranges in
reverse, the start of the present one if its end is being read, and the number
being read. -/
structure Reading where
  done : List (Nat × Nat) := []
  start : Option Nat := none
  number : Option Nat := none

/-- The reading with its present range finished, if there is one. -/
def Reading.close (r : Reading) : Reading :=
  match r.number with
  | some n => { done := (r.start.getD n, n) :: r.done }
  | none => r

/-- The reading after one more character: a separator ends a range, a hyphen its
start. -/
def Reading.step (r : Reading) (c : Char) : Reading :=
  if isSeparator c then r.close
  else if c = '-' then { r with start := r.number, number := none }
  else { r with number := addDigit r.number c }

/-- The set that a text of ascending ranges writes: hexadecimal code points, a
hyphen between the ends of a range, blanks and breaks between ranges. -/
def decode (s : String) : CharSet := ⟨((s.toList.foldl Reading.step {}).close).done.reverse⟩

end CharSet

/-- What has been read of a list of written classes: the finished classes and the
members of the present one, both in reverse, and the number being read. -/
structure ClassReading where
  done : List (List Nat) := []
  members : List Nat := []
  number : Option Nat := none

/-- The reading with its present class finished, if there is one. -/
def ClassReading.close (r : ClassReading) : ClassReading :=
  match r.number with
  | some n => { done := (n :: r.members).reverse :: r.done }
  | none => r

/-- The reading after one more character: a separator ends a class, a hyphen a
member. -/
def ClassReading.step (r : ClassReading) (c : Char) : ClassReading :=
  if CharSet.isSeparator c then r.close
  else if c = '-' then { r with members := r.number.toList ++ r.members, number := none }
  else { r with number := CharSet.addDigit r.number c }

/-- The classes that a text writes: hexadecimal code points, a hyphen between
members, blanks and breaks between classes. -/
def decodeClasses (s : String) : List (List Nat) :=
  ((s.toList.foldl ClassReading.step {}).close).done.reverse

end ProbeEngine.Unicode

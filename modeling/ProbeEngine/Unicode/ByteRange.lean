import ProbeEngine.Unicode.CharSet

/-!
# Ranges of bytes

The encoding of sets of characters in bytes. A range of code points is cut until
the encodings of each part are exactly the choices of one byte from each of some
ranges; the parts stay in ascending order.
-/

namespace ProbeEngine.Unicode

/-- A range of bytes, both ends included. -/
abbrev ByteRange := Nat × Nat

/-- The bytes that encode a code point: one to four, the first one first. -/
def encodedBytes (n : Nat) : List Nat :=
  if n < 0x80 then [n]
  else if n < 0x800 then [0xC0 + n / 64, 0x80 + n % 64]
  else if n < 0x10000 then [0xE0 + n / 4096, 0x80 + n / 64 % 64, 0x80 + n % 64]
  else [0xF0 + n / 262144, 0x80 + n / 4096 % 64, 0x80 + n / 64 % 64, 0x80 + n % 64]

/-- Where to cut a range for its lengths: the last code point of some length that
the range goes beyond. -/
def lengthCut? (lo hi : Nat) : Option Nat :=
  [0x7F, 0x7FF, 0xFFFF].find? fun m => lo ≤ m && m < hi

/-- Where to cut a range at a block of code points that share all but their last
bytes: after the block of its start if it does not have all of it, else before the
block of its end if it does not have all of that. -/
def blockCut? (lo hi block : Nat) : Option Nat :=
  if lo / block = hi / block then none
  else if lo % block ≠ 0 then some (lo - lo % block + (block - 1))
  else if hi % block ≠ block - 1 then some (hi - hi % block - 1)
  else none

/-- The last code point of the first part of a range that has to be cut. -/
def cut? (lo hi : Nat) : Option Nat :=
  match lengthCut? lo hi with
  | some m => some m
  | none => if hi < 0x80 then none else [64, 4096, 262144].findSome? (blockCut? lo hi)

/-- The ranges of bytes whose choices are the encodings of a range of code points,
one list for each part. -/
def byteRanges (lo hi : Nat) : List (List ByteRange) :=
  match cut? lo hi with
  | some m =>
    if lo ≤ m ∧ m < hi then byteRanges lo m ++ byteRanges (m + 1) hi
    else [(encodedBytes lo).zip (encodedBytes hi)]
  | none => [(encodedBytes lo).zip (encodedBytes hi)]
  termination_by hi - lo

/-- The ranges of bytes whose choices are the encodings of the characters of a
set. -/
def CharSet.byteRanges (s : CharSet) : List (List ByteRange) :=
  s.ranges.flatMap fun r => Unicode.byteRanges r.1 r.2

end ProbeEngine.Unicode

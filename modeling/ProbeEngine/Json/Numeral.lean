import ProbeEngine.Json.Basic
import ProbeEngine.Number.Numeral

/-!
# Numerals of JSON

A number as JSON text writes it, and the number that it stands for. A numeral
without fraction and exponent is an integer if it fits in sixty-four bits. Any
other one is a double that is found in two roundings: the digits that fit in
sixty-four bits are one double, which is multiplied with or divided by a power of
ten; so it may not be the nearest one.
-/

namespace ProbeEngine.Json

/-- A numeral: its sign, the digits of its whole part, those of its fraction and
those of its exponent with their sign. -/
structure Numeral where
  negative : Bool
  whole : List Char
  fraction : Option (List Char) := none
  exponent : Option (Bool × List Char) := none

namespace Numeral

/-! ## Reading -/

/-- The digits in front, of which there has to be one, and what follows them. -/
def digits? (cs : List Char) : Option (List Char × List Char) :=
  let digits := cs.takeWhile Number.isDigit
  if digits.isEmpty then none else some (digits, cs.dropWhile Number.isDigit)

/-- The fraction in front, if there is one. -/
def fraction? : List Char → Option (Option (List Char) × List Char)
  | '.' :: cs => (digits? cs).map fun p => (some p.1, p.2)
  | cs => some (none, cs)

/-- The exponent in front, if there is one. -/
def exponent? : List Char → Option (Option (Bool × List Char) × List Char)
  | [] => some (none, [])
  | c :: cs =>
    if c = 'e' ∨ c = 'E' then
      let s := Number.splitSign cs
      (digits? s.2).map fun p => (some (s.1, p.1), p.2)
    else some (none, c :: cs)

/-- The numeral in front of a text, and what follows it. No zero leads the whole
part. -/
def read? (cs : List Char) : Option (Numeral × List Char) := do
  let negative := cs.head? == some '-'
  let (whole, rest) ← digits? (if negative then cs.drop 1 else cs)
  if whole.length > 1 && whole.head? == some '0' then none
  let (fraction, rest) ← fraction? rest
  let (exponent, rest) ← exponent? rest
  some (⟨negative, whole, fraction, exponent⟩, rest)

/-! ## Values -/

/-- The greatest number of sixty-four bits. -/
def greatestDigits : Nat := UInt64.size - 1

/-- The number that digits write after some others, as far as it fits in sixty-four
bits, and the digits that did not fit. -/
def fit : Nat → List Char → Nat × List Char
  | n, [] => (n, [])
  | n, c :: cs =>
    let m := n * 10 + (c.toNat - '0'.toNat)
    if greatestDigits < m then (n, c :: cs) else fit m cs

/-- A double times a power of ten, or divided by one. Powers of ten beyond the range
of doubles are divided by in parts, and multiplied with never; what becomes infinite
is no number. -/
def scale? (f : Float) (exponent : Int) : Option Float :=
  if 308 < exponent then if f == 0 then some f else none
  else if 0 ≤ exponent then
    let x := f * Binary64.ofDecimal false 1 exponent
    if x.isFinite then some x else none
  else
    let small := exponent.natAbs
    let parts := (small - 1) / 308
    let f :=
      (List.replicate (min parts 3) ()).foldl (fun f _ => f / Binary64.ofDecimal false 1 308) f
    some (f / Binary64.ofDecimal false 1 (small - parts * 308))

/-- The greatest exponent that is read. -/
def greatestExponent : Nat := Nat.pow 2 31 - 1

/-- The double of digits and a power of ten, which the exponent of the numeral changes.
Exponents that are not read make zero, or no number. -/
def double? (n : Numeral) (digits : Nat) (exponent : Int) : Option Float :=
  let f := Binary64.ofNat digits
  match n.exponent with
  | none => scale? f exponent
  | some (down, written) =>
    let e := Number.decimalValue written
    if greatestExponent < e then if digits = 0 ∨ down then some (Binary64.ofNat 0) else none
    else scale? f (if down then exponent - e else exponent + e)

/-- The integer that digits write, if it fits in sixty-four bits and is no negative
zero. -/
def integer? (n : Numeral) (digits : Nat) : Option Int :=
  if !n.negative then some digits
  else if 0 < digits ∧ digits ≤ Nat.pow 2 63 then some (-digits)
  else none

/-- The number that a numeral stands for; none if it is beyond the doubles. -/
def value? (n : Numeral) : Option Json :=
  let (digits, dropped) := fit 0 n.whole
  let (allDigits, left) := fit digits (n.fraction.getD [])
  let after : Int := (n.fraction.getD []).length - left.length
  let plain := n.fraction.isNone && n.exponent.isNone && dropped.isEmpty
  match if plain then n.integer? digits else none with
  | some i => some (.integer i)
  | none =>
    (n.double? allDigits (dropped.length - after)).map fun f =>
      .float (if n.negative then -f else f)

end Numeral

end ProbeEngine.Json

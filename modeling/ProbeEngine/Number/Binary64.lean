/-!
# Doubles as exact numbers

A finite double is a mantissa times a power of two. `decode` takes a double
apart, `nearest` finds the double that is nearest to a quotient of naturals, a
tie going to the even mantissa. Both work on the bits, in exact arithmetic.
-/

namespace ProbeEngine.Binary64

/-- A double as it reads: no number, an infinity, or `mantissa * 2 ^ exponent`. -/
inductive Decoded
  | nan
  | infinite (negative : Bool)
  | finite (negative : Bool) (mantissa : Nat) (exponent : Int)
  deriving DecidableEq, Repr

/-- The exponent of the subnormal doubles, the least one. -/
def leastExponent : Int := -1074

/-- The parts of a bit pattern: sign, exponent field, fraction. -/
def decodeBits (bits : Nat) : Decoded :=
  let negative := decide (Nat.pow 2 63 ≤ bits)
  let field : Nat := bits / Nat.pow 2 52 % Nat.pow 2 11
  let fraction : Nat := bits % Nat.pow 2 52
  if field = 2047 then
    if fraction = 0 then .infinite negative else .nan
  else if field = 0 then .finite negative fraction leastExponent
  else .finite negative (Nat.pow 2 52 + fraction) ((field : Int) - 1075)

/-- A double as it reads. -/
def decode (x : Float) : Decoded := decodeBits x.toBits.toNat

/-- The double with this sign whose other bits are `magnitude`. -/
def ofMagnitude (negative : Bool) (magnitude : Nat) : Float :=
  Float.ofBits (UInt64.ofNat (if negative then Nat.pow 2 63 + magnitude else magnitude))

/-- The bits of infinity without its sign. -/
def infinityMagnitude : Nat := 2047 * Nat.pow 2 52

/-- The infinity of this sign. -/
def infinity (negative : Bool) : Float := ofMagnitude negative infinityMagnitude

/-- The value that is no number. -/
def nan : Float := Float.ofBits (UInt64.ofNat (2047 * Nat.pow 2 52 + Nat.pow 2 51))

/-! ## Rounding to a double -/

/-- A quotient rounded to the nearest natural, a half going to the even one. -/
def roundDiv (num den : Nat) : Nat :=
  let q := num / den
  let r := num % den
  if 2 * r < den then q else if den < 2 * r then q + 1 else q + q % 2

/-- Numerator and denominator of `num / den / 2 ^ e`. -/
def scaled (num den : Nat) (e : Int) : Nat × Nat :=
  if 0 ≤ e then (num, den * Nat.pow 2 e.toNat) else (num * Nat.pow 2 (-e).toNat, den)

/-- The exponent at which a positive quotient has a mantissa of fifty-three bits,
or the least exponent if that one is greater. -/
def exponentOf (num den : Nat) : Int :=
  let e : Int := (num.log2 : Int) - den.log2 - 53
  let s := scaled num den e
  max (if s.1 / s.2 < Nat.pow 2 53 then e else e + 1) leastExponent

/-- The bits, without the sign, of the double nearest to a quotient. -/
def nearestMagnitude (num den : Nat) : Nat :=
  if num = 0 then 0
  else
    let e := exponentOf num den
    let s := scaled num den e
    min ((e - leastExponent).toNat * Nat.pow 2 52 + roundDiv s.1 s.2) infinityMagnitude

/-- The double nearest to `num / den`, with this sign. -/
def nearest (negative : Bool) (num den : Nat) : Float :=
  ofMagnitude negative (nearestMagnitude num den)

/-- The double nearest to an integer. -/
def ofInt (n : Int) : Float := nearest (decide (n < 0)) n.natAbs 1

/-- The double nearest to a natural. -/
def ofNat (n : Nat) : Float := nearest false n 1

/-- The double nearest to `digits * 10 ^ exponent`. Exponents far outside the
range of doubles are answered without the power of ten. -/
def ofDecimal (negative : Bool) (digits : Nat) (exponent : Int) : Float :=
  if digits = 0 then ofMagnitude negative 0
  else if 400 < exponent then infinity negative
  else if exponent < -(400 + (digits.log2 : Int)) then ofMagnitude negative 0
  else if 0 ≤ exponent then nearest negative (digits * Nat.pow 10 exponent.toNat) 1
  else nearest negative digits (Nat.pow 10 (-exponent).toNat)

/-! ## Whole parts -/

/-- The whole part of a finite double, cut toward zero; none for the others. -/
def truncate? (x : Float) : Option Int :=
  match decode x with
  | .finite negative m e =>
    let n := if 0 ≤ e then m * Nat.pow 2 e.toNat else m / Nat.pow 2 (-e).toNat
    some (if negative then -(n : Int) else n)
  | _ => none

end ProbeEngine.Binary64

import ProbeEngine.Number.Binary64

/-!
# Shortest decimals of doubles

Of the decimals that read back as a double, `shortest` is one with the fewest
significant digits; of two such, the one nearer to the double. Which of two
equally near ones is taken is the caller's choice (`Tie`).
-/

namespace ProbeEngine.Decimal

/-- The number `digits * 10 ^ exponent`. -/
structure Scaled where
  digits : Nat
  exponent : Int
  deriving DecidableEq, Repr

/-- Which of two equally near decimals is taken: the greater one, or the one
whose last digit is even. -/
inductive Tie
  | greater
  | even
  deriving DecidableEq, Repr

/-- Whether the lesser of two neighbours is taken, for a remainder `r` over the
lesser one in a step of `den`. -/
def Tie.takesBelow (tie : Tie) (below r den : Nat) : Bool :=
  if 2 * r < den then true
  else if den < 2 * r then false
  else
    match tie with
    | .greater => false
    | .even => below % 2 == 0

/-- Numerator and denominator of `m * 2 ^ e`. -/
def fraction (m : Nat) (e : Int) : Nat × Nat :=
  if 0 ≤ e then (m * Nat.pow 2 e.toNat, 1) else (m, Nat.pow 2 (-e).toNat)

/-- The number of decimal places before the point of a positive quotient; zero
or less if it is below one tenth. Scaling by a power of ten that lifts every
double above one makes it a count of digits. -/
def magnitude (num den : Nat) : Int :=
  ((Nat.toDigits 10 (num * Nat.pow 10 330 / den)).length : Int) - 330

/-- A decimal without zeros at the end of its digits. -/
def Scaled.strip (d : Scaled) (fuel : Nat) : Scaled :=
  match fuel with
  | 0 => d
  | fuel + 1 =>
    if d.digits % 10 = 0 ∧ d.digits ≠ 0 then
      Scaled.strip ⟨d.digits / 10, d.exponent + 1⟩ fuel
    else d

/-- Whether a decimal reads as the double with these bits. -/
def readsAs (bits : UInt64) (d : Scaled) : Bool :=
  (Binary64.ofDecimal false d.digits d.exponent).toBits == bits

/-- Of two neighbours on a grid of decimals, the one that reads as wanted; if both do, the
lesser one or the greater one as told. Zero is not taken. -/
def neighbour? (reads : Scaled → Bool) (takesBelow : Bool) (below above : Scaled) :
    Option Scaled :=
  match reads below && decide (below.digits ≠ 0), reads above with
  | true, true => some (if takesBelow then below else above)
  | true, false => some below
  | false, true => some above
  | false, false => none

/-- The decimal of `places` significant digits that reads as the double
`num / den` with these bits, if there is one: of its two neighbours on that
grid, the nearer one. -/
def onGrid? (tie : Tie) (bits : UInt64) (num den : Nat) (places : Nat) : Option Scaled :=
  let k := magnitude num den - places
  let s : Nat × Nat :=
    if 0 ≤ k then (num, den * Nat.pow 10 k.toNat) else (num * Nat.pow 10 (-k).toNat, den)
  neighbour? (readsAs bits) (tie.takesBelow (s.1 / s.2) (s.1 % s.2) s.2) ⟨s.1 / s.2, k⟩
    ⟨s.1 / s.2 + 1, k⟩

/-- The exact decimal of `m * 2 ^ e`. -/
def exact (m : Nat) (e : Int) : Scaled :=
  if 0 ≤ e then ⟨m * Nat.pow 2 e.toNat, 0⟩ else ⟨m * Nat.pow 5 (-e).toNat, e⟩

/-- The shortest decimal of the positive double `m * 2 ^ e` with these bits. -/
def shortest (tie : Tie) (bits : UInt64) (m : Nat) (e : Int) : Scaled :=
  let f := fraction m e
  let d := ((List.range 17).findSome? fun n => onGrid? tie bits f.1 f.2 (n + 1)).getD (exact m e)
  d.strip d.digits.log2

/-- A decimal in positional notation: all its digits, and zeros where the point
lies outside of them. -/
def Scaled.positional (d : Scaled) : List Char :=
  let digits := Nat.toDigits 10 d.digits
  if 0 ≤ d.exponent then digits ++ List.replicate d.exponent.toNat '0'
  else
    let places := (-d.exponent).toNat
    if places < digits.length then
      digits.take (digits.length - places) ++ '.' :: digits.drop (digits.length - places)
    else '0' :: '.' :: (List.replicate (places - digits.length) '0' ++ digits)

end ProbeEngine.Decimal

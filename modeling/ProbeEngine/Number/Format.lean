import ProbeEngine.Number.Shortest

/-!
# Texts of doubles

No text of a double has an exponent. The host writes a whole number below
`10 ^ 21` with its exact digits and every other number with its shortest
decimal; a plain display writes the shortest decimal always and keeps the sign
of a zero.
-/

namespace ProbeEngine.Number

open Binary64 (Decoded decode)

/-- The bits of a double without its sign. -/
def magnitudeBits (x : Float) : UInt64 := x.toBits &&& 0x7FFFFFFFFFFFFFFF

/-- What a way of writing doubles decides: the exact digits of whole numbers
below some bound, the sign of zero, and the words for the infinities. -/
structure Style where
  exactBelow : Nat
  signedZero : Bool
  infinity : String

/-- The host's way: exact below `10 ^ 21`, and one text for both zeros. -/
def Style.host : Style := ⟨Nat.pow 10 21, false, "Infinity"⟩

/-- The host's way, with the sign of a negative zero. -/
def Style.hostSigned : Style := { Style.host with signedZero := true }

/-- The plain way: the shortest decimal, and the sign of a negative zero. -/
def Style.plain : Style := ⟨0, true, "inf"⟩

/-- The whole number that a finite double is, if it is one. -/
def whole? (m : Nat) (e : Int) : Option Nat :=
  if 0 ≤ e then some (m * Nat.pow 2 e.toNat)
  else if m % Nat.pow 2 (-e).toNat = 0 then some (m / Nat.pow 2 (-e).toNat)
  else none

/-- The text of a positive finite double. -/
def positiveText (style : Style) (bits : UInt64) (m : Nat) (e : Int) : String :=
  match whole? m e with
  | some n =>
    if n < style.exactBelow then String.ofList (Nat.toDigits 10 n)
    else String.ofList (Decimal.shortest .greater bits m e).positional
  | none => String.ofList (Decimal.shortest .greater bits m e).positional

/-- A text with a minus sign in front where one belongs. -/
def signed (negative : Bool) (s : String) : String := if negative then "-" ++ s else s

/-- The text of a double in some style. -/
def textIn (style : Style) (x : Float) : String :=
  match decode x with
  | .nan => "NaN"
  | .infinite negative => signed negative style.infinity
  | .finite negative m e =>
    if m = 0 then signed (negative && style.signedZero) "0"
    else signed negative (positiveText style (magnitudeBits x) m e)

/-- The host's text of a double. -/
def format (x : Float) : String := textIn Style.host x

/-- The host's text of a double, with the sign of a negative zero. -/
def formatSigned (x : Float) : String := textIn Style.hostSigned x

/-- The plain display of a double. -/
def display (x : Float) : String := textIn Style.plain x

end ProbeEngine.Number

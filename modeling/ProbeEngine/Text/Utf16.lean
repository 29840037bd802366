/-!
# Texts measured in UTF-16 units

A text is a list of Unicode scalar values; the host counts, orders and cuts it
in UTF-16 units. A character beyond the basic plane takes two units, a
surrogate pair. Reading units back replaces a lone surrogate by U+FFFD, so that
reading what was written gives the text again (`ofUnits_units`).
-/

namespace ProbeEngine.Text.Utf16

/-- The units of one character: one in the basic plane, else a surrogate pair. -/
def charUnits (c : Char) : List Nat :=
  let n := c.toNat
  if n < 0x10000 then [n]
  else [0xD800 + (n - 0x10000) / 0x400, 0xDC00 + (n - 0x10000) % 0x400]

/-- The units of a text. -/
def unitsOfChars (cs : List Char) : List Nat := cs.flatMap charUnits

/-- The units of a string. -/
def units (s : String) : List Nat := unitsOfChars s.toList

/-- The number of units of a string. -/
def length (s : String) : Nat := (units s).length

/-- A unit that opens a surrogate pair. -/
def isHigh (u : Nat) : Bool := 0xD800 ≤ u && u ≤ 0xDBFF

/-- A unit that closes a surrogate pair. -/
def isLow (u : Nat) : Bool := 0xDC00 ≤ u && u ≤ 0xDFFF

/-- The character that a surrogate pair stands for. -/
def pairChar (high low : Nat) : Char :=
  Char.ofNat (0x10000 + (high - 0xD800) * 0x400 + (low - 0xDC00))

/-- The character that stands for a unit which is no text on its own. -/
def replacement : Char := Char.ofNat 0xFFFD

/-- The characters that a list of units stands for; a lone surrogate becomes the
replacement character. -/
def charsOfUnits : List Nat → List Char
  | [] => []
  | [u] => if isHigh u || isLow u then [replacement] else [Char.ofNat u]
  | u :: v :: rest =>
    if isHigh u && isLow v then pairChar u v :: charsOfUnits rest
    else if isHigh u || isLow u then replacement :: charsOfUnits (v :: rest)
    else Char.ofNat u :: charsOfUnits (v :: rest)

/-- The string that a list of units stands for. -/
def ofUnits (us : List Nat) : String := String.ofList (charsOfUnits us)

/-- Lexicographic order of two unit lists. -/
def compareUnits : List Nat → List Nat → Ordering
  | [], [] => .eq
  | [], _ :: _ => .lt
  | _ :: _, [] => .gt
  | u :: us, v :: vs => if u < v then .lt else if v < u then .gt else compareUnits us vs

/-- The host's order of strings, by their units. -/
def compare (s t : String) : Ordering := compareUnits (units s) (units t)

/-! ## Writing and reading back -/

@[simp] theorem unitsOfChars_nil : unitsOfChars [] = [] := rfl

@[simp] theorem unitsOfChars_cons (c : Char) (cs : List Char) :
    unitsOfChars (c :: cs) = charUnits c ++ unitsOfChars cs := by
  simp [unitsOfChars]

/-- A character is a scalar value: no surrogate, and below the end of Unicode. -/
theorem char_range (c : Char) :
    c.toNat < 0xD800 ∨ (0xDFFF < c.toNat ∧ c.toNat < 0x110000) := by
  have h : c.val.toNat.isValidChar := c.valid
  unfold Nat.isValidChar at h
  exact h

theorem charsOfUnits_charUnits_append (c : Char) (us : List Nat) :
    charsOfUnits (charUnits c ++ us) = c :: charsOfUnits us := by
  have hc := char_range c
  have hofNat : Char.ofNat c.toNat = c := Char.ofNat_toNat c
  by_cases h : c.toNat < 0x10000
  · have hh : isHigh c.toNat = false := by simp [isHigh]; omega
    have hl : isLow c.toNat = false := by simp [isLow]; omega
    cases us with
    | nil => simp [charUnits, h, charsOfUnits, hh, hl, hofNat]
    | cons v vs => simp [charUnits, h, charsOfUnits, hh, hl, hofNat]
  · have hd : (c.toNat - 0x10000) / 0x400 < 0x400 := by omega
    have hm : (c.toNat - 0x10000) % 0x400 < 0x400 := Nat.mod_lt _ (by omega)
    have hh : isHigh (0xD800 + (c.toNat - 0x10000) / 0x400) = true := by simp [isHigh]; omega
    have hl : isLow (0xDC00 + (c.toNat - 0x10000) % 0x400) = true := by simp [isLow]; omega
    have hp : pairChar (0xD800 + (c.toNat - 0x10000) / 0x400)
        (0xDC00 + (c.toNat - 0x10000) % 0x400) = c := by
      have : 0x10000 + (0xD800 + (c.toNat - 0x10000) / 0x400 - 0xD800) * 0x400 +
          (0xDC00 + (c.toNat - 0x10000) % 0x400 - 0xDC00) = c.toNat := by omega
      rw [pairChar, this, hofNat]
    simp [charUnits, h, charsOfUnits, hh, hl, hp]

/-- Reading the units of a text gives the text again. -/
theorem charsOfUnits_unitsOfChars (cs : List Char) : charsOfUnits (unitsOfChars cs) = cs := by
  induction cs with
  | nil => rfl
  | cons c cs ih => rw [unitsOfChars_cons, charsOfUnits_charUnits_append, ih]

@[simp] theorem ofUnits_units (s : String) : ofUnits (units s) = s := by
  simp [ofUnits, units, charsOfUnits_unitsOfChars]

end ProbeEngine.Text.Utf16

/-!
# Points in time

A point in time is a number of nanoseconds since the start of 1970, within the
years that the calendar covers. Its text is that of ISO 8601 in milliseconds,
with a sign in front of years that have no four digits.
-/

namespace ProbeEngine

/-- Nanoseconds since the start of 1970. -/
structure Timestamp where
  nanos : Int
  deriving DecidableEq, Repr

namespace Timestamp

/-- The point so many milliseconds after the start of 1970. -/
def ofMillis (ms : Int) : Timestamp := ⟨ms * 1000000⟩

/-- The whole milliseconds since the start of 1970, rounded down. -/
def millis (t : Timestamp) : Int := t.nanos.fdiv 1000000

/-- The latest point of the calendar, at the end of the year 262142. -/
def latest : Timestamp := ⟨8210266876799999 * 1000000 + 999999⟩

/-- The earliest point of the calendar, at the start of the year −262143. -/
def earliest : Timestamp := ⟨-8334601228800000 * 1000000⟩

/-- The start of 1970. -/
def start : Timestamp := ⟨0⟩

/-- A point some nanoseconds later, if the calendar reaches that far. -/
def add? (t : Timestamp) (delta : Int) : Option Timestamp :=
  if t.nanos + delta ≤ latest.nanos then some ⟨t.nanos + delta⟩ else none

/-! ## The calendar -/

/-- A day of the calendar. -/
structure Day where
  year : Int
  month : Nat
  day : Nat
  deriving DecidableEq, Repr

/-- The day that is so many days after the first of January 1970. Years are
counted from March, so that the leap day is the last one, in eras of 400 years,
which have 146097 days. -/
def dayOf (days : Int) : Day :=
  let shifted := days + 719468
  let era := shifted.fdiv 146097
  let dayOfEra := (shifted - era * 146097).toNat
  let yearOfEra := (dayOfEra - dayOfEra / 1460 + dayOfEra / 36524 - dayOfEra / 146096) / 365
  let dayOfYear := dayOfEra - (365 * yearOfEra + yearOfEra / 4 - yearOfEra / 100)
  let marchMonth := (5 * dayOfYear + 2) / 153
  let day := dayOfYear - (153 * marchMonth + 2) / 5 + 1
  let month := if marchMonth < 10 then marchMonth + 3 else marchMonth - 9
  let year : Int := yearOfEra + era * 400
  ⟨if month ≤ 2 then year + 1 else year, month, day⟩

/-- A natural with zeros in front up to a width. -/
def padded (width n : Nat) : List Char :=
  let digits := Nat.toDigits 10 n
  List.replicate (width - digits.length) '0' ++ digits

/-- A year: four digits, or a sign and at least four digits. -/
def yearChars (year : Int) : List Char :=
  if 0 ≤ year ∧ year ≤ 9999 then padded 4 year.toNat
  else (if year < 0 then '-' else '+') :: padded 4 year.natAbs

/-- The text of a point in time, in milliseconds. -/
def text (t : Timestamp) : String :=
  let ms := t.millis
  let days := ms.fdiv 86400000
  let rest := (ms - days * 86400000).toNat
  let d := dayOf days
  String.ofList
    (yearChars d.year ++ '-' :: padded 2 d.month ++ '-' :: padded 2 d.day ++
      'T' :: padded 2 (rest / 3600000) ++ ':' :: padded 2 (rest / 60000 % 60) ++
      ':' :: padded 2 (rest / 1000 % 60) ++ '.' :: padded 3 (rest % 1000) ++ ['Z'])

end Timestamp

end ProbeEngine

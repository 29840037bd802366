import ProbeEngine.Regex.Pattern

/-!
# Matching patterns

`ends p is` are the positions at which a match of `p` may end that starts at one
of the positions `is`. Positions are kept in ascending order, so a pattern is
matched against all its starts at once, in time that grows with the text and not
with the number of ways to match.
-/

namespace ProbeEngine.Regex

open Unicode (CharSet)

/-- The characters in which a pattern is looked for. -/
abbrev Subject := Array Char

/-- The union of two ascending lists of positions. -/
def mergePositions : List Nat → List Nat → List Nat
  | [], js => js
  | i :: is, [] => i :: is
  | i :: is, j :: js =>
    if i < j then i :: mergePositions is (j :: js)
    else if j < i then j :: mergePositions (i :: is) js
    else i :: mergePositions is js
  termination_by is js => is.length + js.length

/-- The positions of the first of two ascending lists that are not in the
second. -/
def withoutPositions : List Nat → List Nat → List Nat
  | [], _ => []
  | i :: is, [] => i :: is
  | i :: is, j :: js =>
    if i < j then i :: withoutPositions is (j :: js)
    else if j < i then withoutPositions (i :: is) js
    else withoutPositions is js
  termination_by is js => is.length + js.length

/-- The character before a position. -/
def charBefore? (t : Subject) (i : Nat) : Option Char := if i = 0 then none else t[i - 1]?

/-- Whether the character at one side of a position is in a set. -/
def sideIn (set : CharSet) (side : Option Char) : Bool := side.any set.contains

/-- Whether a position is a place. -/
def Place.holds (t : Subject) (i : Nat) (p : Place) : Bool :=
  let before := charBefore? t i
  let after := t[i]?
  match p with
  | .textStart => i == 0
  | .textEnd => i == t.size
  | .lineStart false => i == 0 || before == some '\n'
  | .lineStart true =>
    i == 0 || before == some '\n' || (before == some '\r' && after != some '\n')
  | .lineEnd false => i == t.size || after == some '\n'
  | .lineEnd true =>
    i == t.size || after == some '\r' || (after == some '\n' && before != some '\r')
  | .wordEdge w => sideIn w before != sideIn w after
  | .noWordEdge w => sideIn w before == sideIn w after
  | .wordStart w => !sideIn w before && sideIn w after
  | .wordEnd w => sideIn w before && !sideIn w after
  | .beforeNoWordBehind w => !sideIn w before
  | .behindNoWordAhead w => !sideIn w after

/-- Applies a step of positions some number of times. -/
def iterate (step : List Nat → List Nat) : Nat → List Nat → List Nat
  | 0, is => is
  | n + 1, is => if is.isEmpty then [] else iterate step n (step is)

/-- The positions that at most so many steps reach, from those seen and those
whose steps are still to take. -/
def reach (step : List Nat → List Nat) : Nat → List Nat → List Nat → List Nat
  | 0, seen, _ => seen
  | n + 1, seen, fresh =>
    if fresh.isEmpty then seen
    else
      let next := withoutPositions (step fresh) seen
      reach step n (mergePositions seen next) next

/-- Where matches of a pattern end that start at one of some positions. More
repetitions than the text has characters add no position, so a count beyond that
is cut. -/
def ends (t : Subject) : Pattern → List Nat → List Nat
  | .empty, is => is
  | .chars s, is =>
    is.filterMap fun i =>
      match t[i]? with
      | some c => if s.contains c then some (i + 1) else none
      | none => none
  | .place p, is => is.filter fun i => p.holds t i
  | .group p, is => ends t p is
  | .sequence p q, is => ends t q (ends t p is)
  | .choice p q, is => mergePositions (ends t p is) (ends t q is)
  | .repetition p least most, is =>
    let first := iterate (ends t p) (min least (t.size + 1)) is
    let more := match most with
      | none => t.size + 1
      | some m => min (m - least) (t.size + 1)
    reach (ends t p) more first first

/-- Whether a pattern occurs in a text. -/
def Pattern.occursIn (p : Pattern) (s : String) : Bool :=
  let t := s.toList.toArray
  !(ends t p (List.range (t.size + 1))).isEmpty

end ProbeEngine.Regex

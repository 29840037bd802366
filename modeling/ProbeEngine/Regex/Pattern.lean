import ProbeEngine.Unicode.CharSet

/-!
# Patterns

A pattern describes texts: characters of a set, places between characters, and
their groups, sequences, choices and repetitions. Whether a pattern occurs in a
text does not depend on the order in which choices are tried, so a pattern holds
no preference.

Patterns are built by functions that keep them in a reduced form: sequences hold no
empty pattern, choices between sets are sets, and what choices have in common at
their start stands before them. The reduced form decides how large the automaton of
a pattern is.
-/

namespace ProbeEngine.Regex

open Unicode (CharSet)

/-- A place between two characters that a pattern can ask for. Line ends are
newlines, or also carriage returns (`crlf`); words are made of the characters of
a set. -/
inductive Place
  | textStart
  | textEnd
  | lineStart (crlf : Bool)
  | lineEnd (crlf : Bool)
  | wordEdge (word : CharSet)
  | noWordEdge (word : CharSet)
  | wordStart (word : CharSet)
  | wordEnd (word : CharSet)
  | beforeNoWordBehind (word : CharSet)
  | behindNoWordAhead (word : CharSet)
  deriving DecidableEq

/-- A pattern. A group is one whose text could be asked for. -/
inductive Pattern
  | empty
  | chars (set : CharSet)
  | place (p : Place)
  | group (p : Pattern)
  | sequence (p q : Pattern)
  | choice (p q : Pattern)
  | repetition (p : Pattern) (least : Nat) (most : Option Nat)
  deriving DecidableEq

namespace Pattern

/-! ## What a pattern matches -/

/-- Whether a pattern matches the empty text alone, whatever it is matched against. -/
def isVoid : Pattern → Bool
  | .empty => true
  | .chars _ => false
  | .place _ => true
  | .group p => p.isVoid
  | .sequence p q => p.isVoid && q.isVoid
  | .choice p q => p.isVoid && q.isVoid
  | .repetition p _ most => most.isSome && p.isVoid

/-- The least number of characters of a match; none if some part of the pattern
matches nothing, so that no number is known. -/
def leastLength? : Pattern → Option Nat
  | .empty => some 0
  | .chars s => if s.ranges.isEmpty then none else some 1
  | .place _ => some 0
  | .group p => p.leastLength?
  | .sequence p q => do return (← p.leastLength?) + (← q.leastLength?)
  | .choice p q => do return min (← p.leastLength?) (← q.leastLength?)
  | .repetition p least _ => do return least * (← p.leastLength?)

/-- Whether every match starts at the start of the text. -/
def startsAtStart : Pattern → Bool
  | .place .textStart => true
  | .group p => p.startsAtStart
  | .sequence p q => p.startsAtStart || (p.isVoid && q.startsAtStart)
  | .choice p q => p.startsAtStart && q.startsAtStart
  | .repetition p least _ => least != 0 && p.startsAtStart
  | _ => false

/-- Whether every match ends at the end of the text. -/
def endsAtEnd : Pattern → Bool
  | .place .textEnd => true
  | .group p => p.endsAtEnd
  | .sequence p q => q.endsAtEnd || (q.isVoid && p.endsAtEnd)
  | .choice p q => p.endsAtEnd && q.endsAtEnd
  | .repetition p least _ => least != 0 && p.endsAtEnd
  | _ => false

/-- The code point of a set that holds just one. -/
def onlyCode? (s : CharSet) : Option Nat :=
  match s.ranges with
  | [r] => if r.1 = r.2 then some r.1 else none
  | _ => none

/-- The code points of the text that a pattern stands for, if it is plain text. -/
def plainText? : Pattern → Option (List Nat)
  | .chars s => (onlyCode? s).map ([·])
  | .sequence p q => do return (← p.plainText?) ++ (← q.plainText?)
  | _ => none

/-- The pattern of the characters of a set. -/
def ofSet (s : CharSet) : Pattern := .chars s.scalars

/-! ## Sequences -/

/-- The members of a sequence; those of a sequence in it are its own. -/
def members : Pattern → List Pattern
  | .empty => []
  | .sequence p q => p.members ++ q.members
  | p => [p]

/-- The sequence of patterns as they are. -/
def chain : List Pattern → Pattern
  | [] => .empty
  | [p] => p
  | p :: ps => .sequence p (chain ps)

/-- The sequence of some patterns. -/
def sequenceOf (ps : List Pattern) : Pattern := chain (ps.flatMap members)

/-- The pieces of a list of members: plain text in one piece, and each other member
as a piece of its own. -/
def piecesOf : List Pattern → List (List Pattern)
  | [] => []
  | p :: ps =>
    match piecesOf ps with
    | (q :: qs) :: rest =>
      if p.plainText?.isSome && q.plainText?.isSome then (p :: q :: qs) :: rest
      else [p] :: (q :: qs) :: rest
    | rest => [p] :: rest

/-! ## Choices -/

/-- The branches of a choice; those of a choice in it are its own. -/
def branches : Pattern → List Pattern
  | .choice p q => p.branches ++ q.branches
  | p => [p]

/-- The choice between patterns as they are. -/
def alternation : List Pattern → Pattern
  | [] => .empty
  | [p] => p
  | p :: ps => .choice p (alternation ps)

/-- The union of the sets of patterns that are all sets. -/
def setOfAll? : List Pattern → Option CharSet
  | [] => some CharSet.empty
  | .chars s :: ps => (setOfAll? ps).map s.union
  | _ :: _ => none

/-- The choice between branches, which is a set if all of them are. -/
def joined (ps : List Pattern) : Pattern :=
  match ps with
  | [p] => p
  | ps =>
    match setOfAll? ps with
    | some s => .chars s
    | none => alternation ps

/-- Whether a pattern has a group in it. Two groups are never the same. -/
def hasGroup : Pattern → Bool
  | .group _ => true
  | .sequence p q => p.hasGroup || q.hasGroup
  | .choice p q => p.hasGroup || q.hasGroup
  | .repetition p _ _ => p.hasGroup
  | _ => false

/-- The pieces at the start of two lists that are the same. -/
def commonPieces : List (List Pattern) → List (List Pattern) → List (List Pattern)
  | p :: ps, q :: qs =>
    if p = q ∧ p.all (fun m => !m.hasGroup) then p :: commonPieces ps qs else []
  | _, _ => []

/-- The choice between some patterns. If each has several pieces, the pieces that all
have at their start are taken out of the choice. -/
def choiceOf (ps : List Pattern) : Pattern :=
  let bs := ps.flatMap branches
  match joined bs with
  | .choice p q =>
    let pieces := bs.map fun b => piecesOf b.members
    match pieces with
    | [] => .choice p q
    | first :: rest =>
      let common := rest.foldl commonPieces first
      if common.isEmpty || pieces.any fun x => x.length < 2 then .choice p q
      else
        let tails := pieces.map fun x => chain (x.drop common.length).flatten
        chain (common.flatten ++ (joined (tails.flatMap branches)).members)
  | p => p

/-! ## Repetitions -/

/-- A pattern some number of times. One that matches the empty text alone counts
once at most; no times is the empty pattern, and once the pattern itself. -/
def repeated (p : Pattern) (least : Nat) (most : Option Nat) : Pattern :=
  let least := if p.isVoid then min least 1 else least
  let most := if p.isVoid then some (min (most.getD 1) 1) else most
  if least = 0 ∧ most = some 0 then .empty
  else if least = 1 ∧ most = some 1 then p
  else .repetition p least most

end Pattern

end ProbeEngine.Regex

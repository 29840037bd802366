import ProbeEngine.Regex.Pattern
import ProbeEngine.Unicode.ByteRange
import Std.Data.HashMap

/-!
# Automata of patterns

A pattern is matched by an automaton over the bytes of a text. There are two of
them, one that reads matches from their start on and one that reads them from their
end back, and neither may take more than ten mebibytes: 32 bytes for a state, 8 for
each range of bytes that leads out of a state with several, and 4 for each branch of
a fork. This module counts what the automata of a pattern take; it stops counting
where the limit is passed, so a pattern may repeat as often as its numbers can say.
-/

namespace ProbeEngine.Regex

open Unicode (CharSet ByteRange encodedBytes)

/-- How an automaton reads: from the start of a match on, or from its end back. -/
inductive Direction
  | forward
  | backward
  deriving DecidableEq

/-- What has been built of an automaton: the number of its states, and the bytes that
lead out of them. -/
structure Extent where
  states : Nat := 0
  links : Nat := 0
  deriving DecidableEq

/-- The bytes that a part of an automaton takes. -/
def Extent.bytes (e : Extent) : Nat := 32 * e.states + e.links

/-- The most that an automaton may take: ten mebibytes. -/
def sizeLimit : Nat := 10 * 1024 * 1024

/-- A step of building, which fails where the limit is passed. -/
abbrev Build := Extent → Option Extent

/-- Adds states and the bytes that lead out of them. -/
def grow (states links : Nat) : Build := fun e =>
  let larger : Extent := ⟨e.states + states, e.links + links⟩
  if larger.bytes ≤ sizeLimit then some larger else none

/-- One step after another. -/
def Build.next (first second : Build) : Build := fun e =>
  match first e with
  | some larger => second larger
  | none => none

/-- A step some number of times. -/
def Build.times (step : Build) : Nat → Build
  | 0, e => some e
  | n + 1, e =>
    match step e with
    | some larger => step.times n larger
    | none => none

/-! ## Tables of states

A state is built once for several sets of bytes if it is found in a table. The table
has a fixed number of slots; what is put into a slot takes the place of what was
there, so a state may be built again after another one with its slot. -/

/-- A running hash of 64 bits after one more number. -/
def hashStep (h : UInt64) (n : Nat) : UInt64 := (h ^^^ n.toUInt64) * 1099511628211

/-- The slot of a list of numbers in a table. -/
def slotOf (slots : Nat) (numbers : List Nat) : Nat :=
  (numbers.foldl hashStep 14695981039346656037).toNat % slots

/-- What has been built together with the table of states: for each slot, what leads
out of the state and its number. -/
structure Sharing where
  extent : Extent
  table : Std.HashMap Nat (List Nat × Nat) := {}

/-- The number of the state with these links, which is built with the given bytes if
it is not in the table. -/
def Sharing.state (slots links : Nat) (key : List Nat) (s : Sharing) : Option (Nat × Sharing) :=
  let slot := slotOf slots key
  let build := do
    let larger ← grow 1 links s.extent
    return (s.extent.states, ⟨larger, s.table.insert slot (key, s.extent.states)⟩)
  match s.table[slot]? with
  | some (other, number) => if other = key then some (number, s) else build
  | none => build

/-! ## Sets of characters, forward

The encodings of a set are read in ascending order. The states for the last encoding
stay open, from the first byte on; where the next encoding leaves their path, those
behind are finished from the last byte back, so that equal ends are shared. -/

/-- A state that is still open: what leads out of it, and the range of bytes whose
next state is not known yet. -/
structure OpenState where
  done : List Nat := []
  last : Option ByteRange := none

/-- What leads out of a state whose last range goes to the given state. -/
def OpenState.finish (o : OpenState) (next : Nat) : List Nat :=
  match o.last with
  | some r => o.done ++ [r.1, r.2, next]
  | none => o.done

/-- Finishes open states, the last one first; answers the state before them. -/
def finishAll (target : Nat) : List OpenState → Sharing → Option (Nat × Sharing)
  | [], s => some (target, s)
  | o :: rest, s => do
    let (next, s) ← finishAll target rest s
    let links := o.finish next
    s.state 10000 (8 * (links.length / 3)) links

/-- How many ranges of an encoding the open states already read. -/
def sharedLength : List ByteRange → List OpenState → Nat
  | r :: rs, o :: os => if o.last = some r then sharedLength rs os + 1 else 0
  | _, _ => 0

/-- Adds an encoding to the open states. -/
def addEncoding (target : Nat) (opened : List OpenState) (ranges : List ByteRange) (s : Sharing) :
    Option (List OpenState × Sharing) :=
  let shared := sharedLength ranges opened
  match opened.drop shared, ranges.drop shared with
  | o :: behind, r :: rs => do
    let (next, s) ← finishAll target behind s
    let reopened : OpenState := ⟨o.finish next, some r⟩
    return (opened.take shared ++ reopened :: rs.map (⟨[], some ·⟩), s)
  | _, _ => some (opened, s)

/-- Builds the states that read the encodings of a set. -/
def buildForward (encodings : List (List ByteRange)) : Build := fun e => do
  let start ← grow 1 0 e
  let target := e.states
  let (opened, s) ← encodings.foldlM (fun (opened, s) ranges => addEncoding target opened ranges s)
    ([{}], (⟨start, {}⟩ : Sharing))
  let (_, s) ← finishAll target opened s
  return s.extent

/-! ## Sets of characters, backward

Each encoding is a path of its own from a fork, the last byte first; paths share the
states of their first bytes. -/

/-- The states that read an encoding back, from its first byte on. -/
def addPath (s : Sharing) (target : Nat) : List ByteRange → Option Sharing
  | [] => some s
  | r :: rs => do
    let (next, s) ← s.state 1000 0 [target, r.1, r.2]
    addPath s next rs

/-- Builds the states that read the encodings of a set back. -/
def buildBackward (encodings : List (List ByteRange)) : Build := fun e => do
  let start ← grow 2 0 e
  let s ← encodings.foldlM (fun (s : Sharing) ranges => do
    let s ← addPath s (e.states + 1) ranges
    return { s with extent := ← grow 0 4 s.extent }) (⟨start, {}⟩ : Sharing)
  return s.extent

/-- Builds the states that read a character of a set. -/
def buildSet (direction : Direction) (set : CharSet) : Build :=
  match Pattern.onlyCode? set with
  | some n => grow (encodedBytes n).length 0
  | none =>
    if set.ranges.all fun r => r.2 < 128 then grow 2 (8 * set.ranges.length)
    else
      match direction with
      | .forward => buildForward set.byteRanges
      | .backward => buildBackward set.byteRanges

/-! ## Choices between words

A choice between plain texts is a tree of bytes. The texts that end at a node cut its
branches into parts, since a text that comes first is found first. -/

/-- The texts of a node in parts: those before the first text that ends there, those
between it and the next, and so on. -/
def partsAtEnds : List (List Nat) → List (List (List Nat))
  | [] => [[]]
  | [] :: words => [] :: partsAtEnds words
  | word :: words =>
    match partsAtEnds words with
    | part :: parts => (word :: part) :: parts
    | [] => [[word]]

/-- Texts without those after the first that end before any other text goes on. -/
def withoutRepeatedEnds : List (List Nat) → List (List Nat)
  | [] :: words => [] :: words.dropWhile List.isEmpty
  | words => words

/-- What is left of the texts that start with a byte. -/
def tailsAfter (byte : Nat) (words : List (List Nat)) : List (List Nat) :=
  words.filterMap fun w => if w.head? = some byte then some (w.drop 1) else none

/-- Builds the tree of some texts. A node that no text goes beyond has no state of its
own. -/
def buildTree : Nat → List (List Nat) → Build
  | 0, _ => some
  | depth + 1, words =>
    if words.all List.isEmpty then some
    else
      let parts := partsAtEnds (withoutRepeatedEnds words)
      let buildPart := fun (step : Build) (part : List (List Nat)) =>
        let bytes := (part.filterMap List.head?).eraseDups
        let inner :=
          bytes.foldl (fun step b => step.next (buildTree depth (tailsAfter b part))) step
        match bytes with
        | [] => inner
        | [_] => inner.next (grow 1 4)
        | bytes => inner.next (grow 1 (8 * bytes.length + 4))
      (parts.foldl buildPart some).next (grow 1 (4 * (parts.length - 1)))

/-- Builds the choice between plain texts. -/
def buildWords (direction : Direction) (words : List (List Nat)) : Build :=
  let encoded := words.map fun w => w.flatMap encodedBytes
  let read := match direction with
    | .forward => encoded
    | .backward => encoded.map List.reverse
  (grow 1 0).next (buildTree (read.foldl (fun n w => max n w.length) 0 + 1) read)

/-! ## Patterns -/

/-- The texts of a choice, if all its branches are plain text. -/
def wordsOf? : Pattern → Option (List (List Nat))
  | .choice p q => do return (← wordsOf? p) ++ (← wordsOf? q)
  | p => p.plainText?.map ([·])

/-- Where a pattern stands: on its own, or as the second or a later branch of a
choice. After the second branch come the fork and the end of the choice, each branch
taking a link of the fork. -/
inductive Standing
  | alone
  | second
  | later
  deriving DecidableEq

/-- The step of a branch with what the choice needs after it. -/
def Standing.close (standing : Standing) (step : Build) : Build :=
  match standing with
  | .alone => step
  | .second => step.next (grow 2 8)
  | .later => step.next (grow 0 4)

/-- Builds what a pattern has to be built for a repetition, given the step of the
pattern and whether it matches more than the empty text. -/
def buildRepetition (step : Build) (advances : Bool) (least : Nat) (most : Option Nat) : Build :=
  let copies := fun n => if n = 0 then grow 1 0 else step.times n
  match least, most with
  | 0, some 1 => (grow 1 8).next (step.next (grow 1 0))
  | 0, none =>
    if advances then (grow 1 8).next step
    else step.next (grow 3 16)
  | least, none => (step.times least).next (grow 1 8)
  | least, some most =>
    if least = most then copies least
    else
      (copies least).next ((grow 1 0).next (((grow 1 8).next step).times (most - least)))

/-- Builds the states of a pattern. -/
def build (direction : Direction) : Standing → Pattern → Build
  | standing, .empty => standing.close (grow 1 0)
  | standing, .chars s => standing.close (buildSet direction s)
  | standing, .place _ => standing.close (grow 1 0)
  | standing, .group p =>
    standing.close
      (match direction with
      | .forward => (grow 1 0).next ((build direction .alone p).next (grow 1 0))
      | .backward => build direction .alone p)
  | standing, .sequence p q =>
    standing.close
      (match direction with
      | .forward => (build direction .alone p).next (build direction .alone q)
      | .backward => (build direction .alone q).next (build direction .alone p))
  | .alone, .choice p q =>
    match wordsOf? (.choice p q) with
    | some words => buildWords direction words
    | none => (build direction .alone p).next (build direction .second q)
  | standing, .choice p q =>
    (standing.close (build direction .alone p)).next (build direction .later q)
  | standing, .repetition p least most =>
    standing.close
      (buildRepetition (build direction .alone p) (p.leastLength?.any (· ≠ 0)) least most)

/-- Builds the automaton of a pattern: what reads on to a match unless every match is
at the edge of the text, the pattern as a group, and the match. -/
def buildWhole (direction : Direction) (p : Pattern) : Build :=
  let anchored := match direction with
    | .forward => p.startsAtStart
    | .backward => p.endsAtEnd
  (if anchored then grow 1 0 else grow 3 16).next
    ((build direction .alone (.group p)).next (grow 1 0))

/-- How many words a choice needs to have to be looked for without an automaton. -/
def manyWords : Nat := 3000

/-- Whether the automata of a pattern stay within the limit. -/
def Pattern.fits (p : Pattern) : Bool :=
  (wordsOf? p).any (fun words => manyWords ≤ words.length) ||
    ((buildWhole .forward p {}).isSome && (buildWhole .backward p {}).isSome)

end ProbeEngine.Regex

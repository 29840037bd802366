import ProbeEngine.Config.Record
import ProbeEngine.Number.Numeral
import ProbeEngine.Yaml.Node

/-!
# Values of nodes

What a node says where a record, a number, a truth value or a word is expected.
Quotes make a text of a scalar: numbers and truth values have to be plain, or
literal blocks with the tag of their type.
-/

namespace ProbeEngine.Yaml

/-- The greatest number without a sign. -/
def greatestNatural : Nat := UInt64.size - 1

/-- The natural number that digits of a radix write. -/
def digitsOf? (radix : Nat) (cs : List Char) : Option Nat :=
  if cs.isEmpty then none
  else (Number.digitsFrom? radix 0 cs).filter (· ≤ greatestNatural)

/-- The natural number of a plain text: digits after a plus sign or none, in a radix
that is marked in front or else in ten. Decimal digits do not start with a zero. -/
def naturalOf? (s : String) : Option Nat :=
  let cs := match s.toList with
    | '+' :: r => r
    | r => r
  let marked := match cs with
    | '0' :: 'x' :: r => digitsOf? 16 r
    | '0' :: 'o' :: r => digitsOf? 8 r
    | '0' :: 'b' :: r => digitsOf? 2 r
    | _ => none
  match marked with
  | some n => some n
  | none =>
    if 1 < cs.length && cs.head? == some '0' && cs.all Number.isDigit then none
    else digitsOf? 10 cs

/-- The double of a plain text: a decimal, or a word with a point in front. -/
def numberOf? (s : String) : Option Float :=
  let unsigned := match s.toList with
    | '+' :: r => r
    | r => r
  let isSignedTwice := match s.toList with
    | '+' :: '+' :: _ => true
    | '+' :: '-' :: _ => true
    | _ => false
  if isSignedTwice then none
  else if [".inf", ".Inf", ".INF"].contains (String.ofList unsigned) then
    some (Binary64.infinity false)
  else if ["-.inf", "-.Inf", "-.INF"].contains s then some (Binary64.infinity true)
  else if [".nan", ".NaN", ".NAN"].contains s then some Binary64.nan
  else ((Number.literal? unsigned).map Number.Literal.value).filter Float.isFinite

/-- The truth value of a plain text. -/
def boolOf? (s : String) : Option Bool :=
  if ["true", "True", "TRUE"].contains s then some true
  else if ["false", "False", "FALSE"].contains s then some false
  else none

/-- Whether a plain text stands for nothing. -/
def isNullText (s : String) : Bool := ["", "~", "null", "Null", "NULL"].contains s

namespace Document

/-- The last of the anchored nodes with a number. -/
def last? (d : Document) (number : Nat) : Option AnchoredNode :=
  d.anchored.foldl
    (fun found a =>
      if a.number = number ∧ found.all (fun b => b.place < a.place) then some a else found) none

/-- The node that a node is or refers to. -/
def resolve (d : Document) : Node → Node
  | .alias number => ((d.last? number).map (·.node)).getD (.empty none)
  | n => n

/-- The text of a scalar, however it is written. -/
def text? (d : Document) (n : Node) : Option String :=
  match d.resolve n with
  | .scalar _ _ text => some text
  | _ => none

/-- The text of a scalar that may be more than a text: a plain one, or a literal
block with the tag of a type. -/
def plainText? (d : Document) (type : String) (n : Node) : Option String :=
  match d.resolve n with
  | .scalar .plain _ text => some text
  | .scalar .literal tag text =>
    if tag == some ("tag:yaml.org,2002:" ++ type) then some text else none
  | _ => none

/-- The entries of a mapping by the texts of their keys, all of which have to be
scalars. -/
def fields? (d : Document) : List (Node × Node) → Option (Record.Fields Node)
  | [] => some []
  | (k, v) :: es => do
    let name ← d.text? k
    let fs ← fields? d es
    some ((name, v) :: fs)

/-- The fields of a record with some names: those of a mapping. An empty plain
scalar is a record without fields. -/
def record? (d : Document) (names : List String) (n : Node) : Option (Record.Fields Node) :=
  match d.resolve n with
  | .mapping entries => (d.fields? entries).bind (Record.known? names)
  | .scalar .plain _ "" => some []
  | _ => none

/-- The natural number of a node, up to some greatest. -/
def natural? (d : Document) (greatest : Nat) (n : Node) : Option Nat :=
  ((d.plainText? "int" n).bind naturalOf?).filter (· ≤ greatest)

/-- The double of a node. -/
def number? (d : Document) (n : Node) : Option Float := (d.plainText? "float" n).bind numberOf?

/-- The truth value of a node. -/
def bool? (d : Document) (n : Node) : Option Bool := (d.plainText? "bool" n).bind boolOf?

/-- The word of a node: the text of a scalar, or the local tag of one that stands
for nothing. -/
def word? (d : Document) (n : Node) : Option String :=
  match d.resolve n with
  | .scalar style tag text =>
    match tag.map String.toList with
    | some ('!' :: name) =>
      if style = .plain ∧ isNullText text then some (String.ofList name) else none
    | _ => some text
  | _ => none

/-- The word of a node, if it is one of some choices. -/
def choice? (d : Document) (choices : List String) (n : Node) : Option String :=
  (d.word? n).filter choices.contains

end Document

end ProbeEngine.Yaml

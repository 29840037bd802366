import ProbeEngine.Expr.Compile
import ProbeEngine.Expr.Eval
import ProbeEngine.Inspect
import ProbeEngine.Message.Segment
import ProbeEngine.Text.Search

/-!
# Message templates

A template is compiled from segments and evaluated to a message. Every segment
gives a piece of its own: one that fails gives the error in braces and is
recorded, and the others are not affected. The message is the pieces in order,
cut to a number of characters.
-/

namespace ProbeEngine

open Host (Heap)

/-- An expression that failed to evaluate: its text, and the error. -/
structure EvaluationFailure where
  expression : String
  message : String
  deriving DecidableEq, Repr

/-- The JSON form of a failure. -/
def EvaluationFailure.toJson (e : EvaluationFailure) : Json :=
  .object [("expr", .string e.expression), ("message", .string e.message)]

/-- An evaluated message, with the failures of its segments in order. -/
structure Message where
  text : String
  failures : List EvaluationFailure
  deriving DecidableEq, Repr

namespace Message

/-- The greatest number of characters of a message unless settings say otherwise. -/
def defaultMaxLength : Nat := 8192

/-- What stands at the end of a text that was cut. -/
def truncationMark : String := "…"

/-- A text cut after so many characters, with a mark if there were more. -/
def truncate (maxLength : Nat) (s : String) : String :=
  if Text.charCount s ≤ maxLength then s
  else Text.firstChars maxLength s ++ truncationMark

end Message

/-- A compiled segment. -/
inductive TemplatePart
  | literal (text : String)
  | dynamic (source : String) (expr : Expr)

namespace TemplatePart

/-- Compiles a segment. -/
def compile : Segment → Except CompileError TemplatePart
  | .literal text => .ok (.literal text)
  | .expression e => (Expr.compile e.node).map (.dynamic e.text)

/-- Whether a part has to be evaluated. -/
def isDynamic : TemplatePart → Bool
  | .literal _ => false
  | .dynamic _ _ => true

/-- The piece of a message that a part gives, and its failure if it fails. A text
is inserted as it is, any other value as it is rendered. -/
def piece (context : Context) (h : Heap) (limits : CaptureLimits) :
    TemplatePart → String × Option EvaluationFailure
  | .literal text => (text, none)
  | .dynamic source expr =>
    match expr.evaluate context h with
    | .ok (.string s, _) => (s, none)
    | .ok (v, h') => (inspect h' limits v, none)
    | .error e =>
      let message := e.message h
      ("\x7b" ++ message ++ "\x7d", some ⟨source, message⟩)

end TemplatePart

/-- A compiled template. -/
structure Template where
  parts : List TemplatePart

namespace Template

/-- The template of a literal text. -/
def ofText (text : String) : Template := ⟨[.literal text]⟩

/-- The text of some literal segments; expressions have none. -/
def literalText (segments : List Segment) : String :=
  String.join (segments.map fun
    | .literal text => text
    | .expression _ => "")

/-- Whether some segments have to be evaluated. -/
def needsEvaluation (segments : List Segment) : Bool :=
  segments.any fun
    | .literal _ => false
    | .expression _ => true

/-- Compiles some segments, or answers the first fault. Literal segments alone are
joined into one text. -/
def compile (segments : List Segment) : Except CompileError Template :=
  if needsEvaluation segments then (segments.mapM TemplatePart.compile).map Template.mk
  else .ok (ofText (literalText segments))

/-- Whether the message depends on the values of a call. -/
def isDynamic (t : Template) : Bool := t.parts.any TemplatePart.isDynamic

/-- The message of a template for the variables of a call. Where the template is a single
text, nothing is put together. -/
def evaluate (t : Template) (context : Context) (h : Heap) (limits : CaptureLimits)
    (maxLength : Nat) : Message :=
  match t.parts with
  | [.literal text] => ⟨Message.truncate maxLength text, []⟩
  | parts =>
    let pieces := parts.map (TemplatePart.piece context h limits)
    ⟨Message.truncate maxLength (String.join (pieces.map (·.1))), pieces.filterMap (·.2)⟩

/-- A single text makes no exception: every message is the pieces in order, cut. -/
theorem evaluate_eq (t : Template) (context : Context) (h : Heap) (limits : CaptureLimits)
    (maxLength : Nat) :
    t.evaluate context h limits maxLength =
      ⟨Message.truncate maxLength
          (String.join ((t.parts.map (TemplatePart.piece context h limits)).map (·.1))),
        (t.parts.map (TemplatePart.piece context h limits)).filterMap (·.2)⟩ := by
  unfold evaluate
  split
  · rename_i text hparts
    simp [hparts, TemplatePart.piece]
  · rfl

end Template

end ProbeEngine

import ProbeEngine.Json.Record

/-!
# Message segments

A message is delivered in segments: literal text, and expressions whose values
are inserted. An expression comes with the text it was written in, by which
errors refer to it, and with the tree that is compiled.
-/

namespace ProbeEngine

/-- An expression as it is delivered: its text and its tree. -/
structure SourceExpression where
  text : String
  node : Json

namespace SourceExpression

/-- The shape of a delivered expression. The tree may be null but not missing. -/
def shape : Json.RecordShape :=
  { name := "DslExpression", fields := ["dsl", "json"], required := ["dsl", "json"] }

/-- Reads a field of a delivered expression. -/
def withField (e : SourceExpression) (name : String) (j : Json) :
    Except DecodeError SourceExpression :=
  match name with
  | "dsl" => do return { e with text := ← Json.readText j }
  | "json" => .ok { e with node := j }
  | _ => .ok e

/-- The delivered expression of a JSON value. -/
def ofJson : Json.Decoder SourceExpression := shape.decode ⟨"", .null⟩ withField

/-- The JSON form of a delivered expression. -/
def toJson (e : SourceExpression) : Json :=
  .object [("dsl", .string e.text), ("json", e.node)]

end SourceExpression

/-- A segment of a message. -/
inductive Segment
  | literal (text : String)
  | expression (e : SourceExpression)

namespace Segment

/-- The text of a literal segment: an object with a text for it, which it gives once. -/
def literalText? : Json → Option String
  | .object fields =>
    match fields.filter fun f => f.1 == "str" with
    | [(_, .string s)] => some s
    | _ => none
  | _ => none

/-- The segment of a JSON value: literal text if it can be read so, else an
expression. -/
def ofJson : Json.Decoder Segment := fun j =>
  match literalText? j, SourceExpression.ofJson j with
  | some text, _ => .ok (.literal text)
  | none, .ok e => .ok (.expression e)
  | none, .error _ => .error (.noAlternative "Segment")

/-- The JSON form of a segment. -/
def toJson : Segment → Json
  | .literal text => .object [("str", .string text)]
  | .expression e => e.toJson

end Segment

end ProbeEngine

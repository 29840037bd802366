import ProbeEngine.Json.Outline

/-!
# Reading JSON text

`Json.ofText?` reads a whole text as one JSON value, or nothing if it is not one:
the outline of the text with what its numerals and strings stand for. Fields keep
their order and may repeat. A value nests at most 127 deep.
-/

namespace ProbeEngine.Json

/-- The value that an outline stands for, if it nests less deeply than a bound. -/
def Outline.value? : Nat → Outline → Option Json
  | _, .null => some .null
  | _, .bool b => some (.bool b)
  | _, .number n => n.value?
  | _, .string inside => (text? inside).map .string
  | depth + 2, .array items => (items.mapM (value? (depth + 1))).map .array
  | depth + 2, .object fields =>
    (fields.mapM fun (name, v) => do return (← text? name, ← value? (depth + 1) v)).map .object
  | _, _ => none

/-- How many arrays and objects may enclose each other, and one more. -/
def depthLimit : Nat := 128

/-- Reads a whole text as one JSON value. -/
def ofText? (s : String) : Option Json := (Outline.ofText? s).bind (Outline.value? depthLimit)

end ProbeEngine.Json

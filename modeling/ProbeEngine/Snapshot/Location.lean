import ProbeEngine.Json.Record

/-!
# Probe locations

Where a probe is attached: the type and the method, the source file and lines.
The location is resolved before it is delivered, and only passed on.
-/

namespace ProbeEngine

/-- The place in the code to which a probe is attached. -/
structure ProbeLocation where
  typeName : Option String := none
  methodName : Option String := none
  sourceFile : Option String := none
  lines : Option (List String) := none
  deriving DecidableEq, Repr

namespace ProbeLocation

/-- The shape of a location; everything may be missing. -/
def shape : Json.RecordShape :=
  { name := "ProbeLocation", fields := ["typeName", "methodName", "sourceFile", "lines"] }

/-- Reads a field of a location. -/
def withField (l : ProbeLocation) (name : String) (j : Json) :
    Except DecodeError ProbeLocation :=
  match name with
  | "typeName" => do return { l with typeName := ← Json.readOptional Json.readText j }
  | "methodName" => do return { l with methodName := ← Json.readOptional Json.readText j }
  | "sourceFile" => do return { l with sourceFile := ← Json.readOptional Json.readText j }
  | "lines" => do
    return { l with lines := ← Json.readOptional (Json.readList Json.readText) j }
  | _ => .ok l

/-- The location of a JSON value. -/
def ofJson : Json.Decoder ProbeLocation := shape.decode {} withField

/-- The JSON form of a location. -/
def toJson (l : ProbeLocation) : Json :=
  .object (Json.optionalField "typeName" (l.typeName.map .string) ++
    Json.optionalField "methodName" (l.methodName.map .string) ++
    Json.optionalField "sourceFile" (l.sourceFile.map .string) ++
    Json.optionalField "lines" (l.lines.map fun ls => .array (ls.map .string)))

end ProbeLocation

end ProbeEngine

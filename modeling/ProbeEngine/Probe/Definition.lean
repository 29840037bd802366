import ProbeEngine.Capture.Limits
import ProbeEngine.Json.Record
import ProbeEngine.Message.Segment
import ProbeEngine.Snapshot.Location

/-!
# Probe definitions

A probe as it is delivered. In a list of definitions each entry is decoded by
itself, and one that is malformed keeps its id if it has one.
-/

namespace ProbeEngine

/-- When the condition and the message of a probe are evaluated: when the call
starts, or when it returns or throws. -/
inductive EvaluateAt
  | entry
  | exit
  deriving DecidableEq, Repr

/-- The word for a time of evaluation. -/
def EvaluateAt.word : EvaluateAt → String
  | .entry => "ENTRY"
  | .exit => "EXIT"

/-- The time of evaluation of a JSON value. -/
def EvaluateAt.ofJson : Json.Decoder EvaluateAt := fun j =>
  (Json.readChoice ["ENTRY", "EXIT"] j).map fun w => if w = "ENTRY" then .entry else .exit

/-- The capture limits that a probe sets for itself. -/
structure CaptureOverrides where
  maxReferenceDepth : Option Nat := none
  maxCollectionSize : Option Nat := none
  maxFieldCount : Option Nat := none
  maxLength : Option Nat := none
  deriving DecidableEq, Repr

/-- The rate that a probe sets for itself. -/
structure SamplingOverride where
  snapshotsPerSecond : Option Float := none

/-- A probe as it is delivered. Its id is that of the call site as well. If it has
no segments, the template is its message as it is. -/
structure ProbeDefinition where
  id : String
  version : Nat := 0
  type : String := "LOG_PROBE"
  location : ProbeLocation := {}
  template : String := ""
  segments : List Segment := []
  condition : Option SourceExpression := none
  capturesSnapshot : Bool := false
  capture : Option CaptureOverrides := none
  sampling : Option SamplingOverride := none
  evaluateAt : EvaluateAt := .exit

/-! ## Capture limits -/

/-- The limits with those of a probe in place of the defaults. -/
def CaptureOverrides.resolve (o : CaptureOverrides) (defaults : CaptureLimits) : CaptureLimits :=
  { maxReferenceDepth := o.maxReferenceDepth.getD defaults.maxReferenceDepth
    maxCollectionSize := o.maxCollectionSize.getD defaults.maxCollectionSize
    maxFieldCount := o.maxFieldCount.getD defaults.maxFieldCount
    maxLength := o.maxLength.getD defaults.maxLength }

/-- The limits of a probe, by some defaults. -/
def ProbeDefinition.limits (d : ProbeDefinition) (defaults : CaptureLimits) : CaptureLimits :=
  (d.capture.getD {}).resolve defaults

/-! ## JSON form -/

/-- The JSON form of capture limits. -/
def CaptureLimits.toJson (l : CaptureLimits) : Json :=
  .object [("maxReferenceDepth", .integer l.maxReferenceDepth),
    ("maxCollectionSize", .integer l.maxCollectionSize),
    ("maxFieldCount", .integer l.maxFieldCount), ("maxLength", .integer l.maxLength)]

namespace CaptureOverrides

/-- The shape of limits; everything may be missing. -/
def shape : Json.RecordShape :=
  { name := "CaptureDefinition"
    fields := ["maxReferenceDepth", "maxCollectionSize", "maxFieldCount", "maxLength"] }

/-- Reads a limit. -/
def withField (o : CaptureOverrides) (name : String) (j : Json) :
    Except DecodeError CaptureOverrides := do
  let size := Json.readOptional Json.readSize
  match name with
  | "maxReferenceDepth" => return { o with maxReferenceDepth := ← size j }
  | "maxCollectionSize" => return { o with maxCollectionSize := ← size j }
  | "maxFieldCount" => return { o with maxFieldCount := ← size j }
  | "maxLength" => return { o with maxLength := ← size j }
  | _ => return o

/-- The limits of a JSON value. -/
def ofJson : Json.Decoder CaptureOverrides := shape.decode {} withField

/-- The JSON form of limits. -/
def toJson (o : CaptureOverrides) : Json :=
  let size := fun (name : String) (n : Option Nat) =>
    Json.optionalField name (n.map fun n => .integer n)
  .object (size "maxReferenceDepth" o.maxReferenceDepth ++
    size "maxCollectionSize" o.maxCollectionSize ++ size "maxFieldCount" o.maxFieldCount ++
    size "maxLength" o.maxLength)

end CaptureOverrides

namespace SamplingOverride

/-- The shape of a rate, which may be missing. -/
def shape : Json.RecordShape := { name := "SamplingDefinition", fields := ["snapshotsPerSecond"] }

/-- Reads a rate. -/
def withField (o : SamplingOverride) (name : String) (j : Json) :
    Except DecodeError SamplingOverride :=
  match name with
  | "snapshotsPerSecond" => do
    return { o with snapshotsPerSecond := ← Json.readOptional Json.readNumber j }
  | _ => .ok o

/-- The rate of a JSON value. -/
def ofJson : Json.Decoder SamplingOverride := shape.decode {} withField

/-- The JSON form of a rate. -/
def toJson (o : SamplingOverride) : Json :=
  .object (Json.optionalField "snapshotsPerSecond" (o.snapshotsPerSecond.map .float))

end SamplingOverride

namespace ProbeDefinition

/-- The shape of a definition. Only the id is required. -/
def shape : Json.RecordShape :=
  { name := "ProbeDefinition"
    fields := ["id", "version", "type", "where", "template", "segments", "when",
      "captureSnapshot", "capture", "sampling", "evaluateAt"]
    required := ["id"] }

/-- Reads a field of a definition. -/
def withField (d : ProbeDefinition) (name : String) (j : Json) :
    Except DecodeError ProbeDefinition := do
  match name with
  | "id" => return { d with id := ← Json.readText j }
  | "version" => return { d with version := ← Json.readNatural64 j }
  | "type" => return { d with type := ← Json.readText j }
  | "where" => return { d with location := ← ProbeLocation.ofJson j }
  | "template" => return { d with template := ← Json.readText j }
  | "segments" => return { d with segments := ← Json.readList Segment.ofJson j }
  | "when" => return { d with condition := ← Json.readOptional SourceExpression.ofJson j }
  | "captureSnapshot" => return { d with capturesSnapshot := ← Json.readBool j }
  | "capture" => return { d with capture := ← Json.readOptional CaptureOverrides.ofJson j }
  | "sampling" => return { d with sampling := ← Json.readOptional SamplingOverride.ofJson j }
  | "evaluateAt" => return { d with evaluateAt := ← EvaluateAt.ofJson j }
  | _ => return d

/-- The definition of a JSON value. -/
def ofJson : Json.Decoder ProbeDefinition := shape.decode { id := "" } withField

/-- The JSON form of a definition. -/
def toJson (d : ProbeDefinition) : Json :=
  .object ([("id", .string d.id), ("version", .integer d.version), ("type", .string d.type),
      ("where", d.location.toJson), ("template", .string d.template),
      ("segments", .array (d.segments.map Segment.toJson))] ++
    Json.optionalField "when" (d.condition.map SourceExpression.toJson) ++
    [("captureSnapshot", .bool d.capturesSnapshot)] ++
    Json.optionalField "capture" (d.capture.map CaptureOverrides.toJson) ++
    Json.optionalField "sampling" (d.sampling.map SamplingOverride.toJson) ++
    [("evaluateAt", .string d.evaluateAt.word)])

end ProbeDefinition

/-! ## Entries of lists -/

/-- An entry of a list of definitions; one that is malformed keeps its id and the
reason. -/
inductive DefinitionEntry
  | malformed (id : Option String) (cause : DecodeError)
  | definition (d : ProbeDefinition)

namespace DefinitionEntry

/-- The id that an object has, if it is a text. -/
def idOf? : Json → Option String
  | .object fields =>
    match fields.find? fun f => f.1 == "id" with
    | some (_, .string s) => some s
    | _ => none
  | _ => none

/-- The entry of a JSON value. -/
def ofJson (j : Json) : DefinitionEntry :=
  match ProbeDefinition.ofJson j with
  | .ok d => .definition d
  | .error cause => .malformed (idOf? j) cause

/-- The entries of an array. Reading one never fails, so no malformed one prevents the
others. -/
def listOfJson : Json.Decoder (List DefinitionEntry) := Json.readList fun j => .ok (ofJson j)

/-- The id of an entry, if it has one. -/
def id? : DefinitionEntry → Option String
  | .malformed id _ => id
  | .definition d => some d.id

end DefinitionEntry

end ProbeEngine

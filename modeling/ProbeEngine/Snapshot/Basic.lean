import ProbeEngine.Capture.Captured
import ProbeEngine.Message.Template
import ProbeEngine.OrderedTable
import ProbeEngine.Snapshot.Location
import ProbeEngine.Snapshot.Throwable
import ProbeEngine.Time.Timestamp

/-!
# Snapshots

What a probe reports of one call: when and where it fired, how long the call
took, the values captured at its start and end, and what failed to evaluate. A
snapshot gets its identity when it is written out.
-/

namespace ProbeEngine

/-- Named captured values. -/
abbrev CapturedTable := OrderedTable String Captured

/-- The values captured at one point of a call: the arguments with the receiver,
the locals with the returned value, or what was thrown. -/
structure CaptureSet where
  arguments : CapturedTable
  locals : Option CapturedTable := none
  throwable : Option Throwable := none

/-- The values captured at the start and at the end of a call. -/
structure Captures where
  entry : Option CaptureSet := none
  exit : Option CaptureSet := none

/-- The probe that a snapshot is of. -/
structure ProbeInfo where
  id : String
  version : Nat
  location : ProbeLocation
  deriving DecidableEq, Repr

/-- What a probe reports of one call; the duration is in nanoseconds. -/
structure Snapshot where
  timestamp : Timestamp
  probe : ProbeInfo
  stack : List StackFrame
  duration : Nat
  captures : Captures
  failures : List EvaluationFailure

/-! ## JSON form -/

/-- The JSON form of named captured values. -/
def CapturedTable.toJson (t : CapturedTable) : Json :=
  .object (t.entries.map fun e => (e.1, e.2.toJson))

/-- The JSON form of the values captured at one point. -/
def CaptureSet.toJson (s : CaptureSet) : Json :=
  .object (("arguments", CapturedTable.toJson s.arguments) ::
    (Json.optionalField "locals" (s.locals.map CapturedTable.toJson) ++
      Json.optionalField "throwable" (s.throwable.map Throwable.toJson)))

namespace Captures

/-- Whether nothing was captured. -/
def isEmpty (c : Captures) : Bool := c.entry.isNone && c.exit.isNone

/-- The JSON form of the values captured at the start and at the end. -/
def toJson (c : Captures) : Json :=
  .object (Json.optionalField "entry" (c.entry.map CaptureSet.toJson) ++
    Json.optionalField "return" (c.exit.map CaptureSet.toJson))

end Captures

/-- The JSON form of the probe of a snapshot. -/
def ProbeInfo.toJson (p : ProbeInfo) : Json :=
  .object [("id", .string p.id), ("version", .integer p.version),
    ("location", p.location.toJson)]

namespace Snapshot

/-- The language of the instrumented programs. -/
def language : String := "javascript"

/-- The JSON form of a snapshot under an identity. -/
def toJson (id : String) (s : Snapshot) : Json :=
  .object ([("id", .string id), ("timestamp", .integer s.timestamp.millis),
      ("probe", s.probe.toJson), ("stack", .array (s.stack.map StackFrame.toJson)),
      ("language", .string language), ("duration", .integer s.duration)] ++
    (if s.captures.isEmpty then [] else [("captures", s.captures.toJson)]) ++
    (if s.failures.isEmpty then []
      else [("evaluationErrors", .array (s.failures.map EvaluationFailure.toJson))]))

end Snapshot

end ProbeEngine

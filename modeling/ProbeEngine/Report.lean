import ProbeEngine.Snapshot.Basic

/-!
# Reports

What is handed on when a probe fires: the message, the method it is about, the
trace it belongs to, and the snapshot. A sink takes reports, or fails to.
-/

namespace ProbeEngine

/-- The method that a report is about. -/
structure LoggerInfo where
  name : String
  method : String
  version : Nat
  threadName : String
  deriving DecidableEq, Repr

/-- The trace that is active. -/
structure TraceContext where
  traceId : Option String := none
  spanId : Option String := none
  deriving DecidableEq, Repr

/-- One firing of a probe. -/
structure Report where
  message : String
  logger : LoggerInfo
  trace : TraceContext
  snapshot : Snapshot

/-- Why a sink did not take a report. -/
inductive SinkError
  | closed
  | delivery
  deriving DecidableEq, Repr

/-- The words for a sink error. -/
def SinkError.message : SinkError → String
  | .closed => "snapshot sink is closed"
  | .delivery => "failed to deliver snapshot"

/-- A sink: whether it takes a report, which may depend on how many it was offered
before, and the reports it was offered, in order. -/
structure Sink where
  refuses : Nat → Option SinkError
  offered : List Report := []

namespace Sink

/-- A sink that takes every report. -/
def collecting : Sink := { refuses := fun _ => none }

/-- A sink that fails on every report. -/
def failing (e : SinkError) : Sink := { refuses := fun _ => some e }

/-- Offers a report to a sink, with the error if it fails. -/
def offer (s : Sink) (r : Report) : Sink × Option SinkError :=
  ({ s with offered := s.offered ++ [r] }, s.refuses s.offered.length)

end Sink

/-! ## JSON form -/

/-- The JSON form of the method of a report. -/
def LoggerInfo.toJson (l : LoggerInfo) : Json :=
  .object [("name", .string l.name), ("method", .string l.method),
    ("version", .integer l.version), ("threadName", .string l.threadName)]

/-- The JSON form of a trace. -/
def TraceContext.toJson (t : TraceContext) : Json :=
  .object (Json.optionalField "traceId" (t.traceId.map .string) ++
    Json.optionalField "spanId" (t.spanId.map .string))

/-- The JSON form of a report whose snapshot gets an identity. -/
def Report.toJson (id : String) (r : Report) : Json :=
  .object [("message", .string r.message), ("logger", r.logger.toJson), ("dd", r.trace.toJson),
    ("snapshot", r.snapshot.toJson id)]

end ProbeEngine

import ProbeEngine.Probe.Basic
import ProbeEngine.Report
import ProbeEngine.Sampling.Decision

/-!
# Log events

What the engine tells of its work. An event is what happened; its level, its
words and its fields follow from that.
-/

namespace ProbeEngine

/-- What happened. -/
inductive LogEvent
  | registrationFailed (id : String) (version : Nat) (error : RegistrationError)
  | registered (id : String) (version : Nat)
  | malformedDefinition (id : Option String)
  | removed (id : String)
  | notRegistered (id : String)
  | skipped (id : String) (reason : SkipReason)
  | conditionFailed (id : String) (version : Nat) (error : String)
  | conditionFalse (id : String)
  | unmatchedExit (id : String)
  | removedDuringCall (id : String)
  | noSink (id : String)
  | sendFailed (id : String) (version : Nat) (error : SinkError)

/-- The value of a field of an event. The diagnostic of a document reader is known
to be there, but not in words. -/
inductive LogField
  | text (s : String)
  | number (n : Nat)
  | reason (r : SkipReason)
  | diagnostic
  deriving DecidableEq, Repr

namespace LogEvent

/-- The level of an event. -/
def level : LogEvent → LogLevel
  | .registrationFailed _ _ _ => .error
  | .registered _ _ => .debug
  | .malformedDefinition _ => .error
  | .removed _ => .debug
  | .notRegistered _ => .debug
  | .skipped _ _ => .debug
  | .conditionFailed _ _ _ => .error
  | .conditionFalse _ => .debug
  | .unmatchedExit _ => .debug
  | .removedDuringCall _ => .debug
  | .noSink _ => .warn
  | .sendFailed _ _ _ => .error

/-- The words for an event. -/
def message : LogEvent → String
  | .registrationFailed _ _ _ => "failed to register probe"
  | .registered _ _ => "registered probe"
  | .malformedDefinition _ => "failed to parse probe definition"
  | .removed _ => "removed probe"
  | .notRegistered _ => "no probe registered for call"
  | .skipped _ _ => "probe skipped by sampling"
  | .conditionFailed _ _ _ => "failed to evaluate probe condition"
  | .conditionFalse _ => "probe condition does not hold"
  | .unmatchedExit _ => "call ended without a matching entry"
  | .removedDuringCall _ => "probe removed during call"
  | .noSink _ => "no snapshot sink registered, dropping snapshot"
  | .sendFailed _ _ _ => "failed to send snapshot"

/-- The fields that name a probe. -/
def probeFields (id : String) (version : Nat) : List (String × LogField) :=
  [("probe_id", .text id), ("probe_version", .number version)]

/-- The fields of an event. -/
def fields : LogEvent → List (String × LogField)
  | .registrationFailed id version e => ("error", .text e.summary) :: probeFields id version
  | .registered id version => probeFields id version
  | .malformedDefinition id =>
    ("error", .diagnostic) :: id.toList.map fun id => ("probe_id", .text id)
  | .skipped id reason => [("probe_id", .text id), ("reason", .reason reason)]
  | .conditionFailed id version e => ("error", .text e) :: probeFields id version
  | .sendFailed id version e => ("error", .text e.message) :: probeFields id version
  | .removed id => [("probe_id", .text id)]
  | .notRegistered id => [("probe_id", .text id)]
  | .conditionFalse id => [("probe_id", .text id)]
  | .unmatchedExit id => [("probe_id", .text id)]
  | .removedDuringCall id => [("probe_id", .text id)]
  | .noSink id => [("probe_id", .text id)]

end LogEvent

end ProbeEngine

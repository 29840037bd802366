import ProbeEngine.Config.Record
import ProbeEngine.Config.Settings
import ProbeEngine.Json.Reader

/-!
# Settings in documents

Settings are read alike from documents of every format. A format says how a
value of its documents reads as a record, as a number and so on; what it does
not say is which settings there are.
-/

namespace ProbeEngine

/-- How the values of a document format are read. -/
structure DocumentFormat (ν : Type) where
  record? : List String → ν → Option (Record.Fields ν)
  natural? : Nat → ν → Option Nat
  number? : ν → Option Float
  bool? : ν → Option Bool
  choice? : List String → ν → Option String

/-- The fields of a JSON record with some names: those of an object, or the items of
an array in order. -/
def Json.record? (names : List String) : Json → Option (Record.Fields Json)
  | .object fields => Record.known? names fields
  | .array items => Record.positional? names items
  | _ => none

/-- The values of JSON documents. -/
def Json.documentFormat : DocumentFormat Json where
  record? := Json.record?
  natural? greatest j := (Json.readNatural "usize" greatest j).toOption
  number? := Json.number?
  bool? j := (Json.readBool j).toOption
  choice? words j := (Json.readChoice words j).toOption

namespace Json.Outline

/-- The value of an outline that is no array and no object. -/
def plain? (o : Outline) : Option Json := o.value? 1

/-- The fields of a JSON record with some names. Every name of an object is read, but no
value of a field whose name is not one of them. -/
def record? (names : List String) : Outline → Option (Record.Fields Outline)
  | .object fields =>
    (fields.mapM fun f : List Char × Outline => (text? f.1).map (·, f.2)).bind
      (Record.known? names)
  | .array items => Record.positional? names items
  | _ => none

/-- A choice: a text, or an object of one field that holds null. -/
def choice? (words : List String) : Outline → Option String
  | .string inside => (text? inside).filter words.contains
  | .object [(name, .null)] => (text? name).filter words.contains
  | _ => none

/-- The values of JSON texts. What settings do not ask for only has to be there as the
grammar has it. -/
def documentFormat : DocumentFormat Outline where
  record? := record?
  natural? greatest o := o.plain?.bind (Json.documentFormat.natural? greatest)
  number? o := o.plain?.bind Json.documentFormat.number?
  bool? o := o.plain?.bind Json.documentFormat.bool?
  choice? := choice?

end Json.Outline

namespace Settings

variable {ν : Type} (format : DocumentFormat ν)

/-- The greatest size or length. -/
def greatestSize : Nat := UInt64.size - 1

/-- The settings of the log in a document. -/
def loggingOf? (v : ν) : Option LogSettings := do
  let d : LogSettings := {}
  let fs ← format.record? ["level", "format", "enable_backtraces"] v
  let level ← Record.withDefault? fs "level" d.level fun w =>
    (format.choice? (LogLevel.all.map LogLevel.word) w).bind LogLevel.ofWord?
  let logFormat ← Record.withDefault? fs "format" d.format fun w =>
    (format.choice? (LogFormat.all.map LogFormat.word) w).bind LogFormat.ofWord?
  let backtraces ← Record.withDefault? fs "enable_backtraces" d.backtraces format.bool?
  some ⟨level, logFormat, backtraces⟩

/-- The rates in a document. -/
def samplingOf? (v : ν) : Option SamplingSettings := do
  let d : SamplingSettings := {}
  let fs ← format.record? ["global_snapshots_per_second", "default_snapshots_per_second",
    "default_logs_per_second"] v
  let globalLimit ← Record.withDefault? fs "global_snapshots_per_second" d.globalLimit
    (format.natural? GlobalBudget.greatestCount)
  let snapshotRate ← Record.withDefault? fs "default_snapshots_per_second" d.snapshotRate
    format.number?
  let logRate ← Record.withDefault? fs "default_logs_per_second" d.logRate format.number?
  some ⟨globalLimit, snapshotRate, logRate⟩

/-- The capture limits in a document. -/
def captureOf? (v : ν) : Option CaptureLimits := do
  let d : CaptureLimits := {}
  let size := format.natural? greatestSize
  let fs ← format.record? ["max_reference_depth", "max_collection_size", "max_field_count",
    "max_length"] v
  let depth ← Record.withDefault? fs "max_reference_depth" d.maxReferenceDepth size
  let items ← Record.withDefault? fs "max_collection_size" d.maxCollectionSize size
  let fields ← Record.withDefault? fs "max_field_count" d.maxFieldCount size
  let length ← Record.withDefault? fs "max_length" d.maxLength size
  some ⟨depth, items, fields, length⟩

/-- The settings of messages in a document. -/
def messageOf? (v : ν) : Option MessageSettings := do
  let d : MessageSettings := {}
  let fs ← format.record? ["max_length"] v
  let length ← Record.withDefault? fs "max_length" d.maxLength (format.natural? greatestSize)
  some ⟨length⟩

/-- The settings that a document gives; those it does not give have their
defaults. -/
def ofDocument? (v : ν) : Option Settings := do
  let fs ← format.record? ["logging", "sampling", "capture", "message"] v
  let logging ← Record.withDefault? fs "logging" {} (loggingOf? format)
  let sampling ← Record.withDefault? fs "sampling" {} (samplingOf? format)
  let capture ← Record.withDefault? fs "capture" {} (captureOf? format)
  let message ← Record.withDefault? fs "message" {} (messageOf? format)
  some ⟨logging, sampling, capture, message⟩

end Settings

end ProbeEngine

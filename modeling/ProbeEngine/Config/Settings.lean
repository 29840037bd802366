import ProbeEngine.Capture.Limits
import ProbeEngine.Json.Record
import ProbeEngine.Message.Template
import ProbeEngine.Sampling.Budget
import ProbeEngine.Sampling.Sampler

/-!
# Settings

What can be set of the engine: how it logs, how often probes fire, how much is
captured, and how long a message may be. Every setting has a default.
-/

namespace ProbeEngine

/-- The most verbose events that are logged. -/
inductive LogLevel
  | off
  | error
  | warn
  | info
  | debug
  | trace
  deriving DecidableEq, Repr

/-- The word for a level. -/
def LogLevel.word : LogLevel → String
  | .off => "off"
  | .error => "error"
  | .warn => "warn"
  | .info => "info"
  | .debug => "debug"
  | .trace => "trace"

/-- Every level. -/
def LogLevel.all : List LogLevel := [.off, .error, .warn, .info, .debug, .trace]

/-- The level of a word. -/
def LogLevel.ofWord? (w : String) : Option LogLevel := all.find? fun l => l.word == w

/-- How log events are written. -/
inductive LogFormat
  | auto
  | pretty
  | simplified
  | json
  deriving DecidableEq, Repr

/-- The word for a format. -/
def LogFormat.word : LogFormat → String
  | .auto => "auto"
  | .pretty => "pretty"
  | .simplified => "simplified"
  | .json => "json"

/-- Every format. -/
def LogFormat.all : List LogFormat := [.auto, .pretty, .simplified, .json]

/-- The format of a word. -/
def LogFormat.ofWord? (w : String) : Option LogFormat := all.find? fun f => f.word == w

/-- The settings of the log. -/
structure LogSettings where
  level : LogLevel := .info
  format : LogFormat := .auto
  backtraces : Bool := false

/-- The rates, in firings per second: of all snapshots together, and of probes
without a rate of their own. -/
structure SamplingSettings where
  globalLimit : Nat := GlobalBudget.defaultLimit
  snapshotRate : Float := ProbeSampler.defaultSnapshotRate
  logRate : Float := ProbeSampler.defaultLogRate

/-- The settings of messages. -/
structure MessageSettings where
  maxLength : Nat := Message.defaultMaxLength

/-- All settings. -/
structure Settings where
  logging : LogSettings := {}
  sampling : SamplingSettings := {}
  capture : CaptureLimits := {}
  message : MessageSettings := {}

/-- The rate of a probe that has none of its own. -/
def Settings.defaultRate (s : Settings) (isSnapshot : Bool) : Float :=
  if isSnapshot then s.sampling.snapshotRate else s.sampling.logRate

/-! ## JSON form -/

/-- The JSON form of the settings of the log. -/
def LogSettings.toJson (s : LogSettings) : Json :=
  .object [("level", .string s.level.word), ("format", .string s.format.word),
    ("enable_backtraces", .bool s.backtraces)]

/-- The JSON form of the rates. -/
def SamplingSettings.toJson (s : SamplingSettings) : Json :=
  .object [("global_snapshots_per_second", .integer s.globalLimit),
    ("default_snapshots_per_second", .float s.snapshotRate),
    ("default_logs_per_second", .float s.logRate)]

/-- The JSON form of the limits as settings. -/
def CaptureLimits.toSettingsJson (l : CaptureLimits) : Json :=
  .object [("max_reference_depth", .integer l.maxReferenceDepth),
    ("max_collection_size", .integer l.maxCollectionSize),
    ("max_field_count", .integer l.maxFieldCount), ("max_length", .integer l.maxLength)]

/-- The JSON form of the settings of messages. -/
def MessageSettings.toJson (s : MessageSettings) : Json :=
  .object [("max_length", .integer s.maxLength)]

/-- The JSON form of all settings. -/
def Settings.toJson (s : Settings) : Json :=
  .object [("logging", s.logging.toJson), ("sampling", s.sampling.toJson),
    ("capture", s.capture.toSettingsJson), ("message", s.message.toJson)]

end ProbeEngine

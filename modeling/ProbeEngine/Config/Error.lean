/-!
# Configuration errors

Why settings are refused: by what went wrong, and by the file or the setting
that it concerns.
-/

namespace ProbeEngine

/-- The formats of configuration documents. -/
inductive ConfigFormat
  | yaml
  | json
  deriving DecidableEq, Repr

/-- The word for a format. -/
def ConfigFormat.word : ConfigFormat → String
  | .yaml => "yaml"
  | .json => "json"

/-- Why settings are refused. A document is in a file, or was given as it is. -/
inductive ConfigError
  | cannotOpen (file : String)
  | unreadable (format : ConfigFormat) (file : Option String)
  | invalidValue (setting : String)
  deriving DecidableEq, Repr

namespace ConfigError

/-- What went wrong, in words. -/
def summary : ConfigError → String
  | .cannotOpen _ => "could not open config file"
  | .unreadable format _ => "could not parse " ++ format.word ++ " config file"
  | .invalidValue _ => "invalid config value"

/-- What an error concerns, in words. -/
def place : ConfigError → String
  | .cannotOpen file => " (file " ++ file ++ ")"
  | .unreadable _ (some file) => " (file " ++ file ++ ")"
  | .unreadable _ none => ""
  | .invalidValue setting => " (field " ++ setting ++ ")"

/-- The words for an error. -/
def message (e : ConfigError) : String := e.summary ++ e.place

/-- Whether another error, of the file or of its reader, is the cause. -/
def hasCause : ConfigError → Bool
  | .invalidValue _ => false
  | _ => true

end ConfigError

end ProbeEngine

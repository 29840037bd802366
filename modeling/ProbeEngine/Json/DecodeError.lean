import ProbeEngine.Json.Compact
import ProbeEngine.Text.Search
import ProbeEngine.Text.Visible

/-!
# Decoding errors

Why a JSON value is not what was expected of it, by cause, and the words for each
cause.
-/

namespace ProbeEngine

/-- Why a JSON value does not decode. -/
inductive DecodeError
  | wrongType (found : Json) (expected : String)
  | wrongValue (found : Json) (expected : String)
  | wrongLength (n : Nat) (expected : String)
  | missingField (name : String)
  | duplicateField (name : String)
  | unknownChoice (word : String) (choices : List String)
  | noAlternative (type : String)

/-- What a JSON value is, in words. -/
def Json.describe : Json → String
  | .null => "null"
  | .bool true => "boolean `true`"
  | .bool false => "boolean `false`"
  | .integer n => "integer `" ++ String.ofList (integerChars n) ++ "`"
  | .float x => "floating point `" ++ String.ofList (floatChars x) ++ "`"
  | .string s => "string " ++ Text.Visible.quote s
  | .array _ => "sequence"
  | .object _ => "map"

namespace DecodeError

/-- Some choices in words. -/
def listChoices : List String → String
  | [a] => "`" ++ a ++ "`"
  | [a, b] => "`" ++ a ++ "` or `" ++ b ++ "`"
  | choices => "one of " ++ Text.joinWith ", " (choices.map fun c => "`" ++ c ++ "`")

/-- The words for an error. -/
def message : DecodeError → String
  | .wrongType found expected =>
    "invalid type: " ++ found.describe ++ ", expected " ++ expected
  | .wrongValue found expected =>
    "invalid value: " ++ found.describe ++ ", expected " ++ expected
  | .wrongLength n expected => "invalid length " ++ toString n ++ ", expected " ++ expected
  | .missingField name => "missing field `" ++ name ++ "`"
  | .duplicateField name => "duplicate field `" ++ name ++ "`"
  | .unknownChoice word choices =>
    "unknown variant `" ++ word ++ "`, expected " ++ listChoices choices
  | .noAlternative type => "data did not match any variant of untagged enum " ++ type

end DecodeError

end ProbeEngine

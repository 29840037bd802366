import ProbeEngine.Host.Conversion

/-!
# Evaluation errors

Why an expression has no value, by cause, and the words for each cause. The host
knows these errors under the name of their class.
-/

namespace ProbeEngine

open Host (Value Heap)

/-- Why an expression has no value. -/
inductive EvalError
  | notText (type : String)
  | symbolAsText
  | symbolAsNumber
  | sizeOfWeak
  | nullishAsObject
  | containsNotSupported (type : String)
  | readOfNullish (target key : String)
  | readOfMap
  | notCallable
  | notPattern
  | notDefined (name : String)
  | invalidPattern (source : String)
  | getter
  | coercion
  | thrown (v : Value)

/-- The classes of evaluation errors. -/
inductive ErrorClass
  | type
  | reference
  | pattern
  | sideEffect
  | thrown
  deriving DecidableEq, Repr

namespace EvalError

/-- The class of an error. -/
def errorClass : EvalError → ErrorClass
  | .notDefined _ => .reference
  | .invalidPattern _ => .pattern
  | .getter => .sideEffect
  | .coercion => .sideEffect
  | .thrown _ => .thrown
  | _ => .type

/-- The name under which the host knows a class of errors. -/
def className : ErrorClass → String
  | .type => "TypeError"
  | .reference => "ReferenceError"
  | .pattern => "SyntaxError"
  | .sideEffect => "Error"
  | .thrown => ""

/-- The words for a cause; those for a thrown value are its own. Of a pattern that
cannot be read only the pattern is told: what the reader of patterns says is wrong
with it, after a colon in the full text, is left out. It depends on the pattern
alone. -/
def detail (h : Heap) : EvalError → String
  | .notText type => "Variable is not a string: " ++ type
  | .symbolAsText => "Cannot convert a Symbol value to a string"
  | .symbolAsNumber => "Cannot convert a Symbol value to a number"
  | .sizeOfWeak => "Cannot get size of WeakSet or WeakMap"
  | .nullishAsObject => "Cannot convert undefined or null to object"
  | .containsNotSupported type => "Variable does not support contains: " ++ type
  | .readOfNullish target key =>
    "Cannot read properties of " ++ target ++ " (reading '" ++ key ++ "')"
  | .readOfMap => "Accessing a Map is not allowed"
  | .notCallable => "Right-hand side of 'instanceof' is not callable"
  | .notPattern => "Regular expression must be either a string or an instance of RegExp"
  | .notDefined name => name ++ " is not defined"
  | .invalidPattern source => "Invalid regular expression: /" ++ source ++ "/"
  | .getter => "Possibility of side effect"
  | .coercion => "Possibility of side effect due to coercion methods"
  | .thrown v => h.describeThrown v

/-- How an error reads: the name of its class and the words for its cause. -/
def message (h : Heap) (e : EvalError) : String :=
  match e with
  | .thrown v => h.describeThrown v
  | e => className e.errorClass ++ ": " ++ e.detail h

end EvalError

end ProbeEngine

import ProbeEngine.Host.Value

/-!
# Expressions

The expressions of conditions and messages, as they are after compilation: every
name in them is known to be one, and every fixed pattern to be one.
-/

namespace ProbeEngine

open Host (Value)

/-- What a reference names: a variable of the loop around it, or one of the
call. -/
inductive Reference
  | item
  | key
  | value
  | variable (name : String)
  deriving DecidableEq, Repr

/-- The name by which a reference is written. -/
def Reference.name : Reference → String
  | .item => "@it"
  | .key => "@key"
  | .value => "@value"
  | .variable name => name

/-- A type to test for: a primitive one by its word, or a constructor. -/
inductive TypeName
  | primitive (word : String)
  | constructor (name : String)
  deriving DecidableEq, Repr

/-- The orders to test for. -/
inductive Comparison
  | greater
  | greaterOrEqual
  | less
  | lessOrEqual
  deriving DecidableEq, Repr

/-- Whether an order, if there is one, is the one asked for. -/
def Comparison.accepts : Comparison → Option Ordering → Bool
  | .greater, o => o == some .gt
  | .greaterOrEqual, o => o == some .gt || o == some .eq
  | .less, o => o == some .lt
  | .lessOrEqual, o => o == some .lt || o == some .eq

/-- An expression. -/
inductive Expr
  | literal (v : Value)
  | reference (r : Reference)
  | negation (operand : Expr)
  | length (operand : Expr)
  | isEmpty (operand : Expr)
  | isDefined (operand : Expr)
  | instanceOf (operand : Expr) (type : TypeName)
  | equal (left right : Expr)
  | notEqual (left right : Expr)
  | compare (order : Comparison) (left right : Expr)
  | any (collection predicate : Expr)
  | all (collection predicate : Expr)
  | filter (collection predicate : Expr)
  | conjunction (operands : List Expr)
  | disjunction (operands : List Expr)
  | startsWith (text start : Expr)
  | endsWith (text ending : Expr)
  | substring (text start finish : Expr)
  | contains (collection item : Expr)
  | matchesPattern (text : Expr) (pattern : Regex.Pattern)
  | matchesValue (text pattern : Expr)
  | member (target key : Expr)
  | index (target key : Expr)

/-- A number that is written out. -/
def Expr.isNumberLiteral : Expr → Bool
  | .literal (.number _) => true
  | _ => false

end ProbeEngine

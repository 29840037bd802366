import ProbeEngine.Expr.Basic
import ProbeEngine.Expr.Identifier
import ProbeEngine.Json.Basic
import ProbeEngine.Regex.Reader

/-!
# Compiling expressions

An expression is delivered as a JSON tree: literals stand for themselves, and an
object with a single field is an operation on its arguments. `Expr.compile`
checks the whole tree and answers the expression, or the first fault in the
order of evaluation.
-/

namespace ProbeEngine

/-- Why a tree is no expression. -/
inductive CompileError
  | unknownOperation (op : String)
  | fieldCount (n : Nat)
  | unexpectedArray
  | arguments (op expected : String)
  | invalidIdentifier (name : String)
  | reservedWord (name : String)
  | invalidPattern
  deriving DecidableEq, Repr

/-- The words of a compile error. -/
def CompileError.message : CompileError → String
  | .unknownOperation op => "unknown operation `" ++ op ++ "`"
  | .fieldCount n =>
    "expected an operation with a single key, found " ++ toString n ++ " keys"
  | .unexpectedArray => "unexpected array, expected an expression"
  | .arguments op expected => "operation `" ++ op ++ "` expects " ++ expected
  | .invalidIdentifier name => "invalid identifier `" ++ name ++ "`"
  | .reservedWord name => "`" ++ name ++ "` is a reserved word"
  | .invalidPattern => "invalid regular expression"

/-- The words of a compile error, unless the reader of patterns has more to say. -/
def CompileError.ownMessage? : CompileError → Option String
  | .invalidPattern => none
  | e => some e.message

/-- Checks that a name may be used for a variable or constructor. -/
def checkIdentifier (name : String) : Except CompileError Unit :=
  if !Identifier.isIdentifier name then .error (.invalidIdentifier name)
  else if Identifier.isReserved name then .error (.reservedWord name)
  else .ok ()

namespace Expr

/-- The words of the primitive types. -/
def primitiveTypes : List String :=
  ["string", "number", "bigint", "boolean", "symbol", "undefined"]

/-- The names besides identifiers that a variable of a call may have. -/
def specialVariables : List String := ["this", "@duration", "@return", "@exception"]

/-- The reference that a name is. -/
def compileReference (name : String) : Except CompileError Reference :=
  if name = "@it" then .ok .item
  else if name = "@key" then .ok .key
  else if name = "@value" then .ok .value
  else if specialVariables.contains name then .ok (.variable name)
  else (checkIdentifier name).map fun _ => .variable name

/-- The type that a name is. -/
def compileTypeName (name : String) : Except CompileError TypeName :=
  if primitiveTypes.contains name then .ok (.primitive name)
  else (checkIdentifier name).map fun _ => .constructor name

/-- A node with what compiling it gives. -/
structure Compiled where
  node : Json
  result : Except CompileError Expr

/-- The arguments of an operation: the node itself, and its items if it is an
array. -/
structure Arguments where
  whole : Compiled
  items : Option (List Compiled)

/-- An operation on two arguments. -/
def binary (op : String) (args : Arguments) (f : Expr → Expr → Expr) :
    Except CompileError Expr :=
  match args.items with
  | some [a, b] => do
    let left ← a.result
    let right ← b.result
    .ok (f left right)
  | _ => .error (.arguments op "an array of 2 arguments")

/-- An operation on three arguments. -/
def ternary (op : String) (args : Arguments) (f : Expr → Expr → Expr → Expr) :
    Except CompileError Expr :=
  match args.items with
  | some [a, b, c] => do
    let first ← a.result
    let second ← b.result
    let third ← c.result
    .ok (f first second third)
  | _ => .error (.arguments op "an array of 3 arguments")

/-- The results of some nodes, or the first fault. -/
def collect : List Compiled → Except CompileError (List Expr)
  | [] => .ok []
  | c :: cs => do
    let e ← c.result
    let es ← collect cs
    .ok (e :: es)

/-- An operation on one or more arguments. -/
def variadic (op : String) (args : Arguments) (f : List Expr → Expr) :
    Except CompileError Expr :=
  match args.items with
  | some (c :: cs) => (collect (c :: cs)).map f
  | _ => .error (.arguments op "a non-empty array of operands")

/-- The test for a type: a node and a name. -/
def compileInstanceOf (op : String) (args : Arguments) : Except CompileError Expr :=
  match args.items with
  | some [a, b] =>
    match b.node with
    | .string name => do
      let operand ← a.result
      let type ← compileTypeName name
      .ok (.instanceOf operand type)
    | _ => .error (.arguments op "a value and a type name")
  | _ => .error (.arguments op "an array of 2 arguments")

/-- The match with a pattern: a text is a fixed pattern, any other node is
evaluated to one. The pattern is compiled first. -/
def compileMatches (op : String) (args : Arguments) : Except CompileError Expr :=
  match args.items with
  | some [a, b] =>
    match b.node with
    | .string source =>
      match Regex.pattern? source with
      | some p => a.result.map fun text => .matchesPattern text p
      | none => .error .invalidPattern
    | _ => do
      let pattern ← b.result
      let text ← a.result
      .ok (.matchesValue text pattern)
  | _ => .error (.arguments op "an array of 2 arguments")

/-- An operation on its compiled arguments. -/
def compileOperation (op : String) (args : Arguments) : Except CompileError Expr :=
  match op with
  | "ref" =>
    match args.whole.node with
    | .string name => (compileReference name).map .reference
    | _ => .error (.arguments op "a name")
  | "not" => args.whole.result.map .negation
  | "len" => args.whole.result.map .length
  | "count" => args.whole.result.map .length
  | "isEmpty" => args.whole.result.map .isEmpty
  | "isDefined" => args.whole.result.map .isDefined
  | "instanceof" => compileInstanceOf op args
  | "eq" => binary op args .equal
  | "ne" => binary op args .notEqual
  | "gt" => binary op args (.compare .greater)
  | "ge" => binary op args (.compare .greaterOrEqual)
  | "lt" => binary op args (.compare .less)
  | "le" => binary op args (.compare .lessOrEqual)
  | "any" => binary op args .any
  | "all" => binary op args .all
  | "filter" => binary op args .filter
  | "and" => variadic op args .conjunction
  | "or" => variadic op args .disjunction
  | "startsWith" => binary op args .startsWith
  | "endsWith" => binary op args .endsWith
  | "contains" => binary op args .contains
  | "getmember" => binary op args .member
  | "index" => binary op args .index
  | "substring" => ternary op args .substring
  | "matches" => compileMatches op args
  | _ => .error (.unknownOperation op)

/-- The result for an object by its fields. -/
def compileObject (fields : List (String × Arguments)) : Except CompileError Expr :=
  match fields with
  | [(op, args)] => compileOperation op args
  | fs => .error (.fieldCount fs.length)

mutual

/-- A node as the arguments of an operation, with everything in it compiled. -/
def analyse : Json → Arguments
  | .null => ⟨⟨.null, .ok (.literal .null)⟩, none⟩
  | .bool b => ⟨⟨.bool b, .ok (.literal (.bool b))⟩, none⟩
  | .integer n => ⟨⟨.integer n, .ok (.literal (.number (Binary64.ofInt n)))⟩, none⟩
  | .float x => ⟨⟨.float x, .ok (.literal (.number x))⟩, none⟩
  | .string s => ⟨⟨.string s, .ok (.literal (.string s))⟩, none⟩
  | .array items => ⟨⟨.array items, .error .unexpectedArray⟩, some (analyseItems items)⟩
  | .object fields => ⟨⟨.object fields, compileObject (analyseFields fields)⟩, none⟩

/-- The items of an array, compiled. -/
def analyseItems : List Json → List Compiled
  | [] => []
  | j :: js => (analyse j).whole :: analyseItems js

/-- The fields of an object, compiled. -/
def analyseFields : List (String × Json) → List (String × Arguments)
  | [] => []
  | (name, j) :: fs => (name, analyse j) :: analyseFields fs

end

/-- Compiles a tree. -/
def compile (node : Json) : Except CompileError Expr := (analyse node).whole.result

end Expr

end ProbeEngine

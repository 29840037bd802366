import ProbeEngine.Host.Classes
import ProbeEngine.Number.Format
import ProbeEngine.Number.Numeral

/-!
# Kinds, equality and conversion of values

What a value is, when two values are equal, and how primitive values turn into
texts, numbers and truth values. Objects turn into none of these without running
code of the host, so these conversions answer nothing for them.
-/

namespace ProbeEngine.Host

/-- What a value is, with all that its kind alone tells. -/
inductive Kind
  | undefined
  | null
  | bool (b : Bool)
  | number (x : Float)
  | bigint (n : Int)
  | string (s : String)
  | symbol (s : Symbol)
  | function (f : FunctionInfo)
  | classFunction (f : FunctionInfo)
  | array (elements : List Value)
  | typedArray (type : ElementType) (elements : List Value)
  | map (entries : List (Value × Value))
  | set (elements : List Value)
  | weakMap (entries : List (Value × Value))
  | weakSet (elements : List Value)
  | date (at? : Option Timestamp)
  | regexp (r : RegExp)
  | error (name : String)
  | promise
  | buffer (name : String) (byteLength : Nat)
  | object

/-- What an object of a kind is; a function whose source declares a class is a
class. -/
def ObjectKind.kind : ObjectKind → Kind
  | .ordinary => .object
  | .array xs => .array xs
  | .function f => if f.isClass then .classFunction f else .function f
  | .error name => .error name
  | .date t => .date t
  | .regexp r => .regexp r
  | .map es => .map es
  | .set xs => .set xs
  | .weakMap es => .weakMap es
  | .weakSet xs => .weakSet xs
  | .promise => .promise
  | .typedArray t xs => .typedArray t xs
  | .arrayBuffer n => .buffer "ArrayBuffer" n
  | .dataView n => .buffer "DataView" n

namespace Heap

/-- What a value is. -/
def kind (h : Heap) : Value → Kind
  | .undefined => .undefined
  | .null => .null
  | .bool b => .bool b
  | .number x => .number x
  | .bigint n => .bigint n
  | .string s => .string s
  | .symbol s => .symbol s
  | .object id => (h.object id).kind.kind

/-- The host's word for the type of a value. -/
def typeOf (h : Heap) : Value → String
  | .undefined => "undefined"
  | .null => "object"
  | .bool _ => "boolean"
  | .number _ => "number"
  | .bigint _ => "bigint"
  | .string _ => "string"
  | .symbol _ => "symbol"
  | .object id =>
    match (h.object id).kind with
    | .function _ => "function"
    | _ => "object"

end Heap

namespace Value

/-- A value that is undefined or null. -/
def isNullish : Value → Bool
  | .undefined => true
  | .null => true
  | _ => false

/-- The truth value of a value. -/
def isTruthy : Value → Bool
  | .undefined => false
  | .null => false
  | .bool b => b
  | .number x => !(x == 0 || x.isNaN)
  | .bigint n => n != 0
  | .string s => !s.isEmpty
  | .symbol _ => true
  | .object _ => true

/-- Equality without conversion: objects and symbols by identity, a value that is
no number unequal to itself, both zeros equal. -/
def strictEquals : Value → Value → Bool
  | .undefined, .undefined => true
  | .null, .null => true
  | .bool a, .bool b => a == b
  | .number a, .number b => a == b
  | .bigint a, .bigint b => a == b
  | .string a, .string b => a == b
  | .symbol a, .symbol b => a == b
  | .object a, .object b => a == b
  | _, _ => false

/-- The equality that collections use: a value that is no number equals itself. -/
def sameValueZero (v w : Value) : Bool :=
  match v, w with
  | .number a, .number b => if a.isNaN && b.isNaN then true else a == b
  | v, w => v.strictEquals w

/-- The text of a value that is one. -/
def string? : Value → Option String
  | .string s => some s
  | _ => none

/-- The double of a value that is one. -/
def number? : Value → Option Float
  | .number x => some x
  | _ => none

/-- The place of a value that is an object. -/
def object? : Value → Option ObjectId
  | .object id => some id
  | _ => none

/-- The symbol of a value that is one. -/
def symbol? : Value → Option Symbol
  | .symbol s => some s
  | _ => none

/-- A truth value in words. -/
def boolText (b : Bool) : String := if b then "true" else "false"

/-- An integer in decimal digits. -/
def bigintText (n : Int) : String :=
  Number.signed (decide (n < 0)) (String.ofList (Nat.toDigits 10 n.natAbs))

/-- The text of a primitive value; nothing for symbols, which have none without
being asked, and for objects. -/
def primitiveText? : Value → Option String
  | .undefined => some "undefined"
  | .null => some "null"
  | .bool b => some (boolText b)
  | .number x => some (Number.format x)
  | .bigint n => some (bigintText n)
  | .string s => some s
  | .symbol _ => none
  | .object _ => none

/-- The number of a primitive value; nothing for bigints, symbols and objects. -/
def primitiveNumber? : Value → Option Float
  | .undefined => some Binary64.nan
  | .null => some 0
  | .bool b => some (if b then 1 else 0)
  | .number x => some x
  | .string s => some (Number.parse s)
  | .bigint _ => none
  | .symbol _ => none
  | .object _ => none

end Value

/-- How a value is shown: primitives as texts, objects by their constructor. -/
def Heap.display (h : Heap) (v : Value) : String :=
  match v with
  | .symbol s => s.text
  | .object id => "[object " ++ h.constructorName id ++ "]"
  | v => v.primitiveText?.getD ""

/-- The data property `message` as it is shown, empty if there is none. -/
def Heap.messageText (h : Heap) (v : Value) : String :=
  ((h.dataProperty? v "message").map h.display).getD ""

/-- A thrown value in words: an error by its name and message. -/
def Heap.describeThrown (h : Heap) (v : Value) : String :=
  match h.kind v with
  | .error name => name ++ ": " ++ h.messageText v
  | _ => h.display v

end ProbeEngine.Host

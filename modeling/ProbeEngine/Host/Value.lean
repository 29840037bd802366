import ProbeEngine.Regex.Pattern
import ProbeEngine.Time.Timestamp
import ProbeEngine.OrderedTable

/-!
# Values of the host

The values that an instrumented program holds. An object is known by its place
in the heap, and two objects are the same if their places are. A symbol is known
by the number of its creation, or by its name if the host predefines it.
-/

namespace ProbeEngine.Host

/-- The symbols that the host predefines. -/
inductive WellKnown
  | toPrimitive
  | iterator
  | toStringTag
  deriving DecidableEq, Repr

/-- The description of a predefined symbol. -/
def WellKnown.description : WellKnown → String
  | .toPrimitive => "Symbol.toPrimitive"
  | .iterator => "Symbol.iterator"
  | .toStringTag => "Symbol.toStringTag"

/-- A symbol: one that was created, told apart by the number of its creation, or
a predefined one. -/
inductive Symbol
  | unique (creation : Nat) (description : Option String)
  | wellKnown (w : WellKnown)
  deriving DecidableEq, Repr

/-- The description of a symbol. -/
def Symbol.description? : Symbol → Option String
  | .unique _ d => d
  | .wellKnown w => some w.description

/-- The predefined symbol that a symbol is, if it is one. -/
def Symbol.wellKnown? : Symbol → Option WellKnown
  | .unique _ _ => none
  | .wellKnown w => some w

/-- The text of a symbol. -/
def Symbol.text (s : Symbol) : String := "Symbol(" ++ s.description?.getD "" ++ ")"

/-- The key of a property: a text or a symbol. -/
inductive PropertyKey
  | string (s : String)
  | symbol (s : Symbol)
  deriving DecidableEq, Repr

/-- The text of a key that is one. -/
def PropertyKey.string? : PropertyKey → Option String
  | .string s => some s
  | .symbol _ => none

/-- How a key is written. -/
def PropertyKey.text : PropertyKey → String
  | .string s => s
  | .symbol s => s.text

/-- The place of an object in the heap. -/
structure ObjectId where
  index : Nat
  deriving DecidableEq, Repr

/-- A value. -/
inductive Value
  | undefined
  | null
  | bool (b : Bool)
  | number (x : Float)
  | bigint (n : Int)
  | string (s : String)
  | symbol (s : Symbol)
  | object (id : ObjectId)
  deriving Inhabited

/-- A property: a value, or the number of the host function that computes one. -/
inductive Property
  | data (v : Value)
  | accessor (getter : Nat)
  deriving Inhabited

/-- The value of a property that holds one. -/
def Property.data? : Property → Option Value
  | .data v => some v
  | .accessor _ => none

/-! ## What objects are made of -/

/-- A function or class: its name and its source text. -/
structure FunctionInfo where
  name : String
  source : String
  deriving DecidableEq, Repr

/-- A regular expression: its source, its flags, and the pattern they make. -/
structure RegExp where
  source : String
  flags : String
  pattern : Regex.Pattern

/-- How a regular expression is written. -/
def RegExp.text (r : RegExp) : String := "/" ++ r.source ++ "/" ++ r.flags

/-- The element types of typed arrays. -/
inductive ElementType
  | int8 | uint8 | uint8Clamped | int16 | uint16 | int32 | uint32
  | float32 | float64 | bigInt64 | bigUint64
  deriving DecidableEq, Repr

namespace ElementType

/-- Every element type. -/
def all : List ElementType :=
  [int8, uint8, uint8Clamped, int16, uint16, int32, uint32, float32, float64, bigInt64, bigUint64]

/-- The constructor of the typed arrays of an element type. -/
def arrayName : ElementType → String
  | int8 => "Int8Array"
  | uint8 => "Uint8Array"
  | uint8Clamped => "Uint8ClampedArray"
  | int16 => "Int16Array"
  | uint16 => "Uint16Array"
  | int32 => "Int32Array"
  | uint32 => "Uint32Array"
  | float32 => "Float32Array"
  | float64 => "Float64Array"
  | bigInt64 => "BigInt64Array"
  | bigUint64 => "BigUint64Array"

/-- The element type of the typed arrays of a constructor. -/
def ofArrayName? (name : String) : Option ElementType := all.find? fun t => t.arrayName == name

end ElementType

/-- What an object is by itself, fixed when it is made. The items of a collection
do not change; properties do, and can close cycles. -/
inductive ObjectKind
  | ordinary
  | array (elements : List Value)
  | function (f : FunctionInfo)
  | error (name : String)
  | date (at? : Option Timestamp)
  | regexp (r : RegExp)
  | map (entries : List (Value × Value))
  | set (elements : List Value)
  | weakMap (entries : List (Value × Value))
  | weakSet (elements : List Value)
  | promise
  | typedArray (type : ElementType) (elements : List Value)
  | arrayBuffer (byteLength : Nat)
  | dataView (byteLength : Nat)

/-- An object: its kind, its own properties, its prototype, and, if it is the
prototype object of a class, the name of that class. -/
structure HostObject where
  kind : ObjectKind
  properties : OrderedTable PropertyKey Property := OrderedTable.empty
  prototype : Option ObjectId := none
  className : Option String := none

instance : Inhabited HostObject := ⟨{ kind := .ordinary }⟩

end ProbeEngine.Host

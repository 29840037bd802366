import ProbeEngine.Expr.EvalError
import ProbeEngine.Expr.Basic
import ProbeEngine.Text.Search
import ProbeEngine.Text.Utf16

/-!
# Guarded coercion

Turning values into texts, numbers and keys without running code of the host. An
object that has a coercion method of its own, or inherits one, is refused; any
other object has the text that the host gives its kind.
-/

namespace ProbeEngine

open Host (Value Heap Symbol PropertyKey ObjectId Kind)

namespace Coercion

/-- The keys of the methods by which an object can turn into a primitive. -/
def methodKeys : List PropertyKey :=
  [.symbol (.wellKnown .toPrimitive), .string "valueOf", .string "toString"]

/-- Whether an object has a coercion method, itself or by its prototypes. -/
def hasMethod (h : Heap) (id : ObjectId) : Bool :=
  methodKeys.any fun k => (h.findProperty? id k).isSome

/-- Refuses an object with a coercion method. -/
def guardValue (h : Heap) (v : Value) : Except EvalError Unit :=
  match v with
  | .object id => if hasMethod h id then .error .coercion else .ok ()
  | _ => .ok ()

/-- The word for the type of a value in error messages. -/
def typeWord (h : Heap) (v : Value) : String :=
  match v with
  | .null => "null"
  | .object id => h.constructorName id
  | v => h.typeOf v

/-- The text of a value that has to be one. -/
def expectText (h : Heap) (v : Value) : Except EvalError String :=
  match v with
  | .string s => .ok s
  | v => .error (.notText (typeWord h v))

/-- The text that the host gives a value whose methods it does not ask. The
items of an array are joined, and items that are arrays in turn, as deep as so
many levels. -/
def defaultTextWithin (h : Heap) : Nat → Value → String
  | 0, v => h.display v
  | n + 1, v =>
    match h.kind v with
    | .function f => f.source
    | .classFunction f => f.source
    | .array elements =>
      Text.joinWith "," (elements.map fun e =>
        if e.isNullish then "" else defaultTextWithin h n e)
    | .date none => "Invalid Date"
    | .date (some t) => t.text
    | .regexp r => r.text
    | .error _ => h.describeThrown v
    | _ => h.display v

/-- The text that the host gives a value whose methods it does not ask. An array
holds older objects alone, so no nesting is deeper than the heap is large. -/
def defaultText (h : Heap) (v : Value) : String := defaultTextWithin h (h.objects.size + 1) v

/-- The text of a value that is used as one. -/
def toText (h : Heap) (v : Value) : Except EvalError String :=
  match v with
  | .symbol _ => .error .symbolAsText
  | .object _ => do
    guardValue h v
    .ok (defaultText h v)
  | v => .ok (h.display v)

/-- The primitive value that an object without coercion methods turns into when a
number is wanted: a date into its milliseconds, any other object into its text. -/
def toPrimitive (h : Heap) (v : Value) : Value :=
  match v with
  | .object _ =>
    match h.kind v with
    | .date (some t) => .number (Binary64.ofInt t.millis)
    | .date none => .number Binary64.nan
    | _ => .string (defaultText h v)
  | v => v

/-- The number of a value that is used as one. -/
def toNumber (h : Heap) (v : Value) : Except EvalError Float :=
  match v with
  | .symbol _ => .error .symbolAsNumber
  | .bigint n => .ok (Binary64.ofInt n)
  | .object _ => do
    guardValue h v
    .ok ((toPrimitive h v).primitiveNumber?.getD Binary64.nan)
  | v => .ok (v.primitiveNumber?.getD Binary64.nan)

/-- The key of a value that is used as one. -/
def toKey (h : Heap) (v : Value) : Except EvalError PropertyKey :=
  match v with
  | .symbol s => .ok (.symbol s)
  | .string s => .ok (.string s)
  | .number x => .ok (.string (Number.format x))
  | .object _ => (toText h v).map .string
  | v => .ok (.string (h.display v))

/-! ## Order -/

/-- The order of two doubles, if they have one. -/
def compareNumbers (x y : Float) : Option Ordering :=
  if x < y then some .lt
  else if y < x then some .gt
  else if x == y then some .eq
  else none

/-- The order of two values: texts by their UTF-16 units, bigints exactly, all
others as numbers. -/
def compareValues (h : Heap) (v w : Value) : Except EvalError (Option Ordering) :=
  match toPrimitive h v, toPrimitive h w with
  | .string s, .string t => .ok (some (Text.Utf16.compare s t))
  | .bigint m, .bigint n => .ok (some (compare m n))
  | v, w => do
    let x ← toNumber h v
    let y ← toNumber h w
    .ok (compareNumbers x y)

end Coercion

end ProbeEngine
